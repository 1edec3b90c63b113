import Highlighting.Grammar.Parse
import Highlighting.Grammar.Vocabulary
import Highlighting.Lexer.Basic
import Highlighting.Lexer.CaptureWalk
import Highlighting.Query.Reader

/-!
Lexers that parse. A text is parsed under a grammar, and the captures of a highlight query in its
syntax tree become the tokens.
-/
namespace Highlighting

namespace Tokenizer

def ofQuery (name : String) (grammar : Grammar) (query : Query) : Tokenizer :=
  ⟨name, fun text => .ok (Capture.tokens text (query.captures text (grammar.tree text)))⟩

/-- The tokenizer of a grammar and a written query, which must use the grammar's words and ask for
what its trees can hold. -/
def ofQueryText (name : String) (grammar : Grammar) (query : String) : Except Error Tokenizer :=
  match Query.ofText? query.toList with
  | none => .error (.grammar name)
  | some query =>
    if grammar.admits query then .ok (ofQuery name grammar query) else .error (.grammar name)

end Tokenizer

/-- A lexer of a grammar and a written query. The query may also speak of what the grammar leaves
out. -/
def Lexer.ofGrammar (id : String) (patterns : List String) (grammar : Unit → Grammar)
    (query : String) : Lexer :=
  .ofPatterns id patterns fun _ =>
    match Query.ofText? query.toList with
    | none => .error (.grammar id)
    | some query => .ok (.ofQuery id (grammar ()) query)

end Highlighting
