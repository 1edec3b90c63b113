import Highlighting.Lexer.FilePattern
import Highlighting.Text.Quoted
import Highlighting.Tokenizer

/-!
Lexers: an id, the file names that the lexer is for, and a factory of tokenizers. A call of a
factory may fail; what it comes to may depend on what earlier calls left behind, its own or
another's.
-/
namespace Highlighting

/-- What factories keep from call to call: notes that each of them may read and write. -/
abbrev Memory := List String

structure Lexer where
  id : String
  patterns : List FilePattern
  /-- One call: what it comes to, and the memory that it leaves. -/
  factory : Memory → Except Error Tokenizer × Memory

namespace Lexer

/-- A lexer whose factory keeps nothing. -/
def ofPatterns (id : String) (patterns : List String)
    (build : Unit → Except Error Tokenizer) : Lexer :=
  ⟨id, patterns.map .ofText, fun memory => (build (), memory)⟩

def build (lexer : Lexer) (memory : Memory) : Except Error Tokenizer :=
  (lexer.factory memory).1

def memoryAfter (lexer : Lexer) (memory : Memory) : Memory :=
  (lexer.factory memory).2

def claims (lexer : Lexer) (path : String) : Bool :=
  lexer.patterns.any (·.isMatch path)

def describe (lexer : Lexer) : String :=
  "LexerDescriptor \x7b id: " ++ Quoted.text lexer.id ++ ", patterns: " ++
    Quoted.list (lexer.patterns.map (·.source)) ++ ", .. \x7d"

end Lexer

end Highlighting
