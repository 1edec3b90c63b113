import Highlighting.Kind
import Highlighting.NameTable

/-!
From token kinds to face names. A mapping lists kinds exactly; a kind that it does not list takes
the face of its nearest listed ancestor.
-/
namespace Highlighting

/-- Face names by kind name. -/
abbrev Mapping := NameTable String

namespace Mapping

/-- The face of a kind: that of the most specific name of its chain that the mapping lists. -/
def resolve (mapping : Mapping) (kind : Kind) : Option String :=
  kind.chain.findSome? mapping.get?

def standardPairs : List (String × String) :=
  [ ("Literal.String", "string"),
    ("Literal.String.Double", "string"),
    ("Literal.String.Single", "string"),
    ("Literal.String.Backtick", "string"),
    ("Literal.String.Heredoc", "string"),
    ("Literal.String.Regex", "string"),
    ("Literal.String.Symbol", "string"),
    ("Literal.Number", "number"),
    ("Literal.Number.Integer", "number"),
    ("Literal.Number.Float", "number"),
    ("Literal.Number.Hex", "number"),
    ("Literal.Number.Oct", "number"),
    ("Literal.Number.Bin", "number"),
    ("Keyword", "keyword"),
    ("Keyword.Constant", "keyword"),
    ("Keyword.Declaration", "keyword"),
    ("Keyword.Namespace", "keyword"),
    ("Keyword.Pseudo", "keyword"),
    ("Keyword.Reserved", "keyword"),
    ("Keyword.Type", "keyword"),
    ("Comment", "comment"),
    ("Comment.Single", "comment"),
    ("Comment.Multiline", "comment"),
    ("Comment.Doc", "comment"),
    ("Comment.Preproc", "comment"),
    ("Comment.PreprocFile", "comment"),
    ("Name.Function", "function_name"),
    ("Name.Class", "type"),
    ("Name.Constant", "constant"),
    ("Name.Variable", "variable"),
    ("Name.Variable.Instance", "variable"),
    ("Name.Variable.Class", "variable"),
    ("Name.Variable.Global", "variable"),
    ("Name.Builtin", "builtin"),
    ("Name.Label", "label"),
    ("Operator", "operator"),
    ("Punctuation", "punctuation") ]

def standard : Mapping := NameTable.ofList standardPairs

end Mapping

end Highlighting
