import Highlighting.Lexer.SyntaxLexer

/-!
Python, as far as highlighting tells its parts apart: logical lines of literals, names, keywords and
signs, where names are alike wherever they stand. A line that begins with an at sign decorates what
follows, and some words are keywords at the front of a line only. Inside brackets a line goes on.
-/
namespace Highlighting.Language.Python

open Phrase

def keywords : List String :=
  ["assert", "async", "await", "break", "class", "continue", "def", "del", "elif", "else",
    "except", "finally", "for", "from", "global", "if", "import", "lambda", "nonlocal", "pass",
    "raise", "return", "try", "while", "with", "yield", "as", "and", "in", "is not", "is", "not in",
    "not", "or"]

def signs : List String :=
  ["**=", "//=", "<<=", ">>=", "...", "**", "//", "<<", ">>", "->", ":=", "+=", "-=", "*=", "/=",
    "%=", "&=", "|=", "^=", "@=", "==", "!=", "<>", "<=", ">=", "+", "-", "*", "/", "%", "&", "|",
    "^", "~", "<", ">", "=", "@", ".", ",", ":", ";"]

def newline : Phrase :=
  text "\\r?\\n"

/-- The pattern of a string without its opening letters: between three quotes or one, of either
kind. -/
def quoted : String :=
  "\"\"\"(?:[^\"\\\\]|\\\\[\\s\\S]|\"\"?(?:[^\"\\\\]|\\\\[\\s\\S]))*\"\"\"|" ++
    "'''(?:[^'\\\\]|\\\\[\\s\\S]|''?(?:[^'\\\\]|\\\\[\\s\\S]))*'''|" ++
    "\"(?:[^\"\\\\\\n]|\\\\[\\s\\S])*\"|'(?:[^'\\\\\\n]|\\\\[\\s\\S])*'"

def string : Phrase :=
  word "string" ("(?i:[rbuf]|[bf]r|r[bf])?(?:" ++ quoted ++ ")")

def number : Phrase :=
  any
    [ word "float" ("(?:(?:[0-9][0-9_]*)?\\.[0-9][0-9_]*|[0-9][0-9_]*\\.)" ++
        "(?:[eE][+-]?[0-9_]+)?[jJ]?|[0-9][0-9_]*[eE][+-]?[0-9_]+[jJ]?"),
      word "integer" "0[xX][0-9a-fA-F_]+|0[oO][0-7_]+|0[bB][01_]+|[0-9][0-9_]*[lLjJ]?" ]

def identifier : Phrase :=
  name "identifier" "[^\\W\\d]\\w*" (["True", "False", "None"] ++ keywords)

def brackets : Phrase :=
  any (([("(", ")"), ("[", "]"), ("\x7b", "\x7d")] : List (String × String)).map
    fun (first, last) => between first last (many (any [ref "part", newline])))

def part : Phrase :=
  any [string, number, ref "brackets", word "none" "None\\b", word "true" "True\\b",
    word "false" "False\\b", oneOf keywords, identifier, oneOf signs]

/-- A word that is a keyword unless something follows that makes it a name. -/
def leading (keyword : String) : Phrase :=
  all [token keyword, ahead (ref "part"),
    refuse (oneOf (["(", "["] ++ signs.filter fun sign => ! ["-", "*", "~", "..."].contains sign))]

/-- A word that is a keyword if its line opens a block. -/
def opening (keyword : String) : Phrase :=
  seq (ahead (all [leading keyword, many (seq (refuse (token ":")) (ref "part")), token ":"]))
    (token keyword)

def decorator : Phrase :=
  tree "decorator" [token "@", identifier, many (any [all [token ".", identifier], ref "brackets"])]

def line : Phrase :=
  any
    [ newline,
      decorator,
      all [any [leading "print", leading "exec", opening "match", opening "case"],
        many (ref "part")],
      atLeastOnce (ref "part") ]

def grammar : Grammar where
  root := "module"
  item := seq line (any [newline, text "\\z", empty])
  phrases := [("part", part), ("brackets", brackets)]
  comments := [("comment", pattern "#[^\\n]*"), ("line_continuation", pattern "\\\\\\r?\\n")]
  isBlank := fun c => c = ' ' || c = '\t' || c = '\x0c'
  operators := signs

def query : String := "
; Identifier naming conventions

(identifier) @variable

((identifier) @constructor
 (#match? @constructor \"^[A-Z]\"))

((identifier) @constant
 (#match? @constant \"^[A-Z][A-Z_]*$\"))

; Function calls

(decorator) @function
(decorator
  (identifier) @function)

(call
  function: (attribute attribute: (identifier) @function.method))
(call
  function: (identifier) @function)

; Builtin functions

((call
  function: (identifier) @function.builtin)
 (#match?
   @function.builtin
   \"^(abs|all|any|ascii|bin|bool|breakpoint|bytearray|bytes|callable|chr|classmethod|compile|complex|delattr|dict|dir|divmod|enumerate|eval|exec|filter|float|format|frozenset|getattr|globals|hasattr|hash|help|hex|id|input|int|isinstance|issubclass|iter|len|list|locals|map|max|memoryview|min|next|object|oct|open|ord|pow|print|property|range|repr|reversed|round|set|setattr|slice|sorted|staticmethod|str|sum|super|tuple|type|vars|zip|__import__)$\"))

; Function definitions

(function_definition
  name: (identifier) @function)

(attribute attribute: (identifier) @property)
(type (identifier) @type)

; Literals

[
  (none)
  (true)
  (false)
] @constant.builtin

[
  (integer)
  (float)
] @number

(comment) @comment
(string) @string
(escape_sequence) @escape

(interpolation
  \"\x7b\" @punctuation.special
  \"\x7d\" @punctuation.special) @embedded

[
  \"-\"
  \"-=\"
  \"!=\"
  \"*\"
  \"**\"
  \"**=\"
  \"*=\"
  \"/\"
  \"//\"
  \"//=\"
  \"/=\"
  \"&\"
  \"&=\"
  \"%\"
  \"%=\"
  \"^\"
  \"^=\"
  \"+\"
  \"->\"
  \"+=\"
  \"<\"
  \"<<\"
  \"<<=\"
  \"<=\"
  \"<>\"
  \"=\"
  \":=\"
  \"==\"
  \">\"
  \">=\"
  \">>\"
  \">>=\"
  \"|\"
  \"|=\"
  \"~\"
  \"@=\"
  \"and\"
  \"in\"
  \"is\"
  \"not\"
  \"or\"
  \"is not\"
  \"not in\"
] @operator

[
  \"as\"
  \"assert\"
  \"async\"
  \"await\"
  \"break\"
  \"class\"
  \"continue\"
  \"def\"
  \"del\"
  \"elif\"
  \"else\"
  \"except\"
  \"exec\"
  \"finally\"
  \"for\"
  \"from\"
  \"global\"
  \"if\"
  \"import\"
  \"lambda\"
  \"nonlocal\"
  \"pass\"
  \"print\"
  \"raise\"
  \"return\"
  \"try\"
  \"while\"
  \"with\"
  \"yield\"
  \"match\"
  \"case\"
] @keyword
"

def lexer : Lexer :=
  .ofGrammar "python" ["*.py", "*.pyw", "*.pyi", "SConstruct", "SConscript"] (fun _ => grammar)
    query

end Highlighting.Language.Python
