import Highlighting.Lexer.SyntaxLexer

/-!
TOML. Line ends count, so they are no blanks: a pair and a table header each end their line, and
arrays may hold line ends between their tokens.
-/
namespace Highlighting.Language.Toml

open Phrase

def newline : Phrase :=
  text "\\r?\\n"

def lineEnd : Phrase :=
  text "\\r?\\n|\\z"

def basic : String := "\"(?:[^\"\\\\\\n]|\\\\[^\\n])*\""

def literal : String := "'[^'\\n]*'"

/-- A string between three double quotes; its content may end in one or two quotes. -/
def basicLines : String := "\"\"\"(?:\"?\"?(?:[^\"\\\\]|\\\\[\\s\\S]))*\"\x7b3,5\x7d"

def literalLines : String := "'''(?:'?'?[^'])*'\x7b3,5\x7d"

def key : Phrase :=
  any [word "quoted_key" (basic ++ "|" ++ literal), word "bare_key" "[A-Za-z0-9_-]+"]

def keys : Phrase :=
  grow key [("dotted_key", none, all [token ".", key])]

def date : String := "[0-9]+-(?:0[1-9]|1[012])-(?:0[1-9]|[12][0-9]|3[01])"

def time : String := "(?:[01][0-9]|2[0-3]):[0-5][0-9]:(?:[0-5][0-9]|60)(?:[.][0-9]+)?"

def offset : String := "(?:[zZ]|[+-](?:[01][0-9]|2[0-3]):[0-5][0-9])"

def decimal : String := "[+-]?(?:0|[1-9](?:_?[0-9])*)"

def exponent : String := "[eE][+-]?[0-9](?:_?[0-9])*"

/-- A value. Dates stand before numbers and longer numbers before shorter ones. -/
def value : Phrase :=
  any
    [ word "string" ("|".intercalate [basicLines, basic, literalLines, literal]),
      word "boolean" "true|false",
      word "offset_date_time" (date ++ "[ tT]" ++ time ++ offset),
      word "local_date_time" (date ++ "[ tT]" ++ time),
      word "local_date" date,
      word "local_time" time,
      word "float" ("[+-]?(?:inf|nan)"),
      word "float"
        (decimal ++ "(?:[.][0-9](?:_?[0-9])*(?:" ++ exponent ++ ")?|" ++ exponent ++ ")"),
      word "integer" ("0x[0-9a-fA-F](?:_?[0-9a-fA-F])*|0o[0-7](?:_?[0-7])*|0b[01](?:_?[01])*|" ++
        decimal),
      tree "array"
        [ token "[", many newline,
          many (all [ref "value", many newline, optional (all [token ",", many newline])]),
          token "]" ],
      tree "inline_table"
        [ token "\x7b", optional (separated (token ",") (node "pair" (ref "setting"))),
          token "\x7d" ] ]

def setting : Phrase :=
  all [keys, token "=", ref "value"]

def lines : Phrase :=
  many (any [newline, tree "pair" [ref "setting", lineEnd]])

def table (kind first last : String) : Phrase :=
  tree kind [token first, keys, token last, lineEnd, lines]

def grammar : Grammar where
  root := "document"
  item :=
    any [newline, table "table_array_element" "[[" "]]", table "table" "[" "]",
      tree "pair" [ref "setting", lineEnd]]
  phrases := [("value", value), ("setting", setting)]
  comments := [("comment", pattern "#[^\\x00-\\x08\\x0a-\\x1f\\x7f]*")]
  isBlank := fun c => c = ' ' || c = '\t'

def query : String := "
; Properties
;-----------

(bare_key) @type

(quoted_key) @string

(pair
  (bare_key)) @property

(pair
  (dotted_key
    (bare_key) @property))

; Literals
;---------

(boolean) @boolean

(comment) @comment

(string) @string

[
  (integer)
  (float)
] @number

[
  (offset_date_time)
  (local_date_time)
  (local_date)
  (local_time)
] @string.special

; Punctuation
;------------

[
  \".\"
  \",\"
] @punctuation.delimiter

\"=\" @operator

[
  \"[\"
  \"]\"
  \"[[\"
  \"]]\"
  \"\x7b\"
  \"\x7d\"
] @punctuation.bracket
"

def lexer : Lexer :=
  .ofGrammar "toml" ["*.toml", "Cargo.lock"] (fun _ => grammar) query

end Highlighting.Language.Toml
