import Highlighting.Lexer.SyntaxLexer

/-!
JSON, as a series of any number of values, with comments between the tokens.
-/
namespace Highlighting.Language.Json

open Phrase

def listed (first last : String) (item : Phrase) : Phrase :=
  all [token first, optional (separated (token ",") item), token last]

/-- A string: runs of plain characters and escapes between quotes. The digits of a code point are
plain characters. -/
def string : Phrase :=
  tree "string"
    [ token "\"",
      tight
        [ many (any [ word "string_content" "[^\\\\\"\\n]+",
                      word "escape_sequence" "\\\\[\"\\\\/bfnrtu]" ]),
          token "\"" ] ]

/-- A number; a point may stand without digits behind it. -/
def number : Phrase :=
  word "number" "-?(?:0|[1-9][0-9]*)(?:\\.[0-9]*)?(?:[eE]-?[0-9]+)?"

def pair : Phrase :=
  tree "pair" [field "key" (any [string, number]), token ":", field "value" (ref "value")]

def value : Phrase :=
  any
    [ node "object" (listed "\x7b" "\x7d" pair),
      node "array" (listed "[" "]" (ref "value")),
      string,
      number,
      word "true" "true",
      word "false" "false",
      word "null" "null" ]

def grammar : Grammar where
  root := "document"
  item := ref "value"
  phrases := [("value", value)]
  comments :=
    [ ("comment", pattern "//[^\\n]*"),
      ("comment", pattern "/\\*[^*]*\\*+(?:[^/*][^*]*\\*+)*/") ]

def query : String := "
(pair
  key: (_) @string.special.key)

(string) @string

(number) @number

[
  (null)
  (true)
  (false)
] @constant.builtin

(escape_sequence) @escape

(comment) @comment
"

def lexer : Lexer :=
  .ofGrammar "json" ["*.json"] (fun _ => grammar) query

end Highlighting.Language.Json
