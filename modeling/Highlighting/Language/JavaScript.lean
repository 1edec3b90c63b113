import Highlighting.Lexer.SyntaxLexer
import Highlighting.Text.Property

/-!
JavaScript. Highlighting asks for names by where they stand: as values, as properties, as short
forms of properties or as labels. How strongly operators bind is left open, and so is a statement's
final semicolon.
-/
namespace Highlighting.Language.JavaScript

open Phrase

def keywords : List String :=
  ["break", "case", "catch", "class", "const", "continue", "debugger", "default", "delete", "do",
    "else", "extends", "finally", "for", "function", "if", "import", "in", "instanceof", "new",
    "return", "switch", "throw", "try", "typeof", "var", "void", "while", "with", "export", "this",
    "super", "true", "false", "null", "undefined"]

def binary : List String :=
  [">>>=", "===", "!==", "**=", "<<=", ">>=", ">>>", "&&=", "||=", "??=", "==", "!=", "<=", ">=",
    "&&", "||", "??", "**", "<<", ">>", "+=", "-=", "*=", "/=", "%=", "&=", "|=", "^=", "=", "<",
    ">", "+", "-", "*", "/", "%", "&", "|", "^", "instanceof", "in"]

def unary : List String :=
  ["++", "--", "!", "~", "+", "-", "typeof", "void", "delete", "await"]

def written : String := "(?:[^\\W\\d]|\\$)[\\w$]*"

def identifier : Phrase :=
  name "identifier" written keywords

/-- The name of a property; keywords are allowed. -/
def propertyIdentifier : Phrase :=
  any [word "property_identifier" written, word "private_property_identifier" ("#" ++ written)]

def listed (phrase : Phrase) : Phrase :=
  many (any [phrase, token ","])

def string : Phrase :=
  word "string" "\"(?:[^\"\\\\\\n]|\\\\[\\s\\S])*\"|'(?:[^'\\\\\\n]|\\\\[\\s\\S])*'"

def template : Phrase :=
  tree "template_string"
    [ token "`",
      tight
        [ many
            (any
              [ tree "template_substitution"
                  [token "$\x7b", gaps true (seq (ref "expressions") (token "\x7d"))],
                text "[^`\\\\$]+|\\\\[\\s\\S]|\\$" ]),
          token "`" ] ]

def number : Phrase :=
  word "number" ("0[xX][0-9a-fA-F_]+n?|0[oO][0-7_]+n?|0[bB][01_]+n?|" ++
    "(?:[0-9][0-9_]*\\.?[0-9_]*|\\.[0-9][0-9_]*)(?:[eE][+-]?[0-9_]+)?n?")

def regex : Phrase :=
  word "regex" ("/(?:[^/\\\\\\[\\n*]|\\\\[^\\n]|\\[(?:[^\\]\\\\\\n]|\\\\[^\\n])*\\])" ++
    "(?:[^/\\\\\\[\\n]|\\\\[^\\n]|\\[(?:[^\\]\\\\\\n]|\\\\[^\\n])*\\])*/[a-z]*")

def constant : Phrase :=
  any (["this", "super", "true", "false", "null", "undefined"].map fun kind =>
    word kind (kind ++ "\\b"))

def propertyName : Phrase :=
  any [propertyIdentifier, string, number, between "[" "]" (ref "expression")]

def bindingPattern : Phrase :=
  any
    [ identifier,
      tree "array_pattern" [between "[" "]" (listed (ref "binding"))],
      tree "object_pattern"
        [ between "\x7b" "\x7d"
            (listed
              (any
                [ all [propertyName, token ":", ref "binding"],
                  seq (name "shorthand_property_identifier_pattern" written keywords)
                    (optional (seq (token "=") (ref "expression"))),
                  ref "binding" ])) ] ]

def binding : Phrase :=
  seq (optional (token "..."))
    (seq bindingPattern (optional (seq (token "=") (ref "expression"))))

def parameters : Phrase :=
  tree "formal_parameters" [between "(" ")" (listed (ref "binding"))]

def method : Phrase :=
  tree "method_definition"
    [ many (seq (oneOf ["static", "async", "get", "set"]) (ahead (any [propertyName, token "*"]))),
      optional (token "*"), field "name" propertyName, parameters, ref "block" ]

def object : Phrase :=
  tree "object"
    [ between "\x7b" "\x7d"
        (listed
          (any
            [ method,
              tree "pair" [field "key" propertyName, token ":", field "value" (ref "expression")],
              seq (token "...") (ref "expression"),
              name "shorthand_property_identifier" written keywords ])) ]

def classBody : Phrase :=
  between "\x7b" "\x7d"
    (many
      (any
        [ token ";",
          method,
          seq (token "static") (ref "block"),
          tree "field_definition"
            [ optional (seq (token "static") (ahead propertyName)), propertyName,
              optional (seq (token "=") (ref "expression")) ] ]))

def classExpression : Phrase :=
  all [token "class", optional identifier, optional (seq (token "extends") (ref "unary")),
    classBody]

def function : Phrase :=
  all [optional (token "async"), token "function", optional (token "*"), optional identifier,
    parameters, ref "block"]

def arrow : Phrase :=
  all [optional (seq (token "async") (refuse (token "=>"))), any [identifier, parameters],
    token "=>", any [ref "block", ref "expression"]]

def operand : Phrase :=
  any
    [ function,
      classExpression,
      string,
      template,
      number,
      regex,
      constant,
      all [token "new", token ".", token "target"],
      seq (token "new") (ref "unary"),
      seq (token "import") (ahead (oneOf ["(", "."])),
      identifier,
      object,
      between "[" "]" (listed (seq (optional (token "...")) (ref "expression"))),
      between "(" ")" (ref "expressions") ]

def step : Phrase :=
  any
    [ seq (token ".") propertyIdentifier,
      seq (word "optional_chain" "\\?\\.") (optional propertyIdentifier),
      between "(" ")" (listed (seq (optional (token "...")) (ref "expression"))),
      between "[" "]" (ref "expressions"),
      template,
      tight [text "[ \\t]*", oneOf ["++", "--"]] ]

def expression : Phrase :=
  any
    [ arrow,
      all [token "yield", optional (token "*"), optional (ref "expression")],
      seq (separated (oneOf binary) (ref "unary"))
        (optional (all [token "?", ref "expression", token ":", ref "expression"])) ]

def declaration (last : Phrase) : Phrase :=
  all [any [oneOf ["var", "const"], seq (token "let") (ahead bindingPattern)],
    separated (token ",") (seq bindingPattern (optional (seq (token "=") (ref "expression")))),
    last]

def specifiers : Phrase :=
  between "\x7b" "\x7d"
    (listed (seq (any [token "default", identifier, string])
      (optional (seq (token "as") (any [token "default", identifier, string])))))

def source : Phrase :=
  seq (token "from") string

def importClause : Phrase :=
  separated (token ",") (any [all [token "*", token "as", identifier], specifiers, identifier])

def semicolon : Phrase :=
  optional (token ";")

def loopHead : Phrase :=
  between "(" ")"
    (any
      [ all [optional (oneOf ["var", "let", "const"]), any [bindingPattern, ref "unary"],
          oneOf ["of", "in"], ref "expressions"],
        all [any [declaration empty, optional (ref "expressions")], token ";",
          optional (ref "expressions"), token ";", optional (ref "expressions")] ])

def condition : Phrase :=
  between "(" ")" (ref "expressions")

def statement : Phrase :=
  any
    [ ref "block",
      token ";",
      seq (token "import") (any
        [all [string, semicolon], all [importClause, source, semicolon]]),
      seq (token "export") (any
        [ seq (token "default")
            (any [function, classExpression, seq (ref "expression") semicolon]),
          all [specifiers, optional source, semicolon],
          all [token "*", optional (seq (token "as") (any [identifier, string])), source,
            semicolon],
          ref "statement" ]),
      declaration semicolon,
      function,
      classExpression,
      all [token "if", condition, ref "statement",
        optional (seq (token "else") (ref "statement"))],
      all [token "for", optional (token "await"), loopHead, ref "statement"],
      all [oneOf ["while", "with"], condition, ref "statement"],
      all [token "do", ref "statement", token "while", condition, semicolon],
      all [token "try", ref "block",
        optional (all [token "catch", optional (between "(" ")" bindingPattern), ref "block"]),
        optional (seq (token "finally") (ref "block"))],
      all [token "switch", condition, between "\x7b" "\x7d"
        (many (all [any [seq (token "case") (ref "expressions"), token "default"], token ":",
          many (ref "statement")]))],
      all [oneOf ["break", "continue"],
        optional (seq (tight [text "[ \\t]*", refuse (text "[\\r\\n]")])
          (name "statement_identifier" written keywords)), semicolon],
      all [oneOf ["return", "throw"],
        optional (seq (tight [text "[ \\t]*", refuse (text "[\\r\\n]")]) (ref "expressions")),
        semicolon],
      seq (token "debugger") semicolon,
      seq (name "statement_identifier" written keywords) (token ":"),
      seq (ref "expressions") semicolon ]

def grammar : Grammar where
  root := "program"
  item := any [word "hash_bang_line" "\\A#![^\\n]*", statement]
  phrases :=
    [ ("statement", statement), ("block", between "\x7b" "\x7d" (many (ref "statement"))),
      ("expression", expression), ("expressions", separated (token ",") (ref "expression")),
      ("unary", seq (many (oneOf unary)) (seq operand (many step))), ("binding", binding) ]
  comments :=
    [("comment", pattern "//[^\\n]*"), ("comment", pattern "/\\*[^*]*\\*+(?:[^/*][^*]*\\*+)*/")]
  isBlank := fun c => Character.isBlank c || ['\u200b', '\u2060', '\ufeff'].contains c
  operators := binary ++ unary ++ ["...", "=>", "?."]

def query : String := "
; Variables
;----------

(identifier) @variable

; Properties
;-----------

(property_identifier) @property

; Function and method definitions
;--------------------------------

(function_expression
  name: (identifier) @function)
(function_declaration
  name: (identifier) @function)
(method_definition
  name: (property_identifier) @function.method)

(pair
  key: (property_identifier) @function.method
  value: [(function_expression) (arrow_function)])

(assignment_expression
  left: (member_expression
    property: (property_identifier) @function.method)
  right: [(function_expression) (arrow_function)])

(variable_declarator
  name: (identifier) @function
  value: [(function_expression) (arrow_function)])

(assignment_expression
  left: (identifier) @function
  right: [(function_expression) (arrow_function)])

; Function and method calls
;--------------------------

(call_expression
  function: (identifier) @function)

(call_expression
  function: (member_expression
    property: (property_identifier) @function.method))

; Special identifiers
;--------------------

((identifier) @constructor
 (#match? @constructor \"^[A-Z]\"))

([
    (identifier)
    (shorthand_property_identifier)
    (shorthand_property_identifier_pattern)
 ] @constant
 (#match? @constant \"^[A-Z_][A-Z\\\\d_]+$\"))

((identifier) @variable.builtin
 (#match? @variable.builtin \"^(arguments|module|console|window|document)$\")
 (#is-not? local))

((identifier) @function.builtin
 (#eq? @function.builtin \"require\")
 (#is-not? local))

; Literals
;---------

(this) @variable.builtin
(super) @variable.builtin

[
  (true)
  (false)
  (null)
  (undefined)
] @constant.builtin

(comment) @comment

[
  (string)
  (template_string)
] @string

(regex) @string.special
(number) @number

; Tokens
;-------

[
  \";\"
  (optional_chain)
  \".\"
  \",\"
] @punctuation.delimiter

[
  \"-\"
  \"--\"
  \"-=\"
  \"+\"
  \"++\"
  \"+=\"
  \"*\"
  \"*=\"
  \"**\"
  \"**=\"
  \"/\"
  \"/=\"
  \"%\"
  \"%=\"
  \"<\"
  \"<=\"
  \"<<\"
  \"<<=\"
  \"=\"
  \"==\"
  \"===\"
  \"!\"
  \"!=\"
  \"!==\"
  \"=>\"
  \">\"
  \">=\"
  \">>\"
  \">>=\"
  \">>>\"
  \">>>=\"
  \"~\"
  \"^\"
  \"&\"
  \"|\"
  \"^=\"
  \"&=\"
  \"|=\"
  \"&&\"
  \"||\"
  \"??\"
  \"&&=\"
  \"||=\"
  \"??=\"
] @operator

[
  \"(\"
  \")\"
  \"[\"
  \"]\"
  \"\x7b\"
  \"\x7d\"
]  @punctuation.bracket

(template_substitution
  \"$\x7b\" @punctuation.special
  \"\x7d\" @punctuation.special) @embedded

[
  \"as\"
  \"async\"
  \"await\"
  \"break\"
  \"case\"
  \"catch\"
  \"class\"
  \"const\"
  \"continue\"
  \"debugger\"
  \"default\"
  \"delete\"
  \"do\"
  \"else\"
  \"export\"
  \"extends\"
  \"finally\"
  \"for\"
  \"from\"
  \"function\"
  \"get\"
  \"if\"
  \"import\"
  \"in\"
  \"instanceof\"
  \"let\"
  \"new\"
  \"of\"
  \"return\"
  \"set\"
  \"static\"
  \"switch\"
  \"target\"
  \"throw\"
  \"try\"
  \"typeof\"
  \"var\"
  \"void\"
  \"while\"
  \"with\"
  \"yield\"
] @keyword
"

def lexer : Lexer :=
  .ofGrammar "javascript" ["*.js", "*.mjs", "*.cjs", "*.jsx"] (fun _ => grammar) query

end Highlighting.Language.JavaScript
