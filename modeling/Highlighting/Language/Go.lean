import Highlighting.Lexer.SyntaxLexer

/-!
Go. Line ends are blanks, but what goes on with an operand must begin on the line where the operand
ends. How strongly operators bind is left open, as highlighting does not ask.
-/
namespace Highlighting.Language.Go

open Phrase

def keywords : List String :=
  ["break", "case", "chan", "const", "continue", "default", "defer", "else", "fallthrough", "for",
    "func", "go", "goto", "if", "import", "interface", "map", "package", "range", "return",
    "select", "struct", "switch", "type", "var"]

def binary : List String :=
  ["||", "&&", "==", "!=", "<=", ">=", "<<", ">>", "&^", "<", ">", "+", "-", "|", "^", "*", "/",
    "%", "&"]

def unary : List String :=
  ["<-", "+", "-", "!", "^", "*", "&", "~"]

def assignments : List String :=
  [":=", "=", "+=", "-=", "*=", "/=", "%=", "&=", "|=", "^=", "<<=", ">>=", "&^="]

def written : String := "[^\\W\\d]\\w*"

def identifier : Phrase :=
  name "identifier" written keywords

def typeIdentifier : Phrase :=
  name "type_identifier" written keywords

def fieldIdentifier : Phrase :=
  name "field_identifier" written keywords

def packageIdentifier : Phrase :=
  name "package_identifier" written keywords

/-- A phrase that begins on the line where the one before it ends. -/
def onLine (phrase : Phrase) : Phrase :=
  seq (tight [text "[ \\t]*", refuse (text "[\\r\\n]|//")]) phrase

def listed (phrase : Phrase) : Phrase :=
  separated (onLine (token ",")) phrase

def trailing (phrase : Phrase) : Phrase :=
  optional (seq (separated (token ",") phrase) (optional (token ",")))

def declared (keyword : String) (phrase : Phrase) : Phrase :=
  seq (token keyword)
    (any [between "(" ")" (many (seq phrase (optional (token ";")))), phrase])

def string : Phrase :=
  any [word "raw_string_literal" "`[^`]*`",
    word "interpreted_string_literal" "\"(?:[^\"\\\\\\n]|\\\\.)*\""]

def number : Phrase :=
  any
    [ word "rune_literal" "'(?:[^'\\\\\\n]|\\\\[^\\n]+?)'",
      word "imaginary_literal" ("(?:[0-9][0-9_]*(?:\\.[0-9_]*)?|\\.[0-9][0-9_]*)" ++
        "(?:[eE][+-]?[0-9_]+)?i\\b"),
      word "float_literal" ("0[xX][0-9a-fA-F_]*\\.?[0-9a-fA-F_]*[pP][+-]?[0-9_]+|" ++
        "[0-9][0-9_]*\\.[0-9_]*(?:[eE][+-]?[0-9_]+)?|" ++
        "[0-9][0-9_]*[eE][+-]?[0-9_]+|\\.[0-9][0-9_]*(?:[eE][+-]?[0-9_]+)?"),
      word "int_literal" "0[xX][0-9a-fA-F_]+|0[bB][01_]+|0[oO][0-7_]+|[0-9][0-9_]*" ]

def constant : Phrase :=
  any [word "true" "true\\b", word "false" "false\\b", word "nil" "nil\\b", word "iota" "iota\\b"]

def qualifiedType : Phrase :=
  tree "qualified_type" [packageIdentifier, tight [token "."], typeIdentifier]

def typeArguments : Phrase :=
  tree "type_arguments" [between "[" "]" (trailing (ref "type"))]

/-- A field of a structure; a type alone is a field too. -/
def structField : Phrase :=
  seq (any [all [listed fieldIdentifier, onLine (ref "type")], ref "type"])
    (seq (optional (onLine string)) (optional (token ";")))

def interfaceElement : Phrase :=
  seq (any [seq fieldIdentifier (onLine (ref "signature")),
    separated (token "|") (seq (optional (token "~")) (ref "type"))]) (optional (token ";"))

/-- A type that is not written as a mere name and whose values may be written out. -/
def aggregateType : Phrase :=
  any
    [ all [token "[", token "]", ref "type"],
      all [token "[", any [token "...", ref "expression"], token "]", ref "type"],
      all [token "map", between "[" "]" (ref "type"), ref "type"],
      all [token "struct", between "\x7b" "\x7d" (many structField)] ]

def compositeType : Phrase :=
  any
    [ aggregateType,
      seq (token "*") (ref "type"),
      all [optional (token "<-"), token "chan", optional (token "<-"), ref "type"],
      all [token "func", ref "signature"],
      all [token "interface", between "\x7b" "\x7d" (many interfaceElement)] ]

def type : Phrase :=
  any [compositeType, between "(" ")" (ref "type"),
    seq (any [qualifiedType, typeIdentifier]) (optional (onLine typeArguments))]

def parameters : Phrase :=
  tree "parameter_list"
    [ between "(" ")"
        (trailing
          (any
            [ all [listed identifier, optional (token "..."), ref "type"],
              seq (optional (token "...")) (ref "type") ])) ]

def signature : Phrase :=
  seq parameters (optional (onLine (any [parameters, ref "type"])))

def typeParameters : Phrase :=
  between "[" "]" (trailing (all [listed identifier,
    separated (token "|") (seq (optional (token "~")) (ref "type"))]))

def literalValue : Phrase :=
  between "\x7b" "\x7d"
    (trailing (separated (token ":") (any [ref "literalValue", ref "expression"])))

def compositeLiteral : Phrase :=
  tree "composite_literal"
    [ any [aggregateType,
        seq (any [qualifiedType, typeIdentifier]) (optional (onLine typeArguments))],
      onLine (ref "literalValue") ]

def arguments : Phrase :=
  tree "argument_list"
    [ between "(" ")"
        (trailing (seq (any [ref "expression", compositeType]) (optional (token "...")))) ]

/-- What stands alone as a value. Where a block may follow, a composite value does not. -/
def operand (literals : Bool) : Phrase :=
  any
    ((if literals then [compositeLiteral] else []) ++
    [ all [token "func", ref "signature", onLine (ref "block")],
      string,
      number,
      constant,
      tree "call_expression"
        [ field "function" (word "identifier" "(?:new|make)\\b"),
          onLine (between "(" ")" (seq (ref "type")
            (seq (many (seq (token ",") (ref "expression"))) (optional (token ","))))) ],
      seq compositeType (onLine (between "(" ")" (ref "expression"))),
      identifier,
      between "(" ")" (any [ref "expression", ref "type"]) ])

def primary (literals : Bool) : Phrase :=
  grow (operand literals)
    [ ("selector_expression", some "operand",
        onLine (seq (token ".") (field "field" fieldIdentifier))),
      ("type_assertion_expression", some "operand",
        onLine (all [token ".", between "(" ")" (ref "type")])),
      ("call_expression", some "function", onLine (field "arguments" arguments)),
      ("index_expression", some "operand",
        onLine (between "[" "]" (many (any [ref "expression", token ":", token ",",
          compositeType])))) ]

def expression (literals : Bool) : Phrase :=
  separated (onLine (oneOf binary)) (seq (many (oneOf unary)) (primary literals))

def simple (expression : Phrase) : Phrase :=
  seq (listed expression)
    (optional (onLine (any [seq (oneOf assignments) (separated (token ",") expression),
      oneOf ["++", "--"], seq (token "<-") expression])))

def caseBody : Phrase :=
  many (any [ref "statement", token ";"])

def cases (first : Phrase) : Phrase :=
  between "\x7b" "\x7d"
    (many (seq (any [seq (token "case") first, token "default"]) (seq (token ":") caseBody)))

def head (last : Phrase) : Phrase :=
  any [all [optional (ref "simpleHead"), token ";", last], last]

def typeSwitch : Phrase :=
  all
    [ token "switch",
      head (all [optional (seq identifier (token ":=")), ref "headPrimary",
        token ".", between "(" ")" (token "type")]),
      cases (separated (token ",") (ref "type")) ]

def loopHead : Phrase :=
  any
    [ all [optional (seq (listed (ref "headExpression")) (oneOf [":=", "="])), token "range",
        ref "headExpression"],
      all [optional (ref "simpleHead"), token ";", optional (ref "headExpression"), token ";",
        optional (ref "simpleHead")],
      ref "headExpression",
      empty ]

def valueSpec : Phrase :=
  all [listed identifier, optional (onLine (ref "type")),
    optional (onLine (seq (token "=") (separated (token ",") (ref "expression"))))]

def declaration : Phrase :=
  any
    [ declared "const" valueSpec,
      declared "var" valueSpec,
      declared "type" (all [typeIdentifier, optional (onLine typeParameters), optional (token "="),
        ref "type"]) ]

def statement : Phrase :=
  any
    [ ref "block",
      declaration,
      all [token "if", head (ref "headExpression"), ref "block",
        optional (seq (token "else") (ref "statement"))],
      all [token "for", loopHead, ref "block"],
      typeSwitch,
      all [token "switch", head (optional (ref "simpleHead")),
        cases (separated (token ",") (ref "expression"))],
      all [token "select", cases (ref "simple")],
      seq (token "return") (optional (onLine (separated (token ",") (ref "expression")))),
      seq (oneOf ["break", "continue", "goto"])
        (optional (onLine (name "label_name" written keywords))),
      token "fallthrough",
      seq (oneOf ["go", "defer"]) (ref "expression"),
      seq (name "label_name" written keywords) (onLine (token ":")),
      ref "simple" ]

def function : Phrase :=
  any
    [ tree "function_declaration"
        [ token "func", field "name" identifier, optional typeParameters, ref "signature",
          optional (onLine (ref "block")) ],
      tree "method_declaration"
        [ token "func", parameters, field "name" fieldIdentifier, ref "signature",
          optional (onLine (ref "block")) ] ]

def item : Phrase :=
  any
    [ seq (token "package") packageIdentifier,
      declared "import" (seq (optional (any [token ".", packageIdentifier])) string),
      function,
      ref "statement",
      token ";" ]

def grammar : Grammar where
  root := "source_file"
  item := item
  phrases :=
    [ ("type", type), ("signature", signature), ("literalValue", literalValue),
      ("expression", expression true), ("headExpression", expression false),
      ("headPrimary", primary false), ("simple", simple (ref "expression")),
      ("simpleHead", simple (ref "headExpression")), ("statement", statement),
      ("block", between "\x7b" "\x7d" (many (any [ref "statement", token ";"]))) ]
  comments :=
    [("comment", pattern "//[^\\n]*"), ("comment", pattern "/\\*[^*]*\\*+(?:[^/*][^*]*\\*+)*/")]
  operators := binary ++ unary ++ assignments ++ ["++", "--", "..."]

def query : String := "
; Function calls

(call_expression
  function: (identifier) @function)

(call_expression
  function: (identifier) @function.builtin
  (#match? @function.builtin \"^(append|cap|close|complex|copy|delete|imag|len|make|new|panic|print|println|real|recover)$\"))

(call_expression
  function: (selector_expression
    field: (field_identifier) @function.method))

; Function definitions

(function_declaration
  name: (identifier) @function)

(method_declaration
  name: (field_identifier) @function.method)

; Identifiers

(type_identifier) @type
(field_identifier) @property
(identifier) @variable

; Operators

[
  \"--\"
  \"-\"
  \"-=\"
  \":=\"
  \"!\"
  \"!=\"
  \"...\"
  \"*\"
  \"*\"
  \"*=\"
  \"/\"
  \"/=\"
  \"&\"
  \"&&\"
  \"&=\"
  \"%\"
  \"%=\"
  \"^\"
  \"^=\"
  \"+\"
  \"++\"
  \"+=\"
  \"<-\"
  \"<\"
  \"<<\"
  \"<<=\"
  \"<=\"
  \"=\"
  \"==\"
  \">\"
  \">=\"
  \">>\"
  \">>=\"
  \"|\"
  \"|=\"
  \"||\"
  \"~\"
] @operator

; Keywords

[
  \"break\"
  \"case\"
  \"chan\"
  \"const\"
  \"continue\"
  \"default\"
  \"defer\"
  \"else\"
  \"fallthrough\"
  \"for\"
  \"func\"
  \"go\"
  \"goto\"
  \"if\"
  \"import\"
  \"interface\"
  \"map\"
  \"package\"
  \"range\"
  \"return\"
  \"select\"
  \"struct\"
  \"switch\"
  \"type\"
  \"var\"
] @keyword

; Literals

[
  (interpreted_string_literal)
  (raw_string_literal)
  (rune_literal)
] @string

(escape_sequence) @escape

[
  (int_literal)
  (float_literal)
  (imaginary_literal)
] @number

[
  (true)
  (false)
  (nil)
  (iota)
] @constant.builtin

(comment) @comment
"

def lexer : Lexer :=
  .ofGrammar "go" ["*.go"] (fun _ => grammar) query

end Highlighting.Language.Go
