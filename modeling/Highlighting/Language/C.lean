import Highlighting.Lexer.SyntaxLexer

/-!
C. Highlighting asks for names by where they stand: as types, as values, as fields or as labels. So
declarations are told from expressions, but how strongly operators bind is left open. Directives of
the preprocessor stand among the other items, each up to the end of its line.
-/
namespace Highlighting.Language.C

open Phrase

def primitives : List String :=
  ["bool", "char", "int", "float", "double", "void", "size_t", "ssize_t", "ptrdiff_t", "intptr_t",
    "uintptr_t", "charptr_t", "nullptr_t", "max_align_t", "int8_t", "int16_t", "int32_t", "int64_t",
    "uint8_t", "uint16_t", "uint32_t", "uint64_t", "char8_t", "char16_t", "char32_t", "char64_t"]

def sizes : List String := ["signed", "unsigned", "long", "short"]

def modifiers : List String :=
  ["extern", "static", "auto", "register", "inline", "__inline__", "__inline", "__forceinline",
    "thread_local", "__thread", "const", "constexpr", "volatile", "restrict", "__restrict__",
    "__extension__", "_Atomic", "_Noreturn", "noreturn", "_Nonnull"]

def keywords : List String :=
  ["break", "case", "continue", "default", "do", "else", "enum", "for", "goto", "if", "return",
    "sizeof", "struct", "switch", "typedef", "union", "while", "NULL", "nullptr", "true",
    "false"] ++ primitives ++ sizes ++ modifiers

/-- Signs between operands, longer ones first where they begin alike. -/
def binary : List String :=
  ["<<=", ">>=", "==", "!=", "<=", ">=", "<<", ">>", "&&", "||", "+=", "-=", "*=", "/=", "%=", "&=",
    "|=", "^=", "=", "<", ">", "+", "-", "*", "/", "%", "&", "|", "^"]

def unary : List String :=
  ["++", "--", "-", "+", "!", "~", "*", "&"]

def written : String := "(?:[^\\W\\d]|\\$)[\\w$]*"

def nameOf (kind : String) : Phrase :=
  name kind written keywords

def listed (phrase : Phrase) : Phrase :=
  optional (seq (separated (token ",") phrase) (optional (token ",")))

def string : Phrase :=
  word "string_literal" "(?:L|u8|u|U)?\"(?:[^\"\\\\\\n]|\\\\[\\s\\S])*\""

def number : Phrase :=
  word "number_literal" "\\.?[0-9](?:[eEpP][+-]|'[0-9a-zA-Z]|[\\w.])*"

def literal : Phrase :=
  any
    [ atLeastOnce string,
      word "char_literal" "(?:L|u8|u|U)?'(?:[^'\\\\\\n]|\\\\[\\s\\S])+'",
      number,
      node "null" (oneOf ["NULL", "nullptr"]),
      word "true" "true\\b",
      word "false" "false\\b" ]

def modifier (words : List String) : Phrase :=
  any [oneOf words,
    seq (oneOf ["__attribute__", "__attribute"])
      (between "(" ")" (between "(" ")" (listed (ref "expression"))))]

def builtinType : Phrase :=
  any
    [ tree "sized_type_specifier"
        [atLeastOnce (oneOf sizes), optional (ref "primitive"), many (oneOf sizes)],
      ref "primitive" ]

def taggedType : Phrase :=
  any
    [ all [oneOf ["struct", "union"], many (ref "modifier"), optional (nameOf "type_identifier"),
        optional (ref "fields")],
      all [token "enum", optional (nameOf "type_identifier"),
        optional (between "\x7b" "\x7d"
          (listed (seq (nameOf "identifier")
            (optional (seq (token "=") (ref "expression"))))))] ]

def specifiers (type : Phrase) : Phrase :=
  all [many (ref "modifier"), type, many (ref "modifier")]

/-- What is declared: a name behind signs that point to it and in front of its extents or
parameters. -/
def declarator (self : String) (name : Phrase) : Phrase :=
  all [many (ref "pointer"), any [name, between "(" ")" (ref self)], many (ref "suffix")]

def abstractDeclarator : Phrase :=
  all [many (ref "pointer"),
    optional (between "(" ")" (seq (ahead (ref "pointer")) (ref "abstract"))),
    many (ref "suffix")]

def suffix : Phrase :=
  any [between "[" "]" (seq (many (ref "modifier")) (optional (ref "expression"))),
    between "(" ")" (listed (ref "parameter"))]

def parameter : Phrase :=
  any [token "...",
    seq (specifiers (ref "type")) (any [ref "declarator", ref "abstract"])]

def initializer : Phrase :=
  seq (token "=") (any [ref "values", ref "assigned"])

def values : Phrase :=
  between "\x7b" "\x7d"
    (listed
      (seq
        (optional (seq (atLeastOnce (any [seq (token ".") (nameOf "field_identifier"),
          between "[" "]" (ref "expression")])) (token "=")))
        (any [ref "values", ref "assigned"])))

/-- A type as a declaration begins with it: behind a mere name something must follow that is
declared. -/
def declaredType : Phrase :=
  any [ref "builtinType", ref "taggedType",
    seq (ref "namedType") (ahead (any [ref "pointer", nameOf "identifier", ref "modifier"]))]

def declaration : Phrase :=
  seq (specifiers declaredType)
    (any
      [ token ";",
        seq (ref "declarator")
          (any
            [ ref "block",
              all [optional initializer,
                many (all [token ",", ref "declarator", optional initializer]), token ";"] ]) ])

def typeDefinition : Phrase :=
  all [token "typedef", specifiers (ref "type"), separated (token ",") (ref "typeDeclarator"),
    token ";"]

def fields : Phrase :=
  between "\x7b" "\x7d"
    (many
      (any
        [ token ";",
          ref "directive",
          all [specifiers (ref "type"),
            listed (seq (ref "fieldDeclarator") (optional (seq (token ":") (ref "assigned")))),
            token ";"] ]))

def castType : Phrase :=
  any
    [ between "(" ")" (seq (specifiers (any [ref "builtinType", ref "taggedType",
        seq (ref "namedType") (ahead (ref "pointer"))])) (ref "abstract")),
      seq (between "(" ")" (ref "namedType")) (ahead (any [literal, nameOf "identifier"])) ]

def operand : Phrase :=
  any
    [ seq (token "sizeof")
        (any [between "(" ")" (seq (specifiers (any [ref "builtinType", ref "taggedType",
          seq (ref "namedType") (ahead (ref "pointer"))])) (ref "abstract")), ref "unary"]),
      seq castType (any [ref "values", ref "unary"]),
      literal,
      ref "name",
      between "(" ")" (any [ref "expression", ref "block"]) ]

def step : Phrase :=
  any
    [ between "(" ")" (listed (ref "assigned")),
      between "[" "]" (ref "expression"),
      seq (oneOf ["->", "."]) (nameOf "field_identifier"),
      oneOf ["++", "--"] ]

def assigned : Phrase :=
  seq (separated (oneOf binary) (ref "unary"))
    (optional (all [token "?", optional (ref "expression"), token ":", ref "assigned"]))

def condition : Phrase :=
  between "(" ")" (ref "expression")

def keywordStatement : Phrase :=
  any
    [ all [token "if", ref "condition", ref "statement",
        optional (seq (token "else") (ref "statement"))],
      all [oneOf ["while", "switch"], ref "condition", ref "statement"],
      all [token "do", ref "statement", token "while", ref "condition", token ";"],
      all [token "for",
        between "(" ")" (any [ref "range", all [any [declaration, seq (optional (ref "expression"))
          (token ";")], optional (ref "expression"), token ";", optional (ref "expression")]]),
        ref "statement"],
      all [token "return", optional (any [ref "expression", ref "values"]), token ";"],
      seq (oneOf ["break", "continue"]) (token ";"),
      all [token "goto", nameOf "statement_identifier", token ";"],
      all [token "case", ref "assigned", optional (seq (token "...") (ref "assigned")), token ":"],
      seq (token "default") (token ":") ]

def linkage : Phrase :=
  all [token "extern", string, any [ref "block", declaration]]

def statement : Phrase :=
  any
    [ ref "block",
      token ";",
      ref "directive",
      keywordStatement,
      typeDefinition,
      linkage,
      declaration,
      all [nameOf "statement_identifier", token ":", refuse (token ":")],
      seq (ref "expression") (token ";") ]

def argument : Phrase :=
  tight [text "[ \\t]*", optional (word "preproc_arg" "\\S(?:[^/\\n]|/[^*]|\\\\\\r?\\n)*")]

def directiveCondition : Phrase :=
  tight
    [many (any [text "[ \\t]+|\\\\\\r?\\n", token "defined", literal, nameOf "identifier",
      oneOf (binary ++ ["!", "~", "(", ")", ",", "?", ":"])])]

def directive : Phrase :=
  any
    [ seq (token "#include")
        (any [string, word "system_lib_string" "<[^>\\n]*>", nameOf "identifier"]),
      all
        [ token "#define", nameOf "identifier",
          optional (tree "preproc_params" [tight [token "(",
            gaps true (seq (listed (any [token "...", nameOf "identifier"])) (token ")"))]]),
          argument ],
      seq (oneOf ["#ifdef", "#ifndef"]) (nameOf "identifier"),
      seq (oneOf ["#if", "#elif"]) directiveCondition,
      oneOf ["#else", "#endif"],
      seq (word "preproc_directive" "#[ \\t]*[a-zA-Z0-9]\\w*") argument ]

def phrases : List (String × Phrase) :=
  [ ("statement", statement), ("block", between "\x7b" "\x7d" (many (ref "statement"))),
    ("directive", directive), ("condition", condition), ("range", refuse empty),
    ("declarator", declarator "declarator" (ref "name")),
    ("fieldDeclarator", declarator "fieldDeclarator" (nameOf "field_identifier")),
    ("typeDeclarator", declarator "typeDeclarator" (nameOf "type_identifier")),
    ("abstract", abstractDeclarator), ("pointer", seq (token "*") (many (ref "modifier"))),
    ("suffix", suffix), ("parameter", parameter), ("modifier", modifier modifiers),
    ("fields", fields),
    ("primitive", any (primitives.map fun type => word "primitive_type" (type ++ "\\b"))),
    ("builtinType", builtinType), ("taggedType", taggedType),
    ("namedType", nameOf "type_identifier"),
    ("type", any [ref "builtinType", ref "taggedType", ref "namedType"]),
    ("name", nameOf "identifier"), ("values", values), ("operand", operand), ("step", step),
    ("unary", seq (many (oneOf unary)) (seq (ref "operand") (many (ref "step")))),
    ("assigned", assigned), ("expression", separated (token ",") (ref "assigned")) ]

def comments : List (String × Regex) :=
  [ ("comment", pattern "//(?:[^\\\\\\n]|\\\\\\r?\\n|\\\\[^\\n])*"),
    ("comment", pattern "/\\*[^*]*\\*+(?:[^/*][^*]*\\*+)*/") ]

/-- Signs that no shorter one may cut into. -/
def operators : List String :=
  binary ++ ["++", "--", "->", "...", "#ifdef", "#ifndef"]

def grammar : Grammar where
  root := "translation_unit"
  item := ref "statement"
  phrases := phrases
  comments := comments
  operators := operators

def query : String := "
(identifier) @variable

((identifier) @constant
 (#match? @constant \"^[A-Z][A-Z\\\\d_]*$\"))

\"break\" @keyword
\"case\" @keyword
\"const\" @keyword
\"continue\" @keyword
\"default\" @keyword
\"do\" @keyword
\"else\" @keyword
\"enum\" @keyword
\"extern\" @keyword
\"for\" @keyword
\"if\" @keyword
\"inline\" @keyword
\"return\" @keyword
\"sizeof\" @keyword
\"static\" @keyword
\"struct\" @keyword
\"switch\" @keyword
\"typedef\" @keyword
\"union\" @keyword
\"volatile\" @keyword
\"while\" @keyword

\"#define\" @keyword
\"#elif\" @keyword
\"#else\" @keyword
\"#endif\" @keyword
\"#if\" @keyword
\"#ifdef\" @keyword
\"#ifndef\" @keyword
\"#include\" @keyword
(preproc_directive) @keyword

\"--\" @operator
\"-\" @operator
\"-=\" @operator
\"->\" @operator
\"=\" @operator
\"!=\" @operator
\"*\" @operator
\"&\" @operator
\"&&\" @operator
\"+\" @operator
\"++\" @operator
\"+=\" @operator
\"<\" @operator
\"==\" @operator
\">\" @operator
\"||\" @operator

\".\" @delimiter
\";\" @delimiter

(string_literal) @string
(system_lib_string) @string

(null) @constant
(number_literal) @number
(char_literal) @number

(field_identifier) @property
(statement_identifier) @label
(type_identifier) @type
(primitive_type) @type
(sized_type_specifier) @type

(call_expression
  function: (identifier) @function)
(call_expression
  function: (field_expression
    field: (field_identifier) @function))
(function_declarator
  declarator: (identifier) @function)
(preproc_function_def
  name: (identifier) @function.special)

(comment) @comment
"

def lexer : Lexer :=
  .ofGrammar "c" ["*.c", "*.h"] (fun _ => grammar) query

end Highlighting.Language.C
