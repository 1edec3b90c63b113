import Highlighting.Language.C

/-!
C++, as an extension of C: names with scopes and template arguments, classes with methods,
templates, namespaces, and more forms of declarations, operands and statements.
-/
namespace Highlighting.Language.Cpp

open Phrase

def keywords : List String :=
  ["catch", "class", "co_await", "co_return", "co_yield", "constinit", "consteval", "decltype",
    "delete", "explicit", "friend", "mutable", "namespace", "noexcept", "new", "operator",
    "private", "protected", "public", "template", "this", "throw", "try", "typename", "using",
    "concept", "requires", "virtual", "static_assert"]

/-- Words that modify a declaration: those of C but for the one that stands for a type, and more. -/
def modifiers : List String :=
  ["constinit", "consteval", "explicit", "friend", "mutable", "virtual"] ++
    C.modifiers.filter (· != "auto")

def nameOf (kind : String) : Phrase :=
  name kind C.written (keywords ++ C.keywords)

def templateArguments : Phrase :=
  tree "template_argument_list"
    [ between "<" ">"
        (C.listed
          (any [seq (seq (C.specifiers (ref "type")) (ref "abstract")) (ahead (oneOf [",", ">"])),
            ref "unary"])) ]

def scopes : Phrase :=
  seq (optional (token "::"))
    (many (seq (any [seq (nameOf "type_identifier") templateArguments,
      nameOf "namespace_identifier"]) (token "::")))

def namedType : Phrase :=
  any
    [ node "placeholder_type_specifier" (word "auto" "auto\\b"),
      seq (token "decltype") (between "(" ")" (ref "expression")),
      all [optional (token "typename"), scopes, nameOf "type_identifier",
        optional templateArguments] ]

def qualifiedName (kind : String) : Phrase :=
  seq scopes
    (any
      [ seq (token "~") (nameOf kind),
        seq (token "operator") (any [oneOf (C.binary ++ ["++", "--", "!", "~", ",", "->"]),
          seq (token "(") (token ")"), seq (token "[") (token "]")]),
        nameOf kind ])

def value : Phrase :=
  seq (qualifiedName "identifier") (optional (seq templateArguments (ahead (oneOf ["(", "\x7b"]))))

def fieldInitializers : Phrase :=
  seq (token ":")
    (separated (token ",") (seq (nameOf "field_identifier")
      (any [between "(" ")" (C.listed (ref "assigned")), ref "values"])))

def trailer : Phrase :=
  many (any [oneOf ["const", "noexcept", "override", "final", "volatile"],
    seq (token "->") (seq (C.specifiers (ref "type")) (ref "abstract"))])

def functionEnd : Phrase :=
  any
    [ seq (optional fieldInitializers) (ref "block"),
      all [token "=", oneOf ["default", "delete"], token ";"] ]

def initializer : Phrase :=
  any [C.initializer, ref "values", between "(" ")" (C.listed (ref "assigned"))]

def declaration : Phrase :=
  any
    [ seq (C.specifiers (any [ref "builtinType", ref "taggedType",
        seq (ref "namedType") (ahead (any [ref "pointer", qualifiedName "identifier",
          ref "modifier"]))]))
        (any
          [ token ";",
            all [ref "declarator", trailer,
              any [functionEnd,
                all [optional initializer,
                  many (all [token ",", ref "declarator", optional initializer]), token ";"]]] ]),
      all [many (ref "modifier"), atLeastOnce (seq (nameOf "namespace_identifier") (token "::")),
        any [seq (token "~") (nameOf "identifier"), nameOf "identifier"], ref "suffix", trailer,
        functionEnd] ]

def member : Phrase :=
  any
    [ token ";",
      seq (oneOf ["public", "private", "protected"]) (token ":"),
      ref "directive",
      ref "memberTemplate",
      ref "using",
      C.typeDefinition,
      all [many (ref "modifier"), optional (token "~"), nameOf "identifier",
        ahead (token "("), ref "suffix", trailer, any [functionEnd, token ";"]],
      seq (C.specifiers (ref "type"))
        (any
          [ token ";",
            all [ref "fieldDeclarator", trailer,
              any [functionEnd,
                all [optional (seq (token ":") (ref "assigned")), optional initializer,
                  many (all [token ",", ref "fieldDeclarator", optional initializer]),
                  token ";"]]] ]) ]

def bases : Phrase :=
  seq (token ":")
    (separated (token ",") (seq (many (oneOf ["public", "private", "protected", "virtual"]))
      (ref "namedType")))

def taggedType : Phrase :=
  any
    [ all [oneOf ["class", "struct", "union"], many (ref "modifier"),
        optional (seq (seq scopes (nameOf "type_identifier")) (optional templateArguments)),
        optional (token "final"), optional bases, optional (ref "fields")],
      all [token "enum", optional (oneOf ["class", "struct"]), optional (nameOf "type_identifier"),
        optional (seq (token ":") (ref "type")),
        optional (between "\x7b" "\x7d"
          (C.listed (seq (nameOf "identifier") (optional (seq (token "=") (ref "expression"))))))] ]

def template (declared : Phrase) : Phrase :=
  all
    [ token "template",
      between "<" ">"
        (C.listed
          (any
            [ all [oneOf ["typename", "class"], optional (token "..."),
                optional (nameOf "type_identifier"), optional (seq (token "=") (ref "type"))],
              seq (C.specifiers (ref "type"))
                (seq (any [ref "declarator", ref "abstract"])
                  (optional (seq (token "=") (ref "unary")))) ])),
      declared ]

def usingClause : Phrase :=
  seq (token "using")
    (any
      [ all [token "namespace", qualifiedName "identifier", token ";"],
        all [nameOf "type_identifier", token "=",
          seq (C.specifiers (ref "type")) (ref "abstract"), token ";"],
        seq (qualifiedName "identifier") (token ";") ])

def lambda : Phrase :=
  all
    [ between "[" "]" (C.listed (any [token "=", seq (optional (token "&")) (any [word "this"
        "this\\b", seq (nameOf "identifier") (optional (seq (token "=") (ref "assigned"))),
        empty])])),
      optional (between "(" ")" (C.listed (ref "parameter"))), trailer, ref "block" ]

def operand : Phrase :=
  any
    [ word "raw_string_literal" "(?:L|u8|u|U)?R\"\\([^)]*(?:\\)[^\"][^)]*)*\\)\"",
      word "this" "this\\b",
      lambda,
      all [token "new", C.specifiers (ref "type"),
        optional (any [between "(" ")" (C.listed (ref "assigned")), ref "values",
          atLeastOnce (between "[" "]" (ref "expression"))])],
      all [token "delete", optional (seq (token "[") (token "]")), ref "unary"],
      seq (oneOf ["co_await", "co_yield"]) (ref "unary"),
      seq (token "throw") (optional (ref "unary")),
      seq (ref "primitive") (any [between "(" ")" (C.listed (ref "assigned")), ref "values"]),
      C.operand ]

def statement : Phrase :=
  any
    [ ref "template",
      ref "using",
      all [optional (token "inline"), token "namespace",
        optional (separated (token "::") (nameOf "namespace_identifier")), ref "block"],
      seq (seq (token "try") (ref "block"))
        (atLeastOnce (all [token "catch", between "(" ")" (ref "parameter"), ref "block"])),
      all [token "co_return", optional (ref "expression"), token ";"],
      all [token "static_assert", between "(" ")" (ref "expression"), token ";"],
      declaration,
      C.statement ]

/-- The phrases of the language; those of C hold where it has none of its own. -/
def phrases : List (String × Phrase) :=
  [ ("statement", statement), ("member", member), ("using", usingClause),
    ("template", template (ref "statement")), ("memberTemplate", template (ref "member")),
    ("modifier", C.modifier modifiers), ("namedType", namedType),
    ("taggedType", taggedType), ("name", value),
    ("pointer", any [seq (token "*") (many (ref "modifier")), oneOf ["&&", "&"]]),
    ("declarator", C.declarator "declarator" (qualifiedName "identifier")),
    ("fieldDeclarator", C.declarator "fieldDeclarator" (qualifiedName "field_identifier")),
    ("fields", between "\x7b" "\x7d" (many (ref "member"))),
    ("range", all [C.specifiers (ref "type"), ref "declarator", token ":", ref "expression"]),
    ("condition", between "(" ")" (any
      [all [C.specifiers (ref "type"), ref "declarator", C.initializer], ref "expression"])),
    ("operand", operand) ] ++ C.phrases

/-- The grammar. Two closing signs of template arguments may stand side by side. -/
def grammar : Grammar where
  root := "translation_unit"
  item := ref "statement"
  phrases := phrases
  comments := C.comments
  operators := ["::"] ++ C.operators.filter fun sign => sign.toList.head? != some '>'

def additions : String := "
; Functions

(call_expression
  function: (qualified_identifier
    name: (identifier) @function))

(template_function
  name: (identifier) @function)

(template_method
  name: (field_identifier) @function)

(template_function
  name: (identifier) @function)

(function_declarator
  declarator: (qualified_identifier
    name: (identifier) @function))

(function_declarator
  declarator: (field_identifier) @function)

; Types

((namespace_identifier) @type
 (#match? @type \"^[A-Z]\"))

(auto) @type

; Constants

(this) @variable.builtin
(null \"nullptr\" @constant)

; Keywords

[
 \"catch\"
 \"class\"
 \"co_await\"
 \"co_return\"
 \"co_yield\"
 \"constexpr\"
 \"constinit\"
 \"consteval\"
 \"delete\"
 \"explicit\"
 \"final\"
 \"friend\"
 \"mutable\"
 \"namespace\"
 \"noexcept\"
 \"new\"
 \"override\"
 \"private\"
 \"protected\"
 \"public\"
 \"template\"
 \"throw\"
 \"try\"
 \"typename\"
 \"using\"
 \"concept\"
 \"requires\"
 \"virtual\"
] @keyword

; Strings

(raw_string_literal) @string
"

def lexer : Lexer :=
  .ofGrammar "cpp" ["*.cpp", "*.cc", "*.cxx", "*.c++", "*.hpp", "*.hh", "*.hxx", "*.h"]
    (fun _ => grammar) (C.query ++ "\n" ++ additions)

end Highlighting.Language.Cpp
