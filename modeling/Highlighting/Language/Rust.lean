import Highlighting.Lexer.SyntaxLexer

/-!
Rust. Highlighting asks for names by where they stand: in types, as fields, as what is called, as
parameters and in lifetimes. How strongly operators bind is left open. What stands between the
brackets of a macro is a series of tokens.
-/
namespace Highlighting.Language.Rust

open Phrase

def keywords : List String :=
  ["as", "async", "await", "break", "const", "continue", "crate", "dyn", "else", "enum", "extern",
    "false", "fn", "for", "if", "impl", "in", "let", "loop", "match", "mod", "move", "mut", "pub",
    "ref", "return", "self", "static", "struct", "super", "trait", "true", "type", "unsafe", "use",
    "where", "while"]

def binary : List String :=
  ["<<=", ">>=", "..=", "...", "&&", "||", "==", "!=", "<=", ">=", "<<", ">>", "+=", "-=", "*=",
    "/=", "%=", "&=", "|=", "^=", "<", ">", "+", "-", "*", "/", "%", "&", "|", "^", "="]

/-- Keywords that stand for themselves between the brackets of a macro. -/
def macroKeywords : List String :=
  ["as", "async", "await", "break", "const", "continue", "default", "enum", "fn", "for", "gen",
    "if", "impl", "let", "loop", "match", "mod", "pub", "return", "static", "struct", "trait",
    "type", "union", "unsafe", "use", "where", "while"]

def macroSigns : List String :=
  ["<<=", ">>=", "..=", "...", "&&", "||", "==", "!=", "<=", ">=", "<<", ">>", "+=", "-=", "*=",
    "/=", "%=", "&=", "|=", "^=", "->", "=>", "::", "..", "<", ">", "+", "-", "*", "/", "%", "&",
    "|", "^", "=", "!", "?", ".", ",", ";", ":", "#", "@", "$", "~", "_", "'"]

def written : String := "(?:r#)?[^\\W\\d]\\w*"

def identifier : Phrase :=
  name "identifier" written keywords

def typeIdentifier : Phrase :=
  name "type_identifier" written keywords

def fieldIdentifier : Phrase :=
  name "field_identifier" written keywords

def primitive : Phrase :=
  word "primitive_type" "(?:[ui](?:8|16|32|64|128|size)|f32|f64|bool|str|char)\\b"

def mutable : Phrase :=
  word "mutable_specifier" "mut\\b"

def relative : Phrase :=
  any [word "self" "self\\b", word "super" "super\\b", word "crate" "crate\\b"]

def listed (phrase : Phrase) : Phrase :=
  optional (seq (separated (token ",") phrase) (optional (token ",")))

def lifetime : Phrase :=
  tree "lifetime" [token "'", tight [word "identifier" written]]

/-- A number; a point must not be the first of two or stand in front of a name. -/
def number : Phrase :=
  any
    [ word "float_literal" ("[0-9][0-9_]*\\.[0-9][0-9_]*(?:[eE][+-]?[0-9_]+)?(?:f32|f64)?|" ++
        "[0-9][0-9_]*[eE][+-]?[0-9_]+(?:f32|f64)?|[0-9][0-9_]*(?:f32|f64)"),
      seq (word "float_literal" "[0-9][0-9_]*\\.") (tight [refuse (text "[._\\w]")]),
      word "integer_literal" ("(?:0[xX][0-9a-fA-F_]+|0[oO][0-7_]+|0[bB][01_]+|[0-9][0-9_]*)" ++
        "(?:[ui](?:8|16|32|64|128|size))?") ]

def literal : Phrase :=
  any
    [ word "raw_string_literal" ("[bc]?r(?:\"[^\"]*\"|#\"(?:[^\"]|\"[^#])*\"#|" ++
        "##\"(?:[^\"]|\"[^#]|\"#[^#])*\"##)"),
      word "string_literal" "[bc]?\"(?:[^\"\\\\]|\\\\[\\s\\S])*\"",
      word "char_literal" ("b?'(?:[^'\\\\\\n]|" ++
        "\\\\(?:u\\\x7b[^\x7d']*\\\x7d|x[0-9a-fA-F]\x7b2\x7d|.))'"),
      word "boolean_literal" "(?:true|false)\\b",
      number ]

def tokenTree : Phrase :=
  tree "token_tree"
    [ any
        [ between "(" ")" (many (ref "treeToken")),
          between "[" "]" (many (ref "treeToken")),
          between "\x7b" "\x7d" (many (ref "treeToken")) ] ]

def treeToken : Phrase :=
  any [ref "tokenTree", literal, mutable, relative, primitive, oneOf macroKeywords,
    word "identifier" written, oneOf macroSigns]

def attributes : Phrase :=
  many (any
    [ tree "attribute_item" [token "#", between "[" "]" (many (ref "treeToken"))],
      tree "inner_attribute_item"
        [token "#", token "!", between "[" "]" (many (ref "treeToken"))] ])

def typeArguments : Phrase :=
  tree "type_arguments"
    [ between "<" ">"
        (listed
          (any [lifetime, all [typeIdentifier, token "=", ref "type"], ref "type", literal,
            ref "block"])) ]

def typePath : Phrase :=
  seq (many (all [any [relative, identifier, bracketed], token "::"]))
    (seq typeIdentifier (optional (any [typeArguments, seq (token "::") typeArguments,
      all [ref "parenthesized", optional (seq (token "->") (ref "type"))]])))
where
  bracketed : Phrase :=
    tree "bracketed_type"
      [between "<" ">" (seq (ref "type") (optional (seq (token "as") (ref "type"))))]

def bounds : Phrase :=
  tree "trait_bounds"
    [separated (token "+") (any [lifetime, seq (token "?") (ref "type"),
      seq (optional (seq (token "for") (ref "typeParameters"))) (ref "type")])]

def type : Phrase :=
  any
    [ all [token "&", optional lifetime, optional mutable, ref "type"],
      all [token "*", any [token "const", mutable], ref "type"],
      ref "parenthesized",
      between "[" "]" (seq (ref "type") (optional (seq (token ";") (ref "expression")))),
      all [optional (token "unsafe"), optional (seq (token "extern") (optional literal)),
        token "fn", ref "parenthesized", optional (seq (token "->") (ref "type"))],
      seq (oneOf ["dyn", "impl"]) (ref "bounds"),
      token "!",
      token "_",
      seq primitive (refuse (token "::")),
      typePath ]

def typeParameters : Phrase :=
  tree "type_parameters"
    [ between "<" ">"
        (listed
          (any
            [ seq lifetime (optional (seq (token ":") (ref "bounds"))),
              all [token "const", identifier, token ":", ref "type",
                optional (seq (token "=") (any [literal, ref "block", identifier]))],
              all [typeIdentifier, optional (seq (token ":") (ref "bounds")),
                optional (seq (token "=") (ref "type"))] ])) ]

def whereClause : Phrase :=
  seq (token "where") (listed (all [any [lifetime, ref "type"], token ":", ref "bounds"]))

def path : Phrase :=
  grow (any [relative, identifier, typePath.bracketed])
    [ ("scoped_identifier", some "path",
        seq (token "::") (field "name" (any [identifier, word "super" "super\\b"]))),
      ("generic_function", some "function",
        seq (token "::") (field "type_arguments" typeArguments)) ]

def pattern : Phrase :=
  any
    [ token "..",
      all [token "&", optional mutable, ref "pattern"],
      seq (token "ref") (ref "pattern"),
      seq mutable (ref "pattern"),
      tree "tuple_pattern" [between "(" ")" (listed (ref "patterns"))],
      tree "slice_pattern" [between "[" "]" (listed (ref "patterns"))],
      seq (seq (optional (token "-")) literal)
        (optional (seq (oneOf ["..=", "...", ".."])
          (optional (seq (optional (token "-")) literal)))),
      tree "macro_invocation" [field "macro" path, token "!", tokenTree],
      tree "struct_pattern"
        [ field "type" typePath,
          between "\x7b" "\x7d"
            (listed
              (any
                [ token "..",
                  all [fieldIdentifier, token ":", ref "patterns"],
                  seq (many (any [token "ref", mutable]))
                    (name "shorthand_field_identifier" written keywords) ])) ],
      tree "tuple_struct_pattern"
        [field "type" path, between "(" ")" (listed (ref "patterns"))],
      token "_",
      seq path (optional (any [seq (token "@") (ref "pattern"),
        seq (oneOf ["..=", ".."]) (any [literal, path])])) ]

def parameters : Phrase :=
  tree "parameters"
    [ between "(" ")"
        (listed
          (seq attributes
            (any
              [ tree "self_parameter"
                  [optional (seq (token "&") (optional lifetime)), optional mutable,
                    word "self" "self\\b", optional (seq (token ":") (ref "type"))],
                tree "parameter"
                  [optional mutable, field "pattern" (ref "pattern"), token ":",
                    field "type" (ref "type")],
                token "...",
                ref "type" ]))) ]

def initializers : Phrase :=
  between "\x7b" "\x7d"
    (listed
      (seq attributes
        (any
          [ seq (token "..") (ref "expression"),
            all [field "field" (any [fieldIdentifier, number]), token ":", ref "expression"],
            identifier ])))

def closure : Phrase :=
  all
    [ many (oneOf ["static", "async", "move"]),
      any
        [ token "||",
          between "|" "|"
            (listed (any
              [ tree "parameter" [field "pattern" (ref "pattern"), token ":", ref "type"],
                ref "pattern" ])) ],
      any [all [token "->", ref "type", ref "block"], ref "expression"] ]

def condition : Phrase :=
  separated (token "&&")
    (any [all [token "let", ref "patterns", token "=", ref "headUnary"], ref "headExpression"])

def blockLike : Phrase :=
  seq (optional (seq (seq (token "'") (tight [word "identifier" written])) (token ":")))
    (any
      [ all [token "if", condition, ref "block",
          optional (seq (token "else") (any [ref "blockLike", ref "block"]))],
        all [token "match", ref "headExpression", between "\x7b" "\x7d"
          (many (all [attributes, ref "patterns",
            optional (seq (token "if") condition), token "=>", ref "expression",
            optional (token ",")]))],
        all [token "while", condition, ref "block"],
        all [token "for", ref "patterns", token "in", ref "headExpression", ref "block"],
        seq (token "loop") (ref "block"),
        seq (many (oneOf ["unsafe", "const"])) (ref "block"),
        all [token "async", optional (token "move"), ref "block"] ])

/-- What stands alone as a value. Where a block may follow, a structure does not. -/
def operand (structures : Bool) : Phrase :=
  any
    ([ literal,
      ref "blockLike",
      closure,
      seq (oneOf ["return", "break"])
        (seq (optional (seq (token "'") (tight [word "identifier" written])))
          (optional (ref (if structures then "expression" else "headExpression")))),
      seq (token "continue") (optional (seq (token "'") (tight [word "identifier" written]))),
      tree "macro_invocation" [field "macro" path, token "!", tokenTree] ] ++
    (if structures then
      [tree "struct_expression" [field "name" typePath, field "body" initializers]] else []) ++
    [ path,
      between "(" ")" (listed (ref "expression")),
      between "[" "]"
        (seq (listed (ref "expression")) (optional (seq (token ";") (ref "expression")))) ])

def primary (structures : Bool) : Phrase :=
  grow (operand structures)
    [ ("await_expression", none, seq (token ".") (token "await")),
      ("field_expression", some "value",
        all [token ".", field "field" (any [fieldIdentifier, word "integer_literal" "[0-9]+"])]),
      ("call_expression", some "function",
        field "arguments" (tree "arguments" [between "(" ")" (listed (ref "expression"))])),
      ("generic_function", some "function",
        seq (token "::") (field "type_arguments" typeArguments)),
      ("index_expression", none, between "[" "]" (ref "expression")),
      ("try_expression", none, token "?"),
      ("type_cast_expression", some "value",
        seq (token "as") (field "type" (ref "type"))) ]

def unary (structures : Bool) : Phrase :=
  seq (many (any [oneOf ["-", "*", "!"], seq (token "&") (optional mutable)])) (primary structures)

/-- Operands with signs between them; either end of a range may be left out. -/
def expression (operand : Phrase) : Phrase :=
  any
    [ seq operand (many (any [seq (oneOf binary) operand, seq (token "..") (optional operand)])),
      seq (oneOf ["..=", ".."]) (optional operand) ]

def visibility : Phrase :=
  tree "visibility_modifier"
    [token "pub", optional (between "(" ")" (seq (optional (token "in")) path))]

def fields : Phrase :=
  between "\x7b" "\x7d"
    (listed (all [attributes, optional visibility, fieldIdentifier, token ":", ref "type"]))

def tupleFields : Phrase :=
  between "(" ")" (listed (all [attributes, optional visibility, ref "type"]))

def useClause : Phrase :=
  any
    [ tree "scoped_use_list" [field "path" path, token "::", ref "useList"],
      seq path (optional (any [seq (token "as") (any [identifier, token "_"]),
        seq (token "::") (token "*")])),
      ref "useList",
      token "*" ]

def item : Phrase :=
  any
    [ tree "function_item"
        [ many (any [oneOf ["async", "default", "const", "unsafe"],
            seq (token "extern") (optional literal)]),
          token "fn", field "name" identifier, optional typeParameters, parameters,
          optional (seq (token "->") (ref "type")), optional whereClause, ref "block" ],
      tree "function_signature_item"
        [ many (any [oneOf ["async", "default", "const", "unsafe"],
            seq (token "extern") (optional literal)]),
          token "fn", field "name" identifier, optional typeParameters, parameters,
          optional (seq (token "->") (ref "type")), optional whereClause, token ";" ],
      all [oneOf ["struct", "union"], typeIdentifier, optional typeParameters,
        any [all [tupleFields, optional whereClause, token ";"],
          seq (optional whereClause) (any [fields, token ";"])]],
      all [token "enum", typeIdentifier, optional typeParameters, optional whereClause,
        between "\x7b" "\x7d"
          (listed (all [attributes, identifier, optional (any [fields, tupleFields]),
            optional (seq (token "=") (ref "expression"))]))],
      all [any [token "const", seq (token "static") (optional mutable)],
        any [token "_", identifier], token ":", ref "type",
        optional (seq (token "=") (ref "expression")), token ";"],
      all [token "type", typeIdentifier, optional typeParameters,
        optional (seq (token ":") (ref "bounds")), optional whereClause,
        optional (seq (token "=") (ref "type")), token ";"],
      all [optional (token "unsafe"), token "trait", typeIdentifier, optional typeParameters,
        optional (seq (token ":") (ref "bounds")), optional whereClause, ref "items"],
      all [optional (token "unsafe"), token "impl", optional typeParameters, optional (token "!"),
        ref "type", optional (seq (token "for") (ref "type")), optional whereClause, ref "items"],
      all [token "mod", identifier, any [ref "items", token ";"]],
      all [token "use", useClause, token ";"],
      all [token "extern", word "crate" "crate\\b", identifier,
        optional (seq (token "as") identifier), token ";"],
      all [token "extern", optional literal, ref "items"],
      all [token "macro_rules!", identifier, tokenTree, optional (token ";")] ]

def statement : Phrase :=
  seq attributes
    (any
      [ token ";",
        seq (optional visibility) item,
        all [token "let", ref "patterns", optional (seq (token ":") (ref "type")),
          optional (seq (token "=") (ref "expression")),
          optional (seq (token "else") (ref "block")), token ";"],
        seq (ref "expression") (optional (token ";")),
        ahead (any [text "\\z", token "\x7d"]) ])

/-- The pattern of a block comment that may hold others, down to a depth. -/
def blockComment : Nat → String
  | 0 => "/\\*[^*]*\\*+(?:[^/*][^*]*\\*+)*/"
  | depth + 1 => "/\\*(?:" ++ blockComment depth ++ "|[^*]|\\*[^/])*?\\*/"

/-- The grammar. A line comment that documents something ends behind the end of its line. -/
def grammar : Grammar where
  root := "source_file"
  item := ref "statement"
  phrases :=
    [ ("statement", statement), ("items", between "\x7b" "\x7d" (many (ref "statement"))),
      ("block", tree "block" [between "\x7b" "\x7d" (many (ref "statement"))]),
      ("blockLike", blockLike), ("expression", expression (unary true)),
      ("headExpression", expression (unary false)), ("headUnary", unary false),
      ("pattern", pattern),
      ("patterns", seq (optional (token "|")) (separated (token "|") pattern)),
      ("type", type), ("bounds", bounds), ("typeParameters", typeParameters),
      ("parenthesized", between "(" ")" (listed (ref "type"))),
      ("tokenTree", tokenTree), ("treeToken", treeToken),
      ("useList", tree "use_list" [between "\x7b" "\x7d" (listed useClause)]) ]
  comments :=
    [ ("line_comment", Phrase.pattern "//(?:!|/(?:[^/\\n]|\\n|\\z))(?:[^\\n]*\\n)?"),
      ("line_comment", Phrase.pattern "//[^\\n]*"),
      ("block_comment", Phrase.pattern (blockComment 2)) ]
  operators := ["::", "..", "=>", "->", "==", "!="]

def query : String := "
; Identifiers

(type_identifier) @type
(primitive_type) @type.builtin
(field_identifier) @property

; Identifier conventions

; Assume all-caps names are constants
((identifier) @constant
 (#match? @constant \"^[A-Z][A-Z\\\\d_]+$'\"))

; Assume uppercase names are enum constructors
((identifier) @constructor
 (#match? @constructor \"^[A-Z]\"))

; Assume that uppercase names in paths are types
((scoped_identifier
  path: (identifier) @type)
 (#match? @type \"^[A-Z]\"))
((scoped_identifier
  path: (scoped_identifier
    name: (identifier) @type))
 (#match? @type \"^[A-Z]\"))
((scoped_type_identifier
  path: (identifier) @type)
 (#match? @type \"^[A-Z]\"))
((scoped_type_identifier
  path: (scoped_identifier
    name: (identifier) @type))
 (#match? @type \"^[A-Z]\"))

; Assume all qualified names in struct patterns are enum constructors. (They're
; either that, or struct names; highlighting both as constructors seems to be
; the less glaring choice of error, visually.)
(struct_pattern
  type: (scoped_type_identifier
    name: (type_identifier) @constructor))

; Function calls

(call_expression
  function: (identifier) @function)
(call_expression
  function: (field_expression
    field: (field_identifier) @function.method))
(call_expression
  function: (scoped_identifier
    \"::\"
    name: (identifier) @function))

(generic_function
  function: (identifier) @function)
(generic_function
  function: (scoped_identifier
    name: (identifier) @function))
(generic_function
  function: (field_expression
    field: (field_identifier) @function.method))

(macro_invocation
  macro: (identifier) @function.macro
  \"!\" @function.macro)

; Function definitions

(function_item (identifier) @function)
(function_signature_item (identifier) @function)

(line_comment) @comment
(block_comment) @comment

(line_comment (doc_comment)) @comment.documentation
(block_comment (doc_comment)) @comment.documentation

\"(\" @punctuation.bracket
\")\" @punctuation.bracket
\"[\" @punctuation.bracket
\"]\" @punctuation.bracket
\"\x7b\" @punctuation.bracket
\"\x7d\" @punctuation.bracket

(type_arguments
  \"<\" @punctuation.bracket
  \">\" @punctuation.bracket)
(type_parameters
  \"<\" @punctuation.bracket
  \">\" @punctuation.bracket)

\"::\" @punctuation.delimiter
\":\" @punctuation.delimiter
\".\" @punctuation.delimiter
\",\" @punctuation.delimiter
\";\" @punctuation.delimiter

(parameter (identifier) @variable.parameter)

(lifetime (identifier) @label)

\"as\" @keyword
\"async\" @keyword
\"await\" @keyword
\"break\" @keyword
\"const\" @keyword
\"continue\" @keyword
\"default\" @keyword
\"dyn\" @keyword
\"else\" @keyword
\"enum\" @keyword
\"extern\" @keyword
\"fn\" @keyword
\"for\" @keyword
\"gen\" @keyword
\"if\" @keyword
\"impl\" @keyword
\"in\" @keyword
\"let\" @keyword
\"loop\" @keyword
\"macro_rules!\" @keyword
\"match\" @keyword
\"mod\" @keyword
\"move\" @keyword
\"pub\" @keyword
\"raw\" @keyword
\"ref\" @keyword
\"return\" @keyword
\"static\" @keyword
\"struct\" @keyword
\"trait\" @keyword
\"type\" @keyword
\"union\" @keyword
\"unsafe\" @keyword
\"use\" @keyword
\"where\" @keyword
\"while\" @keyword
\"yield\" @keyword
(crate) @keyword
(mutable_specifier) @keyword
(use_list (self) @keyword)
(scoped_use_list (self) @keyword)
(scoped_identifier (self) @keyword)
(super) @keyword

(self) @variable.builtin

(char_literal) @string
(string_literal) @string
(raw_string_literal) @string

(boolean_literal) @constant.builtin
(integer_literal) @constant.builtin
(float_literal) @constant.builtin

(escape_sequence) @escape

(attribute_item) @attribute
(inner_attribute_item) @attribute

\"*\" @operator
\"&\" @operator
\"'\" @operator
"

def lexer : Lexer :=
  .ofGrammar "rust" ["*.rs"] (fun _ => grammar) query

end Highlighting.Language.Rust
