import Highlighting.Lexer.SyntaxLexer

/-!
Shell scripts, as far as highlighting tells their parts apart: commands with their arguments,
assignments, redirections, substitutions and the words that hold compound commands together. A line
end ends a command, so it is no blank. Here-documents are not known.
-/
namespace Highlighting.Language.Bash

open Phrase

def newline : Phrase :=
  text "\\r?\\n"

def keyword (written : String) : Phrase :=
  seq (token written) (tight [refuse (text "[^\\s;&|()<>]")])

def bare : Phrase :=
  word "word" ("(?:[^#'\"<>\x7b\x7d\\[\\]()`$|&;\\\\\\s]|\\\\[^\\n])" ++
    "(?:[^'\"<>\x7b\x7d\\[\\]()`$|&;\\\\\\s]|\\\\[^\\n])*")

def variableName : Phrase :=
  word "variable_name" "\\w+"

def simpleExpansion : Phrase :=
  tree "simple_expansion"
    [token "$", tight [any [word "special_variable_name" "[*@?!#$-]|[0_]\\b", variableName]]]

/-- The value of a variableName, changed by what stands between the braces. -/
def expansion : Phrase :=
  tree "expansion"
    [token "$\x7b", tight [many (any [ref "substitution", ref "quoted", text "[^\x7d]"])],
      tight [token "\x7d"]]

/-- Commands up to a closing token, with blanks between their parts wherever they stand. -/
def commandsTo (last : String) : Phrase :=
  gaps true (seq (many (seq (refuse (token last)) (ref "item"))) (token last))

def commandSubstitution : Phrase :=
  node "command_substitution"
    (any [seq (token "$(") (commandsTo ")"), seq (token "`") (commandsTo "`")])

def processSubstitution : Phrase :=
  tree "process_substitution"
    [oneOf ["<(", ">("], commandsTo ")"]

def arithmetic : Phrase :=
  any [ref "substitution", ref "quoted", word "number" "[0-9]\\w*", variableName,
    between "(" ")" (many (ref "arithmetic")), newline,
    oneOf ["**", "++", "--", "&&", "||", "<<", ">>", "<=", ">=", "==", "!=", "+=", "-=", "*=",
      "/=", "%=", "+", "-", "*", "/", "%", "<", ">", "=", "!", "~", "&", "|", "^", "?", ":", ",",
      "[", "]"]]

def substitution : Phrase :=
  any
    [ tree "arithmetic_expansion"
        [token "$((", gaps true (seq (many (ref "arithmetic")) (token "))"))],
      commandSubstitution,
      expansion,
      word "ansi_c_string" "\\$'(?:[^'\\\\]|\\\\[\\s\\S])*'",
      simpleExpansion ]

def quoted : Phrase :=
  any
    [ word "raw_string" "'[^']*'",
      tree "string"
        [ token "\"",
          tight [many (any [seq (refuse (text "\\$'")) (ref "substitution"),
            text "[^\"\\\\$`]+|\\\\[\\s\\S]|\\$"]), token "\""] ] ]

def piece : Phrase :=
  any [bare, ref "quoted", ref "substitution", text "[\x7b\x7d\\[\\]$]"]

def value : Phrase :=
  any
    [ processSubstitution,
      grow (ref "piece")
        [("concatenation", none, tight [atLeastOnce (any [ref "piece", text "#"])])] ]

def assignment : Phrase :=
  tree "variable_assignment"
    [ field "name"
        (any [tree "subscript" [variableName, tight [token "[", many (seq (refuse (token "]"))
          (ref "piece")), token "]"]], variableName]),
      tight [oneOf ["=", "+="]],
      field "value"
        (any
          [ tree "array"
              [tight [token "("], gaps true (seq (many (any [newline, ref "value"])) (token ")"))],
            gaps false (optional (ref "value")) ]) ]

def redirect : Phrase :=
  any
    [ tree "herestring_redirect" [token "<<<", ref "value"],
      tree "file_redirect"
        [ optional (seq (word "file_descriptor" "[0-9]+") (tight [ahead (oneOf ["<", ">", ">>",
            ">|", ">&", "<&"])])),
          oneOf ["&>>", "&>", ">>", ">|", ">&", "<&", "<", ">"],
          field "destination" (ref "value") ] ]

def command : Phrase :=
  tree "command"
    [ many (any [ref "redirect", ref "assignment"]),
      field "name" (tree "command_name" [ref "value"]),
      many (any [ref "redirect", field "argument" (ref "value")]) ]

def declaration : Phrase :=
  all
    [ any (["declare", "typeset", "export", "readonly", "local", "unset", "unsetenv"].map keyword),
      many (any [ref "assignment", seq variableName (tight [refuse (ref "piece")]), ref "value"]) ]

def condition (first last : String) : Phrase :=
  all
    [ keyword first,
      many (seq (refuse (token last))
        (any [word "test_operator" "-[A-Za-z]+", oneOf ["=~", "==", "=", "!=", "!", "<", ">", "&&",
          "||", "(", ")"], newline, ref "value"])),
      token last ]

def choice : Phrase :=
  all
    [ keyword "case", ref "value", many newline, keyword "in", many newline,
      many
        (all
          [ refuse (keyword "esac"), optional (token "("), separated (token "|") (ref "value"),
            token ")",
            many (seq (refuse (any [keyword "esac", oneOf [";;&", ";;", ";&"]])) (ref "item")),
            optional (oneOf [";;&", ";;", ";&"]), many newline ]),
      keyword "esac" ]

def loopHead : Phrase :=
  all
    [ any [keyword "for", keyword "select"],
      any
        [ between "((" "))" (many (any [ref "arithmetic", token ";"])),
          all [variableName, many newline, optional (seq (keyword "in") (many (ref "value")))] ] ]

def function : Phrase :=
  tree "function_definition"
    [ any
        [ all [keyword "function", field "name" bare, optional (seq (token "(") (token ")"))],
          all [field "name" bare, token "(", token ")"] ],
      many newline, field "body" (ref "group") ]

def group : Phrase :=
  any
    [ seq (keyword "\x7b") (commandsTo "\x7d"),
      between "((" "))" (many (ref "arithmetic")),
      seq (token "(") (commandsTo ")"),
      condition "[[" "]]",
      condition "[" "]" ]

def item : Phrase :=
  any
    [ newline,
      oneOf ["&&", "||", "|&", "|", "&", ";;", ";"],
      keyword "!",
      choice,
      loopHead,
      function,
      any (["if", "then", "elif", "else", "fi", "while", "until", "do", "done"].map keyword),
      declaration,
      ref "group",
      command,
      atLeastOnce (any [ref "redirect", ref "assignment"]) ]

def grammar : Grammar where
  root := "program"
  item := ref "item"
  phrases :=
    [ ("item", item), ("value", value), ("piece", piece), ("quoted", quoted),
      ("substitution", substitution), ("arithmetic", arithmetic), ("assignment", assignment),
      ("redirect", redirect), ("group", group) ]
  comments := [("comment", pattern "#[^\\n]*"), ("line_continuation", pattern "\\\\\\r?\\n")]
  isBlank := fun c => c = ' ' || c = '\t'
  operators :=
    ["&&", "||", "|&", "&>>", "&>", ">>", ">|", ">&", "<&", "<<<", "<<", "<(", ">(", ";;", "$(("]

def query : String := "
[
  (string)
  (raw_string)
  (heredoc_body)
  (heredoc_start)
] @string

(command_name) @function

(variable_name) @property

[
  \"case\"
  \"do\"
  \"done\"
  \"elif\"
  \"else\"
  \"esac\"
  \"export\"
  \"fi\"
  \"for\"
  \"function\"
  \"if\"
  \"in\"
  \"select\"
  \"then\"
  \"unset\"
  \"until\"
  \"while\"
] @keyword

(comment) @comment

(function_definition name: (word) @function)

(file_descriptor) @number

[
  (command_substitution)
  (process_substitution)
  (expansion)
]@embedded

[
  \"$\"
  \"&&\"
  \">\"
  \">>\"
  \"<\"
  \"|\"
] @operator

(
  (command (_) @constant)
  (#match? @constant \"^-\")
)
"

def lexer : Lexer :=
  .ofGrammar "bash" ["*.sh", "*.bash", "*.zsh", ".bashrc", ".bash_profile", ".zshrc"]
    (fun _ => grammar) query

end Highlighting.Language.Bash
