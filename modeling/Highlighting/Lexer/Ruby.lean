import Highlighting.Lexer.Basic
import Highlighting.Lexer.Rule

/-!
A rule lexer for Ruby. More specific rules stand first: a string before the operators inside it, a
keyword before the plain name that it would otherwise be.
-/
namespace Highlighting.Ruby

def patterns : List String :=
  ["*.rb", "*.ruby", "*.rbw", "*.rake", "*.gemspec", "*.podspec", "*.ru", "*.thor",
    "Rakefile", "Gemfile", "Guardfile", "Capfile", "Podfile", "Vagrantfile"]

def keywords : List String :=
  ["alias", "and", "begin", "break", "case", "class", "def", "do", "else", "elsif", "end", "ensure",
    "for", "if", "in", "module", "next", "not", "or", "redo", "rescue", "retry", "return", "super",
    "then", "undef", "unless", "until", "when", "while", "yield"]

def builtins : List String :=
  ["puts", "print", "p", "pp", "require", "require_relative", "load", "include", "extend",
    "prepend", "attr_accessor", "attr_reader", "attr_writer", "private", "protected", "public",
    "raise", "lambda", "proc", "loop"]

def anyWord (words : List String) : String :=
  "\\b(?:" ++ "|".intercalate words ++ ")\\b"

def rules : List RuleText :=
  [ ("Comment.Multiline", "=begin\\b[\\s\\S]*?\\n=end\\b"),
    ("Comment.Single", "#[^\\n]*"),
    ("Literal.String.Double", "\"(?:[^\"\\\\]|\\\\.)*\""),
    ("Literal.String.Single", "'(?:[^'\\\\]|\\\\.)*'"),
    ("Literal.String.Backtick", "`(?:[^`\\\\]|\\\\.)*`"),
    ("Operator", "::"),
    ("Literal.String.Symbol", ":[A-Za-z_]\\w*[?!=]?"),
    ("Name.Variable.Class", "@@[A-Za-z_]\\w*"),
    ("Name.Variable.Instance", "@[A-Za-z_]\\w*"),
    ("Name.Variable.Global", "\\$[A-Za-z_]\\w*"),
    ("Keyword.Constant", anyWord ["true", "false", "nil", "self", "__FILE__", "__LINE__"]),
    ("Keyword", anyWord keywords),
    ("Name.Builtin", anyWord builtins),
    ("Literal.Number.Hex", "0[xX][0-9a-fA-F_]+"),
    ("Literal.Number.Bin", "0[bB][01_]+"),
    ("Literal.Number.Float", "\\d[\\d_]*\\.\\d[\\d_]*(?:[eE][+-]?\\d+)?"),
    ("Literal.Number.Integer", "\\d[\\d_]*"),
    ("Name.Constant", "[A-Z]\\w*"),
    ("Name", "[a-z_]\\w*[?!]?"),
    ("Text.Whitespace", "\\s+"),
    ("Operator", "\\.\\.\\.?|[+\\-*/%&|^!<>=~]+"),
    ("Punctuation", "[()\x7b\x7d\\[\\],.;:]") ]

def lexer : Lexer :=
  .ofPatterns "ruby" patterns fun _ => (RuleLexer.ofTable .standard "ruby" rules).map (·.tokenizer)

end Highlighting.Ruby
