import Highlighting.Regex.Match
import Highlighting.Regex.Reader
import Highlighting.Tokenizer

/-!
Rule lexers. A rule is a pattern with a kind; it claims the text that its pattern matches at a
position. A table of rules is tried in order, the first rule that claims something makes the next
token, and what no rule claims is gathered into plain text. A rule sees one character to the left of
its position, which is all that an assertion of its pattern can ask for.
-/
namespace Highlighting

/-- A pattern with the kind of what it matches, in two forms: for the start of a text, and for a
position behind another character, where that character is matched first. -/
structure Rule where
  kind : Kind
  atStart : Regex
  behindChar : Regex
  deriving DecidableEq, Repr

namespace Rule

/-- Reads a rule. Both forms are made from the written pattern, so it must fit into a group. -/
def ofPattern? (classes : ClassName.Lookup) (kind : Kind) (pattern : List Char) : Option Rule := do
  let atStart ← Regex.ofText? classes ("\\A(?:".toList ++ pattern ++ ")".toList)
  let behindChar ← Regex.ofText? classes ("\\A(?s:.)((?:".toList ++ pattern ++ "))".toList)
  some ⟨kind, atStart, behindChar⟩

/-- How many characters the rule claims at the front of `text`, if any; `before` is the character
to the left. -/
def claim (rule : Rule) (before : Option Char) (text : List Char) : Option Nat :=
  let length : Option Nat := match before with
    | none => (rule.atStart.find text).map fun (found : Nat × Nat) => found.1 + found.2
    | some c =>
      (rule.behindChar.find (c :: text)).map fun (found : Nat × Nat) => found.1 + found.2 - 1
  length.filter (0 < ·)

/-- How many bytes the rule claims behind `start` bytes of a text, if any; there is no answer where
`start` is no place between characters. -/
def claimAt? (rule : Rule) (text : List Char) (start : Nat) : Option (Option Nat) :=
  (Utf8.splitAt? start text).map fun (before, after) =>
    (rule.claim before.getLast? after).map fun n => Utf8.byteLength (after.take n)

def firstClaim (rules : List Rule) (before : Option Char) (text : List Char) :
    Option (Rule × Nat) :=
  rules.findSome? fun rule => (rule.claim before text).map (rule, ·)

/-- A token of plain text, unless there is none; the text stands last character first. -/
def plainToken (reversed : List Char) : List Token :=
  if reversed.isEmpty then [] else [⟨.text, reversed.reverse⟩]

/-- Cuts a text into tokens. `plain` is the text behind the last token that no rule claimed, last
character first; every step takes a character, so as many steps as characters are enough. -/
def tokensFrom (rules : List Rule) : Nat → Option Char → List Char → List Char → List Token
  | 0, _, plain, _ => plainToken plain
  | _ + 1, _, plain, [] => plainToken plain
  | fuel + 1, before, plain, c :: rest =>
    match firstClaim rules before (c :: rest) with
    | some (rule, n) =>
      let claimed := (c :: rest).take n
      plainToken plain ++ ⟨rule.kind, claimed⟩ ::
        tokensFrom rules fuel claimed.getLast? [] ((c :: rest).drop n)
    | none => tokensFrom rules fuel (some c) (c :: plain) rest

def tokens (rules : List Rule) (text : List Char) : List Token :=
  tokensFrom rules (text.length + 1) none [] text

end Rule

abbrev RuleText := String × String

structure RuleLexer where
  name : String
  rules : List Rule := []
  deriving Repr

namespace RuleLexer

def withRules (classes : ClassName.Lookup) (lexer : RuleLexer) (table : List RuleText) :
    Except Error RuleLexer :=
  match table.mapM fun (kind, pattern) => Rule.ofPattern? classes ⟨kind⟩ pattern.toList with
  | some rules => .ok { lexer with rules := lexer.rules ++ rules }
  | none => .error (.pattern lexer.name)

def ofTable (classes : ClassName.Lookup) (name : String) (table : List RuleText) :
    Except Error RuleLexer :=
  withRules classes ⟨name, []⟩ table

def tokenizer (lexer : RuleLexer) : Tokenizer :=
  ⟨lexer.name, fun text => .ok (Rule.tokens lexer.rules text)⟩

end RuleLexer

end Highlighting
