import Highlighting.Regex.CharSet

/-!
Regular expressions with preferences. The order of an alternative and the greed of a repetition say
which of several matches is preferred. Assertions look at the character on each side of a position
and at nothing else.
-/
namespace Highlighting

/-- A condition on a position in a text. The `ascii` forms count only ASCII letters, digits and the
underscore as word characters. -/
inductive Assertion where
  | textStart
  | textEnd
  | lineStart
  | lineEnd
  | crlfLineStart
  | crlfLineEnd
  | wordBoundary (ascii : Bool)
  | notWordBoundary (ascii : Bool)
  | wordStart (ascii : Bool)
  | wordEnd (ascii : Bool)
  | wordStartHalf (ascii : Bool)
  | wordEndHalf (ascii : Bool)
  deriving DecidableEq, Repr

namespace Assertion

def isWordSide (ascii : Bool) : Option Char → Bool
  | none => false
  | some c => if ascii then c.toNat < 128 && Character.isWord c else Character.isWord c

/-- Whether a position between the characters `before` and `after` satisfies the condition; at an
end of the text there is no character on that side. -/
def holds (before after : Option Char) : Assertion → Bool
  | textStart => before.isNone
  | textEnd => after.isNone
  | lineStart => before.isNone || before == some '\n'
  | lineEnd => after.isNone || after == some '\n'
  | crlfLineStart =>
    before.isNone || before == some '\n' || (before == some '\r' && after != some '\n')
  | crlfLineEnd =>
    after.isNone || after == some '\r' || (after == some '\n' && before != some '\r')
  | wordBoundary ascii => isWordSide ascii before != isWordSide ascii after
  | notWordBoundary ascii => isWordSide ascii before == isWordSide ascii after
  | wordStart ascii => ! isWordSide ascii before && isWordSide ascii after
  | wordEnd ascii => isWordSide ascii before && ! isWordSide ascii after
  | wordStartHalf ascii => ! isWordSide ascii before
  | wordEndHalf ascii => ! isWordSide ascii after

end Assertion

/-- A regular expression. In `alt` the first alternative is preferred; `loop` stands behind a round
of its body and makes any number of further rounds, as many as possible when greedy. -/
inductive Regex where
  | empty
  | look (assertion : Assertion)
  | set (chars : CharSet)
  | seq (first second : Regex)
  | alt (preferred other : Regex)
  | loop (greedy : Bool) (body : Regex)
  deriving DecidableEq, Repr

namespace Regex

/-- Whether the expression may match without taking a character, for some surroundings. -/
def nullable : Regex → Bool
  | empty => true
  | look _ => true
  | set _ => false
  | seq a b => a.nullable && b.nullable
  | alt a b => a.nullable || b.nullable
  | loop _ _ => true

def size : Regex → Nat
  | seq a b => a.size + b.size + 1
  | alt a b => a.size + b.size + 1
  | loop _ a => a.size + 1
  | _ => 1

def startsAtTextStart : Regex → Bool
  | look .textStart => true
  | seq a _ => a.startsAtTextStart
  | alt a b => a.startsAtTextStart && b.startsAtTextStart
  | _ => false

def char (c : Char) : Regex := .set (.single c)

def optional (greedy : Bool) (r : Regex) : Regex :=
  if greedy then .alt r .empty else .alt .empty r

def plus (greedy : Bool) (r : Regex) : Regex :=
  .seq r (.loop greedy r)

/-- Any number of rounds. A body that can match nothing makes its first round before the loop, so
that an empty first round counts as one. -/
def star (greedy : Bool) (r : Regex) : Regex :=
  if r.nullable then optional greedy (plus greedy r) else .loop greedy r

def copies (r : Regex) (count : Nat) (rest : Regex) : Regex :=
  Nat.repeat (Regex.seq r) count rest

/-- Between `least` and `most` rounds; without `most` any number from `least` on. -/
def times (greedy : Bool) (least : Nat) (most : Option Nat) (r : Regex) : Regex :=
  match most with
  | some most =>
    copies r least (Nat.repeat (fun rest => optional greedy (.seq r rest)) (most - least) .empty)
  | none => if least = 0 then star greedy r else copies r (least - 1) (plus greedy r)

def seqAll : List Regex → Regex
  | [] => .empty
  | [r] => r
  | r :: rest => .seq r (seqAll rest)

def altAll : List Regex → Regex
  | [] => .set .empty
  | [r] => r
  | r :: rest => .alt r (altAll rest)

def literal (text : List Char) : Regex :=
  seqAll (text.map char)

end Regex

end Highlighting
