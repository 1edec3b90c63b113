import Highlighting.Text.CaseFold
import Highlighting.Text.Property
import Highlighting.Text.Script

/-!
Sets of characters, as terms. A set is kept in the form in which a pattern names it, so comparing
two sets is cheap and membership follows the set operations. Members are code points.
-/
namespace Highlighting

inductive CharSet where
  | empty
  | range (lo hi : Nat)
  | word
  | digit
  | blank
  | category (category : Category)
  | property (property : Property)
  | script (name : String)
  | union (a b : CharSet)
  | inter (a b : CharSet)
  | compl (a : CharSet)
  /-- Everything that is the same as a member up to case. -/
  | folded (a : CharSet)
  /-- Everything that is the same as a member up to the case of ASCII letters. -/
  | asciiFolded (a : CharSet)
  deriving DecidableEq, Repr

namespace CharSet

def single (c : Char) : CharSet := .range c.toNat c.toNat

def any : CharSet := .compl .empty

def except (c : Char) : CharSet := .compl (.single c)

def unionAll (sets : List CharSet) : CharSet :=
  match sets with
  | [] => .empty
  | s :: rest => rest.foldl .union s

def asciiOrbit (n : Nat) : List Nat :=
  if 65 ≤ n ∧ n ≤ 90 then [n, n + 32] else if 97 ≤ n ∧ n ≤ 122 then [n, n - 32] else [n]

def mem : CharSet → Nat → Bool
  | empty, _ => false
  | range lo hi, n => lo ≤ n && n ≤ hi
  | word, n => Character.isWord (Char.ofNat n)
  | digit, n => Character.isDigit (Char.ofNat n)
  | blank, n => Character.isBlank (Char.ofNat n)
  | category g, n => CodeRange.contains g.runs n
  | property p, n => CodeRange.contains p.runs n
  | script s, n => CodeRange.contains (Script.runs s) n
  | union a b, n => a.mem n || b.mem n
  | inter a b, n => a.mem n && b.mem n
  | compl a, n => ! a.mem n
  | folded a, n => a.mem n || (CaseFold.orbit n).any fun m => a.mem m
  | asciiFolded a, n => (asciiOrbit n).any fun m => a.mem m

def contains (set : CharSet) (c : Char) : Bool :=
  set.mem c.toNat

/-- How many runs of code points the set is written with, as a measure of its size. -/
def runCount : CharSet → Nat
  | word => Character.wordRuns.length
  | digit => Category.decimalNumberRuns.length
  | blank => 10
  | category g => g.runs.length
  | property p => p.runs.length
  | script s => (Script.runs s).length
  | union a b => a.runCount + b.runCount
  | inter a b => a.runCount + b.runCount
  | compl a => a.runCount + 1
  | folded a => a.runCount + 1
  | asciiFolded a => a.runCount + 1
  | _ => 1

end CharSet

end Highlighting
