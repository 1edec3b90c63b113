import Highlighting.Regex.Basic

/-!
Matching with preferences. At each position the matcher holds the ways to go on, most preferred
first; a way is the list of expressions still to be matched in order. Opening the ways finds those
that end here and those that take the next character. A way that ends here is a match and outdoes
every later way, while the ways before it may still find a longer one that is preferred to it. A
choice that was opened before at the same position is not opened again.
-/
namespace Highlighting

namespace Regex

/-- A way to go on: the expressions still to be matched, in order. -/
abbrev Way := List Regex

/-- What opening ways has come to at a position: the choices opened, the ways that take the next
character, last first, and whether a way was at its end. -/
structure Opening where
  opened : List Way := []
  kept : List Way := []
  ended : Bool := false
  deriving DecidableEq, Repr

namespace Opening

def mark (found : Opening) (choice : Way) : Opening :=
  { found with opened := choice :: found.opened }

/-- One more way that takes the next character, unless it is kept already. -/
def keep (found : Opening) (way : Way) : Opening :=
  if found.kept.contains way then found else { found with kept := way :: found.kept }

/-- The preferred part of a choice and then the other one, unless a way was at its end. -/
def andThen (preferred other : Opening → Opening) (found : Opening) : Opening :=
  let found := preferred found
  if found.ended then found else other found

end Opening

/-- Opens an expression in front of a way; `next` opens the way itself. Behind a round of a loop
that takes nothing stands the loop again, which is opened already. -/
def openHead (before after : Option Char) :
    Regex → Way → (Opening → Opening) → Opening → Opening
  | .empty, _, next, found => next found
  | .look assertion, _, next, found =>
    if assertion.holds before after then next found else found
  | .set chars, way, _, found => if after.any chars.contains then found.keep way else found
  | .seq a b, way, next, found =>
    openHead before after a (b :: way) (openHead before after b way next) found
  | .alt a b, way, next, found =>
    if found.opened.contains (.alt a b :: way) then found
    else
      (found.mark (.alt a b :: way)).andThen (openHead before after a way next)
        (openHead before after b way next)
  | .loop greedy a, way, next, found =>
    if found.opened.contains (.loop greedy a :: way) then found
    else
      let again := openHead before after a (.loop greedy a :: way) id
      (found.mark (.loop greedy a :: way)).andThen (if greedy then again else next)
        (if greedy then next else again)

def openWay (before after : Option Char) : Way → Opening → Opening
  | [], found => { found with ended := true }
  | r :: way, found => openHead before after r way (openWay before after way) found

/-- Opens ways, most preferred first, until one of them is at its end. -/
def openWays (before after : Option Char) : List Way → Opening → Opening
  | [], found => found
  | way :: ways, found => found.andThen (openWay before after way) (openWays before after ways)

/-- The ways past the next character, and whether a preferred match ends here. -/
def advance (before after : Option Char) (ways : List Way) : List Way × Bool :=
  let found := openWays before after ways {}
  (found.kept.reverse, found.ended)

/-- Follows ways through a text of which `taken` characters are matched already; the answer is the
length of the preferred match. -/
def follow (before : Option Char) (ways : List Way) (best : Option Nat) (taken : Nat) :
    List Char → Option Nat
  | [] => if (advance before none ways).2 then some taken else best
  | c :: rest =>
    let (next, ends) := advance before (some c) ways
    let best := if ends then some taken else best
    if next.isEmpty then best else follow (some c) next best (taken + 1) rest

/-- The length in characters of the preferred match at the front of `text`, where `before` is the
character to the left. -/
def matchAt (r : Regex) (before : Option Char) (text : List Char) : Option Nat :=
  follow before [[r]] none 0 text

def findFrom (r : Regex) (before : Option Char) (skipped : Nat) : List Char → Option (Nat × Nat)
  | [] => (r.matchAt before []).map (skipped, ·)
  | c :: rest =>
    match r.matchAt before (c :: rest) with
    | some length => some (skipped, length)
    | none => findFrom r (some c) (skipped + 1) rest

/-- The first match in a text: how many characters come before it and how long it is. -/
def find (r : Regex) (text : List Char) : Option (Nat × Nat) :=
  if r.startsAtTextStart then (r.matchAt none text).map (0, ·) else findFrom r none 0 text

def isMatch (r : Regex) (text : List Char) : Bool :=
  (r.find text).isSome

end Regex

end Highlighting
