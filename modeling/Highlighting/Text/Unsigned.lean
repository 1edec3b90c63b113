/-!
Written numbers of a fixed width: decimal digits, with a plus sign in front or not, whose value
fits.
-/
namespace Highlighting.Unsigned

def value (digits : List Char) : Nat :=
  digits.foldl (fun n c => n * 10 + (c.toNat - '0'.toNat)) 0

/-- Reads a number of at most `bits` bits. -/
def read? (bits : Nat) (text : List Char) : Option Nat :=
  let digits := match text with
    | '+' :: rest => rest
    | rest => rest
  if digits.isEmpty ∨ ! digits.all Char.isDigit then none
  else if value digits < Nat.pow 2 bits then some (value digits)
  else none

end Highlighting.Unsigned
