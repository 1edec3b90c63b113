/-!
Sets of code points written as ascending runs. Tables of character properties are kept in a short
written form, runs `41-5a` and single code points `aa` in hexadecimal between blanks, and read once
into lists of bounds. A search stops at the first run that begins past the code point.
-/
namespace Highlighting.CodeRange

def digit? (c : Char) : Option Nat :=
  if '0' ≤ c ∧ c ≤ '9' then some (c.toNat - '0'.toNat)
  else if 'a' ≤ c ∧ c ≤ 'f' then some (c.toNat - 'a'.toNat + 10)
  else none

def number (digits : List Char) : Nat :=
  digits.foldl (fun n c => match digit? c with
    | some d => n * 16 + d
    | none => n) 0

/-- Splits a list at every element that `cut` selects; the selected elements are dropped. -/
def fields (cut : Char → Bool) : List Char → List (List Char)
  | [] => [[]]
  | c :: rest =>
    if cut c then [] :: fields cut rest
    else match fields cut rest with
      | first :: more => (c :: first) :: more
      | [] => [[c]]

theorem fields_ne_nil (cut : Char → Bool) (text : List Char) : fields cut text ≠ [] := by
  cases text with
  | nil => exact List.cons_ne_nil _ _
  | cons c rest =>
    unfold fields
    split
    · exact List.cons_ne_nil _ _
    · split <;> exact List.cons_ne_nil _ _

theorem fields_append {cut : Char → Bool} {c : Char} (cuts : cut c = true)
    (before behind : List Char) :
    fields cut (before ++ c :: behind) = fields cut before ++ fields cut behind := by
  induction before with
  | nil => simp only [List.nil_append, fields, if_pos cuts, List.singleton_append]
  | cons d before ih =>
    rw [List.cons_append, fields, fields, ih]
    split
    · rfl
    · cases parts : fields cut before with
      | nil => exact absurd parts (fields_ne_nil cut before)
      | cons first more => rfl

theorem fields_of_uncut {cut : Char → Bool} {text : List Char}
    (uncut : ∀ c ∈ text, cut c = false) : fields cut text = [text] := by
  induction text with
  | nil => rfl
  | cons c rest ih =>
    obtain ⟨first, later⟩ := List.forall_mem_cons.mp uncut
    rw [fields, if_neg (by simp [first]), ih later]

def ofField (field : List Char) : Nat × Nat :=
  match fields (· == '-') field with
  | [lo, hi] => (number lo, number hi)
  | _ => (number field, number field)

def ofText (text : String) : List (Nat × Nat) :=
  ((fields Char.isWhitespace text.toList).filter (! ·.isEmpty)).map ofField

def contains : List (Nat × Nat) → Nat → Bool
  | [], _ => false
  | (lo, hi) :: rest, n =>
    if n < lo then false else if n ≤ hi then true else contains rest n

end Highlighting.CodeRange
