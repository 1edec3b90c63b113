/-!
Values of a TOML document. Nothing looks inside a float, a date or an array, so these keep no more
than what was written.
-/
namespace Highlighting.Toml

/-- A value; a table lists its keys in the order in which they were written. -/
inductive Value where
  | string (text : List Char)
  | integer (n : Int)
  | float (written : List Char)
  | boolean (b : Bool)
  | dateTime (written : List Char)
  | array (items : List Value)
  | table (entries : List (String × Value))
  deriving Repr

namespace Value

def typeName : Value → String
  | string _ => "string"
  | integer _ => "integer"
  | float _ => "float"
  | boolean _ => "boolean"
  | dateTime _ => "datetime"
  | array _ => "array"
  | table _ => "table"

mutual

def same : Value → Value → Bool
  | string a, string b => a = b
  | integer a, integer b => a = b
  | float a, float b => a = b
  | boolean a, boolean b => a = b
  | dateTime a, dateTime b => a = b
  | array a, array b => sameItems a b
  | table a, table b => sameEntries a b
  | _, _ => false

def sameItems : List Value → List Value → Bool
  | [], [] => true
  | a :: as, b :: bs => same a b && sameItems as bs
  | _, _ => false

def sameEntries : List (String × Value) → List (String × Value) → Bool
  | [], [] => true
  | (key, a) :: as, (key', b) :: bs => key = key' && same a b && sameEntries as bs
  | _, _ => false

end

mutual

theorem same_iff : ∀ a b : Value, same a b = true ↔ a = b
  | string _, b | integer _, b | float _, b | boolean _, b | dateTime _, b => by
    cases b <;> simp [same]
  | array items, b => by cases b <;> simp [same, sameItems_iff items]
  | table entries, b => by cases b <;> simp [same, sameEntries_iff entries]

theorem sameItems_iff : ∀ as bs : List Value, sameItems as bs = true ↔ as = bs
  | [], bs => by cases bs <;> simp [sameItems]
  | a :: as, bs => by cases bs <;> simp [sameItems, same_iff a, sameItems_iff as]

theorem sameEntries_iff : ∀ as bs : List (String × Value), sameEntries as bs = true ↔ as = bs
  | [], bs => by cases bs <;> simp [sameEntries]
  | (key, a) :: as, bs => by
    rcases bs with _ | ⟨⟨key', b⟩, bs⟩ <;> simp [sameEntries, same_iff a, sameEntries_iff as]

end

instance : DecidableEq Value := fun a b => decidable_of_iff _ (same_iff a b)

end Value

def sortEntries {α : Type} (entries : List (String × α)) : List (String × α) :=
  entries.mergeSort fun a b => decide (a.1 ≤ b.1)

end Highlighting.Toml
