/-!
Tables from names to values. A name stands in a table once; setting it again replaces its value in
place. Only lookups and the number of names are observable, so two tables with the same lookups are
the same table whatever the order of their entries.
-/
namespace Highlighting

/-- Values under distinct names. -/
@[ext]
structure NameTable (α : Type) where
  entries : List (String × α) := []
  distinct : (entries.map (·.1)).Nodup := by exact List.nodup_nil
  deriving Repr

namespace NameTable

variable {α : Type}

/-- Replaces the value of a name in a list of entries, or appends a new entry. -/
def setIn (name : String) (value : α) : List (String × α) → List (String × α)
  | [] => [(name, value)]
  | entry :: rest =>
    if entry.1 = name then (name, value) :: rest else entry :: setIn name value rest

theorem names_setIn (name : String) (value : α) (entries : List (String × α)) :
    (setIn name value entries).map (·.1) =
      if name ∈ entries.map (·.1) then entries.map (·.1) else entries.map (·.1) ++ [name] := by
  induction entries with
  | nil => simp [setIn]
  | cons entry rest ih =>
    by_cases here : entry.1 = name
    · simp [setIn, here]
    · have other : name ≠ entry.1 := Ne.symm here
      rw [setIn, if_neg here, List.map_cons, ih, List.map_cons]
      by_cases later : name ∈ rest.map (·.1)
      · rw [if_pos later, if_pos (List.mem_cons_of_mem _ later)]
      · rw [if_neg later, if_neg (by simp [other, later]), List.cons_append]

theorem nodup_setIn {entries : List (String × α)} (distinct : (entries.map (·.1)).Nodup)
    (name : String) (value : α) : ((setIn name value entries).map (·.1)).Nodup := by
  rw [names_setIn]
  split
  · exact distinct
  · next absent =>
    refine List.nodup_append.mpr ⟨distinct, List.pairwise_singleton _ _, ?_⟩
    intro other inside last alone same
    rw [same, List.mem_singleton.mp alone] at inside
    exact absent inside

def get? (table : NameTable α) (name : String) : Option α :=
  table.entries.lookup name

def set (table : NameTable α) (name : String) (value : α) : NameTable α :=
  ⟨setIn name value table.entries, nodup_setIn table.distinct name value⟩

def size (table : NameTable α) : Nat :=
  table.entries.length

def isEmpty (table : NameTable α) : Bool :=
  table.entries.isEmpty

def setAll (table : NameTable α) (pairs : List (String × α)) : NameTable α :=
  pairs.foldl (fun t pair => t.set pair.1 pair.2) table

def ofList (pairs : List (String × α)) : NameTable α :=
  setAll {} pairs

def overlay (table other : NameTable α) : NameTable α :=
  table.setAll other.entries

/-- Whether two tables have the same names with the same values. -/
def sameAs [DecidableEq α] (table other : NameTable α) : Bool :=
  table.size == other.size && table.entries.all fun entry => other.get? entry.1 = some entry.2

@[simp] theorem get?_empty (name : String) : ({} : NameTable α).get? name = none := rfl

theorem lookup_cons (entry : String × α) (rest : List (String × α)) (name : String) :
    (entry :: rest).lookup name = if name = entry.1 then some entry.2 else rest.lookup name := by
  obtain ⟨key, value⟩ := entry
  rw [List.lookup_cons]
  by_cases here : name = key
  · rw [if_pos here, beq_iff_eq.mpr here]
  · rw [if_neg here, beq_false_of_ne here]

theorem lookup_setIn (name key : String) (value : α) (entries : List (String × α)) :
    (setIn name value entries).lookup key =
      if key = name then some value else entries.lookup key := by
  induction entries with
  | nil => rw [setIn, lookup_cons]
  | cons entry rest ih =>
    by_cases here : entry.1 = name
    · rw [setIn, if_pos here, lookup_cons, lookup_cons, here]
      split <;> rfl
    · rw [setIn, if_neg here, lookup_cons, ih, lookup_cons]
      by_cases found : key = entry.1
      · rw [if_pos found, if_pos found, if_neg (found ▸ here)]
      · rw [if_neg found, if_neg found]

theorem get?_set (table : NameTable α) (name key : String) (value : α) :
    (table.set name value).get? key = if key = name then some value else table.get? key :=
  lookup_setIn name key value table.entries

end NameTable

end Highlighting
