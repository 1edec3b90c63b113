import Highlighting.NameTable
import Mathlib.Data.List.Nodup

/-! Tables by what is found in them. A table holds each of its names once and so is known by its
entries in any order; setting many names at once is laying the table of them over the one that there
was. -/
namespace Highlighting.NameTable

variable {α : Type}

/-- The names that have a value. -/
def names (table : NameTable α) : List String :=
  table.entries.map (·.1)

theorem nodup_names (table : NameTable α) : table.names.Nodup :=
  table.distinct

theorem lookup_eq_none_iff {entries : List (String × α)} {name : String} :
    entries.lookup name = none ↔ name ∉ entries.map (·.1) := by
  rw [List.lookup_eq_none_iff, List.mem_map]
  constructor
  · rintro apart ⟨pair, inside, rfl⟩
    simpa using apart pair inside
  · intro unlisted pair inside
    simpa using fun same => unlisted ⟨pair, inside, Eq.symm same⟩

theorem get?_eq_none_iff {table : NameTable α} {name : String} :
    table.get? name = none ↔ name ∉ table.names :=
  lookup_eq_none_iff

theorem mem_names_iff {table : NameTable α} {name : String} :
    name ∈ table.names ↔ (table.get? name).isSome := by
  rw [Option.isSome_iff_ne_none, Ne, get?_eq_none_iff, not_not]

theorem names_set_of_absent {table : NameTable α} {name : String}
    (absent : table.get? name = none) (value : α) :
    (table.set name value).names = table.names ++ [name] := by
  have unlisted : name ∉ table.entries.map (·.1) := get?_eq_none_iff.mp absent
  rw [names, set, names_setIn, if_neg unlisted, names]

theorem setIn_of_absent {name : String} {entries : List (String × α)}
    (absent : name ∉ entries.map (·.1)) (value : α) :
    setIn name value entries = entries ++ [(name, value)] := by
  induction entries with
  | nil => rfl
  | cons entry rest ih =>
    rw [List.map_cons, List.mem_cons, not_or] at absent
    rw [setIn, if_neg (Ne.symm absent.1), ih absent.2, List.cons_append]

theorem setAll_cons (table : NameTable α) (pair : String × α) (rest : List (String × α)) :
    table.setAll (pair :: rest) = (table.set pair.1 pair.2).setAll rest := rfl

/-- Behind pairs that are set, a name has the last value that they give it, or else its old one. -/
theorem get?_setAll (table : NameTable α) (pairs : List (String × α)) (name : String) :
    (table.setAll pairs).get? name = ((ofList pairs).get? name).or (table.get? name) := by
  induction pairs generalizing table with
  | nil => rfl
  | cons pair rest ih =>
    rw [ofList, setAll_cons, setAll_cons, ih, ih (NameTable.set _ _ _), get?_set, get?_set,
      Option.or_assoc]
    split <;> rfl

theorem entries_setAll {table : NameTable α} {pairs : List (String × α)}
    (apart : ((table.entries ++ pairs).map (·.1)).Nodup) :
    (table.setAll pairs).entries = table.entries ++ pairs := by
  induction pairs generalizing table with
  | nil => simp [setAll]
  | cons pair rest ih =>
    have absent : pair.1 ∉ table.entries.map (·.1) := by
      rw [List.map_append, List.nodup_append] at apart
      exact fun inside => apart.2.2 _ inside _ (by simp) rfl
    have appended : (table.set pair.1 pair.2).entries = table.entries ++ [pair] :=
      setIn_of_absent absent pair.2
    have joined : table.entries ++ pair :: rest =
        (table.set pair.1 pair.2).entries ++ rest := by
      rw [appended, List.append_assoc, List.singleton_append]
    rw [joined] at apart ⊢
    rw [setAll_cons, ih apart]

theorem ofList_of_distinct {pairs : List (String × α)}
    (distinct : (pairs.map (·.1)).Nodup) : ofList pairs = ⟨pairs, distinct⟩ :=
  NameTable.ext (entries_setAll distinct)

theorem get?_eq_some_iff {table : NameTable α} {name : String} {value : α} :
    table.get? name = some value ↔ (name, value) ∈ table.entries := by
  obtain ⟨entries, distinct⟩ := table
  simp only [get?]
  induction entries with
  | nil => simp
  | cons entry rest ih =>
    obtain ⟨absent, distinct⟩ := List.nodup_cons.mp distinct
    by_cases here : name = entry.1
    · subst here
      have later : (entry.1, value) ∉ rest := fun inside =>
        absent (List.mem_map.mpr ⟨_, inside, rfl⟩)
      simp [lookup_cons, later, Prod.ext_iff, eq_comm]
    · have other : (name, value) ≠ entry := fun same => here (congrArg Prod.fst same)
      simp [lookup_cons, here, other, ih distinct]

/- Tables in another order -/

theorem get?_of_perm {table other : NameTable α} (order : other.entries.Perm table.entries)
    (name : String) : other.get? name = table.get? name := by
  ext value
  rw [get?_eq_some_iff, get?_eq_some_iff, order.mem_iff]

/-- Where the same is found under every name, the entries are the same. -/
theorem entries_perm {table other : NameTable α}
    (same : ∀ name, table.get? name = other.get? name) : table.entries.Perm other.entries := by
  apply (List.perm_ext_iff_of_nodup (.of_map _ table.distinct) (.of_map _ other.distinct)).mpr
  rintro ⟨name, value⟩
  rw [← get?_eq_some_iff, ← get?_eq_some_iff, same]

/-- The entries of a table may be set one by one in any order. -/
theorem get?_setAll_perm {table other : NameTable α} {visited : List (String × α)}
    (order : visited.Perm other.entries) (name : String) :
    (table.setAll visited).get? name = (other.get? name).or (table.get? name) := by
  have names_perm := order.map (fun pair : String × α => pair.1)
  have distinct : (visited.map (·.1)).Nodup := names_perm.nodup_iff.mpr other.distinct
  rw [get?_setAll, ofList_of_distinct distinct, get?_of_perm order]

theorem get?_overlay (table other : NameTable α) (name : String) :
    (table.overlay other).get? name = (other.get? name).or (table.get? name) :=
  get?_setAll_perm (.refl _) name

end Highlighting.NameTable
