import Highlighting.Proofs.TableLookup
import Highlighting.Toml.Value
import Mathlib.Data.List.Sort

/-! Entries in the order of their keys. Where no key is repeated there is one such order, so that
sorted entries are known by what is found under each key. -/
namespace Highlighting.Toml

variable {α β : Type}

theorem sortEntries_perm (entries : List (String × α)) : (sortEntries entries).Perm entries :=
  List.mergeSort_perm ..

theorem mem_sortEntries {entries : List (String × α)} {entry : String × α} :
    entry ∈ sortEntries entries ↔ entry ∈ entries :=
  (sortEntries_perm entries).mem_iff

theorem sortEntries_pairwise (entries : List (String × α)) :
    (sortEntries entries).Pairwise fun a b => a.1 ≤ b.1 := by
  have trans : ∀ a b c : String × α, decide (a.1 ≤ b.1) = true → decide (b.1 ≤ c.1) = true →
      decide (a.1 ≤ c.1) = true := by
    simp only [decide_eq_true_eq]
    exact fun _ _ _ => String.le_trans
  have total : ∀ a b : String × α, (decide (a.1 ≤ b.1) || decide (b.1 ≤ a.1)) = true := by
    simp only [Bool.or_eq_true, decide_eq_true_eq]
    exact fun a b => String.le_total a.1 b.1
  simpa [sortEntries] using List.pairwise_mergeSort trans total entries

theorem mem_iff_lookup {entries : List (String × α)} (distinct : (entries.map (·.1)).Nodup)
    {key : String} {value : α} : (key, value) ∈ entries ↔ entries.lookup key = some value := by
  let table : NameTable α := ⟨entries, distinct⟩
  have found : table.get? key = some value ↔ (key, value) ∈ entries := NameTable.get?_eq_some_iff
  exact found.symm

/-- Distinct keys in ascending order have one order. -/
theorem eq_of_ascending {entries other : List (String × α)}
    (distinct : (entries.map (·.1)).Nodup) (distinct' : (other.map (·.1)).Nodup)
    (ascending : entries.Pairwise fun a b => a.1 ≤ b.1)
    (ascending' : other.Pairwise fun a b => a.1 ≤ b.1)
    (same : ∀ key, entries.lookup key = other.lookup key) : entries = other := by
  let table : NameTable α := ⟨entries, distinct⟩
  let table' : NameTable α := ⟨other, distinct'⟩
  have listed : ∀ key, table.get? key = table'.get? key := same
  have perm : entries.Perm other := NameTable.entries_perm listed
  refine perm.eq_of_pairwise ?_ ascending ascending'
  rintro ⟨key, value⟩ ⟨key', value'⟩ inside inside' below above
  obtain rfl : key = key' := String.le_antisymm below above
  rw [mem_iff_lookup distinct, same] at inside
  rw [mem_iff_lookup distinct'] at inside'
  cases inside.symm.trans inside'
  rfl

theorem distinct_sortEntries {entries : List (String × α)} (distinct : (entries.map (·.1)).Nodup) :
    ((sortEntries entries).map (·.1)).Nodup :=
  ((sortEntries_perm entries).map _).nodup_iff.mpr distinct

theorem lookup_sortEntries {entries : List (String × α)} (distinct : (entries.map (·.1)).Nodup)
    (key : String) : (sortEntries entries).lookup key = entries.lookup key := by
  ext value
  rw [← mem_iff_lookup distinct, ← mem_iff_lookup (distinct_sortEntries distinct), mem_sortEntries]

theorem sortEntries_congr {entries other : List (String × α)}
    (distinct : (entries.map (·.1)).Nodup) (distinct' : (other.map (·.1)).Nodup)
    (same : ∀ key, entries.lookup key = other.lookup key) :
    sortEntries entries = sortEntries other := by
  apply eq_of_ascending (distinct_sortEntries distinct) (distinct_sortEntries distinct')
    (sortEntries_pairwise entries) (sortEntries_pairwise other)
  intro key
  rw [lookup_sortEntries distinct, lookup_sortEntries distinct', same]

theorem distinct_filter {entries : List (String × α)} (distinct : (entries.map (·.1)).Nodup)
    (keep : String × α → Bool) : ((entries.filter keep).map (·.1)).Nodup :=
  distinct.sublist (List.filter_sublist.map _)

theorem lookup_filter {entries : List (String × α)} (distinct : (entries.map (·.1)).Nodup)
    (keep : String × α → Bool) (key : String) :
    (entries.filter keep).lookup key =
      (entries.lookup key).filter fun value => keep (key, value) := by
  ext value
  rw [← mem_iff_lookup (distinct_filter distinct keep), List.mem_filter, mem_iff_lookup distinct,
    Option.filter_eq_some_iff]

theorem sortEntries_filter {entries : List (String × α)} (distinct : (entries.map (·.1)).Nodup)
    (keep : String × α → Bool) :
    sortEntries (entries.filter keep) = (sortEntries entries).filter keep := by
  have sorted := distinct_sortEntries distinct
  apply eq_of_ascending (distinct_sortEntries (distinct_filter distinct keep))
    (distinct_filter sorted keep) (sortEntries_pairwise _)
    ((sortEntries_pairwise entries).filter keep)
  intro key
  rw [lookup_sortEntries (distinct_filter distinct keep), lookup_filter distinct,
    lookup_filter sorted, lookup_sortEntries distinct]

/-- Entries with each value changed by its key. -/
def mapEntries (f : String → α → β) (entries : List (String × α)) : List (String × β) :=
  entries.map fun entry => (entry.1, f entry.1 entry.2)

theorem keys_mapEntries (f : String → α → β) (entries : List (String × α)) :
    (mapEntries f entries).map (·.1) = entries.map (·.1) := by
  rw [mapEntries, List.map_map]
  rfl

theorem lookup_mapEntries (f : String → α → β) (entries : List (String × α)) (key : String) :
    (mapEntries f entries).lookup key = (entries.lookup key).map (f key) := by
  induction entries with
  | nil => rfl
  | cons entry rest ih =>
    obtain ⟨name, value⟩ := entry
    by_cases here : key = name
    · simp [mapEntries, here]
    · have other : (key == name) = false := beq_false_of_ne here
      simpa [mapEntries, List.lookup_cons, other] using ih

theorem sortEntries_mapEntries (f : String → α → β) (entries : List (String × α)) :
    sortEntries (mapEntries f entries) = mapEntries f (sortEntries entries) := by
  unfold sortEntries mapEntries
  rw [List.map_mergeSort]
  intro a _ b _
  rfl

end Highlighting.Toml
