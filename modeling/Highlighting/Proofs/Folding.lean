import Highlighting.Regex.CharSet
import Mathlib.Data.List.Chain
import Mathlib.Order.Defs.Unbundled

/-! Case folding. The runs of the table ascend and no folded form is in one of them, so that folding
is done once and for all, and what folds alike is found from its folded form. -/
namespace Highlighting

namespace CaseFold

/-- A code point of a run. -/
structure Run.Holds (run : Run) (n : Nat) : Prop where
  low : run.first ≤ n
  high : n ≤ run.last
  regular : (n - run.first) % run.step = 0

/-- What a code point of a run folds to. -/
def Run.image (run : Run) (n : Nat) : Nat :=
  run.target + (n - run.first)

/-- A run that lies before another one. -/
def Run.Before (run other : Run) : Prop :=
  run.first ≤ run.last ∧ run.last < other.first

instance (run other : Run) : Decidable (run.Before other) :=
  inferInstanceAs (Decidable (_ ∧ _))

instance : Trans Run.Before Run.Before Run.Before where
  trans first second := ⟨first.1, by have := first.2; have := second.1; have := second.2; omega⟩

/-- Whether no run, up to one that lies behind, holds a folded form of `run`: they lie before, or
are the other ones of every second. -/
def Run.clear (run : Run) : List Run → Bool
  | [] => true
  | other :: rest =>
    bif other.last.blt run.target then run.clear rest
    else
      (run.target + (run.last - run.first)).blt other.first ||
        other.step = 2 && (run.step = 2 || run.first = run.last) &&
          (run.target + other.first) % 2 = 1 && run.clear rest

theorem table_ascending : table.Pairwise Run.Before := by
  have chain : table.IsChain Run.Before := by decide +kernel
  exact List.isChain_iff_pairwise.mp chain

theorem table_filled : ∀ run ∈ table, run.first ≤ run.last := by decide +kernel

theorem table_clear : ∀ run ∈ table, run.clear table = true := by decide +kernel

theorem foldIn_cases (runs : List Run) (n : Nat) :
    foldIn runs n = n ∨ ∃ run ∈ runs, run.Holds n ∧ foldIn runs n = run.image n := by
  induction runs with
  | nil => exact .inl rfl
  | cons run rest ih =>
    simp only [foldIn]
    split
    · exact .inl rfl
    · next low =>
      split
      · next high =>
        split
        · next regular =>
          exact .inr ⟨run, .head _, ⟨Nat.not_lt.mp low, high, regular⟩, rfl⟩
        · exact .inl rfl
      · rcases ih with same | ⟨other, inside, holds, image⟩
        · exact .inl same
        · exact .inr ⟨other, .tail _ inside, holds, image⟩

theorem foldIn_of_holds {runs : List Run} (ascending : runs.Pairwise Run.Before)
    {run : Run} (inside : run ∈ runs) {n : Nat} (holds : run.Holds n) :
    foldIn runs n = run.image n := by
  obtain ⟨low, high, regular⟩ := holds
  induction runs with
  | nil => cases inside
  | cons first rest ih =>
    obtain ⟨behind, ascending⟩ := List.pairwise_cons.mp ascending
    rcases List.mem_cons.mp inside with rfl | inside
    · simp only [foldIn, if_neg (Nat.not_lt.mpr low), if_pos high, if_pos regular]
      rfl
    · obtain ⟨filled, apart⟩ := behind run inside
      have past : ¬ n < first.first ∧ ¬ n ≤ first.last := by omega
      simp only [foldIn, if_neg past.1, if_neg past.2]
      exact ih ascending inside

/-- No run holds a folded form of a run that is clear of all. -/
theorem foldIn_image {run : Run} {runs : List Run} {n : Nat} (holds : run.Holds n)
    (clear : run.clear runs = true) : foldIn runs (run.image n) = run.image n := by
  obtain ⟨low, high, regular⟩ := holds
  induction runs with
  | nil => rfl
  | cons other rest ih =>
    simp only [Run.clear, cond_eq_ite, Nat.blt_eq] at clear
    simp only [foldIn]
    split
    · rfl
    · next behind =>
      split at clear
      · next before =>
        have past : ¬ run.image n ≤ other.last := by simp only [Run.image]; omega
        rw [if_neg past]
        exact ih clear
      · simp only [Bool.or_eq_true, Bool.and_eq_true, decide_eq_true_eq, Nat.blt_eq] at clear
        rcases clear with apart | ⟨⟨⟨step, alternate⟩, parity⟩, clear⟩
        · exact absurd (Nat.lt_of_le_of_lt (by simp only [Run.image]; omega) apart) behind
        · -- Every second code point is held, and this is one of those between.
          have even : (n - run.first) % 2 = 0 := by
            rcases alternate with two | single
            · rwa [two] at regular
            · omega
          have odd : ¬ (run.image n - other.first) % other.step = 0 := by
            simp only [Run.image] at behind ⊢
            rw [step]
            omega
          rw [if_neg odd, ih clear, ite_self]

/-- ASCII capitals are in the table too. -/
theorem fold_eq (n : Nat) : fold n = foldIn table n := by
  by_cases ascii : n < 128
  · have all : ∀ m < 128, fold m = foldIn table m := by decide +kernel
    exact all n ascii
  · rw [fold, if_neg ascii]

theorem fold_fold (n : Nat) : fold (fold n) = fold n := by
  simp only [fold_eq]
  rcases foldIn_cases table n with same | ⟨run, inside, holds, image⟩
  · rw [same, same]
  · rw [image]
    exact foldIn_image holds (table_clear run inside)

/-- An orbit holds what folds alike, but for the code point itself. -/
theorem fold_eq_fold_iff (m n : Nat) : fold m = fold n ↔ m = n ∨ m ∈ orbit n := by
  simp only [orbit, List.mem_cons, List.mem_filterMap, Option.ite_none_right_eq_some,
    Option.some.injEq]
  constructor
  · intro same
    rcases foldIn_cases table m with unfolded | ⟨run, inside, ⟨low, high, regular⟩, image⟩
    · exact .inr (.inl (by rw [← same, fold_eq, unfolded]))
    · have place : fold n - run.target = m - run.first := by
        rw [← same, fold_eq, image, Run.image, Nat.add_sub_cancel_left]
      have found : fold n = run.target + (m - run.first) := by
        rw [← same, fold_eq, image, Run.image]
      refine .inr (.inr ⟨run, inside, ⟨by omega, by omega, ?_⟩, by omega⟩)
      rw [place, regular]
  · rintro (rfl | rfl | ⟨run, inside, ⟨low, high, regular⟩, rfl⟩)
    · rfl
    · exact fold_fold n
    · -- The place in the run is the place of the folded form behind the first one.
      have filled := table_filled run inside
      have place : run.first + (fold n - run.target) - run.first = fold n - run.target :=
        Nat.add_sub_cancel_left ..
      have holds : run.Holds (run.first + (fold n - run.target)) :=
        ⟨by omega, by omega, by rw [place, regular]⟩
      rw [fold_eq, foldIn_of_holds table_ascending inside holds, Run.image, place,
        Nat.add_sub_cancel' low]

end CaseFold

namespace CharSet

theorem mem_single (c : Char) (n : Nat) : (single c).mem n = true ↔ n = c.toNat := by
  simp only [single, mem, Bool.and_eq_true, decide_eq_true_eq]
  omega

/-- A set of one, up to case. -/
theorem contains_folded_single (c d : Char) :
    (folded (single c)).contains d = true ↔ CaseFold.same c d = true := by
  have alike := CaseFold.fold_eq_fold_iff c.toNat d.toNat
  simp only [contains, mem, Bool.or_eq_true, List.any_eq_true, mem_single, CaseFold.same,
    beq_iff_eq, alike]
  constructor
  · rintro (same | ⟨m, inside, rfl⟩)
    · exact .inl same.symm
    · exact .inr inside
  · rintro (same | inside)
    · exact .inl same.symm
    · exact .inr ⟨_, inside, rfl⟩

/-- Where nothing else folds alike, the set of one needs no folding. -/
theorem contains_single_of_alone {c : Char}
    (alone : ¬ (CaseFold.orbit c.toNat).any (· ≠ c.toNat)) (d : Char) :
    (single c).contains d = true ↔ CaseFold.same c d = true := by
  simp only [contains, mem_single, CaseFold.same, beq_iff_eq]
  constructor
  · rintro same
    rw [same]
  · intro same
    rcases (CaseFold.fold_eq_fold_iff d.toNat c.toNat).mp same.symm with same | inside
    · exact same
    · refine Decidable.byContradiction fun other => alone ?_
      exact List.any_eq_true.mpr ⟨d.toNat, inside, by simpa using other⟩

end CharSet

end Highlighting
