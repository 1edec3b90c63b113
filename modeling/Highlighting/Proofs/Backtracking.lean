import Highlighting.Regex.Match
import Mathlib.Data.List.Basic

/-! Backtracking. The matches of a way are enumerated in the order of preference: the first branch
of a choice with all that follows it, and then the second. A choice that was opened on the way to a
position, and stands there again before a character is taken, is not opened once more, since that
would go in a circle. Nothing is remembered of ways that failed, and every assertion is judged in
the whole text. -/
namespace Highlighting

/-- Whether a position in a text satisfies the condition. -/
def Assertion.holdsAt (text : List Char) (position : Nat) (assertion : Assertion) : Bool :=
  assertion.holds (if position = 0 then none else text[position - 1]?) text[position]?

namespace Regex

/-- A position as a way meets it: the conditions that hold there, the character that follows, the
position itself, and where the ways past that character end. -/
structure Spot where
  holds : Assertion → Bool
  following : Option Char
  position : Nat
  later : Way → List Nat

namespace Spot

variable (spot : Spot)

/-- Where the matches of an expression in front of a way end. `next` tells it for the way itself,
and `standing` holds the choices opened on the way here. -/
def headEnds : Regex → Way → (List Way → List Nat) → List Way → List Nat
  | .empty, _, next, standing => next standing
  | .look assertion, _, next, standing => if spot.holds assertion then next standing else []
  | .set chars, way, _, _ => if spot.following.any chars.contains then spot.later way else []
  | .seq a b, way, next, standing => headEnds a (b :: way) (headEnds b way next) standing
  | .alt a b, way, next, standing =>
    if .alt a b :: way ∈ standing then []
    else
      headEnds a way next ((.alt a b :: way) :: standing) ++
        headEnds b way next ((.alt a b :: way) :: standing)
  | .loop greedy a, way, next, standing =>
    if .loop greedy a :: way ∈ standing then []
    else
      let standing := (.loop greedy a :: way) :: standing
      let again := headEnds a (.loop greedy a :: way) (fun _ => []) standing
      if greedy then again ++ next standing else next standing ++ again

/-- Where the matches of a way end, most preferred first. -/
def ends : Way → List Way → List Nat
  | [], _ => [spot.position]
  | r :: way, standing => spot.headEnds r way (ends way) standing

end Spot

/-- The position between two parts of a text. -/
def spotAt (done rest : List Char) (later : Way → List Nat) : Spot :=
  ⟨Assertion.holdsAt (done ++ rest) done.length, rest.head?, done.length, later⟩

/-- Where the matches of a way end that begin between two parts of a text. -/
def ends : List Char → List Char → Way → List Nat
  | done, [], way => (spotAt done [] fun _ => []).ends way []
  | done, c :: rest, way => (spotAt done (c :: rest) (ends (done ++ [c]) rest)).ends way []

/-- Where the preferred match of an expression ends that begins between two parts of a text. -/
def preferredEnd? (r : Regex) (done rest : List Char) : Option Nat :=
  (ends done rest [r]).head?

/- A choice has two branches, the preferred one first. -/

def branches? : Way → Option (Way × Way)
  | .alt a b :: way => some (a :: way, b :: way)
  | .loop greedy a :: way =>
    let again := a :: .loop greedy a :: way
    some (if greedy then (again, way) else (way, again))
  | _ => none

/-- Induction along the openings of a way: what holds of a choice that stands open already, and goes
from what is opened next to what opens it, holds of every way. -/
theorem Way.induct {P : List Way → Way → Prop}
    (standing : ∀ {opened way branches}, branches? way = some branches → way ∈ opened →
      P opened way)
    (nil : ∀ opened, P opened [])
    (empty : ∀ {opened way}, P opened way → P opened (.empty :: way))
    (look : ∀ {opened way} assertion, P opened way → P opened (.look assertion :: way))
    (set : ∀ opened chars way, P opened (.set chars :: way))
    (seq : ∀ {opened a b way}, P opened (a :: b :: way) → P opened (.seq a b :: way))
    (choice : ∀ {opened way preferred other}, branches? way = some (preferred, other) →
      way ∉ opened → P (way :: opened) preferred → P (way :: opened) other → P opened way)
    (opened : List Way) (way : Way) : P opened way := by
  -- Opening goes on only with more choices open, so the continuation is wanted for all of them.
  have head : ∀ (r : Regex) (base : List Way) (way : Way),
      (∀ opened, base ⊆ opened → P opened way) → ∀ opened, base ⊆ opened → P opened (r :: way) := by
    intro r
    induction r with
    | empty => exact fun base way next opened sub => empty (next opened sub)
    | look assertion => exact fun base way next opened sub => look assertion (next opened sub)
    | set chars => exact fun base way _ opened _ => set opened chars way
    | seq a b iha ihb =>
      exact fun base way next opened sub => seq (iha base _ (ihb base way next) opened sub)
    | alt a b iha ihb =>
      intro base way next opened sub
      by_cases h : .alt a b :: way ∈ opened
      · exact standing rfl h
      · have more : base ⊆ (.alt a b :: way) :: opened := fun _ m => .tail _ (sub m)
        exact choice rfl h (iha base way next _ more) (ihb base way next _ more)
    | loop greedy a iha =>
      intro base way next opened sub
      by_cases h : .loop greedy a :: way ∈ opened
      · exact standing rfl h
      · have more : base ⊆ (.loop greedy a :: way) :: opened := fun _ m => .tail _ (sub m)
        -- Behind the body the loop itself is met again, and stands open there.
        have again : P ((.loop greedy a :: way) :: opened) (a :: .loop greedy a :: way) :=
          iha [.loop greedy a :: way] _ (fun _ all => standing rfl (all (.head _))) _ (by simp)
        cases greedy
        · exact choice rfl h (next _ more) again
        · exact choice rfl h again (next _ more)
  induction way generalizing opened with
  | nil => exact nil opened
  | cons r way ih => exact head r [] way (fun opened _ => ih opened) opened (by simp)

namespace Spot

variable {spot : Spot}

theorem headEnds_congr {r : Regex} {way : Way} {next next' : List Way → List Nat}
    {opened : List Way} (same : ∀ more, opened ⊆ more → next more = next' more) :
    spot.headEnds r way next opened = spot.headEnds r way next' opened := by
  induction r generalizing way next next' opened with
  | empty => exact same _ (List.Subset.refl _)
  | look assertion => simp only [headEnds, same _ (List.Subset.refl _)]
  | set chars => rfl
  | seq a b iha ihb =>
    exact iha fun more sub => ihb fun most above => same most (List.Subset.trans sub above)
  | alt a b iha ihb =>
    have onward : ∀ more, (.alt a b :: way) :: opened ⊆ more → next more = next' more :=
      fun more sub => same more fun _ m => sub (.tail _ m)
    simp only [headEnds, iha onward, ihb onward]
  | loop greedy a iha =>
    have onward := same ((.loop greedy a :: way) :: opened) fun _ m => .tail _ m
    simp only [headEnds, onward]

@[simp] theorem ends_nil (opened : List Way) : spot.ends [] opened = [spot.position] := rfl

@[simp] theorem ends_empty (way : Way) (opened : List Way) :
    spot.ends (.empty :: way) opened = spot.ends way opened := rfl

theorem ends_look (assertion : Assertion) (way : Way) (opened : List Way) :
    spot.ends (.look assertion :: way) opened =
      if spot.holds assertion then spot.ends way opened else [] := rfl

theorem ends_set (chars : CharSet) (way : Way) (opened : List Way) :
    spot.ends (.set chars :: way) opened =
      if spot.following.any chars.contains then spot.later way else [] := rfl

@[simp] theorem ends_seq (a b : Regex) (way : Way) (opened : List Way) :
    spot.ends (.seq a b :: way) opened = spot.ends (a :: b :: way) opened := rfl

theorem ends_choice {way preferred other : Way} (two : branches? way = some (preferred, other))
    (opened : List Way) :
    spot.ends way opened =
      if way ∈ opened then []
      else spot.ends preferred (way :: opened) ++ spot.ends other (way :: opened) := by
  unfold branches? at two
  split at two
  · cases two
    rfl
  · next greedy a way =>
    have stands : ∀ more, (.loop greedy a :: way) :: opened ⊆ more →
        (fun _ => []) more = spot.ends (.loop greedy a :: way) more := by
      intro more sub
      have member : .loop greedy a :: way ∈ more := sub (.head _)
      simp only [ends, headEnds, if_pos member]
    have again : spot.headEnds a (.loop greedy a :: way) (fun _ => [])
        ((.loop greedy a :: way) :: opened) =
          spot.ends (a :: .loop greedy a :: way) ((.loop greedy a :: way) :: opened) :=
      headEnds_congr stands
    cases greedy <;> cases two <;> simp only [ends, headEnds] at again ⊢ <;> simp [again]
  · cases two

theorem ends_standing {way : Way} {opened : List Way} {branches : Way × Way}
    (two : branches? way = some branches) (h : way ∈ opened) : spot.ends way opened = [] := by
  rw [ends_choice two, if_pos h]

/- A way without a match is dead. The more choices stand open, the more ways are dead. -/

theorem dead_mono {opened more : List Way} {way : Way} (sub : opened ⊆ more)
    (dead : spot.ends way opened = []) : spot.ends way more = [] := by
  induction opened, way using Way.induct generalizing more with
  | standing two h => exact ends_standing two (sub h)
  | nil opened => cases dead
  | empty ih => exact ih sub dead
  | look assertion ih =>
    rw [ends_look] at dead ⊢
    split at dead
    · next holds => rw [if_pos holds, ih sub dead]
    · next fails => rw [if_neg fails]
  | set opened chars way => exact dead
  | seq ih => exact ih sub dead
  | @choice opened way preferred other two h ihp iho =>
    rw [ends_choice two, if_neg h, List.append_eq_nil_iff] at dead
    have onward : way :: opened ⊆ way :: more := List.cons_subset_cons way sub
    rw [ends_choice two, ihp onward dead.1, iho onward dead.2]
    simp

/-- Whatever else is opened stands open or is dead. -/
def Closed (spot : Spot) (opened more : List Way) : Prop :=
  ∀ way ∈ more, way ∈ opened ∨ spot.ends way opened = []

theorem Closed.cons {opened more : List Way} (closed : spot.Closed opened more) (way : Way) :
    spot.Closed (way :: opened) (way :: more) := by
  intro other h
  rcases List.mem_cons.mp h with rfl | h
  · exact .inl (.head _)
  · rcases closed other h with stands | dead
    · exact .inl (.tail _ stands)
    · exact .inr (dead_mono (List.subset_cons_self ..) dead)

/-- Not to open dead choices changes nothing. -/
theorem ends_of_closed {opened more : List Way} {way : Way} (sub : opened ⊆ more)
    (closed : spot.Closed opened more) : spot.ends way opened = spot.ends way more := by
  induction opened, way using Way.induct generalizing more with
  | standing two h => rw [ends_standing two h, ends_standing two (sub h)]
  | nil opened => rfl
  | empty ih => exact ih sub closed
  | look assertion ih => simp only [ends_look, ih sub closed]
  | set opened chars way => rfl
  | seq ih => exact ih sub closed
  | @choice opened way preferred other two h ihp iho =>
    by_cases h' : way ∈ more
    · rw [ends_standing two h']
      exact (closed way h').resolve_left h
    · have onward : way :: opened ⊆ way :: more := List.cons_subset_cons way sub
      rw [ends_choice two, ends_choice two, if_neg h, if_neg h', ihp onward (closed.cons way),
        iho onward (closed.cons way)]

/-- A dead choice need not be opened to find that its branches are dead. -/
theorem ends_of_dead_choice {opened : List Way} {way : Way} (dead : spot.ends way opened = [])
    (other : Way) : spot.ends other opened = spot.ends other (way :: opened) := by
  refine ends_of_closed (List.subset_cons_self ..) ?_
  intro x h
  rcases List.mem_cons.mp h with rfl | h
  · exact .inr dead
  · exact .inl h

theorem choice_dead_iff {way preferred other : Way}
    (two : branches? way = some (preferred, other)) :
    spot.ends way [] = [] ↔ spot.ends preferred [] = [] ∧ spot.ends other [] = [] := by
  have branches : spot.ends way [] = spot.ends preferred [way] ++ spot.ends other [way] := by
    rw [ends_choice two, if_neg List.not_mem_nil]
  constructor
  · intro dead
    rw [dead] at branches
    obtain ⟨first, second⟩ := List.append_eq_nil_iff.mp branches.symm
    exact ⟨(ends_of_dead_choice dead preferred).trans first,
      (ends_of_dead_choice dead other).trans second⟩
  · rintro ⟨first, second⟩
    rw [branches, dead_mono (List.nil_subset _) first, dead_mono (List.nil_subset _) second]
    rfl

theorem headEnds_of_startsAtTextStart {r : Regex} (anchored : r.startsAtTextStart = true)
    (behind : spot.holds .textStart = false) (way : Way) (next : List Way → List Nat)
    (opened : List Way) : spot.headEnds r way next opened = [] := by
  induction r generalizing way next opened with
  | empty => cases anchored
  | look assertion =>
    cases assertion <;> try cases anchored
    simp [headEnds, behind]
  | set chars => cases anchored
  | seq a b iha ihb => exact iha anchored _ _ _
  | alt a b iha ihb =>
    obtain ⟨first, second⟩ := (Bool.and_eq_true _ _).mp anchored
    simp [headEnds, iha first, ihb second]
  | loop greedy a iha => cases anchored

/- Opening never makes an expression larger, so that a choice with a larger one is not met. -/

theorem size_lt_of_branches {way preferred other : Way} {bound : Nat}
    (two : branches? way = some (preferred, other)) (small : ∀ r ∈ way, r.size < bound) :
    (∀ r ∈ preferred, r.size < bound) ∧ ∀ r ∈ other, r.size < bound := by
  unfold branches? at two
  split at two
  · cases two
    simp only [List.forall_mem_cons, Regex.size] at small ⊢
    exact ⟨⟨by omega, small.2⟩, by omega, small.2⟩
  · next greedy a way =>
    simp only [List.forall_mem_cons, Regex.size] at small
    have again : ∀ r ∈ a :: .loop greedy a :: way, r.size < bound := by
      simp only [List.forall_mem_cons, Regex.size]
      exact ⟨by omega, small⟩
    cases greedy <;> cases two
    · exact ⟨small.2, again⟩
    · exact ⟨again, small.2⟩
  · cases two

theorem ends_of_large {opened more : List Way} {way : Way} {bound : Nat}
    (small : ∀ r ∈ way, r.size < bound) (sub : opened ⊆ more)
    (large : ∀ choice ∈ more, choice ∈ opened ∨ ∃ r ∈ choice, bound ≤ r.size) :
    spot.ends way opened = spot.ends way more := by
  induction opened, way using Way.induct generalizing more with
  | standing two h => rw [ends_standing two h, ends_standing two (sub h)]
  | nil opened => rfl
  | empty ih => exact ih (List.forall_mem_cons.mp small).2 sub large
  | look assertion ih =>
    simp only [ends_look, ih (List.forall_mem_cons.mp small).2 sub large]
  | set opened chars way => rfl
  | seq ih =>
    refine ih ?_ sub large
    simp only [List.forall_mem_cons, Regex.size] at small ⊢
    exact ⟨by omega, by omega, small.2⟩
  | @choice opened way preferred other two h ihp iho =>
    have h' : way ∉ more := by
      intro member
      rcases large way member with stands | ⟨r, inside, le⟩
      · exact h stands
      · exact Nat.not_lt.mpr le (small r inside)
    have onward : way :: opened ⊆ way :: more := List.cons_subset_cons way sub
    have large : ∀ choice ∈ way :: more, choice ∈ way :: opened ∨ ∃ r ∈ choice, bound ≤ r.size := by
      intro choice member
      rcases List.mem_cons.mp member with rfl | member
      · exact .inl (.head _)
      · exact (large choice member).imp_left (.tail _)
    obtain ⟨smallp, smallo⟩ := size_lt_of_branches two small
    rw [ends_choice two, ends_choice two, if_neg h, if_neg h', ihp smallp onward large,
      iho smallo onward large]

/-- An alternation matches what its alternatives match, one after the other. -/
theorem ends_altAll (rs : List Regex) :
    spot.ends [.altAll rs] [] = rs.flatMap fun r => spot.ends [r] [] := by
  induction rs with
  | nil =>
    have nothing : spot.following.any CharSet.empty.contains = false := by
      cases spot.following <;> rfl
    simp [altAll, ends_set, nothing]
  | cons r rest ih =>
    cases rest with
    | nil => simp [altAll]
    | cons s rest =>
      have apart : ∀ x : Regex, x.size < (Regex.alt r (.altAll (s :: rest))).size →
          spot.ends [x] [[.alt r (.altAll (s :: rest))]] = spot.ends [x] [] := by
        intro x small
        exact (ends_of_large (by simpa using small) (List.nil_subset _)
          fun choice member => .inr (by simp_all)).symm
      rw [altAll, ends_choice rfl, if_neg List.not_mem_nil, List.flatMap_cons, ← ih]
      · rw [apart r (by simp only [Regex.size]; omega),
          apart (.altAll (s :: rest)) (by simp only [Regex.size]; omega)]
      · exact List.cons_ne_nil _ _

end Spot

/- The same between two parts of a text. -/

theorem exists_spot (done rest : List Char) :
    ∃ later, ∀ way, ends done rest way = (spotAt done rest later).ends way [] := by
  cases rest <;> exact ⟨_, fun _ => rfl⟩

@[simp] theorem ends_nil (done rest : List Char) : ends done rest [] = [done.length] := by
  cases rest <;> rfl

@[simp] theorem ends_empty (done rest : List Char) (way : Way) :
    ends done rest (.empty :: way) = ends done rest way := by
  cases rest <;> rfl

@[simp] theorem ends_seq (done rest : List Char) (a b : Regex) (way : Way) :
    ends done rest (.seq a b :: way) = ends done rest (a :: b :: way) := by
  cases rest <;> rfl

theorem ends_altAll (done rest : List Char) (rs : List Regex) :
    ends done rest [.altAll rs] = rs.flatMap fun r => ends done rest [r] := by
  obtain ⟨later, same⟩ := exists_spot done rest
  simp only [same, Spot.ends_altAll]

/-- A loop leads somewhere if a round of it does, or what stands behind it. -/
theorem ends_loop_eq_nil_iff (done rest : List Char) (greedy : Bool) (a : Regex) (way : Way) :
    ends done rest (.loop greedy a :: way) = [] ↔
      ends done rest (a :: .loop greedy a :: way) = [] ∧ ends done rest way = [] := by
  obtain ⟨later, same⟩ := exists_spot done rest
  simp only [same]
  cases greedy
  · rw [Spot.choice_dead_iff rfl, and_comm]
  · exact Spot.choice_dead_iff rfl

theorem ends_look (done rest : List Char) (assertion : Assertion) (way : Way) :
    ends done rest (.look assertion :: way) =
      if assertion.holdsAt (done ++ rest) done.length then ends done rest way else [] := by
  cases rest <;> rfl

/-- The start of a text is the position behind nothing. -/
theorem holdsAt_textStart (done rest : List Char) :
    Assertion.textStart.holdsAt (done ++ rest) done.length = done.isEmpty := by
  cases done with
  | nil => rfl
  | cons c done =>
    have behind : done.length < (c :: done ++ rest).length := by
      rw [List.length_append, List.length_cons]
      omega
    rw [Assertion.holdsAt, List.length_cons, if_neg (Nat.succ_ne_zero _), Nat.add_sub_cancel,
      List.getElem?_eq_getElem behind]
    rfl

theorem ends_textStart (done rest : List Char) (way : Way) :
    ends done rest (.look .textStart :: way) = if done = [] then ends done rest way else [] := by
  simp only [ends_look, holdsAt_textStart, List.isEmpty_iff]

theorem ends_textEnd (done rest : List Char) (way : Way) :
    ends done rest (.look .textEnd :: way) = if rest = [] then ends done rest way else [] := by
  rw [ends_look]
  cases rest with
  | nil => simp [Assertion.holdsAt, Assertion.holds]
  | cons c rest => simp [Assertion.holdsAt, Assertion.holds]

@[simp] theorem ends_set_nil (done : List Char) (chars : CharSet) (way : Way) :
    ends done [] (.set chars :: way) = [] := rfl

theorem ends_set_cons (done rest : List Char) (c : Char) (chars : CharSet) (way : Way) :
    ends done (c :: rest) (.set chars :: way) =
      if chars.contains c then ends (done ++ [c]) rest way else [] := rfl

end Regex

end Highlighting
