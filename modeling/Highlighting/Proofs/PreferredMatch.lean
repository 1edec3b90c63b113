import Highlighting.Proofs.Backtracking

/-! The matcher finds the preferred match. It goes through a text once, with all ways at a time, and
never opens a choice a second time at a position. That loses nothing: a choice that was opened
before has given its ways already, or stands open, or is dead. So the first end that the ways at a
position lead to is the first that backtracking comes to. -/
namespace Highlighting.Regex

namespace Opening

theorem opened_keep (found : Opening) (way : Way) :
    (found.keep way).opened = found.opened := by
  unfold keep
  split <;> rfl

/-- Choices are opened and none is forgotten. -/
def Grows (next : Opening → Opening) : Prop :=
  ∀ found, found.opened ⊆ (next found).opened

theorem grows_id : Grows id := fun _ => List.Subset.refl _

theorem Grows.andThen {preferred other : Opening → Opening} (first : Grows preferred)
    (second : Grows other) : Grows (·.andThen preferred other) := by
  intro found
  simp only [Opening.andThen]
  split
  · exact first found
  · exact List.Subset.trans (first found) (second _)

theorem andThen_congr {preferred preferred' other other' : Opening → Opening} {found : Opening}
    (first : preferred found = preferred' found)
    (second : other (preferred found) = other' (preferred found)) :
    found.andThen preferred other = found.andThen preferred' other' := by
  simp only [andThen, ← first, second]

end Opening

/- Opening a way only adds to the choices opened. What stands behind a round of a loop can therefore
be told by the loop itself. -/

theorem grows_openHead (before after : Option Char) (r : Regex) (way : Way)
    {next : Opening → Opening} (grows : Opening.Grows next) :
    Opening.Grows (openHead before after r way next) := by
  induction r generalizing way next with
  | empty => exact grows
  | look assertion =>
    intro found
    simp only [openHead]
    split
    · exact grows found
    · exact List.Subset.refl _
  | set chars =>
    intro found
    simp only [openHead]
    split
    · rw [Opening.opened_keep]
      exact List.Subset.refl _
    · exact List.Subset.refl _
  | seq a b iha ihb => exact iha _ (ihb _ grows)
  | alt a b iha ihb =>
    intro found
    simp only [openHead]
    split
    · exact List.Subset.refl _
    · exact List.Subset.trans (List.subset_cons_self ..)
        ((iha way grows).andThen (ihb way grows) (found.mark _))
  | loop greedy a iha =>
    intro found
    have again := iha (.loop greedy a :: way) Opening.grows_id
    simp only [openHead]
    split
    · exact List.Subset.refl _
    · cases greedy
      · exact List.Subset.trans (List.subset_cons_self ..) (grows.andThen again (found.mark _))
      · exact List.Subset.trans (List.subset_cons_self ..) (again.andThen grows (found.mark _))

theorem openHead_congr {before after : Option Char} {r : Regex} (way : Way)
    {next next' : Opening → Opening} (grows : Opening.Grows next) {found : Opening}
    (same : ∀ more : Opening, found.opened ⊆ more.opened → next more = next' more) :
    openHead before after r way next found = openHead before after r way next' found := by
  induction r generalizing way next next' found with
  | empty => exact same _ (List.Subset.refl _)
  | look assertion => simp only [openHead, same _ (List.Subset.refl _)]
  | set chars => rfl
  | seq a b iha ihb =>
    exact iha _ (grows_openHead before after b way grows)
      fun more sub => ihb way grows fun most above => same most (List.Subset.trans sub above)
  | alt a b iha ihb =>
    have less : found.opened ⊆ (found.mark (.alt a b :: way)).opened := List.subset_cons_self ..
    have onward := List.Subset.trans less (grows_openHead before after a way grows _)
    have first := iha way grows fun more sub => same more (List.Subset.trans less sub)
    have second := ihb way grows fun more sub => same more (List.Subset.trans onward sub)
    simp only [openHead, Opening.andThen_congr first second]
  | loop greedy a iha =>
    have less : found.opened ⊆ (found.mark (.loop greedy a :: way)).opened :=
      List.subset_cons_self ..
    have onward := List.Subset.trans less
      (grows_openHead before after a (.loop greedy a :: way) Opening.grows_id _)
    cases greedy
    · simp only [openHead, Bool.false_eq_true, if_false,
        Opening.andThen_congr (same _ less) (Eq.refl (openHead before after a _ id _))]
    · simp only [openHead, if_true,
        Opening.andThen_congr (Eq.refl (openHead before after a _ id _)) (same _ onward)]

theorem grows_openWay (before after : Option Char) (way : Way) :
    Opening.Grows (openWay before after way) := by
  induction way with
  | nil => exact fun _ => List.Subset.refl _
  | cons r way ih => exact grows_openHead before after r way ih

theorem openWay_of_opened {before after : Option Char} {way : Way} {found : Opening}
    {branches : Way × Way} (two : branches? way = some branches) (h : way ∈ found.opened) :
    openWay before after way found = found := by
  unfold branches? at two
  split at two
  · simp [openWay, openHead, h]
  · simp [openWay, openHead, h]
  · cases two

theorem openWay_of_choice {before after : Option Char} {way preferred other : Way}
    {found : Opening} (two : branches? way = some (preferred, other)) (h : way ∉ found.opened) :
    openWay before after way found =
      (found.mark way).andThen (openWay before after preferred) (openWay before after other) := by
  have two' := two
  unfold branches? at two
  split at two
  · cases two
    simp only [openWay, openHead, List.contains_iff_mem, if_neg h]
  · next greedy a way =>
    have again : ∀ found : Opening, .loop greedy a :: way ∈ found.opened →
        openHead before after a (.loop greedy a :: way) id found =
          openWay before after (a :: .loop greedy a :: way) found :=
      fun found stands => openHead_congr _ Opening.grows_id
        fun more sub => (openWay_of_opened two' (sub stands)).symm
    have stands : .loop greedy a :: way ∈ (found.mark (.loop greedy a :: way)).opened := .head _
    have onward := grows_openWay before after way _ stands
    cases greedy <;> cases two <;> rw [openWay, openHead] <;>
      simp only [List.contains_iff_mem, if_neg h, Bool.false_eq_true, if_false, if_true]
    · exact Opening.andThen_congr rfl (again _ onward)
    · exact Opening.andThen_congr (again _ stands) rfl
  · cases two

/- Opening against backtracking. What was found so far leads to ends in the order of preference:
those of the ways kept, and then the position itself. -/

/-- The ends that an opening leads to. -/
def Spot.found (spot : Spot) (found : Opening) : List Nat :=
  found.kept.reverse.flatMap spot.later ++ if found.ended then [spot.position] else []

/-- The conditions and the character at a spot are those between two characters. -/
structure Spot.Between (spot : Spot) (before after : Option Char) : Prop where
  holds : ∀ assertion, spot.holds assertion = assertion.holds before after
  following : spot.following = after

/-- An opening that a way can be opened in, where `standing` choices stand open: no way has ended,
and while nothing is found, every other choice opened before is dead. -/
structure Spot.Ready (spot : Spot) (standing : List Way) (found : Opening) : Prop where
  going : found.ended = false
  opened : standing ⊆ found.opened
  closed : spot.found found = [] → spot.Closed standing found.opened

/-- What opening a way comes to: its first end comes behind what was found before, and while nothing
is found, every choice opened that does not stand open is dead. -/
structure Spot.Opens (spot : Spot) (standing : List Way) (way : Way) (found result : Opening) :
    Prop where
  keeps : ∃ more, spot.found result = spot.found found ++ more
  first : (spot.found result).head? = (spot.found found ++ spot.ends way standing).head?
  opened : found.opened ⊆ result.opened
  closed : spot.found result = [] → spot.Closed standing result.opened

namespace Spot

variable {spot : Spot} {before after : Option Char}

theorem found_mark (found : Opening) (choice : Way) :
    spot.found (found.mark choice) = spot.found found := rfl

theorem found_ended {found : Opening} (ended : found.ended = true) : spot.found found ≠ [] := by
  simp [Spot.found, ended]

theorem found_keep {found : Opening} (going : found.ended = false) (way : Way) :
    ∃ more, spot.found (found.keep way) = spot.found found ++ more ∧
      (spot.found found ++ more).head? = (spot.found found ++ spot.later way).head? := by
  unfold Opening.keep
  split
  · next kept =>
    refine ⟨[], (List.append_nil _).symm, ?_⟩
    -- What is kept already adds nothing in front.
    have member : way ∈ found.kept := by simpa using kept
    cases first : spot.found found with
    | cons => rfl
    | nil =>
      simp only [Spot.found, going, Bool.false_eq_true, if_false, List.append_nil,
        List.flatMap_eq_nil_iff, List.mem_reverse] at first
      rw [first way member]
  · exact ⟨spot.later way, by simp [Spot.found, going], rfl⟩

theorem Opens.congr {standing : List Way} {way other : Way} {found result : Opening}
    (opens : spot.Opens standing way found result)
    (same : spot.ends other standing = spot.ends way standing) :
    spot.Opens standing other found result :=
  ⟨opens.keeps, by rw [same, opens.first], opens.opened, opens.closed⟩

/-- A way whose set the next character is in is kept for behind that character. -/
theorem opens_keep {standing : List Way} {found : Opening} (ready : spot.Ready standing found)
    {chars : CharSet} (takes : spot.following.any chars.contains = true) (way : Way) :
    spot.Opens standing (.set chars :: way) found (found.keep way) := by
  obtain ⟨more, result, first⟩ := found_keep ready.going way
  have opened := Opening.opened_keep found way
  refine ⟨⟨more, result⟩, by rw [ends_set, if_pos takes, result, first], ?_, ?_⟩
  · rw [opened]
    exact List.Subset.refl _
  · intro none
    rw [result, List.append_eq_nil_iff] at none
    rw [opened]
    exact ready.closed none.1

/-- A choice that was opened before is passed over. -/
theorem opens_of_opened {standing : List Way} {way : Way} {found : Opening}
    (ready : spot.Ready standing found)
    (opened : spot.found found = [] → spot.ends way standing = []) :
    spot.Opens standing way found found := by
  refine ⟨⟨[], (List.append_nil _).symm⟩, ?_, List.Subset.refl _, ready.closed⟩
  cases first : spot.found found with
  | cons => rfl
  | nil => rw [opened first]; rfl

theorem Ready.mark {standing : List Way} {found : Opening} (ready : spot.Ready standing found)
    (choice : Way) : spot.Ready (choice :: standing) (found.mark choice) :=
  ⟨ready.going, List.cons_subset_cons choice ready.opened,
    fun none => (ready.closed none).cons choice⟩

/-- Behind both branches the choice itself is dead, if nothing was found, and no longer needs to
stand open for the others to be dead. -/
theorem opens_choice {standing : List Way} {way preferred other : Way} {found result : Opening}
    (two : branches? way = some (preferred, other)) (h : way ∉ standing)
    (keeps : ∃ more, spot.found result = spot.found found ++ more)
    (first : (spot.found result).head? = (spot.found found ++
      (spot.ends preferred (way :: standing) ++ spot.ends other (way :: standing))).head?)
    (opened : found.opened ⊆ result.opened)
    (closed : spot.found result = [] → spot.Closed (way :: standing) result.opened) :
    spot.Opens standing way found result := by
  have branches : spot.ends way standing = _ := ends_choice two standing
  rw [if_neg h] at branches
  refine ⟨keeps, by rw [branches, first], opened, ?_⟩
  intro none x member
  have dead : spot.ends way standing = [] := by
    rw [none] at first
    have all := List.head?_eq_none_iff.mp first.symm
    rw [branches, (List.append_eq_nil_iff.mp all).2]
  rcases closed none x member with stands | gone
  · rcases List.mem_cons.mp stands with rfl | stands
    · exact .inr dead
    · exact .inl stands
  · exact .inr ((ends_of_dead_choice dead x).trans gone)

theorem opens_openWay (between : spot.Between before after) (standing : List Way) (way : Way)
    (found : Opening) (ready : spot.Ready standing found) :
    spot.Opens standing way found (openWay before after way found) := by
  induction standing, way using Way.induct generalizing found with
  | @standing standing way branches two h =>
    rw [openWay_of_opened two (ready.opened h)]
    exact opens_of_opened ready fun _ => ends_standing two h
  | nil standing =>
    have result : spot.found (openWay before after [] found) =
        spot.found found ++ [spot.position] := by simp [Spot.found, openWay, ready.going]
    refine ⟨⟨_, result⟩, by rw [result]; rfl, List.Subset.refl _, ?_⟩
    intro none
    simp [result] at none
  | empty ih => exact (ih found ready).congr rfl
  | look assertion ih =>
    simp only [openWay, openHead, ← between.holds]
    split
    · next holds => exact (ih found ready).congr (by rw [ends_look, if_pos holds])
    · next fails => exact opens_of_opened ready fun _ => by rw [ends_look, if_neg fails]
  | set standing chars way =>
    simp only [openWay, openHead, ← between.following]
    split
    · next takes => exact opens_keep ready takes way
    · next fails => exact opens_of_opened ready fun _ => by rw [ends_set, if_neg fails]
  | seq ih => exact (ih found ready).congr rfl
  | @choice standing way preferred other two h ihp iho =>
    by_cases before_this : way ∈ found.opened
    · rw [openWay_of_opened two before_this]
      exact opens_of_opened ready fun none => (ready.closed none way before_this).resolve_left h
    · rw [openWay_of_choice two before_this]
      obtain ⟨⟨some, kept⟩, first, opened, closed⟩ := ihp _ (ready.mark way)
      rw [found_mark] at kept first
      have before_all : found.opened ⊆ (openWay before after preferred (found.mark way)).opened :=
        List.Subset.trans (List.subset_cons_self ..) opened
      simp only [Opening.andThen]
      split
      · next ended =>
        refine opens_choice two h ⟨some, kept⟩ ?_ before_all closed
        -- Something was found, so that the other branch adds nothing in front.
        rw [← List.append_assoc, List.head?_append, ← first, Option.or_of_isSome]
        simpa using found_ended ended
      · next going =>
        have marked : way :: standing ⊆ (openWay before after preferred (found.mark way)).opened :=
          List.Subset.trans (List.cons_subset_cons way ready.opened) opened
        have opens := iho _ ⟨by simpa using going, marked, closed⟩
        obtain ⟨more, kept_more⟩ := opens.keeps
        refine opens_choice two h ⟨some ++ more, ?_⟩ ?_
          (List.Subset.trans before_all opens.opened) opens.closed
        · rw [kept_more, kept, List.append_assoc]
        · rw [opens.first, List.head?_append, first, ← List.head?_append, List.append_assoc]

/-- All ways of a position, one after the other. -/
theorem first_openWays (between : spot.Between before after) (ways : List Way) (found : Opening)
    (ready : spot.Ready [] found) :
    (spot.found (openWays before after ways found)).head? =
      (spot.found found ++ ways.flatMap (spot.ends · [])).head? := by
  induction ways generalizing found with
  | nil => rw [openWays, List.flatMap_nil, List.append_nil]
  | cons way ways ih =>
    have opens := opens_openWay between [] way found ready
    rw [openWays, Opening.andThen, List.flatMap_cons, ← List.append_assoc, List.head?_append,
      ← opens.first]
    split
    · next ended =>
      rw [Option.or_of_isSome]
      simpa using found_ended ended
    · next going =>
      rw [ih _ ⟨by simpa using going, List.nil_subset _, opens.closed⟩, List.head?_append]

end Spot

/- The text, a character at a time. -/

theorem spotAt_between (done rest : List Char) (later : Way → List Nat) :
    (spotAt done rest later).Between done.getLast? rest.head? := by
  refine ⟨fun assertion => ?_, rfl⟩
  have left : (if done.length = 0 then none else (done ++ rest)[done.length - 1]?) =
      done.getLast? := by
    rcases List.eq_nil_or_concat done with rfl | ⟨front, c, rfl⟩
    · rfl
    · simp
  have right : (done ++ rest)[done.length]? = rest.head? := by
    rw [List.getElem?_append_right (Nat.le_refl _), Nat.sub_self, List.head?_eq_getElem?]
  simp only [spotAt, Assertion.holdsAt, left, right]

theorem head?_advance (done rest : List Char) {after : Option Char}
    (following : rest.head? = after) (later : Way → List Nat) (ways : List Way) :
    ((advance done.getLast? after ways).1.flatMap later ++
        if (advance done.getLast? after ways).2 then [done.length] else []).head? =
      (ways.flatMap ((spotAt done rest later).ends · [])).head? := by
  subst following
  exact Spot.first_openWays (spotAt_between done rest later) ways {}
    ⟨rfl, List.nil_subset _, fun _ _ h => (List.not_mem_nil h).elim⟩

/-- Following ways finds the first end that backtracking from one of them comes to. -/
theorem follow_eq_head? (done rest : List Char) (ways : List Way) (best : Option Nat) :
    follow done.getLast? ways best done.length rest =
      (ways.flatMap (ends done rest)).head?.or best := by
  induction rest generalizing done ways best with
  | nil =>
    have first := head?_advance done [] List.head?_nil (fun _ => []) ways
    have none : (advance done.getLast? none ways).1.flatMap (fun _ => ([] : List Nat)) = [] :=
      List.flatMap_eq_nil_iff.mpr fun _ _ => rfl
    rw [none, List.nil_append] at first
    simp only [follow, ends]
    rw [← first]
    split <;> rfl
  | cons c rest ih =>
    have first := head?_advance done (c :: rest) List.head?_cons (ends (done ++ [c]) rest) ways
    have onward := ih (done ++ [c])
    simp only [List.getLast?_concat, List.length_append, List.length_singleton] at onward
    simp only [follow, ends]
    rw [← first, onward]
    generalize advance done.getLast? (some c) ways = opened
    obtain ⟨next, ended⟩ := opened
    cases next <;> cases ended <;> simp [List.head?_append, Option.or_assoc]

/-- Behind more text the matcher counts from there. -/
theorem follow_add {before : Option Char} {ways : List Way} {best : Option Nat} {taken : Nat}
    (text : List Char) (more : Nat) :
    follow before ways (best.map (· + more)) (taken + more) text =
      (follow before ways best taken text).map (· + more) := by
  induction text generalizing before ways best taken with
  | nil =>
    simp only [follow]
    split <;> rfl
  | cons c rest ih =>
    simp only [follow]
    have onward := @ih (some c) (advance before (some c) ways).1
      (if (advance before (some c) ways).2 then some taken else best) (taken + 1)
    rw [Nat.add_right_comm] at onward
    split
    · split <;> rfl
    · rw [← onward]
      split <;> rfl

/-- The matcher is given one character of what lies before a text, and tells how long the match is
that backtracking prefers in the whole text. -/
theorem preferredEnd?_eq (r : Regex) (done rest : List Char) :
    r.preferredEnd? done rest = (r.matchAt done.getLast? rest).map (· + done.length) := by
  have whole := follow_eq_head? done rest [[r]] none
  have shifted : follow done.getLast? [[r]] (none.map (· + done.length)) (0 + done.length) rest =
      (follow done.getLast? [[r]] none 0 rest).map (· + done.length) := follow_add rest done.length
  rw [Option.map_none, Nat.zero_add, whole] at shifted
  simpa [preferredEnd?, matchAt] using shifted

/- Searching. -/

theorem isSome_matchAt (r : Regex) (done rest : List Char) :
    (r.matchAt done.getLast? rest).isSome ↔ ends done rest [r] ≠ [] := by
  have preferred := congrArg Option.isSome (preferredEnd?_eq r done rest)
  rw [Option.isSome_map] at preferred
  rw [← preferred, preferredEnd?, List.isSome_head?]

theorem isSome_findFrom (r : Regex) (done text : List Char) (skipped : Nat) :
    (r.findFrom done.getLast? skipped text).isSome ↔
      ∃ front back, text = front ++ back ∧ ends (done ++ front) back [r] ≠ [] := by
  induction text generalizing done skipped with
  | nil =>
    rw [findFrom, Option.isSome_map, isSome_matchAt]
    simp
  | cons c rest ih =>
    have onward := ih (done ++ [c]) (skipped + 1)
    rw [List.getLast?_concat] at onward
    have here := isSome_matchAt r done (c :: rest)
    simp only [findFrom]
    split
    · next n matched =>
      rw [matched] at here
      simp only [Option.isSome_some, true_iff]
      exact ⟨[], c :: rest, rfl, by rw [List.append_nil]; exact here.mp rfl⟩
    · next unmatched =>
      rw [unmatched] at here
      rw [onward]
      constructor
      · rintro ⟨front, back, rfl, alive⟩
        exact ⟨c :: front, back, rfl, by simpa using alive⟩
      · rintro ⟨front, back, split, alive⟩
        cases front with
        | nil =>
          subst split
          rw [List.append_nil] at alive
          cases here.mpr alive
        | cons d front =>
          cases split
          exact ⟨front, back, rfl, by simpa using alive⟩

/-- An expression is found in a text where some way to match it begins. -/
theorem isMatch_iff (r : Regex) (text : List Char) :
    r.isMatch text = true ↔ ∃ done rest, text = done ++ rest ∧ ends done rest [r] ≠ [] := by
  simp only [isMatch, find]
  split
  · next anchored =>
    have whole := isSome_matchAt r [] text
    rw [List.getLast?_nil] at whole
    rw [Option.isSome_map, whole]
    constructor
    · exact fun alive => ⟨[], text, rfl, alive⟩
    · rintro ⟨done, rest, rfl, alive⟩
      cases done with
      | nil => exact alive
      | cons c done =>
        obtain ⟨later, same⟩ := exists_spot (c :: done) rest
        refine absurd ?_ alive
        rw [same]
        exact Spot.headEnds_of_startsAtTextStart anchored (holdsAt_textStart (c :: done) rest) _ _ _
  · exact isSome_findFrom r [] text 0

end Highlighting.Regex
