import Highlighting.Lexer.Rule
import Highlighting.Proofs.PatternReading

/-! Reading a pattern inside groups. Two readers go through the same pattern, one of them with more
levels below and more closing parentheses behind. They differ in one level, that on which the first
of them started, and stay alike as long as the first goes on. -/
namespace Highlighting.Regex.Reader

/-- Levels that two readers go on alike from: `here` while they read on the level itself, and `away`
while they read inside a group that stands on it. -/
structure Parallel (away here : Level → Level → Prop) : Prop where
  enter : ∀ {first second}, here first second → away first second
  leave : ∀ {first second} (part : Part), part.operand → away first second →
    here (first.add part) (second.add part)
  add : ∀ {first second} (part : Part), here first second →
    here (first.add part) (second.add part)
  branch : ∀ {first second}, here first second → here first.branch second.branch
  repeated : ∀ {first second flags greedy least most parts}, here first second →
    repeatLast flags greedy least most first.parts = some parts →
    ∃ parts', repeatLast flags greedy least most second.parts = some parts' ∧
      here { first with parts := parts } { second with parts := parts' }

/-- The levels of two readers, the innermost first: the one that they differ in is the last of the
first reader, and `below` is what the second has besides. -/
inductive Stacked (away here : Level → Level → Prop) (below : List Level) :
    Level → List Level → Level → List Level → Prop
  | bottom {first second} : here first second → Stacked away here below first [] second below
  | inside {first second} (level inner) : away first second →
    Stacked away here below level (inner ++ [first]) level (inner ++ second :: below)

/-- Two readers that go on alike. -/
structure Alike (away here : Level → Level → Prop) (below : List Level) (n : Nat)
    (st st' : State) : Prop where
  flags : st.flags = st'.flags
  names : st.names = st'.names
  levels : Stacked away here below st.level st.above st'.level st'.above
  trails : Trails n st.text st'.text

/-- What the first reader comes to, the second comes to. -/
def Follows (away here : Level → Level → Prop) (below : List Level) (n : Nat)
    (next next' : Option State) : Prop :=
  ∀ st, next = some st → ∃ st', next' = some st' ∧ Alike away here below n st st'

section

variable {away here : Level → Level → Prop} {below : List Level}

namespace Stacked

variable {level level' : Level} {above above' : List Level}

theorem enter (parallel : Parallel away here)
    (stacked : Stacked away here below level above level' above') (flags : Flags) :
    Stacked away here below ⟨flags, [], []⟩ (level :: above) ⟨flags, [], []⟩
      (level' :: above') := by
  cases stacked with
  | bottom reading => exact .inside _ [] (parallel.enter reading)
  | inside level inner waiting => exact .inside _ (level :: inner) waiting

theorem add (parallel : Parallel away here)
    (stacked : Stacked away here below level above level' above') (part : Part) :
    Stacked away here below (level.add part) above (level'.add part) above' := by
  cases stacked with
  | bottom reading => exact .bottom (parallel.add part reading)
  | inside level inner waiting => exact .inside _ inner waiting

theorem branch (parallel : Parallel away here)
    (stacked : Stacked away here below level above level' above') :
    Stacked away here below level.branch above level'.branch above' := by
  cases stacked with
  | bottom reading => exact .bottom (parallel.branch reading)
  | inside level inner waiting => exact .inside _ inner waiting

theorem repeated (parallel : Parallel away here)
    (stacked : Stacked away here below level above level' above') {flags : Flags} {greedy : Bool}
    {least : Nat} {most : Option Nat} {parts : List Part}
    (repeats : repeatLast flags greedy least most level.parts = some parts) :
    ∃ parts', repeatLast flags greedy least most level'.parts = some parts' ∧
      Stacked away here below { level with parts := parts } above
        { level' with parts := parts' } above' := by
  cases stacked with
  | bottom reading =>
    obtain ⟨parts', repeats', onward⟩ := parallel.repeated reading repeats
    exact ⟨parts', repeats', .bottom onward⟩
  | inside level inner waiting => exact ⟨parts, repeats, .inside _ inner waiting⟩

/-- The first reader leaves a group only if it entered one, and so did the second. -/
theorem leave (parallel : Parallel away here) {outer : Level}
    (stacked : Stacked away here below level (outer :: above) level' above') :
    ∃ outer' above'', above' = outer' :: above'' ∧ level = level' ∧
      Stacked away here below (outer.add level.close.grouped) above
        (outer'.add level'.close.grouped) above'' := by
  generalize all : outer :: above = levels at stacked
  cases stacked with
  | bottom => cases all
  | inside level inner waiting =>
    cases inner with
    | nil =>
      cases all
      exact ⟨_, _, rfl, rfl, .bottom (parallel.leave level.close.grouped rfl waiting)⟩
    | cons next inner =>
      cases all
      exact ⟨_, _, rfl, rfl, .inside _ inner waiting⟩

theorem reading (stacked : Stacked away here below level [] level' above') :
    here level level' ∧ above' = below := by
  generalize none : [] = levels at stacked
  cases stacked with
  | bottom reading => exact ⟨reading, rfl⟩
  | inside level inner =>
    have more := congrArg List.length none
    simp at more

end Stacked

variable {n : Nat} {st st' : State} {text text' : List Char}

theorem follows_none (next' : Option State) : Follows away here below n none next' := by
  rintro st ⟨⟩

theorem follows_some (alike : Alike away here below n st st') :
    Follows away here below n (some st) (some st') := by
  rintro st ⟨⟩
  exact ⟨st', rfl, alike⟩

theorem follows_bind_option {α : Type} (choice : Option α) {f g : α → Option State}
    (onward : ∀ value, Follows away here below n (f value) (g value)) :
    Follows away here below n (choice.bind f) (choice.bind g) := by
  cases choice with
  | none => exact follows_none _
  | some value => exact onward value

theorem Carries.follows {α : Type} {read longer : Option (α × List Char)}
    {f g : α × List Char → Option State} (carries : Carries n read longer)
    (onward : ∀ value rest more, Trails n rest more →
      Follows away here below n (f (value, rest)) (g (value, more))) :
    Follows away here below n (read.bind f) (longer.bind g) := by
  intro st h
  obtain ⟨⟨value, rest⟩, taken, h⟩ := Option.bind_eq_some_iff.mp h
  obtain ⟨more, taken', trails⟩ := carries value rest taken
  rw [taken', Option.bind_some]
  exact onward value rest more trails st h

/- What a reader can do at a time. -/

namespace Alike

theorem enter (parallel : Parallel away here) (alike : Alike away here below n st st')
    (flags : Flags) (trails : Trails n text text') :
    Alike away here below n (st.enter flags text) (st'.enter flags text') := by
  refine ⟨rfl, alike.names, ?_, trails⟩
  simp only [State.enter, alike.flags]
  exact alike.levels.enter parallel _

theorem add (parallel : Parallel away here) (alike : Alike away here below n st st')
    (part : Part) (trails : Trails n text text') :
    Alike away here below n (st.add part text) (st'.add part text') :=
  ⟨alike.flags, alike.names, alike.levels.add parallel part, trails⟩

theorem repeated (parallel : Parallel away here) (alike : Alike away here below n st st')
    (greedy : Bool) (least : Nat) (most : Option Nat) (trails : Trails n text text') :
    Follows away here below n (st.repeated greedy least most text)
      (st'.repeated greedy least most text') := by
  intro next h
  obtain ⟨parts, repeats, h⟩ := Option.bind_eq_some_iff.mp h
  cases h
  obtain ⟨parts', repeats', onward⟩ := alike.levels.repeated parallel repeats
  rw [alike.flags] at repeats'
  simp only [State.repeated, repeats']
  exact ⟨_, rfl, alike.flags, alike.names, onward, trails⟩

theorem leave (parallel : Parallel away here) (alike : Alike away here below n st st')
    (trails : Trails n text text') :
    Follows away here below n (st.leave text) (st'.leave text') := by
  have levels := alike.levels
  simp only [State.leave]
  cases outside : st.above with
  | nil => exact follows_none _
  | cons outer above =>
    rw [outside] at levels
    obtain ⟨outer', above', outside', same, onward⟩ := levels.leave parallel
    rw [outside']
    exact follows_some ⟨by rw [same], alike.names, onward, trails⟩

theorem named (parallel : Parallel away here) (alike : Alike away here below n st st')
    (trails : Trails n text text') :
    Follows away here below n (st.named text) (st'.named text') := by
  refine (groupName_trails trails).follows fun name rest more behind => ?_
  simp only [alike.names, alike.flags]
  split
  · exact follows_none _
  · exact follows_some ⟨rfl, rfl, (alike.enter parallel st'.flags behind).levels, behind⟩

/- Flags that stand alone are a part that nothing can repeat. -/
theorem flagged (parallel : Parallel away here) (alike : Alike away here below n st st')
    (bare : Bool) (trails : Trails n text text') :
    Follows away here below n
      ((flagItems st.flags [] true false text).bind fun found =>
        if found.1.2 = ':' then some (st.enter found.1.1 found.2)
        else if bare then none
        else some { st.add ⟨.empty, 0, 0, false⟩ found.2 with flags := found.1.1 })
      ((flagItems st'.flags [] true false text').bind fun found =>
        if found.1.2 = ':' then some (st'.enter found.1.1 found.2)
        else if bare then none
        else some { st'.add ⟨.empty, 0, 0, false⟩ found.2 with flags := found.1.1 }) := by
  rw [← alike.flags]
  refine (flagItems_trails [] true false trails).follows fun found after more behind => ?_
  simp only
  split
  · exact follows_some (alike.enter parallel _ behind)
  · split
    · exact follows_none _
    · have added := alike.add parallel ⟨.empty, 0, 0, false⟩ behind
      exact follows_some ⟨rfl, added.names, added.levels, behind⟩

theorem special (parallel : Parallel away here) (alike : Alike away here below n st st')
    (trails : Trails n text text') :
    Follows away here below n (st.special text) (st'.special text') := by
  rcases text with _ | ⟨c, rest⟩
  · exact follows_none _
  obtain ⟨more, rfl, behind⟩ := trails.tail
  by_cases angle : c = '<'
  · subst angle
    rcases rest with _ | ⟨d, rest⟩
    · exact follows_none _
    obtain ⟨more, rfl, _⟩ := behind.tail
    by_cases look : d = '=' ∨ d = '!'
    · rcases look with rfl | rfl <;> exact follows_none _
    · rw [not_or] at look
      simpa [State.special, look] using alike.named parallel behind
  by_cases name : c = 'P'
  · subst name
    rcases rest with _ | ⟨d, rest⟩
    · exact follows_none _
    obtain ⟨more, rfl, onward⟩ := behind.tail
    by_cases angle : d = '<'
    · subst angle
      exact alike.named parallel onward
    · simpa [State.special, angle] using alike.flagged parallel ('P' = ')') trails
  · simpa [State.special, angle, name] using alike.flagged parallel (c = ')') trails

theorem group (parallel : Parallel away here) (alike : Alike away here below n st st')
    (trails : Trails n text text') :
    Follows away here below n (st.group text) (st'.group text') := by
  have skipped := skip_trails st.flags trails
  simp only [State.group, ← alike.flags]
  split
  · next rest mark =>
    rw [mark] at skipped
    obtain ⟨more, mark', behind⟩ := skipped.tail
    rw [mark']
    exact alike.special parallel behind
  · next other =>
    have other := skipped.not_cons (by decide) other
    simp only
    exact follows_some (alike.enter parallel _ skipped)

theorem item (parallel : Parallel away here) (alike : Alike away here below n st st') (c : Char)
    (trails : Trails n text text') :
    Follows away here below n (st.item c text) (st'.item c text') := by
  have same := alike.flags
  simp only [State.item]
  split
  · exact alike.group parallel trails
  · exact alike.leave parallel trails
  · exact follows_some ⟨same, alike.names, alike.levels.branch parallel, trails⟩
  · rw [← same]
    exact (wholeClass_trails trails).follows fun member rest more behind =>
      follows_some (alike.add parallel _ behind)
  · obtain ⟨greed, behind⟩ := takeReluctant_trails trails
    simp only [← greed]
    exact alike.repeated parallel _ _ _ behind
  · obtain ⟨greed, behind⟩ := takeReluctant_trails trails
    simp only [← greed]
    exact alike.repeated parallel _ _ _ behind
  · obtain ⟨greed, behind⟩ := takeReluctant_trails trails
    simp only [← greed]
    exact alike.repeated parallel _ _ _ behind
  · rw [← same]
    exact (counted_trails trails).follows fun bounds rest more behind =>
      alike.repeated parallel _ _ _ behind
  · rw [← same]
    exact (escape_trails trails).follows fun primitive rest more behind =>
      follows_bind_option _ fun part => follows_some (alike.add parallel part behind)
  · rw [← same]
    exact follows_bind_option _ fun part => follows_some (alike.add parallel part trails)
  · rw [← same]
    exact follows_bind_option _ fun part => follows_some (alike.add parallel part trails)
  · rw [← same]
    exact follows_bind_option _ fun part => follows_some (alike.add parallel part trails)
  · rw [← same]
    exact follows_bind_option _ fun part => follows_some (alike.add parallel part trails)

end Alike

/-- The second reader goes with the first to the end of its text. -/
theorem read_alike (parallel : Parallel away here) {fuel : Nat}
    (alike : Alike away here below n st st') {part : Part} (reads : read fuel st = some part) :
    ∃ last last' steps, steps < fuel ∧ Alike away here below n last last' ∧
      skip last.flags last.text = [] ∧ last.above = [] ∧ last.level.close = part ∧
      ∀ more, read (steps + more) st' = read more last' := by
  induction fuel generalizing st st' with
  | zero => cases reads
  | succ fuel ih =>
    have skipped := skip_trails st.flags alike.trails
    simp only [read] at reads
    split at reads
    · next finished =>
      split at reads
      · next bottom =>
        cases reads
        exact ⟨st, st', 0, fuel.succ_pos, alike, finished, by simpa using bottom, rfl,
          fun more => by rw [Nat.zero_add]⟩
      · cases reads
    · next c rest next_char =>
      rw [next_char] at skipped
      obtain ⟨more, next_char', behind⟩ := skipped.tail
      obtain ⟨next, took, reads⟩ := Option.bind_eq_some_iff.mp reads
      obtain ⟨next', took', onward⟩ := alike.item parallel c behind next took
      obtain ⟨last, last', steps, less, together, finished, bottom, closed, run⟩ := ih onward reads
      refine ⟨last, last', steps + 1, Nat.succ_lt_succ less, together, finished, bottom, closed, ?_⟩
      intro more
      rw [Nat.add_right_comm, read, ← alike.flags, next_char']
      simp only [took']
      exact run more

end

end Highlighting.Regex.Reader
