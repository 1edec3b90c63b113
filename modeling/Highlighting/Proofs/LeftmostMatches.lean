import Highlighting.Proofs.PreferredMatch

/-! Successive matches. A text is searched from left to right, each search going on where the match
before it ended, and every assertion is judged in the whole text. Expressions that match no empty
text are meant here; their matches take a character each, so that the search gets on. -/
namespace Highlighting.Regex

/- Where matches can end: not before they begin, and not past the text. -/

theorem nullable_of_branches {way preferred other : Way}
    (two : branches? way = some (preferred, other))
    (empty : (∀ r ∈ preferred, r.nullable = true) ∨ ∀ r ∈ other, r.nullable = true) :
    ∀ r ∈ way, r.nullable = true := by
  unfold branches? at two
  split at two
  · cases two
    simp only [List.forall_mem_cons, nullable, Bool.or_eq_true] at empty ⊢
    exact ⟨empty.imp And.left And.left, empty.elim And.right And.right⟩
  · next greedy a way =>
    have behind : ∀ r ∈ way, r.nullable = true := by
      cases greedy <;> cases two <;> simp only [List.forall_mem_cons] at empty
      · exact empty.elim id fun all => all.2.2
      · exact empty.elim (fun all => all.2.2) id
    exact List.forall_mem_cons.mpr ⟨rfl, behind⟩
  · cases two

/-- A way ends where it stands only if nothing on it has to take a character. -/
theorem Spot.mem_ends {spot : Spot} {opened : List Way} {way : Way} {stop : Nat}
    (inside : stop ∈ spot.ends way opened) :
    (stop = spot.position ∧ ∀ r ∈ way, r.nullable = true) ∨
      ∃ onward, stop ∈ spot.later onward := by
  induction opened, way using Way.induct with
  | standing two h => simp [ends_standing two h] at inside
  | nil opened => exact .inl ⟨by simpa using inside, nofun⟩
  | empty ih => exact (ih inside).imp_left fun ⟨here, all⟩ => ⟨here, by simpa [nullable] using all⟩
  | look assertion ih =>
    rw [ends_look] at inside
    split at inside
    · exact (ih inside).imp_left fun ⟨here, all⟩ => ⟨here, by simpa [nullable] using all⟩
    · cases inside
  | set opened chars way =>
    rw [ends_set] at inside
    split at inside
    · exact .inr ⟨way, inside⟩
    · cases inside
  | seq ih =>
    refine (ih inside).imp_left fun ⟨here, all⟩ => ⟨here, ?_⟩
    simpa [nullable, and_assoc] using all
  | choice two h ihp iho =>
    rw [ends_choice two, if_neg h, List.mem_append] at inside
    rcases inside with inside | inside
    · exact (ihp inside).imp_left fun ⟨here, all⟩ => ⟨here, nullable_of_branches two (.inl all)⟩
    · exact (iho inside).imp_left fun ⟨here, all⟩ => ⟨here, nullable_of_branches two (.inr all)⟩

theorem bounds_of_mem_ends {done rest : List Char} {way : Way} {stop : Nat}
    (inside : stop ∈ ends done rest way) :
    done.length ≤ stop ∧ stop ≤ (done ++ rest).length ∧
      (stop = done.length → ∀ r ∈ way, r.nullable = true) := by
  induction rest generalizing done way with
  | nil =>
    rcases Spot.mem_ends inside with ⟨here, all⟩ | ⟨_, ⟨⟩⟩
    have position : stop = done.length := here
    exact ⟨by omega, by simp [position], fun _ => all⟩
  | cons c rest ih =>
    rcases Spot.mem_ends inside with ⟨here, all⟩ | ⟨onward, later⟩
    · have position : stop = done.length := here
      exact ⟨by omega, by simp [position], fun _ => all⟩
    · have further := ih (show stop ∈ ends (done ++ [c]) rest onward from later)
      simp only [List.length_append, List.length_cons, List.length_nil] at further ⊢
      exact ⟨by omega, by omega, fun _ => by omega⟩

/-- Where the preferred match ends that begins at a position of a text. Positions count
characters. -/
def matchEnd? (r : Regex) (text : List Char) (position : Nat) : Option Nat :=
  r.preferredEnd? (text.take position) (text.drop position)

theorem matchEnd?_append (r : Regex) (done rest : List Char) :
    r.matchEnd? (done ++ rest) done.length =
      (r.matchAt done.getLast? rest).map (· + done.length) := by
  rw [matchEnd?, List.take_left', List.drop_left', preferredEnd?_eq] <;> rfl

theorem matchEnd?_bounds {r : Regex} {text : List Char} {start stop : Nat}
    (within : start ≤ text.length) (matched : r.matchEnd? text start = some stop) :
    start ≤ stop ∧ stop ≤ text.length ∧ (r.nullable = false → start < stop) := by
  obtain ⟨low, high, empty⟩ := bounds_of_mem_ends (List.mem_of_head? matched)
  rw [List.length_take, Nat.min_eq_left within] at low empty
  rw [List.take_append_drop] at high
  refine ⟨low, high, fun filled => Nat.lt_of_le_of_ne low fun same => ?_⟩
  simp [filled] at empty
  exact empty same.symm

/-- The match that a search from a position finds. -/
structure Leftmost (r : Regex) (text : List Char) (position start stop : Nat) : Prop where
  behind : position ≤ start
  within : start ≤ text.length
  matched : r.matchEnd? text start = some stop
  first : ∀ earlier, position ≤ earlier → earlier < start → r.matchEnd? text earlier = none

/-- The matches that are found from a position on, one behind the other. -/
inductive Successive (r : Regex) (text : List Char) : Nat → List (Nat × Nat) → Prop
  | last {position}
    (unmatched : ∀ start, position ≤ start → start ≤ text.length → r.matchEnd? text start = none) :
    Successive r text position []
  | next {position start stop rest} (leftmost : Leftmost r text position start stop)
    (onward : Successive r text stop rest) :
    Successive r text position ((start, stop) :: rest)

theorem Leftmost.unique {r : Regex} {text : List Char} {position start stop start' stop' : Nat}
    (leftmost : Leftmost r text position start stop)
    (leftmost' : Leftmost r text position start' stop') : start = start' ∧ stop = stop' := by
  rcases Nat.lt_trichotomy start start' with before | rfl | behind
  · have none := leftmost'.first start leftmost.behind before
    simp [leftmost.matched] at none
  · exact ⟨rfl, Option.some.inj (leftmost.matched.symm.trans leftmost'.matched)⟩
  · have none := leftmost.first start' leftmost'.behind behind
    simp [leftmost'.matched] at none

theorem Leftmost.not_unmatched {r : Regex} {text : List Char} {position start stop : Nat}
    (leftmost : Leftmost r text position start stop) :
    ¬ ∀ start, position ≤ start → start ≤ text.length → r.matchEnd? text start = none := by
  intro unmatched
  have none := unmatched start leftmost.behind leftmost.within
  simp [leftmost.matched] at none

theorem Successive.unique {r : Regex} {text : List Char} {position : Nat}
    {found found' : List (Nat × Nat)} (successive : Successive r text position found)
    (successive' : Successive r text position found') : found = found' := by
  induction successive generalizing found' with
  | last unmatched =>
    cases successive' with
    | last => rfl
    | next leftmost => exact absurd unmatched leftmost.not_unmatched
  | next leftmost onward ih =>
    cases successive' with
    | last unmatched => exact absurd unmatched leftmost.not_unmatched
    | next leftmost' onward' =>
      obtain ⟨rfl, rfl⟩ := leftmost.unique leftmost'
      rw [ih onward']

theorem Successive.skip {r : Regex} {text : List Char} {position : Nat}
    {found : List (Nat × Nat)} (unmatched : r.matchEnd? text position = none)
    (successive : Successive r text (position + 1) found) :
    Successive r text position found := by
  cases successive with
  | last later =>
    refine .last fun start behind within => ?_
    rcases Nat.eq_or_lt_of_le behind with rfl | further
    · exact unmatched
    · exact later start further within
  | next leftmost onward =>
    refine .next ⟨Nat.le_of_succ_le leftmost.behind, leftmost.within, leftmost.matched, ?_⟩ onward
    intro earlier behind before
    rcases Nat.eq_or_lt_of_le behind with rfl | further
    · exact unmatched
    · exact leftmost.first earlier further before

theorem Successive.matched {r : Regex} {text : List Char} {position : Nat}
    {found : List (Nat × Nat)} (successive : Successive r text position found) {m : Nat × Nat}
    (inside : m ∈ found) : r.matchEnd? text m.1 = some m.2 := by
  induction successive with
  | last => cases inside
  | next leftmost onward ih =>
    rcases List.mem_cons.mp inside with rfl | later
    · exact leftmost.matched
    · exact ih later

theorem Successive.parted {r : Regex} (filled : r.nullable = false) {text : List Char}
    {position : Nat} {found : List (Nat × Nat)} (successive : Successive r text position found) :
    (∀ m ∈ found, position ≤ m.1 ∧ m.1 < m.2 ∧ m.2 ≤ text.length) ∧
      found.Pairwise fun m next => m.2 ≤ next.1 := by
  induction successive with
  | last => exact ⟨nofun, .nil⟩
  | next leftmost onward ih =>
    obtain ⟨-, within, taken⟩ := matchEnd?_bounds leftmost.within leftmost.matched
    have forth := taken filled
    refine ⟨?_, .cons (fun m inside => (ih.1 m inside).1) ih.2⟩
    rintro m (_ | ⟨_, inside⟩)
    · exact ⟨leftmost.behind, forth, within⟩
    · obtain ⟨behind, rest⟩ := ih.1 m inside
      have begun := leftmost.behind
      exact ⟨by omega, rest⟩

theorem matchEnd?_altAll (rs : List Regex) (text : List Char) (position : Nat) :
    (altAll rs).matchEnd? text position = rs.findSome? (·.matchEnd? text position) := by
  simp only [matchEnd?, preferredEnd?, ends_altAll]
  induction rs with
  | nil => rfl
  | cons r rest ih =>
    rw [List.flatMap_cons, List.head?_append, ih, List.findSome?_cons]
    cases (ends (text.take position) (text.drop position) [r]).head? <;> rfl

end Highlighting.Regex
