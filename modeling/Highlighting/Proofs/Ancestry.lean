import Highlighting.Mapping

/-! The kinds that a kind belongs to. They are the names that stand before its dots, so that the
chain lists all of them and nothing else, and a mapping gives a kind the face of the longest of them
that it lists. -/
namespace Highlighting

namespace Kind

/-- A kind belongs to its own name, and to every name that it goes on from with a dot. -/
def BelongsTo (kind : Kind) (name : String) : Prop :=
  name = kind.name ∨ (name ++ ".").toList <+: kind.name.toList

/-- A name is the front of another one when that is cut at its last dot. -/
def Front (front name : String) : Prop :=
  ∃ last, '.' ∉ last.toList ∧ name = front ++ "." ++ last

theorem BelongsTo.toList_prefix {kind : Kind} {name : String} (above : kind.BelongsTo name) :
    name.toList <+: kind.name.toList := by
  rcases above with rfl | dotted
  · exact List.prefix_refl _
  · rw [String.toList_append] at dotted
    exact (List.prefix_append _ _).trans dotted

theorem BelongsTo.eq_of_length {kind : Kind} {name other : String} (above : kind.BelongsTo name)
    (above' : kind.BelongsTo other) (same : name.length = other.length) : name = other := by
  rw [← String.length_toList, ← String.length_toList] at same
  have front := List.prefix_of_prefix_length_le above.toList_prefix above'.toList_prefix
    (Nat.le_of_eq same)
  exact String.toList_inj.mp (front.eq_of_length same)

/- Stems, by the characters of a name. -/

theorem mem_stems_iff {stem name : List Char} : stem ∈ stems name ↔ stem ++ ['.'] <+: name := by
  induction name generalizing stem with
  | nil => simp [stems]
  | cons c rest ih =>
    simp only [stems, List.mem_append, List.mem_map, List.mem_ite_nil_right, List.mem_singleton]
    cases stem with
    | nil => simp [List.cons_prefix_cons, eq_comm]
    | cons d stem =>
      rw [List.cons_append, List.cons_prefix_cons]
      constructor
      · rintro (⟨_, inside, same⟩ | ⟨-, same⟩) <;> cases same
        exact ⟨rfl, ih.mp inside⟩
      · rintro ⟨rfl, front⟩
        exact .inl ⟨stem, ih.mpr front, rfl⟩

theorem length_lt_of_mem_stems {stem name : List Char} (inside : stem ∈ stems name) :
    stem.length < name.length := by
  have shorter := (mem_stems_iff.mp inside).length_le
  rw [List.length_append, List.length_singleton] at shorter
  omega

theorem stems_pairwise (name : List Char) :
    (stems name).Pairwise fun stem other => other.length < stem.length := by
  induction name with
  | nil => exact .nil
  | cons c rest ih =>
    rw [stems, List.pairwise_append, List.pairwise_map]
    refine ⟨ih.imp (by simp), by split <;> simp, ?_⟩
    simp only [List.mem_map, List.mem_ite_nil_right, List.mem_singleton]
    rintro _ ⟨stem, -, rfl⟩ _ ⟨-, rfl⟩
    simp

theorem stems_of_notMem {name : List Char} (single : '.' ∉ name) : stems name = [] := by
  rw [List.eq_nil_iff_forall_not_mem]
  intro stem inside
  have dotted : '.' ∈ stem ++ ['.'] := by simp
  exact single ((mem_stems_iff.mp inside).subset dotted)

theorem stems_append {last : List Char} (single : '.' ∉ last) (front : List Char) :
    stems (front ++ '.' :: last) = front :: stems front := by
  induction front with
  | nil => simp [stems, stems_of_notMem single]
  | cons c front ih => simp [stems, ih]

/- The chain of a name, from one dot to the next. -/

theorem chain_of_single {name : String} (single : '.' ∉ name.toList) :
    chain ⟨name⟩ = [name] := by
  rw [chain, stems_of_notMem single, List.map_nil]

theorem chain_of_front {front name : String} (cut : Front front name) :
    chain ⟨name⟩ = name :: chain ⟨front⟩ := by
  obtain ⟨last, single, rfl⟩ := cut
  have split : (front ++ "." ++ last).toList = front.toList ++ '.' :: last.toList := by simp
  rw [chain, split, stems_append single, List.map_cons, String.ofList_toList]
  rfl

theorem single_or_front (name : String) : '.' ∉ name.toList ∨ ∃ front, Front front name := by
  by_cases dotted : '.' ∈ name.toList
  · obtain ⟨back, front, split, single⟩ :=
      List.eq_append_cons_of_mem (List.mem_reverse.mpr dotted)
    have whole : name.toList = front.reverse ++ '.' :: back.reverse := by
      rw [← name.toList.reverse_reverse, split]
      simp
    refine .inr ⟨String.ofList front.reverse, String.ofList back.reverse, by simpa using single, ?_⟩
    rw [← String.toList_inj, whole]
    simp
  · exact .inl dotted

theorem parent?_eq_some_iff {name front : String} :
    parent? ⟨name⟩ = some front ↔ Front front name := by
  constructor
  · intro parent
    rcases single_or_front name with single | ⟨other, cut⟩
    · rw [parent?, chain_of_single single] at parent
      cases parent
    · rw [parent?, chain_of_front cut] at parent
      cases parent
      exact cut
  · intro cut
    rw [parent?, chain_of_front cut]
    rfl

/-- What a chain lists behind a name is that name's parent, and nothing when it has none. -/
theorem chain_next (kind : Kind) (i : Nat) {name : String} (here : kind.chain[i]? = some name) :
    kind.chain[i + 1]? = parent? ⟨name⟩ := by
  -- One step down the chain is one step for the kind itself, whose chain goes on as its front's.
  induction i generalizing kind with
  | zero =>
    cases here
    rw [parent?, List.head?_tail]
  | succ i ih =>
    rcases single_or_front kind.name with single | ⟨front, cut⟩
    · have alone : kind.chain = [kind.name] := chain_of_single single
      simp [alone] at here
    · have longer : kind.chain = kind.name :: chain ⟨front⟩ := chain_of_front cut
      rw [longer, List.getElem?_cons_succ] at here ⊢
      exact ih ⟨front⟩ here

theorem mem_chain_iff {kind : Kind} {name : String} :
    name ∈ kind.chain ↔ kind.BelongsTo name := by
  have stem : (∃ stem ∈ stems kind.name.toList, String.ofList stem = name) ↔
      name.toList ∈ stems kind.name.toList := by
    constructor
    · rintro ⟨stem, inside, rfl⟩
      simpa using inside
    · exact fun inside => ⟨_, inside, String.ofList_toList⟩
  rw [chain, List.mem_cons, List.mem_map, stem, mem_stems_iff, BelongsTo, String.toList_append]
  rfl

theorem chain_pairwise (kind : Kind) :
    kind.chain.Pairwise fun name other => other.length < name.length := by
  rw [chain, List.pairwise_cons, List.pairwise_map]
  constructor
  · intro name inside
    obtain ⟨stem, among, rfl⟩ := List.mem_map.mp inside
    rw [String.length_ofList, ← String.length_toList]
    exact length_lt_of_mem_stems among
  · simpa using stems_pairwise kind.name.toList

end Kind

namespace Mapping

/-- The name that a mapping goes by for a kind: of those that the kind belongs to and that are
listed, the longest. -/
structure Uses (mapping : Mapping) (kind : Kind) (name : String) : Prop where
  above : kind.BelongsTo name
  listed : (mapping.get? name).isSome
  longest : ∀ other, kind.BelongsTo other → (mapping.get? other).isSome →
    other.length ≤ name.length

theorem resolve_eq_none_iff {mapping : Mapping} {kind : Kind} :
    mapping.resolve kind = none ↔ ∀ name, kind.BelongsTo name → mapping.get? name = none := by
  simp only [resolve, List.findSome?_eq_none_iff, Kind.mem_chain_iff]

theorem Uses.of_resolve {mapping : Mapping} {kind : Kind} {face : String}
    (resolved : mapping.resolve kind = some face) :
    ∃ name, mapping.Uses kind name ∧ mapping.get? name = some face := by
  obtain ⟨before, name, behind, split, here, none⟩ := List.findSome?_eq_some_iff.mp resolved
  have descending := kind.chain_pairwise
  rw [split, List.pairwise_append, List.pairwise_cons] at descending
  have inside : name ∈ kind.chain := by simp [split]
  refine ⟨name, ⟨Kind.mem_chain_iff.mp inside, by simp [here], ?_⟩, here⟩
  intro other above listed
  rw [← Kind.mem_chain_iff, split, List.mem_append, List.mem_cons] at above
  rcases above with earlier | rfl | later
  · simp [none other earlier] at listed
  · exact Nat.le_refl _
  · exact Nat.le_of_lt (descending.2.1.1 other later)

theorem Uses.unique {mapping : Mapping} {kind : Kind} {name other : String}
    (uses : mapping.Uses kind name) (uses' : mapping.Uses kind other) : name = other :=
  uses.above.eq_of_length uses'.above <| Nat.le_antisymm
    (uses'.longest name uses.above uses.listed) (uses.longest other uses'.above uses'.listed)

theorem Uses.resolve {mapping : Mapping} {kind : Kind} {name : String}
    (uses : mapping.Uses kind name) : mapping.resolve kind = mapping.get? name := by
  cases resolved : mapping.resolve kind with
  | none => rw [resolve_eq_none_iff.mp resolved name uses.above]
  | some face =>
    obtain ⟨other, uses', here⟩ := Uses.of_resolve resolved
    rw [uses.unique uses', here]

theorem resolve_eq_some_iff {mapping : Mapping} {kind : Kind} {face : String} :
    mapping.resolve kind = some face ↔
      ∃ name, mapping.Uses kind name ∧ mapping.get? name = some face := by
  constructor
  · exact Uses.of_resolve
  · rintro ⟨name, uses, here⟩
    rw [uses.resolve, here]

/-- A name that makes no difference for a kind: the kind does not belong to it, or a longer name is
gone by. -/
def Disregards (mapping : Mapping) (kind : Kind) (name : String) : Prop :=
  ¬ kind.BelongsTo name ∨ ∃ used, mapping.Uses kind used ∧ name.length < used.length

theorem resolve_of_disregards {mapping other : Mapping} {kind : Kind}
    (differ : ∀ name, other.get? name ≠ mapping.get? name → mapping.Disregards kind name) :
    other.resolve kind = mapping.resolve kind := by
  cases resolved : mapping.resolve kind with
  | none =>
    have unlisted := resolve_eq_none_iff.mp resolved
    refine resolve_eq_none_iff.mpr fun name above => ?_
    by_cases same : other.get? name = mapping.get? name
    · rw [same, unlisted name above]
    · rcases differ name same with apart | ⟨used, uses, -⟩
      · exact absurd above apart
      · have listed := uses.listed
        simp [unlisted used uses.above] at listed
  | some face =>
    obtain ⟨name, uses, here⟩ := Uses.of_resolve resolved
    have same : other.get? name = mapping.get? name := by
      refine Classical.byContradiction fun changed => ?_
      rcases differ name changed with apart | ⟨used, uses', shorter⟩
      · exact apart uses.above
      · rw [uses.unique uses'] at shorter
        exact Nat.lt_irrefl _ shorter
    have still : other.Uses kind name := by
      refine ⟨uses.above, same ▸ uses.listed, fun longer above listed => ?_⟩
      by_cases kept : other.get? longer = mapping.get? longer
      · exact uses.longest longer above (kept ▸ listed)
      · rcases differ longer kept with apart | ⟨used, uses', shorter⟩
        · exact absurd above apart
        · rw [uses.unique uses']
          exact Nat.le_of_lt shorter
    rw [still.resolve, same, here]

/-- The chain of a kind lists each name that it belongs to once, longest first and each followed by
its parent, the name cut at its last dot. A mapping gives the kind the face of the longest of them
that it lists, and none if it lists none of them; other entries, and those of shorter names, may
come, change and go. -/
theorem resolve_takes_nearest (kind : Kind) (mapping : Mapping) :
    (∀ name, name ∈ kind.chain ↔ kind.BelongsTo name) ∧
    kind.chain.Nodup ∧
    (kind.chain.Pairwise fun name next => next.length < name.length) ∧
    (∀ i name, kind.chain[i]? = some name → kind.chain[i + 1]? = Kind.parent? ⟨name⟩) ∧
    (∀ front name, Kind.parent? ⟨name⟩ = some front ↔ Kind.Front front name) ∧
    (∀ face, mapping.resolve kind = some face ↔
      ∃ name, mapping.Uses kind name ∧ mapping.get? name = some face) ∧
    (mapping.resolve kind = none ↔ ∀ name, kind.BelongsTo name → mapping.get? name = none) ∧
    (∀ other : Mapping,
      (∀ name, other.get? name ≠ mapping.get? name → mapping.Disregards kind name) →
        other.resolve kind = mapping.resolve kind) := by
  have distinct : kind.chain.Nodup := by
    refine kind.chain_pairwise.imp ?_
    rintro name next shorter rfl
    exact Nat.lt_irrefl _ shorter
  exact ⟨fun _ => Kind.mem_chain_iff, distinct, kind.chain_pairwise,
    fun i _ here => kind.chain_next i here, fun _ _ => Kind.parent?_eq_some_iff,
    fun _ => resolve_eq_some_iff, resolve_eq_none_iff, fun _ => resolve_of_disregards⟩

example : Kind.chain ⟨"a..b."⟩ = ["a..b.", "a..b", "a.", "a"] := by decide

end Mapping

end Highlighting
