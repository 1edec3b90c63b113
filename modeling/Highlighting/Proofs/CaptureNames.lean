import Highlighting.Lexer.CaptureWalk
import Highlighting.Proofs.Ancestry
import Highlighting.Proofs.TableLookup

/-! The kinds of capture names. The search for one shortens the name cut by cut, and so ends; what
it comes to is what a mapping of the listed names resolves the name to as a kind, and plain text
where that resolves to nothing. -/
namespace Highlighting

namespace Capture

/-- The capture names as a mapping of their own. -/
def named : Mapping := .ofList kindNames

/-- The course of a search: a listed name has its kind, any other one goes by what stands before
its last dot, and one without a dot is plain text. -/
inductive Settles : List Char → Kind → Prop where
  | listed {name : List Char} {kind : String} :
      kindNames.lookup (String.ofList name) = some kind → Settles name ⟨kind⟩
  | cut {name stem : List Char} {kind : Kind} :
      kindNames.lookup (String.ofList name) = none → dropSegment? name = some stem →
        Settles stem kind → Settles name kind
  | unlisted {name : List Char} :
      kindNames.lookup (String.ofList name) = none → dropSegment? name = none →
        Settles name .text

/- One cut of a name. -/

theorem dropSegment?_eq_head? (name : List Char) :
    dropSegment? name = (Kind.stems name).head? := by
  induction name with
  | nil => rfl
  | cons c rest ih =>
    unfold dropSegment? Kind.stems
    rw [ih, List.head?_append, List.head?_map]
    cases (Kind.stems rest).head? with
    | some stem => rfl
    | none =>
      by_cases dot : c = '.'
      · simp [dot]
      · simp [dot]

theorem length_lt_of_dropSegment? {name stem : List Char} (cut : dropSegment? name = some stem) :
    stem.length < name.length := by
  rw [dropSegment?_eq_head?] at cut
  exact Kind.length_lt_of_mem_stems (List.mem_of_mem_head? cut)

theorem parent?_ofList (name : List Char) :
    Kind.parent? ⟨String.ofList name⟩ = (dropSegment? name).map String.ofList := by
  rw [dropSegment?_eq_head?, ← List.head?_map]
  simp [Kind.parent?, Kind.chain]

theorem chain_of_dropSegment? {name stem : List Char} (cut : dropSegment? name = some stem) :
    Kind.chain ⟨String.ofList name⟩ = String.ofList name :: Kind.chain ⟨String.ofList stem⟩ := by
  apply Kind.chain_of_front
  apply Kind.parent?_eq_some_iff.mp
  rw [parent?_ofList, cut]
  rfl

theorem chain_of_uncut {name : List Char} (uncut : dropSegment? name = none) :
    Kind.chain ⟨String.ofList name⟩ = [String.ofList name] := by
  apply Kind.chain_of_single
  rcases Kind.single_or_front (String.ofList name) with single | ⟨front, cut⟩
  · exact single
  · have parent := Kind.parent?_eq_some_iff.mpr cut
    rw [parent?_ofList, uncut] at parent
    cases parent

/- The listed names. -/

theorem kindNames_distinct : (kindNames.map (·.1)).Nodup := by
  decide

theorem named_get? (name : String) : named.get? name = kindNames.lookup name := by
  rw [named, NameTable.ofList_of_distinct kindNames_distinct, NameTable.get?]

theorem named_ne_text {name kind : String} (listed : named.get? name = some kind) :
    kind ≠ "Text" := by
  have colored : ∀ pair ∈ kindNames, pair.2 ≠ "Text" := by decide
  rw [named, NameTable.ofList_of_distinct kindNames_distinct] at listed
  exact colored _ (NameTable.get?_eq_some_iff.mp listed)

theorem resolve_of_listed {name kind : String} (listed : kindNames.lookup name = some kind) :
    named.resolve ⟨name⟩ = some kind := by
  simp [Mapping.resolve, Kind.chain, named_get?, listed]

theorem resolve_of_front {front name : String} (cut : Kind.Front front name)
    (missing : named.get? name = none) : named.resolve ⟨name⟩ = named.resolve ⟨front⟩ := by
  simp [Mapping.resolve, Kind.chain_of_front cut, missing]

/-- The kind that a name resolves to, or else plain text. -/
def resolved (name : String) : Kind :=
  ((named.resolve ⟨name⟩).map Kind.mk).getD .text

theorem Settles.eq_resolved {name : List Char} {kind : Kind} (settles : Settles name kind) :
    kind = resolved (String.ofList name) := by
  unfold resolved
  induction settles with
  | listed here => rw [resolve_of_listed here]; rfl
  | cut missing cut _ ih =>
    rw [ih, Mapping.resolve, Mapping.resolve, chain_of_dropSegment? cut]
    simp [named_get?, missing]
  | unlisted missing uncut =>
    rw [Mapping.resolve, chain_of_uncut uncut]
    simp [named_get?, missing]

/-- Each cut takes a character off, so that the search ends within its bound. -/
theorem settles_kindFrom (fuel : Nat) {name : List Char} (enough : name.length < fuel) :
    Settles name (kindFrom fuel name) := by
  induction fuel generalizing name with
  | zero => cases enough
  | succ fuel ih =>
    unfold kindFrom
    cases listed : kindNames.lookup (String.ofList name) with
    | some kind => exact .listed listed
    | none =>
      cases cut : dropSegment? name with
      | none => exact .unlisted listed cut
      | some stem =>
        have shorter := length_lt_of_dropSegment? cut
        exact .cut listed cut (ih (by omega))

theorem settles_kindOf (name : String) : Settles name.toList (kindOf name) :=
  settles_kindFrom _ (Nat.lt_succ_self _)

theorem kindOf_eq_resolved (name : String) : kindOf name = resolved name := by
  have settled := (settles_kindOf name).eq_resolved
  rwa [String.ofList_toList] at settled

theorem resolved_eq_text_iff {name : String} :
    resolved name = .text ↔ named.resolve ⟨name⟩ = none := by
  unfold resolved
  cases found : named.resolve ⟨name⟩ with
  | none => simp
  | some kind =>
    obtain ⟨used, _, listed⟩ := Mapping.resolve_eq_some_iff.mp found
    simpa [Kind.text] using named_ne_text listed

/-- The search for the kind of any name ends, in one way only. It comes to the kind that the mapping
of the listed names resolves the name to, and to plain text just where it resolves to none; so one
more segment changes the kind of a name only by making it a listed one. -/
theorem kindOf_falls_back (name : String) :
    (∀ kind, Settles name.toList kind ↔ kind = kindOf name) ∧
    (∀ kind, named.resolve ⟨name⟩ = some kind → kindOf name = ⟨kind⟩) ∧
    (kindOf name = .text ↔ named.resolve ⟨name⟩ = none) ∧
    (∀ segment : String, '.' ∉ segment.toList →
      name ++ "." ++ segment ∉ kindNames.map (·.1) →
        kindOf (name ++ "." ++ segment) = kindOf name) := by
  refine ⟨?_, ?_, ?_, ?_⟩
  · intro kind
    constructor
    · intro settles
      have same := settles.eq_resolved
      rwa [String.ofList_toList, ← kindOf_eq_resolved] at same
    · rintro rfl
      exact settles_kindOf name
  · intro kind found
    rw [kindOf_eq_resolved, resolved, found]
    rfl
  · rw [kindOf_eq_resolved]
    exact resolved_eq_text_iff
  · intro segment single unlisted
    have missing : named.get? (name ++ "." ++ segment) = none := by
      rw [named, NameTable.ofList_of_distinct kindNames_distinct]
      exact NameTable.get?_eq_none_iff.mpr unlisted
    rw [kindOf_eq_resolved, kindOf_eq_resolved, resolved, resolved,
      resolve_of_front ⟨segment, single, rfl⟩ missing]

example : kindOf "string.special.key.x" = ⟨"Name.Tag"⟩ ∧ kindOf "string..key" = ⟨"Literal.String"⟩ ∧
    kindOf ".string" = .text := by decide

end Capture

end Highlighting
