import Highlighting.Configuration
import Highlighting.Proofs.Ancestry
import Highlighting.Proofs.TableLookup

/-! A mapping laid over another one. A kind is resolved by the upper mapping if that goes as far
down the chain of the kind as the lower one does, and else by the lower one as if nothing lay over
it. -/
namespace Highlighting

namespace Mapping

/-- The upper mapping lists a name for a kind that is as long as any that the lower one lists. -/
def Covers (upper lower : Mapping) (kind : Kind) : Prop :=
  ∃ name, kind.BelongsTo name ∧ (upper.get? name).isSome ∧
    ∀ other, kind.BelongsTo other → (lower.get? other).isSome → other.length ≤ name.length

instance (upper lower : Mapping) (kind : Kind) : Decidable (upper.Covers lower kind) :=
  decidable_of_iff
    (∃ name ∈ kind.chain, (upper.get? name).isSome ∧
      ∀ other ∈ kind.chain, (lower.get? other).isSome → other.length ≤ name.length)
    (by simp only [Covers, Kind.mem_chain_iff])

theorem exists_uses {mapping : Mapping} {kind : Kind} {name : String} (above : kind.BelongsTo name)
    (listed : (mapping.get? name).isSome) : ∃ used, mapping.Uses kind used := by
  cases resolved : mapping.resolve kind with
  | none => simp [resolve_eq_none_iff.mp resolved name above] at listed
  | some face =>
    obtain ⟨used, uses, -⟩ := resolve_eq_some_iff.mp resolved
    exact ⟨used, uses⟩

variable {lower upper : Mapping} (kind : Kind)

theorem resolve_of_covers (covers : upper.Covers lower kind) :
    resolve (lower.overlay upper) kind = upper.resolve kind := by
  obtain ⟨name, above, listed, deepest⟩ := covers
  obtain ⟨used, uses⟩ := exists_uses above listed
  have here : (lower.overlay upper).get? used = upper.get? used := by
    rw [NameTable.get?_overlay, Option.or_of_isSome uses.listed]
  have still : Uses (lower.overlay upper) kind used := by
    refine ⟨uses.above, here ▸ uses.listed, fun other above' listed' => ?_⟩
    rw [NameTable.get?_overlay, Option.isSome_or, Bool.or_eq_true] at listed'
    rcases listed' with upon | beneath
    · exact uses.longest other above' upon
    · exact Nat.le_trans (deepest other above' beneath) (uses.longest name above listed)
  rw [still.resolve, uses.resolve, here]

theorem resolve_of_not_covers (uncovered : ¬ upper.Covers lower kind) :
    resolve (lower.overlay upper) kind = lower.resolve kind := by
  refine resolve_of_disregards fun name changed => ?_
  by_cases above : kind.BelongsTo name
  · have listed : (upper.get? name).isSome := by
      refine Option.isSome_iff_ne_none.mpr fun missing => changed ?_
      rw [NameTable.get?_overlay, missing, Option.none_or]
    have deeper : ∃ other, kind.BelongsTo other ∧ (lower.get? other).isSome ∧
        name.length < other.length := by
      refine Classical.byContradiction fun none => uncovered ⟨name, above, listed, ?_⟩
      intro other above' listed'
      exact Nat.le_of_not_lt fun longer => none ⟨other, above', listed', longer⟩
    obtain ⟨other, above', listed', longer⟩ := deeper
    obtain ⟨used, uses⟩ := exists_uses above' listed'
    exact .inr ⟨used, uses, Nat.lt_of_lt_of_le longer (uses.longest other above' listed')⟩
  · exact .inl above

/-- A face that the upper mapping is given for a name does not show where the lower one lists a
longer name. -/
theorem resolve_overlay_set {name longer : String} (face : String) (above : kind.BelongsTo longer)
    (listed : (lower.get? longer).isSome) (shorter : name.length < longer.length) :
    resolve (lower.overlay (upper.set name face)) kind = resolve (lower.overlay upper) kind := by
  have present : ((lower.overlay upper).get? longer).isSome := by
    rw [NameTable.get?_overlay, Option.isSome_or, listed, Bool.or_true]
  obtain ⟨used, uses⟩ := exists_uses above present
  refine resolve_of_disregards fun other changed => .inr ⟨used, uses, ?_⟩
  have only : other = name := by
    refine Classical.byContradiction fun apart => changed ?_
    rw [NameTable.get?_overlay, NameTable.get?_overlay, NameTable.get?_set, if_neg apart]
  rw [only]
  exact Nat.lt_of_lt_of_le shorter (uses.longest longer above present)

theorem resolve_congr {mapping other : Mapping}
    (same : ∀ name, other.get? name = mapping.get? name) :
    other.resolve kind = mapping.resolve kind :=
  resolve_of_disregards fun name changed => absurd (same name) changed

/-- Over a lower mapping, the upper one has its way with the kinds for which it goes as far down
their chains, and no part in the others. What it says of a name has no effect where the lower one
lists a longer name, its entries may be laid one by one in any order, and the mapping of a
configuration is the standard one under the additions. -/
theorem resolve_overlaid (upper lower : Mapping) (kind : Kind) :
    (upper.Covers lower kind → resolve (lower.overlay upper) kind = upper.resolve kind) ∧
    (¬ upper.Covers lower kind → resolve (lower.overlay upper) kind = lower.resolve kind) ∧
    (∀ name longer face, kind.BelongsTo longer → (lower.get? longer).isSome →
      name.length < longer.length →
        resolve (lower.overlay (upper.set name face)) kind =
          resolve (lower.overlay upper) kind) ∧
    (∀ visited : List (String × String), visited.Perm upper.entries →
      resolve (lower.setAll visited) kind = resolve (lower.overlay upper) kind) ∧
    (∀ config : Configuration,
      config.mapping.resolve kind = resolve (standard.overlay (.ofList config.tokenMap)) kind) := by
  refine ⟨resolve_of_covers kind, resolve_of_not_covers kind,
    fun name longer face => resolve_overlay_set kind face, fun visited order => ?_,
    fun config => ?_⟩
  · refine resolve_congr kind fun name => ?_
    rw [NameTable.get?_setAll_perm order, NameTable.get?_overlay]
  · refine resolve_congr kind fun name => ?_
    rw [Configuration.mapping, NameTable.get?_setAll, NameTable.get?_overlay]

/-- An addition for numbers, and one for literals of all kinds, which strings take no notice of. -/
theorem resolve_overlaid_literals :
    let upper : Mapping := .ofList [("Literal", "label"), ("Literal.Number", "constant")]
    resolve (standard.overlay upper) ⟨"Literal.Number.Big"⟩ = some "constant" ∧
      resolve (standard.overlay upper) ⟨"Literal.String.Raw"⟩ = some "string" := by
  intro upper
  have covers : upper.Covers standard ⟨"Literal.Number.Big"⟩ := by decide
  have uncovered : ¬ upper.Covers standard ⟨"Literal.String.Raw"⟩ := by decide
  exact ⟨((resolve_overlaid upper standard _).1 covers).trans (by decide),
    ((resolve_overlaid upper standard _).2.1 uncovered).trans (by decide)⟩

end Mapping

end Highlighting
