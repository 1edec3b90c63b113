import Highlighting.Configuration
import Highlighting.Proofs.TableLookup
import Mathlib.Data.Finset.Card
import Mathlib.Data.Finset.Lattice.Basic

/-! Faces under the changes of a configuration. A change reads and writes one face only, so that the
changes may be made in any order: each face comes to what its own change makes of the standard one,
and only standard and changed faces are there. -/
namespace Highlighting

namespace FaceChange

/-- An attribute has the value that is set for it, and keeps its old one where none is. -/
def Sets {α : Type} (set : Option α) (old new : α) : Prop :=
  (∀ value, set = some value → new = value) ∧ (set = none → new = old)

theorem sets_getD {α : Type} (set : Option α) (old : α) : Sets set old (set.getD old) := by
  cases set with
  | none => exact ⟨nofun, fun _ => rfl⟩
  | some value => exact ⟨fun _ same => Option.some.inj same, nofun⟩

/-- What a change makes of a style, attribute by attribute. -/
structure Makes (change : FaceChange) (old new : Style) : Prop where
  foreground : Sets change.foreground old.foreground new.foreground
  background : Sets change.background old.background new.background
  bold : Sets change.bold old.bold new.bold
  italic : Sets change.italic old.italic new.italic
  underline : Sets change.underline old.underline new.underline
  reverse : Sets change.reverse old.reverse new.reverse

theorem makes_apply (change : FaceChange) (style : Style) :
    change.Makes style (change.apply style) := by
  constructor
  all_goals exact sets_getD _ _

end FaceChange

namespace Faces

/- One change after the other -/

def amend (faces : Faces) (entry : String × FaceChange) : Faces :=
  faces.set entry.1 (entry.2.apply ((faces.get? entry.1).getD .plain))

/-- What becomes of a face by its own change, if it has one. -/
def amended (old : Option Style) : Option FaceChange → Option Style
  | none => old
  | some change => some (change.apply (old.getD .plain))

theorem get?_amend (faces : Faces) (entry : String × FaceChange) (name : String) :
    (faces.amend entry).get? name =
      amended (faces.get? name) (if name = entry.1 then some entry.2 else none) := by
  unfold amend
  rw [NameTable.get?_set]
  by_cases here : name = entry.1
  · rw [if_pos here, if_pos here, here]
    rfl
  · rw [if_neg here, if_neg here]
    rfl

theorem get?_foldl_amend {changes : List (String × FaceChange)}
    (distinct : (changes.map (·.1)).Nodup) (faces : Faces) (name : String) :
    (changes.foldl amend faces).get? name = amended (faces.get? name) (changes.lookup name) := by
  induction changes generalizing faces with
  | nil => rfl
  | cons entry rest ih =>
    obtain ⟨absent, distinct⟩ := List.nodup_cons.mp distinct
    rw [List.foldl_cons, ih distinct, get?_amend, NameTable.lookup_cons]
    by_cases here : name = entry.1
    · -- No later change has the name, so the face stays as this one leaves it.
      have last : rest.lookup name = none := by
        rw [here, NameTable.lookup_eq_none_iff]
        exact absent
      rw [if_pos here, if_pos here, last]
      rfl
    · rw [if_neg here, if_neg here]
      rfl

end Faces

namespace Configuration

variable (config : Configuration)

theorem faces_eq_foldl :
    config.faces = config.faceChanges.entries.foldl Faces.amend .standard := rfl

theorem get?_faces (name : String) : config.faces.get? name =
    Faces.amended (Faces.standard.get? name) (config.faceChanges.get? name) := by
  rw [faces_eq_foldl, Faces.get?_foldl_amend config.faceChanges.distinct, ← NameTable.get?]

theorem mem_names_faces {name : String} : name ∈ config.faces.names ↔
    name ∈ Faces.standard.names ∨ name ∈ config.faceChanges.names := by
  simp only [NameTable.mem_names_iff, get?_faces]
  cases config.faceChanges.get? name with
  | none => simp [Faces.amended]
  | some change => simp [Faces.amended]

theorem size_faces : config.faces.size =
    (Faces.standard.names.toFinset ∪ config.faceChanges.names.toFinset).card := by
  have union : Faces.standard.names.toFinset ∪ config.faceChanges.names.toFinset =
      config.faces.names.toFinset := by
    ext name
    rw [Finset.mem_union, List.mem_toFinset, List.mem_toFinset, List.mem_toFinset,
      mem_names_faces]
  rw [union, List.toFinset_card_of_nodup (NameTable.nodup_names _), NameTable.names,
    List.length_map]
  rfl

/-- In whatever order its changes are made, a configuration has the same faces: under the name of a
change the standard face, or a plain one, with the attributes that the change sets; under any other
name the standard face; and no more names than these. -/
theorem faces_under_changes :
    (∀ visited : NameTable FaceChange, visited.entries.Perm config.faceChanges.entries →
      (faces { config with faceChanges := visited }).entries.Perm config.faces.entries) ∧
    (∀ name change, config.faceChanges.get? name = some change →
      ∃ style, config.faces.get? name = some style ∧
        change.Makes ((Faces.standard.get? name).getD .plain) style) ∧
    (∀ name, config.faceChanges.get? name = none →
      config.faces.get? name = Faces.standard.get? name) ∧
    (∀ name, (config.faces.get? name).isSome ↔
      name ∈ Faces.standard.names ∨ name ∈ config.faceChanges.names) ∧
    config.faces.size =
      (Faces.standard.names.toFinset ∪ config.faceChanges.names.toFinset).card := by
  refine ⟨?_, ?_, ?_, ?_, config.size_faces⟩
  · intro visited order
    apply NameTable.entries_perm
    intro name
    rw [get?_faces, get?_faces, NameTable.get?_of_perm order]
  · intro name change given
    refine ⟨_, ?_, change.makes_apply _⟩
    rw [get?_faces, given]
    rfl
  · intro name unchanged
    rw [get?_faces, unchanged]
    rfl
  · intro name
    rw [← NameTable.mem_names_iff, mem_names_faces]

theorem faces_under_partial_changes :
    let changes : List (String × FaceChange) :=
      [("comment", { italic := some true }), ("link", { underline := some true }), ("mark", {})]
    let config : Configuration := { faceChanges := .ofList changes }
    config.faces.size = 14 ∧
      (faces { config with faceChanges := .ofList changes.reverse }).entries.Perm
        config.faces.entries ∧
      ∃ style, config.faces.get? "comment" = some style ∧ style.italic = true ∧
        style.foreground = .brightBlack := by
  intro changes config
  obtain ⟨reordered, changed, -, -, size⟩ := faces_under_changes config
  have order : (NameTable.ofList changes.reverse).entries.Perm (NameTable.ofList changes).entries :=
    List.reverse_perm changes
  obtain ⟨style, found, makes⟩ := changed "comment" { italic := some true } rfl
  refine ⟨size.trans (by decide), reordered _ order, style, found, ?_, ?_⟩
  · exact makes.italic.1 true rfl
  · exact makes.foreground.2 rfl

end Configuration

end Highlighting
