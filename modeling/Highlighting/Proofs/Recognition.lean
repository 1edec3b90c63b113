import Highlighting.Proofs.DistinctKeys
import Highlighting.Proofs.Validation

/-! What a configuration takes notice of. Two documents with the same recognised entries are read
alike, whatever else they hold and in whatever order they were written; a color that there is no
name for is passed over as if it had not been set. -/
namespace Highlighting.Configuration

/-- Whether a color attribute has a name that no color has. -/
def namesNoColor : Toml.Value → Bool
  | .string name => (Color.ofName? (String.ofList name)).isNone
  | _ => false

/-- Whether an entry of a face has a part in the face. -/
def counts (entry : String × Toml.Value) : Bool :=
  if entry.1 ∈ colorNames then ! namesNoColor entry.2 else entry.1 ∈ truthNames

/-- Values that make the same change to a face: tables with the same entries that count. -/
inductive FaceAlike : Toml.Value → Toml.Value → Prop where
  | same (value : Toml.Value) : FaceAlike value value
  | tables {entries other : List (String × Toml.Value)} :
      (∀ key, (entries.lookup key).filter (fun value => counts (key, value)) =
        (other.lookup key).filter (fun value => counts (key, value))) →
      FaceAlike (.table entries) (.table other)

/-- Tables with related values under the same keys; any other value is alike to itself only. -/
inductive TableAlike (related : Toml.Value → Toml.Value → Prop) :
    Toml.Value → Toml.Value → Prop where
  | same (value : Toml.Value) : TableAlike related value value
  | tables {entries other : List (String × Toml.Value)} :
      (∀ key, Option.Rel related (entries.lookup key) (other.lookup key)) →
      TableAlike related (.table entries) (.table other)

/-- Documents with the same recognised entries. -/
structure Agree (entries other : List (String × Toml.Value)) : Prop where
  enabled : entries.lookup "syntax-highlight" = other.lookup "syntax-highlight"
  limit : entries.lookup "highlight-buffer-size-limit" = other.lookup "highlight-buffer-size-limit"
  debug : entries.lookup "debug" = other.lookup "debug"
  tokenMap : Option.Rel (TableAlike Eq) (entries.lookup "token-map") (other.lookup "token-map")
  faces : Option.Rel (TableAlike FaceAlike) (entries.lookup "faces") (other.lookup "faces")

/-- What is read under a key is the same where alike values are read alike. -/
theorem map_lookup_congr {α : Type} {related : Toml.Value → Toml.Value → Prop}
    {read : Toml.Value → α}
    (alike : ∀ value value', related value value' → value.Distinct → value'.Distinct →
      read value = read value')
    {entries other : List (String × Toml.Value)} (distinct : (Toml.Value.table entries).Distinct)
    (distinct' : (Toml.Value.table other).Distinct) {key : String}
    (same : Option.Rel related (entries.lookup key) (other.lookup key)) :
    (entries.lookup key).map read = (other.lookup key).map read := by
  generalize found : entries.lookup key = value, found' : other.lookup key = value' at same
  cases same with
  | some same =>
    have inner := Toml.distinct_of_lookup distinct found
    have inner' := Toml.distinct_of_lookup distinct' found'
    exact congrArg some (alike _ _ same inner inner')
  | none => rfl

/-- A face is as if it had no other entries than those that count. -/
theorem faceAlike_filter_counts {entries : List (String × Toml.Value)}
    (distinct : (entries.map (·.1)).Nodup) :
    FaceAlike (.table entries) (.table (entries.filter counts)) := by
  apply FaceAlike.tables
  intro key
  rw [Toml.lookup_filter distinct, Option.filter_filter]
  simp only [Bool.and_self]

example : counts ("foreground", .string "red".toList) = true ∧
    counts ("foreground", .string "crimson".toList) = false ∧
    counts ("foreground", .integer 1) = true ∧ counts ("x", .integer 1) = false := by decide

/- Attributes that do not count -/

/-- A change that has nothing yet for the color of this name. -/
def Unset (key : String) (change : FaceChange) : Prop :=
  (key = "foreground" → change.foreground = none) ∧
    (key = "background" → change.background = none)

theorem unset_nothing (key : String) : Unset key {} :=
  ⟨fun _ => rfl, fun _ => rfl⟩

theorem changeBy_of_not_counts {entry : String × Toml.Value} (idle : counts entry = false)
    {change : FaceChange} (unset : Unset entry.1 change) (path : String) :
    changeBy path change entry = .ok change := by
  obtain ⟨key, value⟩ := entry
  have unknown : key ∈ colorNames → ∃ name, value = .string name ∧
      Color.ofName? (String.ofList name) = none := by
    intro color
    rw [counts, if_pos color] at idle
    cases value <;> simp_all [namesNoColor]
  unfold changeBy
  dsimp only
  split
  case h_1 =>
    obtain ⟨name, rfl, none⟩ := unknown (by decide)
    simp [color, none, Except.map, ← unset.1 rfl]
  case h_2 =>
    obtain ⟨name, rfl, none⟩ := unknown (by decide)
    simp [color, none, Except.map, ← unset.2 rfl]
  case h_7 => rfl
  all_goals cases idle

theorem of_map_ok {α β : Type} {reading : Except Error α} {f : α → β} {result : β}
    (done : reading.map f = .ok result) : ∃ value, f value = result := by
  cases reading with
  | error fault => cases done
  | ok value =>
    cases done
    exact ⟨value, rfl⟩

theorem Unset.changeBy {key : String} {entry : String × Toml.Value} {change next : FaceChange}
    (unset : Unset key change) (other : entry.1 ≠ key) {path : String}
    (done : changeBy path change entry = .ok next) : Unset key next := by
  obtain ⟨name, value⟩ := entry
  unfold Configuration.changeBy at done
  dsimp only at done other
  split at done
  case h_7 =>
    cases done
    exact unset
  all_goals obtain ⟨read, rfl⟩ := of_map_ok done
  case h_1 => exact ⟨fun same => absurd same.symm other, unset.2⟩
  case h_2 => exact ⟨unset.1, fun same => absurd same.symm other⟩
  all_goals exact ⟨unset.1, unset.2⟩

theorem foldlM_filter_counts {entries : List (String × Toml.Value)}
    (distinct : (entries.map (·.1)).Nodup) {change : FaceChange}
    (unset : ∀ entry ∈ entries, Unset entry.1 change) (path : String) :
    (entries.filter counts).foldlM (changeBy path) change =
      entries.foldlM (changeBy path) change := by
  induction entries generalizing change with
  | nil => rfl
  | cons entry rest ih =>
    obtain ⟨absent, distinct⟩ := List.nodup_cons.mp distinct
    obtain ⟨first, unset⟩ := List.forall_mem_cons.mp unset
    by_cases counting : counts entry = true
    · rw [List.filter_cons_of_pos counting, List.foldlM_cons, List.foldlM_cons]
      cases done : changeBy path change entry with
      | error fault => rfl
      | ok next =>
        -- No name comes twice, so the colors of the rest are unset still.
        refine ih distinct ?_
        intro later inside
        have other : entry.1 ≠ later.1 := by
          intro same
          exact absent (List.mem_map.mpr ⟨later, inside, same.symm⟩)
        exact (unset later inside).changeBy other done
    · have idle := changeBy_of_not_counts (Bool.eq_false_iff.mpr counting) first path
      rw [List.filter_cons_of_neg counting, List.foldlM_cons, idle]
      exact ih distinct unset

theorem faceChange_of_alike {value other : Toml.Value} (alike : FaceAlike value other)
    (distinct : value.Distinct) (distinct' : other.Distinct) (path : String) :
    faceChange path value = faceChange path other := by
  cases alike with
  | same => rfl
  | @tables entries others same =>
    have keys := Toml.keys_of_distinct distinct
    have keys' := Toml.keys_of_distinct distinct'
    have sorted : (Toml.sortEntries entries).filter counts =
        (Toml.sortEntries others).filter counts := by
      rw [← Toml.sortEntries_filter keys, ← Toml.sortEntries_filter keys']
      apply Toml.sortEntries_congr (Toml.distinct_filter keys _) (Toml.distinct_filter keys' _)
      intro key
      rw [Toml.lookup_filter keys, Toml.lookup_filter keys', same]
    unfold faceChange
    dsimp only
    rw [← foldlM_filter_counts (Toml.distinct_sortEntries keys) (fun _ _ => unset_nothing _),
      ← foldlM_filter_counts (Toml.distinct_sortEntries keys') (fun _ _ => unset_nothing _), sorted]

theorem tokenMapOf_of_alike {value other : Toml.Value} (alike : TableAlike Eq value other)
    (distinct : value.Distinct) (distinct' : other.Distinct) :
    tokenMapOf value = tokenMapOf other := by
  cases alike with
  | same => rfl
  | @tables entries others same =>
    have sorted : Toml.sortEntries entries = Toml.sortEntries others := by
      have keys := Toml.keys_of_distinct distinct
      apply Toml.sortEntries_congr keys (Toml.keys_of_distinct distinct')
      intro key
      have found := map_lookup_congr (fun _ _ same _ _ => same) distinct distinct' (same key)
      rwa [Option.map_id', Option.map_id'] at found
    unfold tokenMapOf
    dsimp only
    rw [sorted]

/-- What each face comes to, by its name. -/
def faceOutcomes (entries : List (String × Toml.Value)) :
    List (String × Except Error FaceChange) :=
  Toml.mapEntries (fun name => faceChange (inside "faces" name)) entries

theorem faceChangesOf_table (entries : List (String × Toml.Value)) :
    faceChangesOf (.table entries) =
      (Toml.sortEntries (faceOutcomes entries)).mapM fun entry => entry.2.map (entry.1, ·) := by
  rw [faceOutcomes, Toml.sortEntries_mapEntries, Toml.mapEntries, List.mapM_map]
  rfl

theorem faceChangesOf_of_alike {value other : Toml.Value} (alike : TableAlike FaceAlike value other)
    (distinct : value.Distinct) (distinct' : other.Distinct) :
    faceChangesOf value = faceChangesOf other := by
  cases alike with
  | same => rfl
  | @tables entries others same =>
    rw [faceChangesOf_table, faceChangesOf_table]
    congr 1
    apply Toml.sortEntries_congr
    · rw [faceOutcomes, Toml.keys_mapEntries]
      exact Toml.keys_of_distinct distinct
    · rw [faceOutcomes, Toml.keys_mapEntries]
      exact Toml.keys_of_distinct distinct'
    · intro key
      rw [faceOutcomes, faceOutcomes, Toml.lookup_mapEntries, Toml.lookup_mapEntries]
      apply map_lookup_congr _ distinct distinct' (same key)
      intro value value' alike inner inner'
      exact faceChange_of_alike alike inner inner' _

theorem setting_eq {α : Type} (entries : List (String × Toml.Value)) (key : String) (fallback : α)
    (read : Toml.Value → Except Error α) :
    setting entries key fallback read = ((entries.lookup key).map read).getD (.ok fallback) := by
  unfold setting
  cases entries.lookup key <;> rfl

theorem ofEntries_of_agree {entries other : List (String × Toml.Value)}
    (agree : Agree entries other) (distinct : (Toml.Value.table entries).Distinct)
    (distinct' : (Toml.Value.table other).Distinct) : ofEntries entries = ofEntries other := by
  have tokenMap := map_lookup_congr (fun _ _ => tokenMapOf_of_alike) distinct distinct'
    agree.tokenMap
  have faces := map_lookup_congr (fun _ _ => faceChangesOf_of_alike) distinct distinct' agree.faces
  simp only [ofEntries, setting_eq, agree.enabled, agree.limit, agree.debug, tokenMap, faces]

/-- A document is accepted just where every setting in it is as it should be, is read by its
recognised entries alone, and fails with the first of its faults. -/
theorem ofText_validates {text : List Char} {entries : List (String × Toml.Value)}
    (parsed : Toml.document? text = some entries) :
    ((∃ config, ofText text = .ok config) ↔ Valid entries) ∧
      (∀ other entries', Toml.document? other = some entries' → Agree entries entries' →
        ofText other = ofText text) ∧
      ∀ error, ofText text = .error error ↔
        ∃ fault, (offences entries).head? = some fault ∧ error = .setting fault := by
  have read : ∀ {text : List Char} {entries : List (String × Toml.Value)},
      Toml.document? text = some entries → ofText text = ofEntries entries := by
    intro text entries parsed
    rw [ofText, parsed]
  have reports := reports_ofEntries entries
  rw [read parsed]
  refine ⟨?_, ?_, ?_⟩
  · rw [reports_nil_iff reports, offences_eq_nil]
  · intro other entries' parsed' agree
    rw [read parsed']
    have distinct := Toml.distinct_of_document? parsed
    have distinct' := Toml.distinct_of_document? parsed'
    exact (ofEntries_of_agree agree distinct distinct').symm
  · intro error
    exact reports_error_iff reports

/- A face with an unknown entry beside one that counts. -/

def face : List (String × Toml.Value) := [("x", .integer 1), ("bold", .boolean true)]

theorem attributes_face : TableOf Attribute (.table face) := by
  have clear : ∀ entry ∈ face, attributeFaults "faces.a" entry = [] := by decide
  exact ⟨face, rfl, fun _ _ inside => attributeFaults_eq_nil.mp (clear _ inside)⟩

theorem valid_face : Valid [("faces", .table [("a", .table face)])] := by
  constructor
  case faces =>
    intro value found
    cases found
    refine ⟨_, rfl, ?_⟩
    intro key value inside
    cases List.mem_singleton.mp inside
    exact attributes_face
  all_goals
    intro value found
    cases found

theorem ofText_passes_over_unknown :
    (∃ config, ofText "faces.a.x=1\nfaces.a.bold=true".toList = .ok config) ∧
      ofText "faces.a.bold=true".toList = ofText "faces.a.x=1\nfaces.a.bold=true".toList ∧
      ofText "faces.a.foreground=1".toList =
        .error (.setting (.wrongType "faces.a.foreground" "integer")) := by
  have parsed : Toml.document? "faces.a.x=1\nfaces.a.bold=true".toList =
      some [("faces", .table [("a", .table face)])] := by decide +kernel
  have plain : Toml.document? "faces.a.bold=true".toList =
      some [("faces", .table [("a", .table (face.filter counts))])] := by decide +kernel
  have wrong : Toml.document? "faces.a.foreground=1".toList =
      some [("faces", .table [("a", .table [("foreground", .integer 1)])])] := by decide +kernel
  obtain ⟨accepted, alike, _⟩ := ofText_validates parsed
  have agree : Agree [("faces", .table [("a", .table face)])]
      [("faces", .table [("a", .table (face.filter counts))])] := by
    refine ⟨rfl, rfl, rfl, .none, .some (.tables ?_)⟩
    intro key
    by_cases here : key = "a"
    · subst here
      exact .some (faceAlike_filter_counts (by decide))
    · simp [List.lookup_cons, beq_false_of_ne here]
  refine ⟨accepted.mpr valid_face, alike _ _ plain agree,
    ((ofText_validates wrong).2.2 _).mpr ⟨_, ?_, rfl⟩⟩
  simp [offences, faultsUnder, tableFaults, faceFaults, attributeFaults, textFaults, colorNames,
    Toml.sortEntries, inside, Toml.Value.typeName, List.lookup_cons]

end Highlighting.Configuration
