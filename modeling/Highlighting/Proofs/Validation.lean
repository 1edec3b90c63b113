import Highlighting.Configuration
import Highlighting.Proofs.KeyOrder

/-! Faults of a configuration. All that is amiss in a document is listed in one order: setting by
setting, and the entries of a table by their keys. Reading succeeds just where nothing is amiss,
and reports the first fault of the list otherwise. -/
namespace Highlighting.Configuration

/- Readings that report their first fault -/

/-- A reading comes to a value when there is no fault, and to the first one otherwise. -/
def Reports {α : Type} (reading : Except Error α) : List SettingFault → Prop
  | [] => ∃ value, reading = .ok value
  | fault :: _ => reading = .error (.setting fault)

section Reading

variable {α β : Type}

theorem Reports.bind {reading : Except Error α} {faults more : List SettingFault}
    (reports : Reports reading faults) {next : α → Except Error β}
    (rest : ∀ value, Reports (next value) more) : Reports (reading >>= next) (faults ++ more) := by
  cases faults with
  | nil =>
    obtain ⟨value, rfl⟩ := reports
    exact rest value
  | cons fault faults =>
    obtain rfl : reading = .error (.setting fault) := reports
    rfl

theorem Reports.map {reading : Except Error α} {faults : List SettingFault}
    (reports : Reports reading faults) (f : α → β) : Reports (reading.map f) faults := by
  cases faults with
  | nil =>
    obtain ⟨value, rfl⟩ := reports
    exact ⟨f value, rfl⟩
  | cons fault faults =>
    obtain rfl : reading = .error (.setting fault) := reports
    rfl

theorem reports_mapM {read : α → Except Error β} {faults : α → List SettingFault}
    (each : ∀ entry, Reports (read entry) (faults entry)) (entries : List α) :
    Reports (entries.mapM read) (entries.flatMap faults) := by
  induction entries with
  | nil => exact ⟨[], rfl⟩
  | cons entry rest ih =>
    rw [List.mapM_cons, List.flatMap_cons]
    apply (each entry).bind
    intro value
    have last := ih.map (value :: ·)
    cases read : rest.mapM read with
    | ok values => rwa [read] at last
    | error fault => rwa [read] at last

theorem reports_foldlM {step : β → α → Except Error β} {faults : α → List SettingFault}
    (each : ∀ state entry, Reports (step state entry) (faults entry)) (entries : List α)
    (state : β) : Reports (entries.foldlM step state) (entries.flatMap faults) := by
  induction entries generalizing state with
  | nil => exact ⟨state, rfl⟩
  | cons entry rest ih =>
    rw [List.foldlM_cons, List.flatMap_cons]
    exact (each state entry).bind ih

theorem reports_nil_iff {reading : Except Error α} {faults : List SettingFault}
    (reports : Reports reading faults) : (∃ value, reading = .ok value) ↔ faults = [] := by
  cases faults with
  | nil => exact ⟨fun _ => rfl, fun _ => reports⟩
  | cons fault faults =>
    obtain rfl : reading = .error (.setting fault) := reports
    simp

theorem reports_error_iff {reading : Except Error α} {faults : List SettingFault}
    (reports : Reports reading faults) {error : Error} :
    reading = .error error ↔ ∃ fault, faults.head? = some fault ∧ error = .setting fault := by
  cases faults with
  | nil =>
    obtain ⟨value, rfl⟩ := reports
    simp
  | cons fault faults =>
    obtain rfl : reading = .error (.setting fault) := reports
    simp [eq_comm]

end Reading

/- The faults of a value, by what it should be -/

def truthFaults (key : String) : Toml.Value → List SettingFault
  | .boolean _ => []
  | .string _ => []
  | value => [.wrongType key value.typeName]

def textFaults (key : String) : Toml.Value → List SettingFault
  | .string _ => []
  | value => [.wrongType key value.typeName]

def limitFaults : Toml.Value → List SettingFault
  | .integer n => if n < 0 then [.limitOutOfRange n] else []
  | .string written =>
    if (Unsigned.read? 64 (trim written)).isSome then []
    else [.limitNotNumber (String.ofList written)]
  | value => [.wrongType "highlight-buffer-size-limit" value.typeName]

/-- The faults of the entries of a table, by their keys. -/
def tableFaults (path : String) (faults : String × Toml.Value → List SettingFault) :
    Toml.Value → List SettingFault
  | .table entries => (Toml.sortEntries entries).flatMap faults
  | value => [.wrongType path value.typeName]

def colorNames : List String := ["foreground", "background"]

def truthNames : List String := ["bold", "italic", "underline", "reverse"]

/-- The faults of an attribute of a face; other keys have none. -/
def attributeFaults (path : String) (entry : String × Toml.Value) : List SettingFault :=
  if entry.1 ∈ colorNames then textFaults (inside path entry.1) entry.2
  else if entry.1 ∈ truthNames then truthFaults (inside path entry.1) entry.2
  else []

def pairFaults (entry : String × Toml.Value) : List SettingFault :=
  textFaults (inside "token-map" entry.1) entry.2

def faceFaults (entry : String × Toml.Value) : List SettingFault :=
  tableFaults (inside "faces" entry.1) (attributeFaults (inside "faces" entry.1)) entry.2

def faultsUnder (entries : List (String × Toml.Value)) (key : String)
    (faults : Toml.Value → List SettingFault) : List SettingFault :=
  ((entries.lookup key).map faults).getD []

/-- All that is amiss in a document. -/
def offences (entries : List (String × Toml.Value)) : List SettingFault :=
  faultsUnder entries "syntax-highlight" (truthFaults "syntax-highlight") ++
    faultsUnder entries "highlight-buffer-size-limit" limitFaults ++
    faultsUnder entries "debug" (truthFaults "debug") ++
    faultsUnder entries "token-map" (tableFaults "token-map" pairFaults) ++
    faultsUnder entries "faces" (tableFaults "faces" faceFaults)

/- Each reader reports the faults of its value. -/

theorem reports_truth (key : String) (value : Toml.Value) :
    Reports (truth key value) (truthFaults key value) := by
  cases value with
  | boolean b => exact ⟨b, rfl⟩
  | string written => exact ⟨isYes written, rfl⟩
  | integer | float | dateTime | array | table => rfl

theorem reports_color (key : String) (value : Toml.Value) :
    Reports (color key value) (textFaults key value) := by
  cases value with
  | string name => exact ⟨_, rfl⟩
  | boolean | integer | float | dateTime | array | table => rfl

theorem reports_sizeLimit (value : Toml.Value) : Reports (sizeLimit value) (limitFaults value) := by
  cases value with
  | integer n => by_cases below : n < 0 <;> simp [sizeLimit, limitFaults, Reports, below]
  | string written =>
    cases number : Unsigned.read? 64 (trim written) <;>
      simp [sizeLimit, limitFaults, Reports, number]
  | boolean | float | dateTime | array | table => rfl

theorem reports_changeBy (path : String) (change : FaceChange) (entry : String × Toml.Value) :
    Reports (changeBy path change entry) (attributeFaults path entry) := by
  obtain ⟨key, value⟩ := entry
  unfold changeBy
  dsimp only
  split
  case h_7 =>
    have other : attributeFaults path (key, value) = [] := by
      simp_all [attributeFaults, colorNames, truthNames]
    rw [other]
    exact ⟨change, rfl⟩
  case h_1 => exact (reports_color _ value).map _
  case h_2 => exact (reports_color _ value).map _
  all_goals exact (reports_truth _ value).map _

theorem reports_faceChange (path : String) (value : Toml.Value) :
    Reports (faceChange path value) (tableFaults path (attributeFaults path) value) := by
  cases value with
  | table entries => exact reports_foldlM (reports_changeBy path) _ _
  | string | boolean | integer | float | dateTime | array => rfl

theorem reports_tokenMapOf (value : Toml.Value) :
    Reports (tokenMapOf value) (tableFaults "token-map" pairFaults value) := by
  cases value with
  | table entries =>
    refine reports_mapM ?_ _
    rintro ⟨kind, value⟩
    cases value with
    | string face => exact ⟨_, rfl⟩
    | boolean | integer | float | dateTime | array | table => rfl
  | string | boolean | integer | float | dateTime | array => rfl

theorem reports_faceChangesOf (value : Toml.Value) :
    Reports (faceChangesOf value) (tableFaults "faces" faceFaults value) := by
  cases value with
  | table entries =>
    refine reports_mapM ?_ _
    rintro ⟨name, value⟩
    exact (reports_faceChange _ value).map _
  | string | boolean | integer | float | dateTime | array => rfl

theorem reports_setting {α : Type} {read : Toml.Value → Except Error α}
    {faults : Toml.Value → List SettingFault}
    (reports : ∀ value, Reports (read value) (faults value))
    (entries : List (String × Toml.Value)) (key : String) (fallback : α) :
    Reports (setting entries key fallback read) (faultsUnder entries key faults) := by
  unfold setting faultsUnder
  cases entries.lookup key with
  | none => exact ⟨fallback, rfl⟩
  | some value => exact reports value

theorem reports_ofEntries (entries : List (String × Toml.Value)) :
    Reports (ofEntries entries) (offences entries) := by
  unfold ofEntries offences
  simp only [List.append_assoc]
  apply (reports_setting (reports_truth _) entries _ _).bind
  intro enabled
  apply (reports_setting reports_sizeLimit entries _ _).bind
  intro limit
  apply (reports_setting (reports_truth _) entries _ _).bind
  intro debug
  apply (reports_setting reports_tokenMapOf entries _ _).bind
  intro tokenMap
  rw [← List.append_nil (faultsUnder entries "faces" _)]
  apply (reports_setting reports_faceChangesOf entries _ _).bind
  intro changes
  exact ⟨_, rfl⟩

/- Documents in which nothing is amiss -/

/-- A truth value, as such or in writing. -/
inductive Truth : Toml.Value → Prop where
  | plain (b : Bool) : Truth (.boolean b)
  | written (text : List Char) : Truth (.string text)

def Text (value : Toml.Value) : Prop := ∃ text, value = .string text

/-- A bound that no sign makes negative, or one in writing that can be read. -/
inductive Bound : Toml.Value → Prop where
  | plain {n : Int} : 0 ≤ n → Bound (.integer n)
  | written {text : List Char} {n : Nat} : Unsigned.read? 64 (trim text) = some n →
      Bound (.string text)

/-- A table with every entry as it should be. -/
def TableOf (entryIs : String → Toml.Value → Prop) (value : Toml.Value) : Prop :=
  ∃ entries, value = .table entries ∧ ∀ key value, (key, value) ∈ entries → entryIs key value

structure Attribute (key : String) (value : Toml.Value) : Prop where
  color : key ∈ colorNames → Text value
  truth : key ∈ truthNames → Truth value

/-- Every setting that is there has a value as it should be. -/
structure Valid (entries : List (String × Toml.Value)) : Prop where
  enabled : ∀ value, entries.lookup "syntax-highlight" = some value → Truth value
  limit : ∀ value, entries.lookup "highlight-buffer-size-limit" = some value → Bound value
  debug : ∀ value, entries.lookup "debug" = some value → Truth value
  tokenMap : ∀ value, entries.lookup "token-map" = some value → TableOf (fun _ => Text) value
  faces : ∀ value, entries.lookup "faces" = some value → TableOf (fun _ => TableOf Attribute) value

theorem truthFaults_eq_nil {key : String} {value : Toml.Value} :
    truthFaults key value = [] ↔ Truth value := by
  cases value with
  | boolean b => exact ⟨fun _ => .plain b, fun _ => rfl⟩
  | string text => exact ⟨fun _ => .written text, fun _ => rfl⟩
  | integer | float | dateTime | array | table => exact ⟨nofun, nofun⟩

theorem textFaults_eq_nil {key : String} {value : Toml.Value} :
    textFaults key value = [] ↔ Text value := by
  unfold Text
  cases value <;> simp [textFaults]

theorem limitFaults_eq_nil {value : Toml.Value} : limitFaults value = [] ↔ Bound value := by
  cases value with
  | integer n =>
    simp only [limitFaults, ite_eq_right_iff, List.cons_ne_nil, imp_false, not_lt]
    constructor
    · exact .plain
    · rintro ⟨low⟩
      exact low
  | string text =>
    simp only [limitFaults, ite_eq_left_iff, List.cons_ne_nil, imp_false, not_not,
      Option.isSome_iff_exists]
    constructor
    · rintro ⟨n, number⟩
      exact .written number
    · rintro (_ | number)
      exact ⟨_, number⟩
  | boolean | float | dateTime | array | table => exact ⟨nofun, nofun⟩

theorem tableFaults_eq_nil {path : String} {faults : String × Toml.Value → List SettingFault}
    {entryIs : String → Toml.Value → Prop}
    (each : ∀ key value, faults (key, value) = [] ↔ entryIs key value) {value : Toml.Value} :
    tableFaults path faults value = [] ↔ TableOf entryIs value := by
  unfold TableOf
  cases value with
  | table entries =>
    simp [tableFaults, List.flatMap_eq_nil_iff, Toml.mem_sortEntries, each]
  | string | boolean | integer | float | dateTime | array => simp [tableFaults]

theorem attributeFaults_eq_nil {path key : String} {value : Toml.Value} :
    attributeFaults path (key, value) = [] ↔ Attribute key value := by
  unfold attributeFaults
  by_cases color : key ∈ colorNames
  · have other : key ∉ truthNames := by
      have apart : ∀ name ∈ colorNames, name ∉ truthNames := by decide
      exact apart key color
    rw [if_pos color, textFaults_eq_nil]
    exact ⟨fun text => ⟨fun _ => text, fun truth => absurd truth other⟩, fun is => is.color color⟩
  · rw [if_neg color]
    by_cases truth : key ∈ truthNames
    · rw [if_pos truth, truthFaults_eq_nil]
      exact ⟨fun is => ⟨fun text => absurd text color, fun _ => is⟩, fun is => is.truth truth⟩
    · rw [if_neg truth]
      exact ⟨fun _ => ⟨fun text => absurd text color, fun is => absurd is truth⟩, fun _ => rfl⟩

theorem faultsUnder_eq_nil {entries : List (String × Toml.Value)} {key : String}
    {faults : Toml.Value → List SettingFault} :
    faultsUnder entries key faults = [] ↔
      ∀ value, entries.lookup key = some value → faults value = [] := by
  unfold faultsUnder
  cases entries.lookup key <;> simp

theorem offences_eq_nil {entries : List (String × Toml.Value)} :
    offences entries = [] ↔ Valid entries := by
  have pairs : ∀ value, tableFaults "token-map" pairFaults value = [] ↔
      TableOf (fun _ => Text) value := fun _ => tableFaults_eq_nil fun _ _ => textFaults_eq_nil
  have faces : ∀ value, tableFaults "faces" faceFaults value = [] ↔
      TableOf (fun _ => TableOf Attribute) value :=
    fun _ => tableFaults_eq_nil fun _ _ => tableFaults_eq_nil fun _ _ => attributeFaults_eq_nil
  simp only [offences, List.append_eq_nil_iff, faultsUnder_eq_nil, truthFaults_eq_nil,
    limitFaults_eq_nil, pairs, faces]
  constructor
  · rintro ⟨⟨⟨⟨enabled, limit⟩, debug⟩, tokenMap⟩, faces⟩
    exact ⟨enabled, limit, debug, tokenMap, faces⟩
  · rintro ⟨enabled, limit, debug, tokenMap, faces⟩
    exact ⟨⟨⟨⟨enabled, limit⟩, debug⟩, tokenMap⟩, faces⟩

end Highlighting.Configuration
