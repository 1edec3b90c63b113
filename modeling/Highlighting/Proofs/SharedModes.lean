import Highlighting.Proofs.Requests
import Mathlib.Data.List.Dedup

/-! The modes that a registry hands out. Lookups of one lexer share one mode for good, lookups of
two lexers never do, and a mode that is made for a mapping of its own is shared with nobody. -/
namespace Highlighting.Registry

theorem served_of_lookedUp? {r : Registry} {x : Request} {lexer : Lexer}
    (asked : r.lookedUp? x = some lexer) :
    (r.answer x).mode? = some (r.modeForLexer lexer).1 ∧ r.after x = (r.modeForLexer lexer).2 := by
  have done := r.effect x
  generalize (r.answer x).mode? = handed, r.after x = later at done ⊢
  cases done with
  | grow => cases asked
  | lookUp same =>
    cases asked.symm.trans same
    exact ⟨rfl, rfl⟩
  | bind => cases asked
  | keep unasked => cases asked.symm.trans unasked

theorem modeForLexer_of_extends {r later : Registry} {lexer other : Lexer}
    (extended : (r.modeForLexer lexer).2.Extends later) (same : other.id = lexer.id) :
    (later.modeForLexer other).1 = (r.modeForLexer lexer).1 := by
  have kept := extended.modes lexer.id _ (get?_modeForLexer r lexer)
  rw [← same] at kept
  rw [modeForLexer_of_kept kept]

/-- Both modes are kept after the second lookup, under two ids. -/
theorem serial_modeForLexer_ne {r later : Registry} {lexer other : Lexer}
    (extended : (r.modeForLexer lexer).2.Extends later) (consistent : later.Consistent)
    (registered : other ∈ later.lexers) (apart : other.id ≠ lexer.id) :
    (later.modeForLexer other).1.serial ≠ (r.modeForLexer lexer).1.serial := by
  intro same
  have ended := extended.trans (extends_modeForLexer later other)
  have kept := ended.modes lexer.id _ (get?_modeForLexer r lexer)
  have added := get?_modeForLexer later other
  exact apart ((consistent.modeForLexer registered).apart _ _ _ _ added kept same)

/-- A lookup hands out a mode, which the later lookups of the same lexer hand out again, and no
lookup of another one. -/
theorem Consistent.shares {r : Registry} (consistent : r.Consistent) {x : Request} {lexer : Lexer}
    (asked : r.lookedUp? x = some lexer) :
    ∃ mode, (r.answer x).mode? = some mode ∧
      ∀ later y other, ((r.after x).run later).lookedUp? y = some other →
        ∃ another, (((r.after x).run later).answer y).mode? = some another ∧
          (other.id = lexer.id → another = mode) ∧
          (other.id ≠ lexer.id → another.serial ≠ mode.serial) := by
  obtain ⟨handed, after⟩ := served_of_lookedUp? asked
  refine ⟨_, handed, ?_⟩
  intro later y other again
  have extended : (r.modeForLexer lexer).2.Extends ((r.after x).run later) := by
    rw [← after]
    exact extends_run (r.after x) later
  have sound := (consistent.after x).run later
  exact ⟨_, (served_of_lookedUp? again).1, modeForLexer_of_extends extended,
    serial_modeForLexer_ne extended sound (mem_of_lookedUp? again)⟩

/- As many modes are shared as lexers were looked up. -/

theorem mem_names_modeForLexer (r : Registry) (lexer : Lexer) (id : String) :
    id ∈ (r.modeForLexer lexer).2.modes.names ↔ id ∈ r.modes.names ∨ lexer.id = id := by
  cases kept : r.modes.get? lexer.id with
  | some mode =>
    have present : lexer.id ∈ r.modes.names := by
      rw [NameTable.mem_names_iff, kept]
      rfl
    rw [modeForLexer_of_kept kept]
    refine ⟨.inl, ?_⟩
    rintro (named | rfl)
    · exact named
    · exact present
  | none =>
    rw [modeForLexer_of_missing kept]
    simp only [NameTable.names_set_of_absent kept, List.mem_append, List.mem_singleton, eq_comm]

theorem mem_names_after (r : Registry) (x : Request) (id : String) :
    id ∈ (r.after x).modes.names ↔
      id ∈ r.modes.names ∨ id ∈ (r.lookedUp? x).toList.map (·.id) := by
  have done := r.effect x
  generalize (r.answer x).mode? = handed, r.after x = later at done ⊢
  cases done with
  | grow => exact (or_iff_left List.not_mem_nil).symm
  | lookUp asked =>
    rw [mem_names_modeForLexer, asked]
    simp only [Option.toList_some, List.map_cons, List.map_nil, List.mem_singleton, eq_comm]
  | bind => exact (or_iff_left List.not_mem_nil).symm
  | keep unasked =>
    rw [unasked]
    exact (or_iff_left List.not_mem_nil).symm

theorem mem_names_run (r : Registry) (requests : List Request) (id : String) :
    id ∈ (r.run requests).modes.names ↔
      id ∈ r.modes.names ∨ id ∈ (r.lookups requests).map (·.id) := by
  induction requests generalizing r with
  | nil => exact (or_iff_left List.not_mem_nil).symm
  | cons x requests ih =>
    have parts : r.lookups (x :: requests) =
        (r.lookedUp? x).toList ++ (r.after x).lookups requests := rfl
    rw [run, List.foldl_cons, ← run, ih, mem_names_after, parts, List.map_append, List.mem_append,
      or_assoc]

theorem cachedModes_run (mapping : Mapping) (requests : List Request) :
    (run { mapping := mapping } requests).cachedModes =
      ((lookups { mapping := mapping } requests).map (·.id)).dedup.length := by
  have distinct := ((consistent_empty mapping).run requests).names
  have same : (run { mapping := mapping } requests).modes.names.Perm
      ((lookups { mapping := mapping } requests).map (·.id)).dedup := by
    rw [List.perm_ext_iff_of_nodup distinct (List.nodup_dedup _)]
    intro id
    rw [mem_names_run, List.mem_dedup]
    exact or_iff_right List.not_mem_nil
  rw [← same.length_eq, cachedModes, NameTable.size, NameTable.names, List.length_map]

/- A mode of its own is made past the shared ones. -/

/-- No lookup hands out the mode of a number, neither now nor later. -/
structure Unshared (r : Registry) (n : Nat) : Prop where
  positive : 0 < n
  below : n < r.nextSerial
  missing : ∀ id mode, r.modes.get? id = some mode → mode.serial ≠ n

theorem Unshared.modeForLexer {r : Registry} {n : Nat} (unshared : r.Unshared n)
    (lexer : Lexer) : (r.modeForLexer lexer).2.Unshared n := by
  cases kept : r.modes.get? lexer.id with
  | some mode =>
    rw [modeForLexer_of_kept kept]
    exact unshared
  | none =>
    rw [modeForLexer_of_missing kept]
    refine ⟨unshared.positive, Nat.lt_succ_of_lt unshared.below, ?_⟩
    intro id mode present
    rw [NameTable.get?_set] at present
    split at present
    · cases present
      exact Nat.ne_of_gt unshared.below
    · exact unshared.missing id mode present

theorem Unshared.after {r : Registry} {n : Nat} (unshared : r.Unshared n) (x : Request) :
    (r.after x).Unshared n ∧ ∀ mode, (r.answer x).mode? = some mode → mode.serial ≠ n := by
  have done := r.effect x
  generalize (r.answer x).mode? = handed, r.after x = later at done ⊢
  cases done with
  | grow => exact ⟨⟨unshared.positive, unshared.below, unshared.missing⟩, nofun⟩
  | @lookUp _ lexer =>
    have after := unshared.modeForLexer lexer
    refine ⟨after, ?_⟩
    rintro mode ⟨⟩
    exact after.missing lexer.id _ (get?_modeForLexer r lexer)
  | bind =>
    refine ⟨⟨unshared.positive, Nat.lt_succ_of_lt unshared.below, unshared.missing⟩, ?_⟩
    rintro mode ⟨⟩
    exact Nat.ne_of_gt unshared.below
  | keep _ plain =>
    refine ⟨unshared, ?_⟩
    intro mode handed
    rw [plain mode handed]
    exact Nat.ne_of_lt unshared.positive

theorem Unshared.not_handedOut {r : Registry} {n : Nat} (unshared : r.Unshared n)
    {requests : List Request} {mode : Mode} (handed : mode ∈ r.handedOut requests) :
    mode.serial ≠ n := by
  induction requests generalizing r with
  | nil => cases handed
  | cons x requests ih =>
    obtain ⟨after, other⟩ := unshared.after x
    rcases List.mem_append.mp handed with now | later
    · exact other mode (Option.mem_toList.mp now)
    · exact ih after later

theorem Consistent.serial_lt {r : Registry} (consistent : r.Consistent) {x : Request}
    {mode : Mode} (handed : (r.answer x).mode? = some mode) :
    mode.serial < (r.after x).nextSerial := by
  have done := r.effect x
  rw [handed] at done
  generalize r.after x = later at done ⊢
  cases done with
  | @lookUp _ lexer asked =>
    have after := consistent.modeForLexer (mem_of_lookedUp? asked)
    exact (after.numbered lexer.id _ (get?_modeForLexer r lexer)).2
  | bind => exact Nat.lt_succ_self _
  | keep _ plain =>
    rw [plain mode rfl]
    exact consistent.positive

theorem Consistent.serial_lt_run {r : Registry} (consistent : r.Consistent)
    {requests : List Request} {mode : Mode} (handed : mode ∈ r.handedOut requests) :
    mode.serial < (r.run requests).nextSerial := by
  induction requests generalizing r with
  | nil => cases handed
  | cons x requests ih =>
    rcases List.mem_append.mp handed with now | later
    · have early := consistent.serial_lt (Option.mem_toList.mp now)
      exact Nat.lt_of_lt_of_le early (extends_run (r.after x) requests).serial
    · exact ih (consistent.after x) later

theorem serve_registerMode {r : Registry} {id : String} {lexer : Lexer}
    (found : r.byId? id = some lexer) (own : Mapping) :
    r.serve (.registerMode id own) = (.bound (.ok ⟨r.nextSerial, some lexer, own⟩),
      { r with nextSerial := r.nextSerial + 1 }) := by
  simp only [serve, registerMode, found]
  rfl

theorem Consistent.unshared {r : Registry} (consistent : r.Consistent) :
    Unshared { r with nextSerial := r.nextSerial + 1 } r.nextSerial := by
  refine ⟨consistent.positive, Nat.lt_succ_self _, ?_⟩
  intro id mode kept
  exact Nat.ne_of_lt (consistent.numbered id mode kept).2

/-- A request neither reads nor changes the shared modes: with others in their place it has the same
answer and leaves those as they are. -/
def Ignores (r : Registry) (x : Request) : Prop :=
  ∀ modes, serve { r with modes := modes } x = (r.answer x, { r.after x with modes := modes })

theorem ignores_registerMode (r : Registry) (id : String) (own : Mapping) :
    r.Ignores (.registerMode id own) := by
  intro modes
  have same : byId? { r with modes := modes } id = r.byId? id := rfl
  simp only [answer, after, serve, registerMode, same]
  cases r.byId? id <;> rfl

/-- The modes that are handed out along any requests. The mode of a file stays the same from its
first lookup on, for the file and for its lexer; two lookups have the same mode if and only if they
are of one lexer; there are as many shared modes as lexers were looked up, each with its lexer and
the mapping of the registry. A mode with a mapping of its own is handed out once. -/
theorem modes_after_requests (mapping : Mapping) (requests : List Request) :
    let first : Registry := { mapping := mapping }
    let r := first.run requests
    (∀ path mode, (r.modeForFile path).1 = some mode → ∀ later : List Request,
      let s := (r.modeForFile path).2.run later
      (s.modeForFile path).1 = some mode ∧
        ∀ lexer, r.resolve? path = some lexer → (s.modeForLexer lexer).1 = mode) ∧
      (∀ id mode, r.modes.get? id = some mode →
        ∃ lexer, r.byId? id = some lexer ∧ mode.lexer = some lexer ∧ mode.mapping = mapping) ∧
      (∀ x lexer, r.lookedUp? x = some lexer → ∃ mode, (r.answer x).mode? = some mode ∧
        ∀ later y other, ((r.after x).run later).lookedUp? y = some other →
          ∃ another, (((r.after x).run later).answer y).mode? = some another ∧
            (other.id = lexer.id → another = mode) ∧
            (other.id ≠ lexer.id → another.serial ≠ mode.serial)) ∧
      r.cachedModes = ((first.lookups requests).map (·.id)).dedup.length ∧
      r.Ignores .plainMode ∧ (∀ id own, r.Ignores (.registerMode id own)) ∧
      ∀ id own lexer, r.byId? id = some lexer →
        ∃ mode, r.answer (.registerMode id own) = .bound (.ok mode) ∧
          mode.serial ≠ r.plainMode.serial ∧
          ∀ later, ∀ other ∈ first.handedOut requests ++
            (r.after (.registerMode id own)).handedOut later, other.serial ≠ mode.serial := by
  intro first r
  have begun : first.Consistent := consistent_empty mapping
  have consistent : r.Consistent := begun.run requests
  have unchanged : r.mapping = mapping := (extends_run first requests).mapping
  refine ⟨?_, ?_, fun x lexer => consistent.shares, cachedModes_run mapping requests, fun _ => rfl,
    ignores_registerMode r, ?_⟩
  · intro path mode found later s
    cases resolved : r.resolve? path with
    | none =>
      rw [modeForFile_of_unresolved resolved] at found
      cases found
    | some lexer =>
      have extended : (r.modeForLexer lexer).2.Extends ((r.modeForFile path).2.run later) := by
        rw [modeForFile_of_resolve? resolved]
        exact extends_run (r.modeForLexer lexer).2 later
      have again := ((extends_modeForLexer r lexer).trans extended).resolve? resolved
      have same := modeForLexer_of_extends extended (rfl : lexer.id = lexer.id)
      rw [modeForFile_of_resolve? resolved] at found
      cases found
      refine ⟨?_, ?_⟩
      · rw [modeForFile_of_resolve? again, same]
      · rintro other ⟨⟩
        exact same
  · intro id mode kept
    obtain ⟨lexer, found, carried, mapped⟩ := consistent.carried id mode kept
    exact ⟨lexer, found, carried, mapped.trans unchanged⟩
  · intro id own lexer found
    have unshared := consistent.unshared
    rw [answer, after, serve_registerMode found own]
    refine ⟨_, rfl, Nat.ne_of_gt consistent.positive, ?_⟩
    intro later other handed
    rcases List.mem_append.mp handed with early | late
    · exact Nat.ne_of_lt (begun.serial_lt_run early)
    · exact unshared.not_handedOut late

end Highlighting.Registry
