import Highlighting.Proofs.Registration
import Highlighting.Proofs.TableLookup

/-! A registry that serves requests. What a request can do to it is said once, for every request: it
takes in a lexer of a new id, looks up the shared mode of a registered lexer, makes a mode that is
not shared, or leaves the registry as it is. What holds after any requests follows by induction. -/
namespace Highlighting

namespace Registry

/-- What a registry can be asked. The shared mode of a lexer is asked for by the id under which the
lexer is registered. -/
inductive Request where
  | register (lexer : Lexer)
  | byId (id : String)
  | ids
  | select (path : String)
  | resolve (path : String)
  | matchesAny (path : String)
  | modeForFile (path : String)
  | modeForLexer (id : String)
  | registerMode (id : String) (mapping : Mapping)
  | plainMode
  | cachedModes
  | documentMode (path : String)

inductive Answer where
  | registered (outcome : Except Error Unit)
  | lexer (found : Option Lexer)
  | ids (all : List String)
  | selection (resolution : Resolution)
  | flag (holds : Bool)
  | mode (found : Option Mode)
  | bound (outcome : Except Error Mode)
  | count (n : Nat)
  | document (dm : DocumentMode)

/-- The mode that an answer hands out. -/
def Answer.mode? : Answer → Option Mode
  | mode found => found
  | bound outcome => outcome.toOption
  | document dm => some dm.mode
  | _ => none

/-- The answer to a request, and the registry after it. -/
def serve (r : Registry) : Request → Answer × Registry
  | .register lexer =>
    match r.register lexer with
    | .ok grown => (.registered (.ok ()), grown)
    | .error e => (.registered (.error e), r)
  | .byId id => (.lexer (r.byId? id), r)
  | .ids => (.ids r.ids, r)
  | .select path => (.selection (r.select path), r)
  | .resolve path => (.lexer (r.resolve? path), r)
  | .matchesAny path => (.flag (r.matchesAny path), r)
  | .modeForFile path => (.mode (r.modeForFile path).1, (r.modeForFile path).2)
  | .modeForLexer id =>
    match r.byId? id with
    | none => (.mode none, r)
    | some lexer => (.mode (some (r.modeForLexer lexer).1), (r.modeForLexer lexer).2)
  | .registerMode id mapping =>
    match r.registerMode id mapping with
    | .ok (mode, after) => (.bound (.ok mode), after)
    | .error e => (.bound (.error e), r)
  | .plainMode => (.mode (some r.plainMode), r)
  | .cachedModes => (.count r.cachedModes, r)
  | .documentMode path => (.document (r.documentMode path).1, (r.documentMode path).2)

abbrev answer (r : Registry) (x : Request) : Answer :=
  (r.serve x).1

abbrev after (r : Registry) (x : Request) : Registry :=
  (r.serve x).2

def run (r : Registry) (requests : List Request) : Registry :=
  requests.foldl after r

/-- What requests contribute one after the other, each read off the registry that serves it. -/
def gather {α : Type} (take : Registry → Request → Option α) (r : Registry) :
    List Request → List α
  | [] => []
  | x :: requests => (take r x).toList ++ gather take (r.after x) requests

def answers (r : Registry) (requests : List Request) : List Answer :=
  r.gather (fun r x => some (r.answer x)) requests

/-- The lexer that a request registers, unless it is rejected. -/
def accepted? (r : Registry) (x : Request) : Option Lexer :=
  match x, r.answer x with
  | .register lexer, .registered (.ok ()) => some lexer
  | _, _ => none

/-- The lexers that are registered along a run, first to last. -/
def accepted (r : Registry) (requests : List Request) : List Lexer :=
  r.gather accepted? requests

/-- The lexer whose shared mode a request looks up. -/
def lookedUp? (r : Registry) : Request → Option Lexer
  | .modeForFile path => r.resolve? path
  | .modeForLexer id => r.byId? id
  | .documentMode path => r.resolve? path
  | _ => none

/-- The lexers whose shared modes are looked up along a run. -/
def lookups (r : Registry) (requests : List Request) : List Lexer :=
  r.gather lookedUp? requests

/-- The modes that are handed out along a run, shared or not. -/
def handedOut (r : Registry) (requests : List Request) : List Mode :=
  r.gather (fun r x => (r.answer x).mode?) requests

/- Lookups in a list of lexers. -/

theorem resolve?_eq_find? (r : Registry) (path : String) :
    r.resolve? path = r.lexers.find? (·.claims path) := by
  rw [← List.head?_filter, resolve?, select]
  cases r.lexers.filter (·.claims path) with
  | nil => rfl
  | cons lexer others =>
    cases others with
    | nil => rfl
    | cons other others => rfl

theorem register_of_mem {r : Registry} {lexer : Lexer} (taken : lexer.id ∈ r.ids) :
    r.register lexer = .error (.duplicateLexer lexer.id) := by
  obtain ⟨other, registered, same⟩ := List.mem_map.mp taken
  have present : r.lexers.any (·.id = lexer.id) = true :=
    List.any_eq_true.mpr ⟨other, registered, decide_eq_true same⟩
  rw [register, if_pos present]

theorem register_of_notMem {r : Registry} {lexer : Lexer} (free : lexer.id ∉ r.ids) :
    r.register lexer = .ok { r with lexers := r.lexers ++ [lexer] } := by
  have absent : ¬ r.lexers.any (·.id = lexer.id) = true := by
    intro present
    obtain ⟨other, registered, same⟩ := List.any_eq_true.mp present
    exact free (List.mem_map.mpr ⟨other, registered, of_decide_eq_true same⟩)
  rw [register, if_neg absent]

theorem find?_id {lexers : List Lexer} (distinct : (lexers.map (·.id)).Nodup) {lexer : Lexer}
    (member : lexer ∈ lexers) : lexers.find? (·.id = lexer.id) = some lexer := by
  induction lexers with
  | nil => cases member
  | cons first rest ih =>
    obtain ⟨apart, distinct⟩ := List.nodup_cons.mp distinct
    rcases List.mem_cons.mp member with rfl | member
    · rw [List.find?_cons_of_pos (by simp)]
    · have other : ¬ first.id = lexer.id := by
        intro same
        exact apart (List.mem_map.mpr ⟨lexer, member, same.symm⟩)
      rw [List.find?_cons_of_neg (by simp [other]), ih distinct member]

theorem byId?_eq_some_iff {r : Registry} (distinct : r.ids.Nodup) {id : String} {lexer : Lexer} :
    r.byId? id = some lexer ↔ lexer ∈ r.lexers ∧ lexer.id = id := by
  constructor
  · intro found
    exact ⟨List.mem_of_find?_eq_some found, by simpa using List.find?_some found⟩
  · rintro ⟨member, rfl⟩
    exact find?_id distinct member

theorem mem_of_lookedUp? {r : Registry} {x : Request} {lexer : Lexer}
    (asked : r.lookedUp? x = some lexer) : lexer ∈ r.lexers := by
  cases x with
  | modeForFile path => exact mem_of_resolve? asked
  | modeForLexer id => exact List.mem_of_find?_eq_some asked
  | documentMode path => exact mem_of_resolve? asked
  | register | byId | ids | select | resolve | matchesAny | registerMode | plainMode
  | cachedModes => cases asked

/- A shared mode is kept, or made and kept. -/

theorem modeForLexer_of_kept {r : Registry} {lexer : Lexer} {mode : Mode}
    (kept : r.modes.get? lexer.id = some mode) : r.modeForLexer lexer = (mode, r) := by
  simp only [modeForLexer, kept]

theorem modeForLexer_of_missing {r : Registry} {lexer : Lexer}
    (missing : r.modes.get? lexer.id = none) :
    r.modeForLexer lexer = (⟨r.nextSerial, some lexer, r.mapping⟩,
      { r with
        nextSerial := r.nextSerial + 1
        modes := r.modes.set lexer.id ⟨r.nextSerial, some lexer, r.mapping⟩ }) := by
  simp only [modeForLexer, missing]
  rfl

theorem get?_modeForLexer (r : Registry) (lexer : Lexer) :
    (r.modeForLexer lexer).2.modes.get? lexer.id = some (r.modeForLexer lexer).1 := by
  cases kept : r.modes.get? lexer.id with
  | some mode => rw [modeForLexer_of_kept kept, kept]
  | none =>
    rw [modeForLexer_of_missing kept, NameTable.get?_set, if_pos rfl]

theorem modeForFile_of_resolve? {r : Registry} {path : String} {lexer : Lexer}
    (resolved : r.resolve? path = some lexer) :
    r.modeForFile path = (some (r.modeForLexer lexer).1, (r.modeForLexer lexer).2) := by
  simp only [modeForFile, resolved]

theorem modeForFile_of_unresolved {r : Registry} {path : String}
    (unresolved : r.resolve? path = none) : r.modeForFile path = (none, r) := by
  simp only [modeForFile, unresolved]

/-- What a request does: the mode that it hands out, and the registry after it. -/
inductive Effect (r : Registry) : Request → Option Mode → Registry → Prop where
  | grow {lexer : Lexer} (free : lexer.id ∉ r.ids) :
    Effect r (.register lexer) none { r with lexers := r.lexers ++ [lexer] }
  | lookUp {x : Request} {lexer : Lexer} (asked : r.lookedUp? x = some lexer) :
    Effect r x (some (r.modeForLexer lexer).1) (r.modeForLexer lexer).2
  | bind {id : String} {mapping : Mapping} {lexer : Lexer} (found : r.byId? id = some lexer) :
    Effect r (.registerMode id mapping) (some ⟨r.nextSerial, some lexer, mapping⟩)
      { r with nextSerial := r.nextSerial + 1 }
  | keep {x : Request} {mode? : Option Mode} (unasked : r.lookedUp? x = none)
    (plain : ∀ mode, mode? = some mode → mode = r.plainMode) : Effect r x mode? r

theorem Effect.silent {r : Registry} {x : Request} (unasked : r.lookedUp? x = none) :
    r.Effect x none r := by
  refine .keep unasked ?_
  intro mode handed
  cases handed

theorem effect (r : Registry) (x : Request) : r.Effect x (r.answer x).mode? (r.after x) := by
  cases x with
  | register lexer =>
    by_cases taken : lexer.id ∈ r.ids
    · simp only [answer, after, serve, register_of_mem taken]
      exact .silent rfl
    · simp only [answer, after, serve, register_of_notMem taken]
      exact .grow taken
  | modeForFile path =>
    simp only [answer, after, serve]
    cases resolved : r.resolve? path with
    | none =>
      rw [modeForFile_of_unresolved resolved]
      exact .silent resolved
    | some lexer =>
      rw [modeForFile_of_resolve? resolved]
      exact .lookUp resolved
  | modeForLexer id =>
    simp only [answer, after, serve]
    cases found : r.byId? id with
    | none => exact .silent found
    | some lexer => exact .lookUp found
  | registerMode id mapping =>
    simp only [answer, after, serve, registerMode]
    cases found : r.byId? id with
    | none => exact .silent rfl
    | some lexer => exact .bind found
  | documentMode path =>
    simp only [answer, after, serve, documentMode]
    cases resolved : r.resolve? path with
    | none =>
      rw [modeForFile_of_unresolved resolved]
      refine .keep resolved ?_
      rintro mode ⟨⟩
      rfl
    | some lexer =>
      rw [modeForFile_of_resolve? resolved]
      exact .lookUp resolved
  | plainMode =>
    refine .keep rfl ?_
    rintro mode ⟨⟩
    rfl
  | byId | ids | select | resolve | matchesAny | cachedModes => exact .silent rfl

/-- One registry comes out of another: no lexer and no shared mode is lost or replaced. -/
structure Extends (r later : Registry) : Prop where
  lexers : r.lexers <+: later.lexers
  modes : ∀ id mode, r.modes.get? id = some mode → later.modes.get? id = some mode
  mapping : later.mapping = r.mapping
  serial : r.nextSerial ≤ later.nextSerial

theorem Extends.refl (r : Registry) : r.Extends r :=
  ⟨List.prefix_refl _, fun _ _ kept => kept, rfl, Nat.le_refl _⟩

theorem Extends.trans {r later last : Registry} (first : r.Extends later)
    (second : later.Extends last) : r.Extends last :=
  ⟨first.lexers.trans second.lexers, fun id mode kept => second.modes id mode
    (first.modes id mode kept), second.mapping.trans first.mapping,
    Nat.le_trans first.serial second.serial⟩

theorem extends_modeForLexer (r : Registry) (lexer : Lexer) :
    r.Extends (r.modeForLexer lexer).2 := by
  cases kept : r.modes.get? lexer.id with
  | some mode =>
    rw [modeForLexer_of_kept kept]
    exact .refl r
  | none =>
    rw [modeForLexer_of_missing kept]
    refine ⟨List.prefix_refl _, ?_, rfl, Nat.le_succ _⟩
    intro id mode present
    have other : id ≠ lexer.id := by
      rintro rfl
      cases kept.symm.trans present
    rw [NameTable.get?_set, if_neg other]
    exact present

theorem extends_after (r : Registry) (x : Request) : r.Extends (r.after x) := by
  have done := r.effect x
  generalize (r.answer x).mode? = handed, r.after x = later at done ⊢
  cases done with
  | grow => exact ⟨List.prefix_append .., fun _ _ kept => kept, rfl, Nat.le_refl _⟩
  | lookUp => exact extends_modeForLexer r _
  | bind => exact ⟨List.prefix_refl _, fun _ _ kept => kept, rfl, Nat.le_succ _⟩
  | keep => exact .refl r

theorem extends_run (r : Registry) (requests : List Request) : r.Extends (r.run requests) := by
  induction requests generalizing r with
  | nil => exact .refl r
  | cons x requests ih => exact (extends_after r x).trans (ih (r.after x))

/- What was found once is found ever after. -/

theorem find?_of_prefix {lexers more : List Lexer} (grown : lexers <+: more) {p : Lexer → Bool}
    {lexer : Lexer} (found : lexers.find? p = some lexer) : more.find? p = some lexer := by
  obtain ⟨rest, rfl⟩ := grown
  rw [List.find?_append, found, Option.some_or]

theorem Extends.byId? {r later : Registry} (extended : r.Extends later) {id : String}
    {lexer : Lexer} (found : r.byId? id = some lexer) : later.byId? id = some lexer :=
  find?_of_prefix extended.lexers found

theorem Extends.resolve? {r later : Registry} (extended : r.Extends later) {path : String}
    {lexer : Lexer} (resolved : r.resolve? path = some lexer) :
    later.resolve? path = some lexer := by
  rw [resolve?_eq_find?] at resolved ⊢
  exact find?_of_prefix extended.lexers resolved

/-- Lexers have ids of their own; a shared mode belongs to the lexer of its id, carries the mapping
of the registry, and has a number that no other shared mode has. -/
structure Consistent (r : Registry) : Prop where
  distinct : r.ids.Nodup
  names : r.modes.names.Nodup
  carried : ∀ id mode, r.modes.get? id = some mode →
    ∃ lexer, r.byId? id = some lexer ∧ mode.lexer = some lexer ∧ mode.mapping = r.mapping
  positive : 0 < r.nextSerial
  numbered : ∀ id mode, r.modes.get? id = some mode →
    0 < mode.serial ∧ mode.serial < r.nextSerial
  apart : ∀ id other mode another, r.modes.get? id = some mode →
    r.modes.get? other = some another → mode.serial = another.serial → id = other

theorem consistent_empty (mapping : Mapping) : Consistent { mapping := mapping } :=
  ⟨.nil, .nil, nofun, Nat.one_pos, nofun, nofun⟩

theorem Consistent.modeForLexer {r : Registry} (consistent : r.Consistent) {lexer : Lexer}
    (registered : lexer ∈ r.lexers) : (r.modeForLexer lexer).2.Consistent := by
  cases kept : r.modes.get? lexer.id with
  | some mode =>
    rw [modeForLexer_of_kept kept]
    exact consistent
  | none =>
    rw [modeForLexer_of_missing kept]
    have absent : lexer.id ∉ r.modes.names := NameTable.get?_eq_none_iff.mp kept
    refine ⟨consistent.distinct, ?_, ?_, Nat.succ_pos _, ?_, ?_⟩
    · rw [NameTable.names_set_of_absent kept]
      exact List.nodup_append_comm.mp (List.nodup_cons.mpr ⟨absent, consistent.names⟩)
    · intro id mode present
      rw [NameTable.get?_set] at present
      split at present
      · rename_i same
        cases present
        exact ⟨lexer, (byId?_eq_some_iff consistent.distinct).mpr ⟨registered, same.symm⟩, rfl, rfl⟩
      · exact consistent.carried id mode present
    · intro id mode present
      rw [NameTable.get?_set] at present
      split at present
      · cases present
        exact ⟨consistent.positive, Nat.lt_succ_self _⟩
      · have bounds := consistent.numbered id mode present
        exact ⟨bounds.1, Nat.lt_succ_of_lt bounds.2⟩
    · intro id other mode another present also same
      rw [NameTable.get?_set] at present also
      -- The new number is above all others, so equal numbers are both new or both old.
      split at present <;> split at also
      · rename_i here there
        exact here.trans there.symm
      · cases present
        have bounds := consistent.numbered other another also
        exact absurd same (Nat.ne_of_gt bounds.2)
      · cases also
        have bounds := consistent.numbered id mode present
        exact absurd same (Nat.ne_of_lt bounds.2)
      · exact consistent.apart id other mode another present also same

theorem Consistent.after {r : Registry} (consistent : r.Consistent) (x : Request) :
    (r.after x).Consistent := by
  have extended := extends_after r x
  have done := r.effect x
  generalize (r.answer x).mode? = handed, r.after x = later at extended done ⊢
  cases done with
  | grow free =>
    refine ⟨?_, consistent.names, ?_, consistent.positive, consistent.numbered, consistent.apart⟩
    · rw [ids, List.map_append]
      exact List.nodup_append_comm.mp (List.nodup_cons.mpr ⟨free, consistent.distinct⟩)
    · intro id mode kept
      obtain ⟨lexer, found, carried⟩ := consistent.carried id mode kept
      exact ⟨lexer, extended.byId? found, carried⟩
  | lookUp asked => exact consistent.modeForLexer (mem_of_lookedUp? asked)
  | bind =>
    refine ⟨consistent.distinct, consistent.names, consistent.carried, Nat.succ_pos _, ?_,
      consistent.apart⟩
    intro id mode kept
    have bounds := consistent.numbered id mode kept
    exact ⟨bounds.1, Nat.lt_succ_of_lt bounds.2⟩
  | keep => exact consistent

theorem Consistent.run {r : Registry} (consistent : r.Consistent) (requests : List Request) :
    (r.run requests).Consistent := by
  induction requests generalizing r with
  | nil => exact consistent
  | cons x requests ih => exact ih (consistent.after x)

end Registry

end Highlighting
