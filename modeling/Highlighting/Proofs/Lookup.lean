import Highlighting.Proofs.Requests

/-! What a registry finds. After any requests its lexers are those that it accepted, in order, and
every way to look for the lexer of a file goes by the same claimants. -/
namespace Highlighting

/-- The lexers that a resolution names. -/
def Resolution.candidates : Resolution → List Lexer
  | notFound => []
  | found lexer => [lexer]
  | ambiguous lexers => lexers

namespace Registry

/- A request adds to the lexers what it was seen to register, and nothing else. -/

theorem lexers_modeForLexer (r : Registry) (lexer : Lexer) :
    (r.modeForLexer lexer).2.lexers = r.lexers := by
  cases kept : r.modes.get? lexer.id with
  | some mode => rw [modeForLexer_of_kept kept]
  | none => rw [modeForLexer_of_missing kept]

theorem lexers_of_effect {r later : Registry} {x : Request} {handed : Option Mode}
    (done : r.Effect x handed later) (other : ∀ lexer, x ≠ .register lexer) :
    later.lexers = r.lexers := by
  cases done with
  | grow => exact absurd rfl (other _)
  | lookUp => exact lexers_modeForLexer r _
  | bind => rfl
  | keep => rfl

theorem lexers_after (r : Registry) (x : Request) :
    (r.after x).lexers = r.lexers ++ (r.accepted? x).toList := by
  cases x with
  | register lexer =>
    by_cases taken : lexer.id ∈ r.ids
    · simp only [after, accepted?, answer, serve, register_of_mem taken]
      exact (List.append_nil _).symm
    · simp only [after, accepted?, answer, serve, register_of_notMem taken]
      rfl
  | byId | ids | select | resolve | matchesAny | modeForFile | modeForLexer | registerMode
  | plainMode | cachedModes | documentMode =>
    refine (lexers_of_effect (r.effect _) ?_).trans (List.append_nil _).symm
    intro lexer same
    cases same

theorem lexers_run (r : Registry) (requests : List Request) :
    (r.run requests).lexers = r.lexers ++ r.accepted requests := by
  induction requests generalizing r with
  | nil => exact (List.append_nil _).symm
  | cons x requests ih =>
    rw [run, List.foldl_cons, ← run, ih, lexers_after, List.append_assoc]
    rfl

/-- A rejected lexer leaves no trace. -/
theorem serve_register_of_mem {r : Registry} {lexer : Lexer} (taken : lexer.id ∈ r.ids) :
    r.serve (.register lexer) = (.registered (.error (.duplicateLexer lexer.id)), r) := by
  simp only [serve, register_of_mem taken]

/- Ways to look for the lexer of a file. -/

theorem candidates_select (r : Registry) (path : String) :
    (r.select path).candidates = r.lexers.filter (·.claims path) := by
  rw [select]
  generalize r.lexers.filter (·.claims path) = claimants
  rcases claimants with _ | ⟨first, _ | ⟨second, others⟩⟩ <;> rfl

/-- The kind of a resolution tells how many claimants there are. -/
theorem select_kind_iff (r : Registry) (path : String) :
    (r.select path = .notFound ↔ (r.lexers.filter (·.claims path)).length = 0) ∧
      ((∃ lexer, r.select path = .found lexer) ↔
        (r.lexers.filter (·.claims path)).length = 1) ∧
      ((∃ lexers, r.select path = .ambiguous lexers) ↔
        2 ≤ (r.lexers.filter (·.claims path)).length) := by
  rw [select]
  generalize r.lexers.filter (·.claims path) = claimants
  rcases claimants with _ | ⟨first, _ | ⟨second, others⟩⟩ <;> simp

theorem resolve?_eq_head? (r : Registry) (path : String) :
    r.resolve? path = (r.lexers.filter (·.claims path)).head? := by
  rw [resolve?_eq_find?, List.head?_filter]

theorem matchesAny_eq (r : Registry) (path : String) :
    r.matchesAny path = (r.resolve? path).isSome := by
  rw [resolve?_eq_find?, matchesAny, Bool.eq_iff_iff, List.any_eq_true, List.find?_isSome]

theorem isSome_modeForFile (r : Registry) (path : String) :
    (r.modeForFile path).1.isSome = (r.resolve? path).isSome := by
  cases resolved : r.resolve? path with
  | none =>
    rw [modeForFile_of_unresolved resolved]
    rfl
  | some lexer =>
    rw [modeForFile_of_resolve? resolved]
    rfl

/-- A shared mode carries its lexer and the mapping of the registry, from its first use on. -/
theorem Consistent.carried_modeForLexer {r : Registry} (consistent : r.Consistent) {lexer : Lexer}
    (registered : lexer ∈ r.lexers) :
    (r.modeForLexer lexer).1.lexer = some lexer ∧
      (r.modeForLexer lexer).1.mapping = r.mapping := by
  have extended := extends_modeForLexer r lexer
  have found := (byId?_eq_some_iff consistent.distinct).mpr ⟨registered, rfl⟩
  obtain ⟨other, same, carried, mapping⟩ := (consistent.modeForLexer registered).carried
    lexer.id _ (get?_modeForLexer r lexer)
  cases (extended.byId? found).symm.trans same
  exact ⟨carried, mapping.trans extended.mapping⟩

/-- The mode of a document has the lexer that its file resolves to, if any, and in any case the
mapping of the registry. -/
theorem Consistent.documentMode {r : Registry} (consistent : r.Consistent) (path : String) :
    (r.documentMode path).1.lexer = r.resolve? path ∧
      (r.documentMode path).1.mapping = r.mapping := by
  rw [Registry.documentMode]
  cases resolved : r.resolve? path with
  | none =>
    rw [modeForFile_of_unresolved resolved]
    exact ⟨rfl, rfl⟩
  | some lexer =>
    rw [modeForFile_of_resolve? resolved]
    exact consistent.carried_modeForLexer (mem_of_resolve? resolved)

/-- What a registry finds after any requests. Its lexers are those that it accepted, in order and
under ids of their own; a lexer of a taken id is rejected and leaves no trace. For a file, all that
claim it are listed and the first of them is used, whichever way one looks. -/
theorem lookups_after_requests (mapping : Mapping) (requests : List Request) (path : String) :
    let first : Registry := { mapping := mapping }
    let r := first.run requests
    let accepted := first.accepted requests
    let claimants := accepted.filter fun lexer => lexer.patterns.any (·.isMatch path)
    r.ids.Nodup ∧ r.ids = accepted.map (·.id) ∧
      (∀ lexer, lexer.id ∈ r.ids →
        r.answer (.register lexer) = .registered (.error (.duplicateLexer lexer.id)) ∧
          ∀ later, (r.after (.register lexer)).answers later = r.answers later) ∧
      (∀ lexer, lexer.id ∉ r.ids → r.answer (.register lexer) = .registered (.ok ())) ∧
      (∀ id lexer, r.byId? id = some lexer ↔ lexer ∈ accepted ∧ lexer.id = id) ∧
      (r.select path).candidates = claimants ∧
      (r.select path = .notFound ↔ claimants.length = 0) ∧
      ((∃ lexer, r.select path = .found lexer) ↔ claimants.length = 1) ∧
      ((∃ lexers, r.select path = .ambiguous lexers) ↔ 2 ≤ claimants.length) ∧
      r.resolve? path = claimants.head? ∧
      r.matchesAny path = (r.resolve? path).isSome ∧
      (r.modeForFile path).1.isSome = (r.resolve? path).isSome ∧
      (r.documentMode path).1.lexer = r.resolve? path ∧
      (r.documentMode path).1.mapping = mapping := by
  intro first r accepted claimants
  have consistent : r.Consistent := (consistent_empty mapping).run requests
  have same : r.lexers = accepted := lexers_run first requests
  have claiming : r.lexers.filter (·.claims path) = claimants := congrArg (List.filter _) same
  have unchanged : r.mapping = mapping := (extends_run first requests).mapping
  have kinds := select_kind_iff r path
  obtain ⟨lexer, carried⟩ := consistent.documentMode path
  rw [claiming] at kinds
  refine ⟨consistent.distinct, congrArg (List.map _) same, ?_, ?_, ?_, ?_, kinds.1, kinds.2.1,
    kinds.2.2, ?_, matchesAny_eq r path, isSome_modeForFile r path, lexer,
    carried.trans unchanged⟩
  · intro lexer taken
    have rejected := serve_register_of_mem taken
    rw [answer, after, rejected]
    exact ⟨rfl, fun later => rfl⟩
  · intro lexer free
    simp only [answer, serve, register_of_notMem free]
  · intro id lexer
    rw [← same]
    exact byId?_eq_some_iff consistent.distinct
  · rw [← claiming]
    exact candidates_select r path
  · rw [← claiming]
    exact resolve?_eq_head? r path

end Registry

end Highlighting
