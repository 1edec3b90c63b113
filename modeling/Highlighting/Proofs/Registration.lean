import Highlighting.Registry

/-! What a registry holds. Lexers of distinct ids can all be registered, and a document's mode
begins with the lexer that claims its file. -/
namespace Highlighting.Registry

/-- Lexers of distinct ids can all be registered. -/
theorem registerAll_of_nodup {r : Registry} {lexers : List Lexer}
    (distinct : (r.ids ++ lexers.map (·.id)).Nodup) :
    r.registerAll lexers = .ok { r with lexers := r.lexers ++ lexers } := by
  induction lexers generalizing r with
  | nil =>
    rw [List.append_nil]
    rfl
  | cons lexer lexers ih =>
    have free : r.lexers.any (·.id = lexer.id) = false := by
      have apart := (List.nodup_append.mp distinct).2.2
      simp only [List.any_eq_false, decide_eq_true_eq]
      intro other registered
      exact apart other.id (List.mem_map_of_mem registered) lexer.id (by simp)
    have added : r.register lexer = .ok { r with lexers := r.lexers ++ [lexer] } := by
      simp only [register, free, Bool.false_eq_true, if_false]
    have rest := @ih { r with lexers := r.lexers ++ [lexer] } (by simpa [ids] using distinct)
    rw [List.append_assoc] at rest
    simp only [registerAll, List.foldlM_cons, added]
    exact rest

theorem mem_of_resolve? {r : Registry} {path : String} {lexer : Lexer}
    (resolved : r.resolve? path = some lexer) : lexer ∈ r.lexers := by
  simp only [resolve?, select] at resolved
  split at resolved
  · cases resolved
  · rename_i only claimants
    cases resolved
    exact (List.mem_filter.mp (claimants ▸ List.mem_singleton.mpr rfl)).1
  · exact (List.mem_filter.mp (List.mem_of_head? resolved)).1

/-- Before a mode is shared, that of a document is the registry's, with nothing of its own. -/
theorem documentMode_of_unshared {r : Registry} (unshared : r.modes = {}) (path : String) :
    ∃ serial, (r.documentMode path).1 = { mode := ⟨serial, r.resolve? path, r.mapping⟩ } := by
  simp only [documentMode, modeForFile]
  cases r.resolve? path with
  | none => exact ⟨0, rfl⟩
  | some lexer =>
    have absent : r.modes.get? lexer.id = none := by
      rw [unshared]
      rfl
    simp only [modeForLexer, absent]
    exact ⟨r.nextSerial, rfl⟩

end Highlighting.Registry
