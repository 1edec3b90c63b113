import Highlighting.Proofs.Session

/-! The tokenizer that a session keeps. A factory is called only by a step that asks for a tokenizer
while none is kept, and finds the memory as the call before left it. What was built stays until
another lexer is set; a failure leaves nothing but its memory, and the next call may do better. -/
namespace Highlighting.Session

variable {σ : Type}

/-- A call of a factory, with the memory that it finds. -/
structure Call where
  lexer : Lexer
  memory : Memory

namespace Call

def outcome (call : Call) : Except Error Tokenizer :=
  call.lexer.build call.memory

def left (call : Call) : Memory :=
  call.lexer.memoryAfter call.memory

end Call

/-- The call that a step makes. -/
def call? (s : Session σ) (x : Step) : Option Call :=
  if s.asks x ∧ s.mode.built = none then s.mode.lexer.map (⟨·, s.mode.memory⟩) else none

/-- The calls that are made along a run, first to last. -/
def calls (fallback : Fallback σ) (s : Session σ) : List Step → List Call
  | [] => []
  | x :: steps => (s.call? x).toList ++ calls fallback (s.step fallback x) steps

/-- Calls of which each finds the memory as the one before left it, from one memory to another. -/
def Threads (last : Memory) : Memory → List Call → Prop
  | memory, [] => memory = last
  | memory, call :: calls => call.memory = memory ∧ Threads last call.left calls

theorem call?_eq_some_iff {s : Session σ} {x : Step} {call : Call} :
    s.call? x = some call ↔ (s.asks x = true ∧ s.mode.built = none) ∧
      s.mode.lexer = some call.lexer ∧ call.memory = s.mode.memory := by
  by_cases asked : s.asks x = true ∧ s.mode.built = none
  · rw [call?, if_pos asked, Option.map_eq_some_iff]
    constructor
    · rintro ⟨lexer, chosen, rfl⟩
      exact ⟨asked, chosen, rfl⟩
    · rintro ⟨-, chosen, found⟩
      exact ⟨call.lexer, chosen, by rw [← found]⟩
  · rw [call?, if_neg asked]
    exact ⟨nofun, fun told => absurd told.1 asked⟩

theorem call?_of_built {s : Session σ} {tokenizer : Tokenizer}
    (kept : s.mode.built = some tokenizer) (x : Step) : s.call? x = none := by
  rw [call?, if_neg]
  rintro ⟨_, missing⟩
  cases kept.symm.trans missing

/-- What a call comes to is kept if it is a tokenizer; of a failure only the memory stays. -/
theorem mode_of_call {s : Session σ} {x : Step} {call : Call} (called : s.call? x = some call)
    (fallback : Fallback σ) :
    (s.step fallback x).mode =
      { s.mode with memory := call.left, built := call.outcome.toOption } := by
  obtain ⟨⟨asked, missing⟩, chosen, found⟩ := call?_eq_some_iff.mp called
  rcases mode_step fallback s x with ⟨_, rfl, _⟩ | ⟨_, rfl, _⟩ | ⟨_, _, after⟩
  · cases asked
  · cases asked
  · rw [after, if_pos asked, DocumentMode.asked_of_missing chosen missing, Call.left, Call.outcome,
      found]

theorem asked_of_uncalled {s : Session σ} {x : Step} (uncalled : s.call? x = none)
    (asked : s.asks x = true) : s.mode.asked = s.mode := by
  cases chosen : s.mode.lexer with
  | none => exact DocumentMode.asked_of_unlexed chosen
  | some lexer =>
    cases memo : s.mode.built with
    | some tokenizer => exact DocumentMode.asked_of_built memo
    | none =>
      have called : s.call? x = some ⟨lexer, s.mode.memory⟩ :=
        call?_eq_some_iff.mpr ⟨⟨asked, memo⟩, chosen, rfl⟩
      cases uncalled.symm.trans called

theorem memory_of_uncalled {s : Session σ} {x : Step} (uncalled : s.call? x = none)
    (fallback : Fallback σ) :
    (s.step fallback x).mode.memory = s.mode.memory ∧
      (x.lexer? = none → (s.step fallback x).mode.built = s.mode.built) := by
  rcases mode_step fallback s x with ⟨lexer, rfl, after⟩ | ⟨mapping, rfl, after⟩ | ⟨_, _, after⟩
  · rw [after]
    exact ⟨rfl, nofun⟩
  · rw [after]
    exact ⟨rfl, fun _ => rfl⟩
  · have same : (s.step fallback x).mode = s.mode := by
      rw [after]
      split
      · rename_i asked
        exact asked_of_uncalled uncalled asked
      · rfl
    rw [same]
    exact ⟨rfl, fun _ => rfl⟩

/-- What stays of a mode while no lexer is set and no factory is called. -/
theorem quiet_run (fallback : Fallback σ) {s : Session σ} {steps : List Step}
    (unset : ∀ x ∈ steps, x.lexer? = none) (quiet : s.calls fallback steps = []) :
    (s.run fallback steps).mode.lexer = s.mode.lexer ∧
      (s.run fallback steps).mode.memory = s.mode.memory ∧
      (s.run fallback steps).mode.built = s.mode.built := by
  induction steps generalizing s with
  | nil => exact ⟨rfl, rfl, rfl⟩
  | cons x steps ih =>
    obtain ⟨first, later⟩ := List.forall_mem_cons.mp unset
    obtain ⟨uncalled, quiet⟩ := List.append_eq_nil_iff.mp quiet
    rw [Option.toList_eq_nil_iff] at uncalled
    obtain ⟨memory, built⟩ := memory_of_uncalled uncalled fallback
    have lexer : (s.step fallback x).mode.lexer = s.mode.lexer := by
      rw [lexer_step, first, Option.none_or]
    obtain ⟨lexer', memory', built'⟩ := ih later quiet
    exact ⟨lexer'.trans lexer, memory'.trans memory, built'.trans (built first)⟩

/-- What one step does to the tokenizer that is kept, and to the memory of the factories. -/
structure Remembers (fallback : Fallback σ) (s : Session σ) (x : Step) : Prop where
  called : ∀ lexer, s.asks x = true → s.mode.lexer = some lexer → s.mode.built = none →
    s.call? x = some ⟨lexer, s.mode.memory⟩
  uncalled : s.asks x = false ∨ s.mode.lexer = none ∨ s.mode.built ≠ none → s.call? x = none
  built : ∀ call, s.call? x = some call →
    (s.step fallback x).mode.memory = call.left ∧
      (s.step fallback x).mode.built = call.outcome.toOption
  kept : s.call? x = none → (s.step fallback x).mode.memory = s.mode.memory ∧
    (x.lexer? = none → (s.step fallback x).mode.built = s.mode.built)
  retried : ∀ call e, s.call? x = some call → call.outcome = .error e →
    ∀ quiet, (∀ y ∈ quiet, y.lexer? = none) → (s.step fallback x).calls fallback quiet = [] →
      ∀ y, ((s.step fallback x).run fallback quiet).asks y = true →
        ((s.step fallback x).run fallback quiet).call? y = some ⟨call.lexer, call.left⟩
  dropped : ∀ lexer, x = .setLexer lexer → (s.step fallback x).mode.built = none

theorem retried_of_failed (fallback : Fallback σ) {s : Session σ} {x : Step} {call : Call}
    {e : Error} (called : s.call? x = some call) (failed : call.outcome = .error e)
    {steps : List Step} (unset : ∀ y ∈ steps, y.lexer? = none)
    (quiet : (s.step fallback x).calls fallback steps = []) {y : Step}
    (asked : ((s.step fallback x).run fallback steps).asks y = true) :
    ((s.step fallback x).run fallback steps).call? y = some ⟨call.lexer, call.left⟩ := by
  obtain ⟨-, chosen, -⟩ := call?_eq_some_iff.mp called
  have after := mode_of_call called fallback
  obtain ⟨lexer, memory, built⟩ := quiet_run fallback unset quiet
  refine call?_eq_some_iff.mpr ⟨⟨asked, ?_⟩, ?_, ?_⟩
  · rw [built, after, failed]
    rfl
  · rw [lexer, after]
    exact chosen
  · rw [memory, after]

theorem remembers_step (fallback : Fallback σ) (s : Session σ) (x : Step) :
    s.Remembers fallback x := by
  refine ⟨?_, ?_, ?_, fun uncalled => memory_of_uncalled uncalled fallback, ?_, ?_⟩
  · intro lexer asked chosen missing
    exact call?_eq_some_iff.mpr ⟨⟨asked, missing⟩, chosen, rfl⟩
  · intro reason
    cases called : s.call? x with
    | none => rfl
    | some call =>
      obtain ⟨⟨asked, missing⟩, chosen, -⟩ := call?_eq_some_iff.mp called
      rcases reason with silent | unlexed | kept
      · cases asked.symm.trans silent
      · cases chosen.symm.trans unlexed
      · exact absurd missing kept
  · intro call called
    rw [mode_of_call called fallback]
    exact ⟨rfl, rfl⟩
  · intro call e called failed quiet unset silent y asked
    exact retried_of_failed fallback called failed unset silent asked
  · rintro lexer rfl
    rfl

/-- The memory is handed from call to call, and nothing else touches it. -/
theorem threads_run (fallback : Fallback σ) (s : Session σ) (steps : List Step) :
    Threads (s.run fallback steps).mode.memory s.mode.memory (s.calls fallback steps) := by
  induction steps generalizing s with
  | nil => rfl
  | cons x steps ih =>
    have rest := ih (s.step fallback x)
    unfold calls
    cases called : s.call? x with
    | none => rwa [← (memory_of_uncalled called fallback).1]
    | some call =>
      obtain ⟨-, -, found⟩ := call?_eq_some_iff.mp called
      rw [mode_of_call called fallback] at rest
      exact ⟨found, rest⟩

/-- A tokenizer that a call built in a run, of the lexer that is still in use; since then no lexer
was set and no factory called. -/
def BuiltAlong (fallback : Fallback σ) (s : Session σ) (steps : List Step)
    (tokenizer : Tokenizer) : Prop :=
  ∃ before x after call, steps = before ++ x :: after ∧
    (s.run fallback before).call? x = some call ∧ call.outcome = .ok tokenizer ∧
    (s.run fallback steps).mode.lexer = some call.lexer ∧ (∀ y ∈ after, y.lexer? = none) ∧
    (s.run fallback (before ++ [x])).calls fallback after = []

/- Stretches in which no lexer is set. -/

theorem calls_of_built (fallback : Fallback σ) {s : Session σ} {tokenizer : Tokenizer}
    (kept : s.mode.built = some tokenizer) {steps : List Step}
    (unset : ∀ x ∈ steps, x.lexer? = none) :
    s.calls fallback steps = [] ∧ (s.run fallback steps).mode.built = some tokenizer := by
  induction steps generalizing s with
  | nil => exact ⟨rfl, kept⟩
  | cons x steps ih =>
    have uncalled := call?_of_built kept x
    have after := (memory_of_uncalled uncalled fallback).2 (unset x (by simp))
    obtain ⟨rest, still⟩ := ih (after.trans kept) fun y inside => unset y (by simp [inside])
    rw [calls, uncalled, rest]
    exact ⟨rfl, still⟩

/-- A call that another one follows was in vain. -/
theorem calls_pairwise (fallback : Fallback σ) (s : Session σ) {steps : List Step}
    (unset : ∀ x ∈ steps, x.lexer? = none) :
    (s.calls fallback steps).Pairwise fun earlier _ => ∃ e, earlier.outcome = .error e := by
  induction steps generalizing s with
  | nil => exact .nil
  | cons x steps ih =>
    obtain ⟨-, later⟩ := List.forall_mem_cons.mp unset
    cases called : s.call? x with
    | none =>
      rw [calls, called]
      exact ih (s.step fallback x) later
    | some call =>
      rw [calls, called]
      cases outcome : call.outcome with
      | error e => exact .cons (fun _ _ => ⟨e, outcome⟩) (ih (s.step fallback x) later)
      | ok tokenizer =>
        -- What is built now is kept, so no later step calls.
        have kept : (s.step fallback x).mode.built = some tokenizer := by
          rw [mode_of_call called fallback, outcome]
          rfl
        rw [(calls_of_built fallback kept later).1]
        exact List.pairwise_singleton ..

theorem lexer_of_mem_calls (fallback : Fallback σ) {s : Session σ} {steps : List Step}
    (unset : ∀ x ∈ steps, x.lexer? = none) {call : Call} (made : call ∈ s.calls fallback steps) :
    s.mode.lexer = some call.lexer := by
  induction steps generalizing s with
  | nil => cases made
  | cons x steps ih =>
    obtain ⟨first, later⟩ := List.forall_mem_cons.mp unset
    rcases List.mem_append.mp made with now | afterwards
    · exact (call?_eq_some_iff.mp (Option.mem_toList.mp now)).2.1
    · have same := ih later afterwards
      rwa [lexer_step, first, Option.none_or] at same

/-- Behind a stretch, what was kept before it is still kept, or else what its last call built. -/
theorem built_of_unset (fallback : Fallback σ) (s : Session σ) {steps : List Step}
    (unset : ∀ x ∈ steps, x.lexer? = none) :
    (s.run fallback steps).mode.built =
      s.mode.built.or ((s.calls fallback steps).getLast?.bind (·.outcome.toOption)) := by
  induction steps generalizing s with
  | nil => exact Option.or_none.symm
  | cons x steps ih =>
    obtain ⟨first, later⟩ := List.forall_mem_cons.mp unset
    have behind := ih (s.step fallback x) later
    rw [run_cons, behind, calls]
    cases called : s.call? x with
    | none =>
      rw [(memory_of_uncalled called fallback).2 first]
      rfl
    | some call =>
      obtain ⟨⟨-, missing⟩, -⟩ := call?_eq_some_iff.mp called
      have built : (s.step fallback x).mode.built = call.outcome.toOption := by
        rw [mode_of_call called fallback]
      rw [built, missing, Option.none_or, Option.toList_some, List.singleton_append,
        List.getLast?_cons, Option.bind_some]
      cases outcome : call.outcome with
      | ok tokenizer =>
        rw [outcome] at built
        rw [(calls_of_built fallback built later).1]
        exact congrArg Except.toOption outcome.symm
      | error e =>
        cases (calls fallback (s.step fallback x) steps).getLast? with
        | none => exact congrArg Except.toOption outcome.symm
        | some last => rfl

/-- Along a stretch in which no lexer is set, what is kept stays and nothing is called while it is.
All calls are for the lexer in use; every one but the last fails, and what the last one builds is
kept. -/
structure BuildsOnce (fallback : Fallback σ) (s : Session σ) (stretch : List Step) : Prop where
  settled : ∀ tokenizer, s.mode.built = some tokenizer →
    s.calls fallback stretch = [] ∧ (s.run fallback stretch).mode.built = some tokenizer
  current : ∀ call ∈ s.calls fallback stretch, s.mode.lexer = some call.lexer
  failed : (s.calls fallback stretch).Pairwise fun earlier _ => ∃ e, earlier.outcome = .error e
  once : ((s.calls fallback stretch).filter (·.outcome.isOk)).length ≤ 1
  last : (s.run fallback stretch).mode.built =
    s.mode.built.or ((s.calls fallback stretch).getLast?.bind (·.outcome.toOption))

theorem length_filter_le_one {α : Type} {p : α → Bool} {xs : List α}
    (apart : xs.Pairwise fun x _ => p x = false) : (xs.filter p).length ≤ 1 := by
  induction xs with
  | nil => exact Nat.zero_le 1
  | cons x xs ih =>
    obtain ⟨first, rest⟩ := List.pairwise_cons.mp apart
    cases holds : p x with
    | false =>
      rw [List.filter_cons_of_neg (by simp [holds])]
      exact ih rest
    | true =>
      have alone : xs = [] := by
        cases xs with
        | nil => rfl
        | cons y ys => cases holds.symm.trans (first y (by simp))
      rw [alone]
      exact List.length_filter_le p [x]

theorem buildsOnce_of_unset (fallback : Fallback σ) (s : Session σ) {stretch : List Step}
    (unset : ∀ x ∈ stretch, x.lexer? = none) : s.BuildsOnce fallback stretch := by
  have failed := calls_pairwise fallback s unset
  refine ⟨fun tokenizer kept => calls_of_built fallback kept unset,
    fun call made => lexer_of_mem_calls fallback unset made, failed, ?_,
    built_of_unset fallback s unset⟩
  apply length_filter_le_one
  refine failed.imp ?_
  rintro call _ ⟨e, error⟩
  rw [error]
  rfl

/-- What is kept behind a run was kept before it and no lexer was set, or a call of the run built
it. -/
theorem builtAlong_of_run (fallback : Fallback σ) {s : Session σ} {steps : List Step}
    {tokenizer : Tokenizer} (kept : (s.run fallback steps).mode.built = some tokenizer) :
    s.mode.built = some tokenizer ∧ (∀ x ∈ steps, x.lexer? = none) ∨
      s.BuiltAlong fallback steps tokenizer := by
  induction steps generalizing s with
  | nil => exact .inl ⟨kept, List.forall_mem_nil _⟩
  | cons x steps ih =>
    rcases ih (s := s.step fallback x) kept with ⟨early, unset⟩ | along
    · cases called : s.call? x with
      | none =>
        cases set : x.lexer? with
        | none =>
          rw [(memory_of_uncalled called fallback).2 set] at early
          exact .inl ⟨early, List.forall_mem_cons.mpr ⟨set, unset⟩⟩
        | some lexer =>
          cases x with
          | setLexer other => cases early
          | _ => cases set
      | some call =>
        have after := mode_of_call called fallback
        obtain ⟨quiet, -⟩ := calls_of_built fallback early unset
        obtain ⟨-, chosen, -⟩ := call?_eq_some_iff.mp called
        refine .inr ⟨[], x, steps, call, rfl, called, ?_, ?_, unset, quiet⟩
        · rw [after] at early
          cases outcome : call.outcome with
          | error e => simp [outcome, Except.toOption] at early
          | ok built => simpa [outcome, Except.toOption] using early
        · refine (quiet_run fallback unset quiet).1.trans ?_
          rw [after]
          exact chosen
    · obtain ⟨before, y, after, call, rfl, called, outcome, chosen, unset, quiet⟩ := along
      refine .inr ⟨x :: before, y, after, call, rfl, ?_, outcome, ?_, unset, ?_⟩
      · rwa [run_cons]
      · rwa [run_cons]
      · rwa [List.cons_append, run_cons]

/-- The window after a cycle that has a tokenizer. -/
def lexedWindow (fallback : Fallback σ) (s : Session σ) (tokenizer : Tokenizer)
    (mapping : Mapping) : Window :=
  match Viewport.highlight tokenizer mapping s.highlighter.faces s.doc s.window.columns
      s.window.rows s.highlighter.settings.limit with
  | .ok (.highlighted spans) => s.window.setSpans spans
  | .ok (.skipped _) => s.window.clear
  | .error _ => (fallback.run s.highlighter.fallback s.doc s.window).2

theorem window_highlight (fallback : Fallback σ) {s : Session σ} {tokenizer : Tokenizer}
    (gate : s.highlighter.isOpen s.doc s.window = true) (available : s.mode.Available tokenizer) :
    (s.step fallback .highlight).window = s.lexedWindow fallback tokenizer s.mode.mapping := by
  rw [step, Highlighter.cycle_of_open (Highlighter.not_closed_of_isOpen gate),
    Highlighter.lexWindow_of_available available, lexedWindow]
  rcases Viewport.highlight tokenizer s.mode.mapping s.highlighter.faces s.doc s.window.columns
    s.window.rows s.highlighter.settings.limit with e | (spans | offset) <;> rfl

/-- What a session keeps after any steps: a tokenizer of the lexer in use, which is the last one
set, as a call in this run built it. The memory of the factories is handed on by the calls of the
run and by nothing else: a step makes a call when it asks for a tokenizer and none is kept, and
another one after a failure. Each cycle uses the mapping that was set last. -/
theorem tokenizer_after_steps (fallback : Fallback σ) (state : σ) (mode : Mode) (memory : Memory)
    (faces : Faces) (settings : Settings) (doc : Document) (window : Window)
    (steps : List Step) :
    let first := start state mode memory faces settings doc window
    let s := first.run fallback steps
    let mapping := (steps.filterMap Step.mapping?).getLast?.getD mode.mapping
    s.mode.lexer = (steps.filterMap Step.lexer?).getLast?.or mode.lexer ∧
      s.mode.mapping = mapping ∧
      (∀ tokenizer, s.mode.built = some tokenizer → first.BuiltAlong fallback steps tokenizer) ∧
      Threads s.mode.memory memory (first.calls fallback steps) ∧
      (∀ x, s.Remembers fallback x) ∧
      (∀ stretch : List Step, (∀ x ∈ stretch, x.lexer? = none) → s.BuildsOnce fallback stretch) ∧
      ∀ tokenizer, s.highlighter.isOpen s.doc s.window = true → s.mode.Available tokenizer →
        (s.step fallback .highlight).window = s.lexedWindow fallback tokenizer mapping := by
  intro first s mapping
  have inUse : s.mode.mapping = mapping := mapping_run fallback first steps
  refine ⟨lexer_run fallback first steps, inUse, ?_, threads_run fallback first steps,
    remembers_step fallback s, fun stretch unset => buildsOnce_of_unset fallback s unset, ?_⟩
  · intro tokenizer kept
    rcases builtAlong_of_run fallback kept with ⟨early, -⟩ | along
    · cases early
    · exact along
  · intro tokenizer gate available
    rw [← inUse]
    exact window_highlight fallback gate available

/- A factory that counts its calls and fails at the first one. -/

def late : Lexer :=
  ⟨"late", [], fun memory =>
    (if memory = [] then .error (.pattern "late") else .ok ⟨"late", fun _ => .ok []⟩,
      "called" :: memory)⟩

def lateStart : Session Unit :=
  start () ⟨0, some late, {}⟩ [] {} {} { name := "note", content := [] } ⟨80, 24, true, {}⟩

example :
    let after := fun steps =>
      let s := lateStart.run ⟨fun _ _ window => ((), window)⟩ steps
      (s.mode.built.isSome, s.mode.memory.length)
    after [.tokenizer] = (false, 1) ∧ after [.tokenizer, .highlight] = (true, 2) ∧
      after [.tokenizer, .highlight, .tokenizer, .highlight] = (true, 2) ∧
      after [.tokenizer, .highlight, .setLexer late, .highlight] = (true, 3) := by
  decide

end Highlighting.Session
