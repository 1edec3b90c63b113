import Highlighting.Proofs.Cycle
import Highlighting.Proofs.Region

/-! Sessions: one highlighter over a document and a window that change from step to step. What a
step does to the document's mode is said once, for every step; what a session keeps follows by
induction on its steps. -/
namespace Highlighting

namespace DocumentMode

/-- A tokenizer that is kept was built by the lexer in use, on some memory. -/
def Genuine (dm : DocumentMode) : Prop :=
  ∀ tokenizer, dm.built = some tokenizer →
    ∃ lexer memory, dm.lexer = some lexer ∧ lexer.build memory = .ok tokenizer

theorem tokenizer_snd (dm : DocumentMode) : dm.tokenizer.2 = dm.asked := by
  rcases dm.tokenizer_cases with ⟨_, asked⟩ | ⟨e, _, asked⟩ | ⟨tokenizer, _, asked⟩ <;> rw [asked]

theorem asked_of_built {dm : DocumentMode} {tokenizer : Tokenizer}
    (kept : dm.built = some tokenizer) : dm.asked = dm := by
  simp only [asked, kept]
  cases dm.lexer <;> rfl

theorem asked_of_unlexed {dm : DocumentMode} (unlexed : dm.lexer = none) : dm.asked = dm := by
  simp only [asked, unlexed]

theorem asked_of_missing {dm : DocumentMode} {lexer : Lexer} (chosen : dm.lexer = some lexer)
    (missing : dm.built = none) :
    dm.asked = { dm with
      memory := lexer.memoryAfter dm.memory, built := (lexer.build dm.memory).toOption } := by
  simp only [asked, chosen, missing]

theorem lexer_asked (dm : DocumentMode) : dm.asked.lexer = dm.lexer := by
  obtain ⟨mode, ownLexer, _⟩ := Highlighter.asked_keeps dm
  simp only [lexer, mode, ownLexer]

theorem mapping_asked (dm : DocumentMode) : dm.asked.mapping = dm.mapping := by
  obtain ⟨mode, _, ownMapping⟩ := Highlighter.asked_keeps dm
  simp only [mapping, mode, ownMapping]

theorem Genuine.asked {dm : DocumentMode} (genuine : dm.Genuine) : dm.asked.Genuine := by
  cases chosen : dm.lexer with
  | none => rwa [asked_of_unlexed chosen]
  | some lexer =>
    cases memo : dm.built with
    | some kept => rwa [asked_of_built memo]
    | none =>
      intro tokenizer kept
      rw [asked_of_missing chosen memo] at kept
      refine ⟨lexer, dm.memory, (lexer_asked dm).trans chosen, ?_⟩
      cases build : lexer.build dm.memory with
      | error e => simp [build, Except.toOption] at kept
      | ok fresh =>
        simp only [build, Except.toOption, Option.some.injEq] at kept
        rw [kept]

end DocumentMode

namespace Highlighter

variable {σ : Type}

theorem mode_cycle (fallback : Fallback σ) (h : Highlighter σ) (doc : Document)
    (window : Window) :
    (h.cycle fallback doc window).1.mode =
      if h.isOpen doc window then h.mode.asked else h.mode := by
  by_cases gate : h.Closed doc window
  · rw [cycle_of_closed gate, isOpen_eq_false_iff.mpr gate]
    rfl
  · rw [cycle_of_open gate, isOpen_of_not_closed gate]
    rcases (h.lexWindow doc window).1 with e | (_ | (spans | offset)) <;> rfl

end Highlighter

/-- A highlighter together with the document and the window that it works on. -/
structure Session (σ : Type) where
  highlighter : Highlighter σ
  doc : Document
  window : Window

namespace Session

variable {σ : Type}

/-- What can be done in a session. The document and the window are the host's: it may edit them or
put others in their place. -/
inductive Step where
  | replace (doc : Document)
  | move (m : Document.Move)
  | display (window : Window)
  | resize (columns rows : Nat)
  | setSpans (spans : List Span)
  | switchOn (span : Span)
  | clear
  | setLexer (lexer : Lexer)
  | setMapping (mapping : Mapping)
  | tokenizer
  | highlight

namespace Step

/-- The lexer that a step sets, if it sets one. -/
def lexer? : Step → Option Lexer
  | .setLexer lexer => some lexer
  | _ => none

def mapping? : Step → Option Mapping
  | .setMapping mapping => some mapping
  | _ => none

end Step

abbrev mode (s : Session σ) : DocumentMode :=
  s.highlighter.mode

def withMode (s : Session σ) (mode : DocumentMode) : Session σ :=
  { s with highlighter := { s.highlighter with mode := mode } }

def step (fallback : Fallback σ) (s : Session σ) : Step → Session σ
  | .replace doc => { s with doc := doc }
  | .move m => { s with doc := s.doc.move m }
  | .display window => { s with window := window }
  | .resize columns rows => { s with window := s.window.resize columns rows }
  | .setSpans spans => { s with window := s.window.setSpans spans }
  | .switchOn span => { s with window := s.window.switchOn span }
  | .clear => { s with window := s.window.clear }
  | .setLexer lexer => s.withMode (s.mode.setLexer lexer)
  | .setMapping mapping => s.withMode (s.mode.setMapping mapping)
  | .tokenizer => s.withMode s.mode.tokenizer.2
  | .highlight =>
    let after := s.highlighter.cycle fallback s.doc s.window
    { s with highlighter := after.1, window := after.2 }

def run (fallback : Fallback σ) (s : Session σ) (steps : List Step) : Session σ :=
  steps.foldl (step fallback) s

theorem run_cons (fallback : Fallback σ) (s : Session σ) (x : Step) (steps : List Step) :
    s.run fallback (x :: steps) = (s.step fallback x).run fallback steps := rfl

/-- A session at its start: nothing was chosen for the document, and nothing built. The factories
may have been called before, for other documents. -/
def start (state : σ) (mode : Mode) (memory : Memory) (faces : Faces) (settings : Settings)
    (doc : Document) (window : Window) : Session σ :=
  ⟨⟨{ mode := mode, memory := memory }, faces, settings, state⟩, doc, window⟩

/-- Whether a step asks for the tokenizer: a cycle does when its gate is open. -/
def asks (s : Session σ) : Step → Bool
  | .tokenizer => true
  | .highlight => s.highlighter.isOpen s.doc s.window
  | _ => false

theorem mode_step (fallback : Fallback σ) (s : Session σ) (x : Step) :
    (∃ lexer, x = .setLexer lexer ∧ (s.step fallback x).mode = s.mode.setLexer lexer) ∨
      (∃ mapping, x = .setMapping mapping ∧
        (s.step fallback x).mode = s.mode.setMapping mapping) ∨
      x.lexer? = none ∧ x.mapping? = none ∧
        (s.step fallback x).mode = if s.asks x then s.mode.asked else s.mode := by
  cases x with
  | setLexer lexer => exact .inl ⟨lexer, rfl, rfl⟩
  | setMapping mapping => exact .inr (.inl ⟨mapping, rfl, rfl⟩)
  | tokenizer => exact .inr (.inr ⟨rfl, rfl, DocumentMode.tokenizer_snd s.mode⟩)
  | highlight =>
    exact .inr (.inr ⟨rfl, rfl, Highlighter.mode_cycle fallback s.highlighter s.doc s.window⟩)
  | replace | move | display | resize | setSpans | switchOn | clear =>
    exact .inr (.inr ⟨rfl, rfl, rfl⟩)

theorem lexer_step (fallback : Fallback σ) (s : Session σ) (x : Step) :
    (s.step fallback x).mode.lexer = x.lexer?.or s.mode.lexer := by
  rcases mode_step fallback s x with ⟨lexer, rfl, after⟩ | ⟨mapping, rfl, after⟩ | ⟨unset, _, after⟩
  · rw [after]
    rfl
  · rw [after]
    rfl
  · rw [after, unset, Option.none_or]
    split
    · exact s.mode.lexer_asked
    · rfl

theorem mapping_step (fallback : Fallback σ) (s : Session σ) (x : Step) :
    (s.step fallback x).mode.mapping = x.mapping?.getD s.mode.mapping := by
  rcases mode_step fallback s x with ⟨lexer, rfl, after⟩ | ⟨mapping, rfl, after⟩ | ⟨_, unset, after⟩
  · rw [after]
    rfl
  · rw [after]
    rfl
  · rw [after, unset, Option.getD_none]
    split
    · exact s.mode.mapping_asked
    · rfl

/-- What a step either sets or keeps is, after a run, what the last step set. -/
theorem read_run {α β : Type} {fallback : Fallback σ} (read : Session σ → β)
    (set? : Step → Option α) (use : α → β)
    (each : ∀ s x, read (s.step fallback x) = (set? x).elim (read s) use) (s : Session σ)
    (steps : List Step) :
    read (s.run fallback steps) = (steps.filterMap set?).getLast?.elim (read s) use := by
  induction steps generalizing s with
  | nil => rfl
  | cons x steps ih =>
    rw [run_cons, ih, each]
    cases set : set? x with
    | none => simp only [set, List.filterMap_cons, Option.elim_none]
    | some value =>
      simp only [set, List.filterMap_cons, List.getLast?_cons]
      cases (steps.filterMap set?).getLast? <;> rfl

theorem lexer_run (fallback : Fallback σ) (s : Session σ) (steps : List Step) :
    (s.run fallback steps).mode.lexer =
      (steps.filterMap Step.lexer?).getLast?.or s.mode.lexer := by
  have each : ∀ (s : Session σ) x,
      (s.step fallback x).mode.lexer = x.lexer?.elim s.mode.lexer some := by
    intro s x
    rw [lexer_step]
    cases x.lexer? <;> rfl
  refine (read_run (·.mode.lexer) Step.lexer? some each s steps).trans ?_
  cases (steps.filterMap Step.lexer?).getLast? <;> rfl

theorem mapping_run (fallback : Fallback σ) (s : Session σ) (steps : List Step) :
    (s.run fallback steps).mode.mapping =
      (steps.filterMap Step.mapping?).getLast?.getD s.mode.mapping := by
  have each : ∀ (s : Session σ) x,
      (s.step fallback x).mode.mapping = x.mapping?.elim s.mode.mapping id := by
    intro s x
    rw [mapping_step]
    cases x.mapping? <;> rfl
  refine (read_run (·.mode.mapping) Step.mapping? id each s steps).trans ?_
  cases (steps.filterMap Step.mapping?).getLast? <;> rfl

theorem genuine_step (fallback : Fallback σ) {s : Session σ} (genuine : s.mode.Genuine)
    (x : Step) : (s.step fallback x).mode.Genuine := by
  rcases mode_step fallback s x with ⟨lexer, _, after⟩ | ⟨mapping, _, after⟩ | ⟨_, _, after⟩
  · rw [after]
    intro tokenizer kept
    cases kept
  · rw [after]
    exact genuine
  · rw [after]
    split
    · exact genuine.asked
    · exact genuine

theorem genuine_run (fallback : Fallback σ) {s : Session σ} (genuine : s.mode.Genuine)
    (steps : List Step) : (s.run fallback steps).mode.Genuine := by
  induction steps generalizing s with
  | nil => exact genuine
  | cons x steps ih => exact ih (genuine_step fallback genuine x)

theorem genuine_start (state : σ) (mode : Mode) (memory : Memory) (faces : Faces)
    (settings : Settings) (doc : Document) (window : Window) :
    (start state mode memory faces settings doc window).mode.Genuine :=
  nofun

end Session

end Highlighting
