import Highlighting.Highlighter
import Highlighting.Proofs.Placement

/-! The courses of a cycle. A cycle takes exactly one of four; which one is read off the document,
the mode and the window, and what it leaves behind is stated for every fallback. -/
namespace Highlighting

namespace DocumentMode

/-- The tokenizer that a cycle can use: the one kept, or else one that the lexer builds. -/
def Available (dm : DocumentMode) (tokenizer : Tokenizer) : Prop :=
  ∃ lexer, dm.lexer = some lexer ∧
    (dm.built = some tokenizer ∨ dm.built = none ∧ lexer.build dm.memory = .ok tokenizer)

def Unbuildable (dm : DocumentMode) : Prop :=
  ∃ lexer e, dm.lexer = some lexer ∧ dm.built = none ∧ lexer.build dm.memory = .error e

/-- The mode once its tokenizer was asked for: with nothing kept the factory is called once, and
only what it builds is kept. -/
def asked (dm : DocumentMode) : DocumentMode :=
  match dm.lexer, dm.built with
  | some lexer, none =>
    { dm with
      memory := lexer.memoryAfter dm.memory, built := (lexer.build dm.memory).toOption }
  | _, _ => dm

theorem tokenizer_cases (dm : DocumentMode) :
    dm.lexer = none ∧ dm.tokenizer = (.ok none, dm.asked) ∨
      (∃ e, dm.Unbuildable ∧ dm.tokenizer = (.error e, dm.asked)) ∨
      ∃ tokenizer, dm.Available tokenizer ∧ dm.tokenizer = (.ok (some tokenizer), dm.asked) := by
  cases chosen : dm.lexer with
  | none => exact .inl ⟨rfl, by simp [tokenizer, asked, chosen]⟩
  | some lexer =>
    right
    cases memo : dm.built with
    | some kept =>
      exact .inr ⟨kept, ⟨lexer, chosen, .inl memo⟩, by simp [tokenizer, asked, chosen, memo]⟩
    | none =>
      cases call : lexer.factory dm.memory with
      | mk result memory =>
        have build : lexer.build dm.memory = result := congrArg Prod.fst call
        have left : lexer.memoryAfter dm.memory = memory := congrArg Prod.snd call
        cases result with
        | error e =>
          exact .inl ⟨e, ⟨lexer, e, chosen, memo, build⟩, by
            simp [tokenizer, asked, chosen, memo, call, build, left, Except.toOption]⟩
        | ok fresh =>
          exact .inr ⟨fresh, ⟨lexer, chosen, .inr ⟨memo, build⟩⟩, by
            simp [tokenizer, asked, chosen, memo, call, build, left, Except.toOption]⟩

theorem Available.unique {dm : DocumentMode} {first second : Tokenizer}
    (h : dm.Available first) (k : dm.Available second) : first = second := by
  obtain ⟨lexer, chosen, h⟩ := h
  obtain ⟨other, same, k⟩ := k
  cases chosen.symm.trans same
  rcases h with h | ⟨h, build⟩ <;> rcases k with k | ⟨k, rebuild⟩
  · exact Option.some.inj (h.symm.trans k)
  · cases h.symm.trans k
  · cases h.symm.trans k
  · exact Except.ok.inj (build.symm.trans rebuild)

theorem Available.lexer_ne_none {dm : DocumentMode} {tokenizer : Tokenizer}
    (h : dm.Available tokenizer) : dm.lexer ≠ none := by
  obtain ⟨lexer, chosen, _⟩ := h
  simp [chosen]

theorem Available.not_unbuildable {dm : DocumentMode} {tokenizer : Tokenizer}
    (h : dm.Available tokenizer) : ¬ dm.Unbuildable := by
  obtain ⟨lexer, chosen, h⟩ := h
  rintro ⟨other, e, same, none, failed⟩
  cases chosen.symm.trans same
  rcases h with h | ⟨_, build⟩
  · cases h.symm.trans none
  · cases build.symm.trans failed

end DocumentMode

/-- A fallback that also lists the calls made to it. -/
def Fallback.recorded {σ : Type} (fallback : Fallback σ) :
    Fallback (σ × List (Document × Window)) :=
  ⟨fun state doc window =>
    let (next, shown) := fallback.run state.1 doc window
    ((next, state.2 ++ [(doc, window)]), shown)⟩

namespace Highlighter

variable {σ : Type}

/-- The gate of a cycle is closed. -/
def Closed (h : Highlighter σ) (doc : Document) (window : Window) : Prop :=
  window.hasColors = false ∨ h.settings.enabled = false ∨ 0 ∈ doc.content.take 8000

theorem isOpen_eq_false_iff {h : Highlighter σ} {doc : Document} {window : Window} :
    h.isOpen doc window = false ↔ h.Closed doc window := by
  cases colors : window.hasColors <;> cases enabled : h.settings.enabled <;>
    simp [isOpen, Closed, Document.isBinary, Document.sniffLength, colors, enabled]

theorem isOpen_of_not_closed {h : Highlighter σ} {doc : Document} {window : Window}
    (gate : ¬ h.Closed doc window) : h.isOpen doc window = true :=
  (Bool.not_eq_false _).mp (mt isOpen_eq_false_iff.mp gate)

theorem not_closed_of_isOpen {h : Highlighter σ} {doc : Document} {window : Window}
    (gate : h.isOpen doc window = true) : ¬ h.Closed doc window := by
  intro closed
  cases gate.symm.trans (isOpen_eq_false_iff.mpr closed)

/-- The part of the document that a cycle works on. -/
def selected (h : Highlighter σ) (doc : Document) (window : Window) : Except Nat Viewport :=
  Viewport.select doc doc.point window.columns window.rows h.settings.limit

/-- The mode's tokenizer cuts a viewport into tokens that join to its text. -/
structure Lexed (h : Highlighter σ) (doc : Document) (window : Window) (view : Viewport)
    (tokens : List Token) : Prop where
  isOpen : ¬ h.Closed doc window
  selected : h.selected doc window = .ok view
  lexed : ∃ tokenizer, h.mode.Available tokenizer ∧ tokenizer.lex view.text = .ok tokens
  covered : joined tokens = view.text

/-- Lexing a viewport fails, or the tokens do not cover it. -/
def Uncovered (tokenizer : Tokenizer) (view : Viewport) : Prop :=
  (∃ e, tokenizer.lex view.text = .error e) ∨
    ∃ tokens, tokenizer.lex view.text = .ok tokens ∧ joined tokens ≠ view.text

/-- The courses that a cycle can take. -/
inductive Course where
  | idle
  | fellBack
  | cleared
  | painted (spans : List Span)
  deriving DecidableEq, Repr

/-- When a cycle takes a course. Decoding the viewport matters only once there is a tokenizer. -/
def Takes (h : Highlighter σ) (doc : Document) (window : Window) : Course → Prop
  | .idle => h.Closed doc window
  | .fellBack => ¬ h.Closed doc window ∧
    (h.mode.lexer = none ∨ h.mode.Unbuildable ∨
      ∃ tokenizer view, h.mode.Available tokenizer ∧ h.selected doc window = .ok view ∧
        Uncovered tokenizer view)
  | .cleared => ¬ h.Closed doc window ∧
    ∃ tokenizer offset, h.mode.Available tokenizer ∧ h.selected doc window = .error offset
  | .painted spans => ∃ view tokens, h.Lexed doc window view tokens ∧
    spans = Viewport.spansOf h.mode.mapping h.faces doc.point view.base tokens

/-- What a course leaves behind. -/
def leaves (fallback : Fallback σ) (h : Highlighter σ) (doc : Document) (window : Window) :
    Course → Highlighter σ × Window
  | .idle => (h, window)
  | .fellBack =>
    let (state, shown) := fallback.run h.fallback doc window
    ({ h with mode := h.mode.asked, fallback := state }, shown)
  | .cleared => ({ h with mode := h.mode.asked }, { window with styles := {} })
  | .painted spans => ({ h with mode := h.mode.asked }, { window with styles := ⟨spans⟩ })

/-- The highlighter over a recorded fallback that was not called yet. -/
def recording (h : Highlighter σ) : Highlighter (σ × List (Document × Window)) :=
  ⟨h.mode, h.faces, h.settings, (h.fallback, [])⟩

/-- The calls that one cycle makes to its fallback. -/
def calls (fallback : Fallback σ) (h : Highlighter σ) (doc : Document) (window : Window) :
    List (Document × Window) :=
  (h.recording.cycle fallback.recorded doc window).1.fallback.2

/- Each course by itself, for any fallback. -/

theorem cycle_of_closed {h : Highlighter σ} {doc : Document} {window : Window}
    (gate : h.Closed doc window) (fallback : Fallback σ) :
    h.cycle fallback doc window = (h, window) := by
  rw [cycle, isOpen_eq_false_iff.mpr gate]
  rfl

theorem cycle_of_open {h : Highlighter σ} {doc : Document} {window : Window}
    (gate : ¬ h.Closed doc window) (fallback : Fallback σ) :
    h.cycle fallback doc window =
      match (h.lexWindow doc window).1 with
      | .ok (some (.highlighted spans)) => ({ h with mode := h.mode.asked }, window.setSpans spans)
      | .ok (some (.skipped _)) => ({ h with mode := h.mode.asked }, window.clear)
      | _ => h.leaves fallback doc window .fellBack := by
  have state : (h.lexWindow doc window).2 = { h with mode := h.mode.asked } := by
    rcases h.mode.tokenizer_cases with ⟨_, asked⟩ | ⟨e, _, asked⟩ | ⟨tokenizer, _, asked⟩ <;>
      simp [lexWindow, asked]
  simp only [cycle, isOpen_of_not_closed gate, Bool.not_true, Bool.false_eq_true, if_false, state]
  rcases (h.lexWindow doc window).1 with e | (_ | (spans | offset)) <;> rfl

theorem lexWindow_of_available {h : Highlighter σ} {tokenizer : Tokenizer}
    (available : h.mode.Available tokenizer) (doc : Document) (window : Window) :
    (h.lexWindow doc window).1 =
      (Viewport.highlight tokenizer h.mode.mapping h.faces doc window.columns window.rows
        h.settings.limit).map some := by
  rcases h.mode.tokenizer_cases with ⟨none, _⟩ | ⟨e, failed, _⟩ | ⟨other, same, asked⟩
  · exact absurd none available.lexer_ne_none
  · exact absurd failed available.not_unbuildable
  · simp only [lexWindow, asked, available.unique same]

theorem lexWindow_of_unlexed {h : Highlighter σ} (unlexed : h.mode.lexer = none) (doc : Document)
    (window : Window) : (h.lexWindow doc window).1 = .ok none := by
  simp [lexWindow, DocumentMode.tokenizer, unlexed]

theorem lexWindow_of_unbuildable {h : Highlighter σ} (unbuildable : h.mode.Unbuildable)
    (doc : Document) (window : Window) : ∃ e, (h.lexWindow doc window).1 = .error e := by
  rcases h.mode.tokenizer_cases with ⟨none, _⟩ | ⟨e, _, asked⟩ | ⟨tokenizer, available, _⟩
  · obtain ⟨lexer, _, chosen, _⟩ := unbuildable
    cases chosen.symm.trans none
  · exact ⟨e, by simp only [lexWindow, asked]⟩
  · exact absurd unbuildable available.not_unbuildable

theorem tokenize_of_uncovered {tokenizer : Tokenizer} {view : Viewport}
    (uncovered : Uncovered tokenizer view) (mapping : Mapping) (faces : Faces) (cursor : Nat) :
    ∃ e, Viewport.tokenize tokenizer mapping faces view cursor = .error e := by
  cases result : Viewport.tokenize tokenizer mapping faces view cursor with
  | error e => exact ⟨e, rfl⟩
  | ok spans =>
    obtain ⟨tokens, lexed, covered, _⟩ := Viewport.tokenize_eq_ok_iff.mp result
    rcases uncovered with ⟨e, failed⟩ | ⟨other, same, short⟩
    · cases lexed.symm.trans failed
    · cases lexed.symm.trans same
      exact absurd covered short

theorem lexWindow_of_lexed {h : Highlighter σ} {doc : Document} {window : Window}
    {view : Viewport} {tokens : List Token} (done : h.Lexed doc window view tokens) :
    (h.lexWindow doc window).1 =
      .ok (some (.highlighted
        (Viewport.spansOf h.mode.mapping h.faces doc.point view.base tokens))) := by
  obtain ⟨_, chosen, ⟨tokenizer, available, lexed⟩, covered⟩ := done
  have painted : Viewport.tokenize tokenizer h.mode.mapping h.faces view doc.point = .ok _ :=
    Viewport.tokenize_eq_ok_iff.mpr ⟨tokens, lexed, covered, rfl⟩
  rw [selected] at chosen
  rw [lexWindow_of_available available, Viewport.highlight, chosen]
  simp only [painted, Except.map]

theorem lexWindow_of_cleared {h : Highlighter σ} {doc : Document} {window : Window}
    (cleared : h.Takes doc window .cleared) :
    ∃ offset, (h.lexWindow doc window).1 = .ok (some (.skipped offset)) := by
  obtain ⟨_, tokenizer, offset, available, undecodable⟩ := cleared
  rw [selected] at undecodable
  rw [lexWindow_of_available available, Viewport.highlight, undecodable]
  exact ⟨offset, rfl⟩

theorem lexWindow_of_fellBack {h : Highlighter σ} {doc : Document} {window : Window}
    (fell : h.Takes doc window .fellBack) :
    (h.lexWindow doc window).1 = .ok none ∨ ∃ e, (h.lexWindow doc window).1 = .error e := by
  obtain ⟨_, unlexed | unbuildable | ⟨tokenizer, view, available, chosen, uncovered⟩⟩ := fell
  · exact .inl (lexWindow_of_unlexed unlexed doc window)
  · exact .inr (lexWindow_of_unbuildable unbuildable doc window)
  · obtain ⟨e, failed⟩ := tokenize_of_uncovered uncovered h.mode.mapping h.faces doc.point
    rw [selected] at chosen
    rw [lexWindow_of_available available, Viewport.highlight, chosen]
    simp only [failed, Except.map]
    exact .inr ⟨e, rfl⟩

/-- A cycle leaves behind what its course says. -/
theorem cycle_of_takes {h : Highlighter σ} {doc : Document} {window : Window} {course : Course}
    (takes : h.Takes doc window course) (fallback : Fallback σ) :
    h.cycle fallback doc window = h.leaves fallback doc window course := by
  cases course with
  | idle => exact cycle_of_closed takes fallback
  | fellBack =>
    rcases lexWindow_of_fellBack takes with none | ⟨e, failed⟩
    · rw [cycle_of_open takes.1, none]
    · rw [cycle_of_open takes.1, failed]
  | cleared =>
    obtain ⟨offset, skipped⟩ := lexWindow_of_cleared takes
    rw [cycle_of_open takes.1, skipped]
    rfl
  | painted spans =>
    obtain ⟨view, tokens, done, rfl⟩ := takes
    rw [cycle_of_open done.isOpen, lexWindow_of_lexed done]
    simp only [Window.setSpans_of_ascending (Viewport.spansOf_ascending ..)]
    rfl

theorem takes_some (h : Highlighter σ) (doc : Document) (window : Window) :
    ∃ course, h.Takes doc window course := by
  by_cases gate : h.Closed doc window
  · exact ⟨.idle, gate⟩
  rcases h.mode.tokenizer_cases with ⟨none, _⟩ | ⟨_, failed, _⟩ | ⟨tokenizer, available, _⟩
  · exact ⟨.fellBack, gate, .inl none⟩
  · exact ⟨.fellBack, gate, .inr (.inl failed)⟩
  cases chosen : h.selected doc window with
  | error offset => exact ⟨.cleared, gate, tokenizer, offset, available, chosen⟩
  | ok view =>
    cases lexed : tokenizer.lex view.text with
    | error e =>
      exact ⟨.fellBack, gate, .inr (.inr ⟨tokenizer, view, available, chosen, .inl ⟨e, lexed⟩⟩)⟩
    | ok tokens =>
      by_cases covered : joined tokens = view.text
      · exact ⟨.painted _, view, tokens, ⟨gate, chosen, ⟨tokenizer, available, lexed⟩, covered⟩,
          rfl⟩
      · exact ⟨.fellBack, gate,
          .inr (.inr ⟨tokenizer, view, available, chosen, .inr ⟨tokens, lexed, covered⟩⟩)⟩

/-- The course that goes with what lexing comes to. -/
def courseOf (isOpen : Bool) (result : Except Error (Option Viewport.Outcome)) : Course :=
  match isOpen, result with
  | false, _ => .idle
  | true, .ok (some (.highlighted spans)) => .painted spans
  | true, .ok (some (.skipped _)) => .cleared
  | true, _ => .fellBack

theorem eq_courseOf_of_takes {h : Highlighter σ} {doc : Document} {window : Window}
    {course : Course} (takes : h.Takes doc window course) :
    course = courseOf (h.isOpen doc window) (h.lexWindow doc window).1 := by
  cases course with
  | idle => rw [isOpen_eq_false_iff.mpr takes, courseOf]
  | fellBack =>
    rcases lexWindow_of_fellBack takes with none | ⟨e, failed⟩
    · rw [isOpen_of_not_closed takes.1, none]
      rfl
    · rw [isOpen_of_not_closed takes.1, failed]
      rfl
  | cleared =>
    obtain ⟨offset, skipped⟩ := lexWindow_of_cleared takes
    rw [isOpen_of_not_closed takes.1, skipped, courseOf]
  | painted spans =>
    obtain ⟨view, tokens, done, rfl⟩ := takes
    rw [isOpen_of_not_closed done.isOpen, lexWindow_of_lexed done, courseOf]

theorem takes_unique {h : Highlighter σ} {doc : Document} {window : Window}
    {first second : Course} (takes : h.Takes doc window first)
    (other : h.Takes doc window second) : first = second :=
  (eq_courseOf_of_takes takes).trans (eq_courseOf_of_takes other).symm

/-- The fallback is called once when a cycle falls back, on the window as it is, and not at all
otherwise. -/
theorem calls_of_takes {h : Highlighter σ} {doc : Document} {window : Window} {course : Course}
    (takes : h.Takes doc window course) (fallback : Fallback σ) :
    h.calls fallback doc window = if course = .fellBack then [(doc, window)] else [] := by
  have recorded : h.recording.Takes doc window course := by
    cases course with
    | idle => exact takes
    | fellBack => exact takes
    | cleared => exact takes
    | painted spans =>
      obtain ⟨view, tokens, done, rfl⟩ := takes
      exact ⟨view, tokens, ⟨done.isOpen, done.selected, done.lexed, done.covered⟩, rfl⟩
  simp only [calls, cycle_of_takes recorded]
  cases course <;> simp [leaves, recording, Fallback.recorded]

theorem asked_keeps (dm : DocumentMode) :
    dm.asked.mode = dm.mode ∧ dm.asked.ownLexer = dm.ownLexer ∧
      dm.asked.ownMapping = dm.ownMapping := by
  simp only [DocumentMode.asked]
  split <;> exact ⟨rfl, rfl, rfl⟩

/-- A cycle changes no choice of the user, and of the window only the style map, unless it falls
back. -/
theorem leaves_keeps (fallback : Fallback σ) (h : Highlighter σ) (doc : Document)
    (window : Window) (course : Course) :
    let after := h.leaves fallback doc window course
    after.1.faces = h.faces ∧ after.1.settings = h.settings ∧
      after.1.mode.mode = h.mode.mode ∧ after.1.mode.ownLexer = h.mode.ownLexer ∧
      after.1.mode.ownMapping = h.mode.ownMapping ∧
      (course ≠ .fellBack →
        after.1.fallback = h.fallback ∧ after.2 = { window with styles := after.2.styles }) := by
  obtain ⟨mode, ownLexer, ownMapping⟩ := asked_keeps h.mode
  cases course with
  | idle => exact ⟨rfl, rfl, rfl, rfl, rfl, fun _ => ⟨rfl, rfl⟩⟩
  | fellBack => exact ⟨rfl, rfl, mode, ownLexer, ownMapping, fun other => absurd rfl other⟩
  | cleared => exact ⟨rfl, rfl, mode, ownLexer, ownMapping, fun _ => ⟨rfl, rfl⟩⟩
  | painted spans => exact ⟨rfl, rfl, mode, ownLexer, ownMapping, fun _ => ⟨rfl, rfl⟩⟩

/-- A cycle takes exactly one course and leaves behind what the course says. The fallback is called
once, on the untouched window, or not at all; a lexer that cannot be built outdoes a viewport that
cannot be decoded. -/
theorem cycle_takes_one_course (fallback : Fallback σ) (h : Highlighter σ) (doc : Document)
    (window : Window) :
    ∃ course, h.Takes doc window course ∧
      (∀ other, h.Takes doc window other → other = course) ∧
      h.cycle fallback doc window = h.leaves fallback doc window course ∧
      h.calls fallback doc window = (if course = .fellBack then [(doc, window)] else []) ∧
      (¬ h.Closed doc window → h.mode.Unbuildable → course = .fellBack) ∧
      let after := h.cycle fallback doc window
      after.1.faces = h.faces ∧ after.1.settings = h.settings ∧
        after.1.mode.mode = h.mode.mode ∧ after.1.mode.ownLexer = h.mode.ownLexer ∧
        after.1.mode.ownMapping = h.mode.ownMapping ∧
        (course ≠ .fellBack →
          after.1.fallback = h.fallback ∧ after.2 = { window with styles := after.2.styles }) := by
  obtain ⟨course, takes⟩ := takes_some h doc window
  have outcome := cycle_of_takes takes fallback
  refine ⟨course, takes, fun other h => takes_unique h takes, outcome,
    calls_of_takes takes fallback, ?_, ?_⟩
  · intro gate unbuildable
    have fell : h.Takes doc window .fellBack := ⟨gate, .inr (.inl unbuildable)⟩
    exact takes_unique takes fell
  · rw [outcome]
    exact leaves_keeps fallback h doc window course

end Highlighter

end Highlighting
