import Highlighting.Proofs.Session

/-! What a cycle paints depends on no history. It is a function of the document, the window's size,
the lexer and the mapping in use, the faces and the settings; of a table only the lookups count. -/
namespace Highlighting

theorem Viewport.styleOf_congr {mapping other : Mapping} {faces more : Faces}
    (mapped : ∀ name, mapping.get? name = other.get? name)
    (registered : ∀ name, faces.get? name = more.get? name) (kind : Kind) :
    styleOf mapping faces kind = styleOf other more kind := by
  simp only [styleOf, Mapping.resolve, funext mapped, funext registered]

theorem Viewport.walk_congr {mapping other : Mapping} {faces more : Faces}
    (same : ∀ kind, styleOf mapping faces kind = styleOf other more kind) (view : Viewport)
    (cursor position : Nat) (rest : List Char) (tokens : List Token) :
    walk mapping faces view cursor position rest tokens =
      walk other more view cursor position rest tokens := by
  induction tokens generalizing position rest with
  | nil => rfl
  | cons token tokens ih => simp only [walk, same, ih]

theorem Viewport.highlight_congr {mapping other : Mapping} {faces more : Faces}
    (same : ∀ kind, styleOf mapping faces kind = styleOf other more kind) (tokenizer : Tokenizer)
    (doc : Document) (columns rows limit : Nat) :
    highlight tokenizer mapping faces doc columns rows limit =
      highlight tokenizer other more doc columns rows limit := by
  simp only [highlight, tokenize, walk_congr same]

namespace Baseline

theorem spans_congr {faces more : Faces} (same : ∀ name, faces.get? name = more.get? name)
    (base : Nat) (text : List Char) : spans faces base text = spans more base text := by
  simp only [spans, same]

/-- The style map of a cycle of the baseline in a window of a size. -/
def paint (faces : Faces) (limit : Nat) (doc : Document) (columns rows : Nat) : StyleMap :=
  match Viewport.select doc doc.point columns rows limit with
  | .ok view => .ofSpans (spans faces view.base view.text)
  | .error _ => {}

theorem highlight_eq_paint (baseline : Baseline) (doc : Document) (window : Window) :
    baseline.highlight doc window =
      { window with
        styles := paint baseline.faces baseline.limit doc window.columns window.rows } := by
  simp only [highlight, paint]
  cases Viewport.select doc doc.point window.columns window.rows baseline.limit <;> rfl

end Baseline

/-- What a call of the factory comes to is the same on every memory. -/
def Lexer.Steady (lexer : Lexer) : Prop :=
  ∀ memory, lexer.build memory = lexer.build []

namespace DocumentMode

/- What is kept is no more than what a steady lexer would build. -/

theorem Genuine.available {dm : DocumentMode} (genuine : dm.Genuine) {lexer : Lexer}
    {tokenizer : Tokenizer} (chosen : dm.lexer = some lexer) (steady : lexer.Steady)
    (build : lexer.build [] = .ok tokenizer) : dm.Available tokenizer := by
  refine ⟨lexer, chosen, ?_⟩
  cases memo : dm.built with
  | none => exact .inr ⟨rfl, (steady _).trans build⟩
  | some kept =>
    obtain ⟨other, memory, same, origin⟩ := genuine kept memo
    cases chosen.symm.trans same
    rw [steady memory, build] at origin
    cases origin
    exact .inl rfl

theorem Genuine.unbuildable {dm : DocumentMode} (genuine : dm.Genuine) {lexer : Lexer} {e : Error}
    (chosen : dm.lexer = some lexer) (steady : lexer.Steady) (build : lexer.build [] = .error e) :
    dm.Unbuildable := by
  refine ⟨lexer, e, chosen, ?_, (steady _).trans build⟩
  cases memo : dm.built with
  | none => rfl
  | some kept =>
    obtain ⟨other, memory, same, origin⟩ := genuine kept memo
    cases chosen.symm.trans same
    rw [steady memory, build] at origin
    cases origin

end DocumentMode

namespace Highlighter

/-- The style map of a cycle with an open gate, computed from nothing that an earlier cycle left. -/
def paint (lexer : Option Lexer) (mapping : Mapping) (faces : Faces) (settings : Settings)
    (doc : Document) (columns rows : Nat) : StyleMap :=
  match lexer.bind fun lexer => (lexer.build []).toOption with
  | none => Baseline.paint faces settings.limit doc columns rows
  | some tokenizer =>
    match Viewport.highlight tokenizer mapping faces doc columns rows settings.limit with
    | .ok (.highlighted spans) => .ofSpans spans
    | .ok (.skipped _) => {}
    | .error _ => Baseline.paint faces settings.limit doc columns rows

theorem paint_congr {mapping other : Mapping} {faces more : Faces}
    (mapped : ∀ name, mapping.get? name = other.get? name)
    (registered : ∀ name, faces.get? name = more.get? name) (lexer : Option Lexer)
    (settings : Settings) (doc : Document) (columns rows : Nat) :
    paint lexer mapping faces settings doc columns rows =
      paint lexer other more settings doc columns rows := by
  have same := Viewport.styleOf_congr mapped registered
  simp only [paint, Baseline.paint, Viewport.highlight_congr same, Baseline.spans_congr registered]

theorem leaves_fellBack (h : Highlighter Baseline) (doc : Document) (window : Window) :
    h.leaves Baseline.fallback doc window .fellBack =
      ({ h with mode := h.mode.asked }, { window with
        styles := Baseline.paint h.fallback.faces h.fallback.limit doc window.columns
          window.rows }) := by
  simp only [leaves, Baseline.fallback, Baseline.highlight_eq_paint]

theorem styles_cycle {h : Highlighter Baseline} {doc : Document} {window : Window}
    (genuine : h.mode.Genuine) (own : h.fallback = ⟨h.faces, h.settings.limit⟩)
    (steady : ∀ lexer, h.mode.lexer = some lexer → lexer.Steady)
    (gate : h.isOpen doc window = true) :
    (h.cycle Baseline.fallback doc window).2.styles =
      paint h.mode.lexer h.mode.mapping h.faces h.settings doc window.columns window.rows := by
  rw [cycle_of_open (not_closed_of_isOpen gate)]
  cases chosen : h.mode.lexer with
  | none =>
    rw [lexWindow_of_unlexed chosen]
    simp only [leaves_fellBack, own, paint, Option.bind_none]
  | some lexer =>
    have steady := steady lexer chosen
    cases build : lexer.build [] with
    | error e =>
      obtain ⟨e, failed⟩ :=
        lexWindow_of_unbuildable (genuine.unbuildable chosen steady build) doc window
      rw [failed]
      simp only [leaves_fellBack, own, paint, Option.bind_some, build, Except.toOption]
    | ok tokenizer =>
      rw [lexWindow_of_available (genuine.available chosen steady build)]
      simp only [paint, Option.bind_some, build, Except.toOption]
      rcases Viewport.highlight tokenizer h.mode.mapping h.faces doc window.columns window.rows
        h.settings.limit with e | (spans | offset)
      · simp only [Except.map, leaves_fellBack, own]
      · rfl
      · rfl

end Highlighter

namespace Session

/-- The session after a cycle over the baseline. -/
abbrev highlighted (s : Session Baseline) : Session Baseline :=
  s.step Baseline.fallback .highlight

/-- A cycle keeps all of the highlighter but its mode, and all of the window but its style map. -/
theorem highlighted_keeps (s : Session Baseline) :
    s.highlighted.highlighter = { s.highlighter with mode := s.highlighted.mode } ∧
      s.highlighted.window = { s.window with styles := s.highlighted.window.styles } := by
  obtain ⟨course, takes⟩ := Highlighter.takes_some s.highlighter s.doc s.window
  simp only [highlighted, step, Highlighter.cycle_of_takes takes]
  cases course with
  | fellBack => simp only [Highlighter.leaves_fellBack, and_self]
  | idle | cleared | painted => exact ⟨rfl, rfl⟩

/-- A session that began with a highlighter over the baseline. -/
def Reached (s : Session Baseline) : Prop :=
  ∃ (mode : Mode) (memory : Memory) (faces : Faces) (settings : Settings) (doc : Document)
    (window : Window) (steps : List Step),
    s = run Baseline.fallback
      ⟨.ofMode { mode := mode, memory := memory } faces settings, doc, window⟩ steps

/-- The baseline shares the faces and the size limit of the highlighter. -/
def SharesFaces (s : Session Baseline) : Prop :=
  s.highlighter.fallback = ⟨s.highlighter.faces, s.highlighter.settings.limit⟩

theorem sharesFaces_step {s : Session Baseline} (shared : s.SharesFaces) (x : Step) :
    (s.step Baseline.fallback x).SharesFaces := by
  cases x with
  | highlight =>
    rw [SharesFaces, (highlighted_keeps s).1]
    exact shared
  | replace | move | display | resize | setSpans | switchOn | clear | setLexer | setMapping
  | tokenizer => exact shared

theorem sharesFaces_run {s : Session Baseline} (shared : s.SharesFaces) (steps : List Step) :
    (s.run Baseline.fallback steps).SharesFaces := by
  induction steps generalizing s with
  | nil => exact shared
  | cons x steps ih => exact ih (sharesFaces_step shared x)

/-- The lexer in use is steady, if there is one. -/
def Steady (s : Session Baseline) : Prop :=
  ∀ lexer, s.mode.lexer = some lexer → lexer.Steady

/-- In a reached session a cycle paints what its parts call for. -/
theorem Reached.styles_highlight {s : Session Baseline} (reached : s.Reached) (steady : s.Steady)
    (gate : s.highlighter.isOpen s.doc s.window = true) :
    s.highlighted.window.styles =
      Highlighter.paint s.mode.lexer s.mode.mapping s.highlighter.faces s.highlighter.settings
        s.doc s.window.columns s.window.rows := by
  obtain ⟨mode, memory, faces, settings, doc, window, steps, rfl⟩ := reached
  have genuine := genuine_start (⟨faces, settings.limit⟩ : Baseline) mode memory faces settings doc
    window
  have shared : SharesFaces
      ⟨.ofMode { mode := mode, memory := memory } faces settings, doc, window⟩ := rfl
  exact Highlighter.styles_cycle (genuine_run Baseline.fallback genuine steps)
    (sharesFaces_run shared steps) steady gate

theorem Reached.step {s : Session Baseline} (reached : s.Reached) (x : Step) :
    (s.step Baseline.fallback x).Reached := by
  obtain ⟨mode, memory, faces, settings, doc, window, steps, rfl⟩ := reached
  refine ⟨mode, memory, faces, settings, doc, window, steps ++ [x], ?_⟩
  simp only [run, List.foldl_append, List.foldl_cons, List.foldl_nil]

/-- Two sessions agree on all that a cycle should depend on. -/
structure Alike (first second : Session Baseline) : Prop where
  doc : first.doc = second.doc
  columns : first.window.columns = second.window.columns
  rows : first.window.rows = second.window.rows
  colors : first.window.hasColors = second.window.hasColors
  lexer : first.mode.lexer = second.mode.lexer
  mapping : ∀ name, first.mode.mapping.get? name = second.mode.mapping.get? name
  faces : ∀ name, first.highlighter.faces.get? name = second.highlighter.faces.get? name
  settings : first.highlighter.settings = second.highlighter.settings

theorem Alike.gate {first second : Session Baseline} (alike : Alike first second) :
    second.highlighter.isOpen second.doc second.window =
      first.highlighter.isOpen first.doc first.window := by
  simp only [Highlighter.isOpen, alike.doc, alike.colors, alike.settings]

theorem Alike.steady {first second : Session Baseline} (alike : Alike first second)
    (steady : first.Steady) : second.Steady :=
  fun lexer chosen => steady lexer (alike.lexer.trans chosen)

theorem Alike.styles {first second : Session Baseline} (alike : Alike first second)
    (reached : first.Reached) (other : second.Reached) (steady : first.Steady)
    (gate : first.highlighter.isOpen first.doc first.window = true) :
    first.highlighted.window.styles = second.highlighted.window.styles := by
  rw [reached.styles_highlight steady gate,
    other.styles_highlight (alike.steady steady) (alike.gate.trans gate),
    Highlighter.paint_congr alike.mapping alike.faces, alike.lexer, alike.settings, alike.doc,
    alike.columns, alike.rows]

/-- A cycle leaves a session that is like the one before. -/
theorem alike_highlighted (s : Session Baseline) : Alike s.highlighted s := by
  obtain ⟨highlighter, window⟩ := highlighted_keeps s
  have mapping : s.highlighted.mode.mapping = s.mode.mapping :=
    mapping_step Baseline.fallback s .highlight
  exact
    { doc := rfl
      columns := by rw [window]
      rows := by rw [window]
      colors := by rw [window]
      lexer := lexer_step Baseline.fallback s .highlight
      mapping := fun name => by rw [mapping]
      faces := fun name => by rw [highlighter]
      settings := by rw [highlighter] }

theorem Reached.window_highlighted_twice {s : Session Baseline} (reached : s.Reached)
    (steady : s.Steady) :
    s.highlighted.highlighted.window = s.highlighted.window := by
  cases gate : s.highlighter.isOpen s.doc s.window with
  | false =>
    have closed := Highlighter.isOpen_eq_false_iff.mp gate
    have idle : s.highlighted = s := by
      rw [highlighted, Session.step, Highlighter.cycle_of_closed closed]
    rw [idle, idle]
  | true =>
    have alike := alike_highlighted s
    have same : s.highlighted.highlighted.window.styles = s.highlighted.window.styles :=
      alike.styles (reached.step .highlight) reached
        (fun lexer chosen => steady lexer (alike.lexer.symm.trans chosen))
        (alike.gate.symm.trans gate)
    rw [(highlighted_keeps s.highlighted).2, same]

/-- Sessions of any lengths and orders that come to agree on a steady lexer show the same after the
next cycle, and a second cycle in a row changes nothing. -/
theorem highlighted_of_alike {first second : Session Baseline} (reached : first.Reached)
    (other : second.Reached) (alike : Alike first second) (steady : first.Steady)
    (gate : first.highlighter.isOpen first.doc first.window = true) :
    first.highlighted.window.styles = second.highlighted.window.styles ∧
      first.highlighted.highlighted.window = first.highlighted.window :=
  ⟨alike.styles reached other steady gate, reached.window_highlighted_twice steady⟩

/- Straight to a cycle, or there by way of a fallback, a lexer that cannot be built, a narrowed
document and another window. -/

def words : Lexer :=
  .ofPatterns "words" [] fun _ => .ok ⟨"words", fun text => .ok [⟨⟨"Keyword"⟩, text⟩]⟩

def broken : Lexer :=
  .ofPatterns "broken" [] fun _ => .error (.pattern "broken")

def note : Document :=
  { name := "note", content := Utf8.encode "if 7".toList }

def direct : Session Baseline :=
  ⟨.ofMode { mode := ⟨0, some words, .standard⟩ } .standard {}, note, ⟨80, 24, true, {}⟩⟩

def detour : Session Baseline :=
  run Baseline.fallback
    ⟨.ofMode { mode := ⟨1, none, {}⟩ } .standard {}, note, ⟨20, 5, false, {}⟩⟩
    [.highlight, .resize 80 24, .display ⟨80, 24, true, {}⟩, .highlight, .setLexer broken,
      .tokenizer, .highlight, .move (.narrow 1 3), .setLexer words, .highlight,
      .setMapping .standard, .switchOn ⟨2, .colored .red⟩, .move .widen, .move (.setPoint 0)]

theorem highlighted_of_detour :
    direct.Reached ∧ detour.Reached ∧ Alike direct detour ∧ direct.Steady ∧
      direct.highlighter.isOpen direct.doc direct.window = true ∧
      direct.window.styles ≠ detour.window.styles ∧
      direct.highlighted.window.styles = detour.highlighted.window.styles ∧
      direct.highlighted.highlighted.window = direct.highlighted.window := by
  have reached : direct.Reached :=
    ⟨⟨0, some words, .standard⟩, [], .standard, {}, note, ⟨80, 24, true, {}⟩, [], rfl⟩
  have other : detour.Reached := ⟨_, _, _, _, _, _, _, rfl⟩
  have alike : Alike direct detour :=
    ⟨rfl, rfl, rfl, rfl, rfl, fun _ => rfl, fun _ => rfl, rfl⟩
  have steady : direct.Steady := by
    rintro lexer chosen
    cases chosen
    exact fun _ => rfl
  have gate : direct.highlighter.isOpen direct.doc direct.window = true := rfl
  exact ⟨reached, other, alike, steady, gate, by decide,
    highlighted_of_alike reached other alike steady gate⟩

end Session

end Highlighting
