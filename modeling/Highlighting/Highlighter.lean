import Highlighting.Baseline
import Highlighting.Registry

/-!
Highlighters: what the render loop calls once per cycle. The document's lexer highlights the window;
when there is no lexer, or lexing fails, a fallback does, on a window that the cycle has not
touched.
-/
namespace Highlighting

structure Settings where
  enabled : Bool := true
  limit : Nat := 1024 * 1024
  deriving DecidableEq, Repr

structure Fallback (σ : Type) where
  run : σ → Document → Window → σ × Window

def Baseline.fallback : Fallback Baseline :=
  ⟨fun baseline doc window => (baseline, baseline.highlight doc window)⟩

structure Highlighter (σ : Type) where
  mode : DocumentMode
  faces : Faces
  settings : Settings
  fallback : σ

namespace Highlighter

variable {σ : Type}

def ofMode (mode : DocumentMode) (faces : Faces) (settings : Settings) : Highlighter Baseline :=
  ⟨mode, faces, settings, ⟨faces, settings.limit⟩⟩

/-- Whether a cycle does anything: the window has colors, highlighting is on, and the document is
not binary. -/
def isOpen (h : Highlighter σ) (doc : Document) (window : Window) : Bool :=
  window.hasColors && h.settings.enabled && ! doc.isBinary

/-- Lexes the window with the tokenizer of the document; there is no outcome without a lexer. -/
def lexWindow (h : Highlighter σ) (doc : Document) (window : Window) :
    Except Error (Option Viewport.Outcome) × Highlighter σ :=
  let (tokenizer?, mode) := h.mode.tokenizer
  let result := match tokenizer? with
    | .error e => .error e
    | .ok none => .ok none
    | .ok (some tokenizer) =>
      (Viewport.highlight tokenizer h.mode.mapping h.faces doc window.columns window.rows
        h.settings.limit).map some
  (result, { h with mode := mode })

def cycle (fallback : Fallback σ) (h : Highlighter σ) (doc : Document) (window : Window) :
    Highlighter σ × Window :=
  if ! h.isOpen doc window then (h, window)
  else
    let (result, h) := h.lexWindow doc window
    match result with
    | .ok (some (.highlighted spans)) => (h, window.setSpans spans)
    | .ok (some (.skipped _)) => (h, window.clear)
    | .ok none =>
      let (state, window) := fallback.run h.fallback doc window
      ({ h with fallback := state }, window)
    | .error _ =>
      let (state, window) := fallback.run h.fallback doc window
      ({ h with fallback := state }, window)

end Highlighter

end Highlighting
