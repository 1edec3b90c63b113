import Highlighting.Style

/-!
Windows and their style maps. A style map holds, in ascending order, the offsets at which a style is
switched on; a style holds until the next one.
-/
namespace Highlighting

structure Span where
  start : Nat
  style : Style
  deriving DecidableEq, Repr

/-- Switched-on styles by offset, ascending. -/
structure StyleMap where
  spans : List Span := []
  deriving DecidableEq, Repr

namespace StyleMap

/-- Places a span among ascending spans, in place of one at the same offset. -/
def insertIn (span : Span) : List Span → List Span
  | [] => [span]
  | s :: rest =>
    if span.start < s.start then span :: s :: rest
    else if span.start = s.start then span :: rest
    else s :: insertIn span rest

def insert (map : StyleMap) (span : Span) : StyleMap :=
  ⟨insertIn span map.spans⟩

/-- The map of a list of spans; of two at one offset the later stays. -/
def ofSpans (spans : List Span) : StyleMap :=
  spans.foldl insert {}

def get? (map : StyleMap) (offset : Nat) : Option Style :=
  (map.spans.find? (·.start = offset)).map (·.style)

/-- The style in effect at an offset: the last one switched on at or before it. -/
def styleAt? (map : StyleMap) (offset : Nat) : Option Style :=
  ((map.spans.takeWhile (·.start ≤ offset)).getLast?).map (·.style)

end StyleMap

structure Window where
  columns : Nat
  rows : Nat
  hasColors : Bool := true
  styles : StyleMap := {}
  deriving Repr

namespace Window

def resize (window : Window) (columns rows : Nat) : Window :=
  { window with columns := columns, rows := rows }

def setSpans (window : Window) (spans : List Span) : Window :=
  { window with styles := .ofSpans spans }

def switchOn (window : Window) (span : Span) : Window :=
  { window with styles := window.styles.insert span }

def clear (window : Window) : Window :=
  { window with styles := {} }

def styleAt? (window : Window) (offset : Nat) : Option Style :=
  window.styles.styleAt? offset

end Window

end Highlighting
