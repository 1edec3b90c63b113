import Highlighting.Document
import Highlighting.Window

/-!
Viewports: the part of a document that one cycle works on. Small documents are taken whole. Of a
larger one only a stretch from the cursor onward is taken, sized from the visible area, so that the
cost of a cycle stays bounded; a character that the end of the stretch cuts through is dropped, and
bytes that are no text make the whole stretch unusable.
-/
namespace Highlighting

structure Viewport where
  base : Nat
  text : List Char
  deriving DecidableEq, Repr

namespace Viewport

/-- The longest stretch that the end of a window can leave of a character. -/
def maxCutTail : Nat := 3

def stop (view : Viewport) : Nat :=
  view.base + Utf8.byteLength view.text

/-- Bytes taken from the cursor on: half the visible area, three times for lookahead. The last row
shows no text. -/
def windowLength (columns rows : Nat) : Nat :=
  columns * (rows - 1) / 2 * 3

/-- Draws the end of a stretch back, at most `steps` bytes, while it is no well-formed text. -/
def trimEnd (doc : Document) (start : Nat) : Nat → Nat → Nat
  | 0, stop => stop
  | steps + 1, stop => if doc.isValid start stop then stop else trimEnd doc start steps (stop - 1)

def bounds (doc : Document) (cursor columns rows limit : Nat) : Nat × Nat :=
  if doc.byteSize < limit then (doc.pointMin, doc.pointMax)
  else
    let start := clamp cursor doc.pointMin doc.pointMax
    let stop := min (start + windowLength columns rows) doc.pointMax
    (start, trimEnd doc start (min maxCutTail (stop - start)) stop)

/-- Chooses the text to work on; the error is the absolute offset of the first byte that is no
text. -/
def select (doc : Document) (cursor columns rows limit : Nat) : Except Nat Viewport :=
  let (start, stop) := bounds doc cursor columns rows limit
  match Utf8.decode (doc.bytes start stop) with
  | .ok text => .ok ⟨start, text⟩
  | .error offset => .error (start + offset)

end Viewport

end Highlighting
