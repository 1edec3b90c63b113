import Highlighting.Text.FileName
import Highlighting.Text.Utf8

/-!
Documents: bytes with a cursor and an accessible region. Offsets are absolute byte offsets. Every
operation keeps the cursor inside the accessible region, and the region inside the content.
-/
namespace Highlighting

structure Document where
  name : String
  path : Option String := none
  content : List UInt8
  point : Nat := 0
  narrowed : Option (Nat × Nat) := none
  deriving Repr

def clamp (n lo hi : Nat) : Nat :=
  max lo (min n hi)

namespace Document

/-- How many leading bytes decide whether a document is binary. -/
def sniffLength : Nat := 8000

/-- A document of a file: it is named after the file, or `unnamed` when the path names none. -/
def ofFile (path : String) (content : List UInt8) : Document :=
  { name := (FileName.last? path).getD "unnamed", path := some path, content := content }

def region (doc : Document) : Nat × Nat :=
  doc.narrowed.getD (0, doc.content.length)

def pointMin (doc : Document) : Nat := doc.region.1

def pointMax (doc : Document) : Nat := doc.region.2

def byteSize (doc : Document) : Nat := doc.pointMax - doc.pointMin

/-- Moves the cursor, as near to `point` as the accessible region allows. -/
def setPoint (doc : Document) (point : Nat) : Document :=
  { doc with point := clamp point doc.pointMin doc.pointMax }

def narrow (doc : Document) (start stop : Nat) : Document :=
  let hi := min stop doc.content.length
  let lo := min start hi
  setPoint { doc with narrowed := some (lo, hi) } doc.point

def widen (doc : Document) : Document :=
  { doc with narrowed := none }

def bytes (doc : Document) (start stop : Nat) : List UInt8 :=
  let hi := clamp stop doc.pointMin doc.pointMax
  let lo := clamp start doc.pointMin hi
  (doc.content.drop lo).take (hi - lo)

def isValid (doc : Document) (start stop : Nat) : Bool :=
  Utf8.isValid (doc.bytes start stop)

/-- A NUL near the start marks a document as binary. -/
def isBinary (doc : Document) : Bool :=
  (doc.content.take sniffLength).contains 0

end Document

end Highlighting
