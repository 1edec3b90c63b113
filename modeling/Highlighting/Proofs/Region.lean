import Highlighting.Document

/-! The accessible region of a document. Whatever moves are made, the cursor stays in the region and
the region in the content, so that accessible bytes are a slice of the content. -/
namespace Highlighting

theorem le_clamp (n : Nat) {lo hi : Nat} : lo ≤ clamp n lo hi :=
  Nat.le_max_left ..

theorem clamp_le (n : Nat) {lo hi : Nat} (ordered : lo ≤ hi) : clamp n lo hi ≤ hi :=
  Nat.max_le.mpr ⟨ordered, Nat.min_le_right ..⟩

theorem clamp_of_mem {n lo hi : Nat} (low : lo ≤ n) (high : n ≤ hi) : clamp n lo hi = n := by
  simp only [clamp]
  omega

namespace Document

/-- A move of the cursor or a change of the accessible region. -/
inductive Move where
  | setPoint (point : Nat)
  | narrow (start stop : Nat)
  | widen
  deriving DecidableEq, Repr

def move (doc : Document) : Move → Document
  | .setPoint point => doc.setPoint point
  | .narrow start stop => doc.narrow start stop
  | .widen => doc.widen

def run (doc : Document) (moves : List Move) : Document :=
  moves.foldl move doc

/-- The cursor lies in the accessible region, and the region in the content. -/
structure Sound (doc : Document) : Prop where
  low : doc.pointMin ≤ doc.point
  high : doc.point ≤ doc.pointMax
  inside : doc.pointMax ≤ doc.content.length

theorem Sound.ordered {doc : Document} (sound : doc.Sound) : doc.pointMin ≤ doc.pointMax :=
  Nat.le_trans sound.low sound.high

theorem sound_setPoint {doc : Document} (ordered : doc.pointMin ≤ doc.pointMax)
    (inside : doc.pointMax ≤ doc.content.length) (point : Nat) : (doc.setPoint point).Sound :=
  ⟨le_clamp point, clamp_le point ordered, inside⟩

theorem sound_fresh (name : String) (path : Option String) (content : List UInt8) :
    Sound { name := name, path := path, content := content } :=
  ⟨Nat.le_refl 0, Nat.zero_le _, Nat.le_refl _⟩

theorem sound_move {doc : Document} (sound : doc.Sound) (m : Move) : (doc.move m).Sound := by
  cases m with
  | setPoint point => exact sound_setPoint sound.ordered sound.inside point
  | narrow start stop =>
    exact sound_setPoint (Nat.min_le_right ..) (Nat.min_le_right ..) doc.point
  | widen => exact ⟨Nat.zero_le _, Nat.le_trans sound.high sound.inside, Nat.le_refl _⟩

theorem sound_run {doc : Document} (sound : doc.Sound) (moves : List Move) :
    (doc.run moves).Sound := by
  induction moves generalizing doc with
  | nil => exact sound
  | cons m moves ih => exact ih (sound_move sound m)

theorem content_move (doc : Document) (m : Move) : (doc.move m).content = doc.content := by
  cases m <;> rfl

theorem content_run (doc : Document) (moves : List Move) :
    (doc.run moves).content = doc.content := by
  induction moves generalizing doc with
  | nil => rfl
  | cons m moves ih => exact (ih (doc.move m)).trans (content_move doc m)

/-- The content between two offsets. -/
def slice (doc : Document) (start stop : Nat) : List UInt8 :=
  (doc.content.drop start).take (stop - start)

theorem length_slice {doc : Document} {start stop : Nat} (inside : stop ≤ doc.content.length) :
    (doc.slice start stop).length = stop - start := by
  simp only [slice, List.length_take, List.length_drop]
  omega

theorem take_slice (doc : Document) {start stop n : Nat} (low : start ≤ n) (high : n ≤ stop) :
    (doc.slice start stop).take (n - start) = doc.slice start n := by
  have shorter : n - start ≤ stop - start := by omega
  simp only [slice, List.take_take, Nat.min_eq_left shorter]

/-- Within the accessible region nothing is cut away. -/
theorem bytes_eq_slice {doc : Document} {start stop : Nat} (low : doc.pointMin ≤ start)
    (ordered : start ≤ stop) (high : stop ≤ doc.pointMax) :
    doc.bytes start stop = doc.slice start stop := by
  have upper : clamp stop doc.pointMin doc.pointMax = stop :=
    clamp_of_mem (Nat.le_trans low ordered) high
  simp only [bytes, slice, upper, clamp_of_mem low ordered]

end Document

end Highlighting
