import Highlighting.Proofs.Region

/-! Operations that may refuse. A number is clamped only between bounds that do not cross, and a
stretch is cut only between ordered bounds inside the content. Whatever moves are made, a document
never asks for more, and its accessible bytes are those at the places of the region. -/
namespace Highlighting

/-- The number in `lo..hi` that is nearest to `n`; bounds that cross have none. -/
def clamp? (n lo hi : Nat) : Option Nat :=
  if lo ≤ hi then some (if n < lo then lo else if hi < n then hi else n) else none

theorem clamp?_of_ordered (n : Nat) {lo hi : Nat} (ordered : lo ≤ hi) :
    clamp? n lo hi = some (clamp n lo hi) := by
  have nearest : (if n < lo then lo else if hi < n then hi else n) = clamp n lo hi := by
    simp only [clamp]
    split
    · omega
    · split <;> omega
  rw [clamp?, if_pos ordered, nearest]

/-- The bytes between two bounds, which must be ordered and inside the content. -/
def cut? (content : List UInt8) (start stop : Nat) : Option (List UInt8) :=
  if start ≤ stop ∧ stop ≤ content.length then some ((content.drop start).take (stop - start))
  else none

theorem cut?_of_inside {content : List UInt8} {start stop : Nat} (ordered : start ≤ stop)
    (inside : stop ≤ content.length) :
    cut? content start stop = some ((content.drop start).take (stop - start)) :=
  if_pos ⟨ordered, inside⟩

/-- The bytes that stand at the places that are kept; the first one stands at `first`. -/
def bytesAt (keep : Nat → Bool) (content : List UInt8) (first : Nat := 0) : List UInt8 :=
  ((content.zipIdx first).filter fun entry => keep entry.2).map (·.1)

theorem bytesAt_append (keep : Nat → Bool) (before behind : List UInt8) (first : Nat) :
    bytesAt keep (before ++ behind) first =
      bytesAt keep before first ++ bytesAt keep behind (first + before.length) := by
  simp only [bytesAt, List.zipIdx_append, List.filter_append, List.map_append]

theorem bytesAt_of_none {keep : Nat → Bool} {content : List UInt8} {first : Nat}
    (none : ∀ place, first ≤ place → place < first + content.length → keep place = false) :
    bytesAt keep content first = [] := by
  rw [bytesAt, List.map_eq_nil_iff, List.filter_eq_nil_iff]
  intro entry member
  rw [none entry.2 (List.le_snd_of_mem_zipIdx member) (List.snd_lt_add_of_mem_zipIdx member)]
  exact Bool.false_ne_true

theorem bytesAt_of_all {keep : Nat → Bool} {content : List UInt8} {first : Nat}
    (all : ∀ place, first ≤ place → place < first + content.length → keep place = true) :
    bytesAt keep content first = content := by
  have whole : (content.zipIdx first).filter (fun entry => keep entry.2) =
      content.zipIdx first := by
    rw [List.filter_eq_self]
    intro entry member
    exact all entry.2 (List.le_snd_of_mem_zipIdx member) (List.snd_lt_add_of_mem_zipIdx member)
  rw [bytesAt, whole, List.zipIdx_map_fst]

/-- The bytes between two places, cut out of the content. -/
theorem bytesAt_between {content : List UInt8} {lo hi : Nat} (ordered : lo ≤ hi)
    (inside : hi ≤ content.length) :
    bytesAt (fun place => lo ≤ place ∧ place < hi) content = (content.drop lo).take (hi - lo) := by
  have parts : content =
      content.take lo ++ ((content.drop lo).take (hi - lo) ++ content.drop hi) := by
    have rest : (content.drop lo).drop (hi - lo) = content.drop hi := by
      rw [List.drop_drop, Nat.add_sub_cancel' ordered]
    rw [← rest, List.take_append_drop, List.take_append_drop]
  have first : (content.take lo).length = lo := by
    rw [List.length_take]
    omega
  have second : ((content.drop lo).take (hi - lo)).length = hi - lo := by
    rw [List.length_take, List.length_drop]
    omega
  generalize content.take lo = before at parts first
  generalize (content.drop lo).take (hi - lo) = between at parts second ⊢
  rw [parts, bytesAt_append, bytesAt_append, bytesAt_of_none, bytesAt_of_all, bytesAt_of_none,
    List.nil_append, List.append_nil]
  all_goals
    intro place low high
    simp only [decide_eq_true_eq, decide_eq_false_iff_not]
    omega

namespace Document

/- Each operation once more, as a chain of steps that may refuse. The end of the region is the sum
that a document computes from the start and the size. -/

def setPoint? (doc : Document) (point : Nat) : Option Document :=
  (clamp? point doc.pointMin (doc.pointMin + doc.byteSize)).map fun point =>
    { doc with point := point }

def narrow? (doc : Document) (start stop : Nat) : Option Document :=
  let hi := min stop doc.content.length
  let lo := min start hi
  setPoint? { doc with narrowed := some (lo, hi) } doc.point

def bytes? (doc : Document) (start stop : Nat) : Option (List UInt8) :=
  (clamp? stop doc.pointMin doc.pointMax).bind fun hi =>
    (clamp? start doc.pointMin hi).bind fun lo => cut? doc.content lo hi

def move? (doc : Document) : Move → Option Document
  | .setPoint point => doc.setPoint? point
  | .narrow start stop => doc.narrow? start stop
  | .widen => some doc.widen

def run? (doc : Document) (moves : List Move) : Option Document :=
  moves.foldlM move? doc

theorem pointMin_add_byteSize {doc : Document} (ordered : doc.pointMin ≤ doc.pointMax) :
    doc.pointMin + doc.byteSize = doc.pointMax :=
  Nat.add_sub_cancel' ordered

theorem setPoint?_of_ordered {doc : Document} (ordered : doc.pointMin ≤ doc.pointMax)
    (point : Nat) : doc.setPoint? point = some (doc.setPoint point) := by
  rw [setPoint?, pointMin_add_byteSize ordered, clamp?_of_ordered point ordered]
  rfl

theorem move?_of_sound {doc : Document} (sound : doc.Sound) (m : Move) :
    doc.move? m = some (doc.move m) := by
  cases m with
  | setPoint point => exact setPoint?_of_ordered sound.ordered point
  | narrow start stop =>
    -- The start was cut at the end, so the new region is ordered whatever was asked for.
    have ordered : min start (min stop doc.content.length) ≤ min stop doc.content.length :=
      Nat.min_le_right ..
    exact @setPoint?_of_ordered { doc with narrowed := some (_, _) } ordered doc.point
  | widen => rfl

theorem run?_of_sound {doc : Document} (sound : doc.Sound) (moves : List Move) :
    doc.run? moves = some (doc.run moves) := by
  induction moves generalizing doc with
  | nil => rfl
  | cons m moves ih =>
    rw [run?, List.foldlM_cons, move?_of_sound sound m]
    exact ih (sound_move sound m)

theorem bytes?_of_sound {doc : Document} (sound : doc.Sound) (start stop : Nat) :
    doc.bytes? start stop = some (doc.bytes start stop) := by
  have low : doc.pointMin ≤ clamp stop doc.pointMin doc.pointMax := le_clamp stop
  have high := clamp_le stop sound.ordered
  have ordered := clamp_le start low
  rw [bytes?, clamp?_of_ordered stop sound.ordered, Option.bind_some,
    clamp?_of_ordered start low, Option.bind_some,
    cut?_of_inside ordered (Nat.le_trans high sound.inside)]
  rfl

theorem bytes_eq_bytesAt {doc : Document} (sound : doc.Sound) (start stop : Nat) :
    doc.bytes start stop = bytesAt (fun place =>
      (start ≤ place ∧ place < stop) ∧ doc.pointMin ≤ place ∧ place < doc.pointMax)
        doc.content := by
  have region := sound.ordered
  have low : doc.pointMin ≤ clamp stop doc.pointMin doc.pointMax := le_clamp stop
  have high := clamp_le stop region
  have ordered := clamp_le start low
  have same : (fun place : Nat => decide
      (clamp start doc.pointMin (clamp stop doc.pointMin doc.pointMax) ≤ place ∧
        place < clamp stop doc.pointMin doc.pointMax)) = fun place => decide
      ((start ≤ place ∧ place < stop) ∧ doc.pointMin ≤ place ∧ place < doc.pointMax) := by
    funext place
    rw [decide_eq_decide]
    simp only [clamp]
    omega
  rw [← same, bytesAt_between ordered (Nat.le_trans high sound.inside)]
  rfl

/-- Any moves of a document of any content: none is refused, the cursor stays in the region and the
region in the content, and any two bounds give the bytes at the accessible places between them. -/
theorem bytes_after_moves (name : String) (path : Option String) (content : List UInt8)
    (moves : List Move) :
    let fresh : Document := { name := name, path := path, content := content }
    let doc := fresh.run moves
    fresh.run? moves = some doc ∧
      doc.pointMin ≤ doc.point ∧ doc.point ≤ doc.pointMax ∧ doc.pointMax ≤ content.length ∧
      doc.pointMax = doc.pointMin + doc.byteSize ∧
      ∀ start stop, doc.bytes? start stop = some (bytesAt (fun place =>
        (start ≤ place ∧ place < stop) ∧ doc.pointMin ≤ place ∧ place < doc.pointMax) content) ∧
        doc.bytes? start stop = some (doc.bytes start stop) := by
  intro fresh doc
  have begun : fresh.Sound := sound_fresh name path content
  have sound : doc.Sound := sound_run begun moves
  have same : doc.content = content := content_run fresh moves
  rw [← same]
  refine ⟨run?_of_sound begun moves, sound.low, sound.high, sound.inside,
    (pointMin_add_byteSize sound.ordered).symm, ?_⟩
  intro start stop
  have answered := bytes?_of_sound sound start stop
  exact ⟨answered.trans (congrArg some (bytes_eq_bytesAt sound start stop)), answered⟩

end Document

end Highlighting
