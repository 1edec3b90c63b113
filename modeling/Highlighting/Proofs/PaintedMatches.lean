import Highlighting.Baseline
import Highlighting.Proofs.LeftmostMatches
import Highlighting.Proofs.StyleMap
import Highlighting.Proofs.Utf8
import Mathlib.Data.List.Forall2

/-! What the baseline paints. Its scan comes to the successive matches of all its patterns joined by
alternation, and switches the face of a match on where that begins and off where it ends. Where one
match ends as the next begins, the later of the two switches stays, which is the one that is on. -/
namespace Highlighting

/-- The offset of a position in the text of a viewport. -/
def Viewport.offsetAt (view : Viewport) (position : Nat) : Nat :=
  view.base + Utf8.byteLength (view.text.take position)

theorem Viewport.offsetAt_append (base : Nat) (done rest : List Char) :
    offsetAt ⟨base, done ++ rest⟩ done.length = base + Utf8.byteLength done := by
  rw [offsetAt, List.take_left']
  rfl

theorem Viewport.offsetAt_mono (view : Viewport) {position later : Nat}
    (ordered : position ≤ later) : view.offsetAt position ≤ view.offsetAt later := by
  obtain ⟨more, rfl⟩ := Nat.exists_eq_add_of_le ordered
  rw [offsetAt, offsetAt, List.take_add, Utf8.byteLength_append]
  omega

theorem Viewport.offsetAt_lt (view : Viewport) {position later : Nat} (before : position < later)
    (within : later ≤ view.text.length) : view.offsetAt position < view.offsetAt later := by
  obtain ⟨more, rfl⟩ := Nat.exists_eq_add_of_le (Nat.le_of_lt before)
  have filled : (view.text.drop position).take more ≠ [] := by
    refine List.ne_nil_of_length_pos ?_
    rw [List.length_take, List.length_drop]
    omega
  have taken := Utf8.byteLength_pos filled
  rw [offsetAt, offsetAt, List.take_add, Utf8.byteLength_append]
  omega

namespace Baseline

open Regex

/-- All patterns as one, the earlier ones preferred. -/
def combined : Regex := .altAll (rules.map (·.2))

/-- The first rule that matches at a position of a text. -/
def ruleAt? (text : List Char) (position : Nat) : Option (String × Regex) :=
  rules.find? fun rule => (rule.2.matchEnd? text position).isSome

/-- The style of a match that begins at a position, if its face is registered. -/
def styleOf? (faces : Faces) (text : List Char) (position : Nat) : Option Style :=
  (ruleAt? text position).bind fun rule => faces.get? rule.1

/- The scan. -/

theorem combined_filled : combined.nullable = false := by decide

theorem findSome?_eq_bind {α β : Type} (f : α → Option β) (xs : List α) :
    xs.findSome? f = (xs.find? fun x => (f x).isSome).bind f := by
  induction xs with
  | nil => rfl
  | cons x xs ih => cases here : f x <;> simp [here, ih]

theorem matchEnd?_combined (text : List Char) (position : Nat) :
    combined.matchEnd? text position =
      (ruleAt? text position).bind fun rule => rule.2.matchEnd? text position := by
  rw [combined, matchEnd?_altAll, List.findSome?_map, findSome?_eq_bind]
  rfl

theorem firstMatch_eq (done rest : List Char) :
    firstMatch done.getLast? rest = (ruleAt? (done ++ rest) done.length).bind fun rule =>
      (rule.2.matchAt done.getLast? rest).map (rule.1, ·) := by
  rw [firstMatch, findSome?_eq_bind, ruleAt?]
  simp only [matchEnd?_append, Option.isSome_map]

theorem step_of_unmatched {done rest : List Char}
    (tried : ruleAt? (done ++ rest) done.length = none) :
    firstMatch done.getLast? rest = none ∧
      combined.matchEnd? (done ++ rest) done.length = none := by
  rw [firstMatch_eq, matchEnd?_combined, tried]
  exact ⟨rfl, rfl⟩

/-- The rule that matches first takes some of the characters, and all patterns joined take as
many. -/
theorem step_of_matched {done rest : List Char} {rule : String × Regex}
    (tried : ruleAt? (done ++ rest) done.length = some rule) :
    ∃ taken left, rest = taken ++ left ∧ taken ≠ [] ∧
      firstMatch done.getLast? rest = some (rule.1, taken.length) ∧
      combined.matchEnd? (done ++ rest) done.length = some (done ++ taken).length := by
  have some_match := List.find?_some tried
  rw [matchEnd?_append, Option.isSome_map] at some_match
  obtain ⟨n, matched⟩ := Option.isSome_iff_exists.mp some_match
  have first : firstMatch done.getLast? rest = some (rule.1, n) := by
    rw [firstMatch_eq, tried, Option.bind_some, matched, Option.map_some]
  have joined : combined.matchEnd? (done ++ rest) done.length = some (n + done.length) := by
    rw [matchEnd?_combined, tried, Option.bind_some, matchEnd?_append, matched, Option.map_some]
  have begun : done.length ≤ (done ++ rest).length := by simp
  obtain ⟨-, inside, forth⟩ := matchEnd?_bounds begun joined
  have filled := forth combined_filled
  rw [List.length_append] at inside
  have size : (rest.take n).length = n := by
    rw [List.length_take]
    omega
  refine ⟨rest.take n, rest.drop n, (List.take_append_drop ..).symm, ?_, ?_, ?_⟩
  · refine List.ne_nil_of_length_pos ?_
    omega
  · rw [first, size]
  · rw [joined, List.length_append, size, Nat.add_comm]

/-- What the scan keeps of a match. -/
structure Records (view : Viewport) (found : Found) (m : Nat × Nat) : Prop where
  start : found.start = view.offsetAt m.1
  stop : found.stop = view.offsetAt m.2
  face : (ruleAt? view.text m.1).map (·.1) = some found.face

theorem matchesFrom_taken {fuel : Nat} {before : Option Char} {offset : Nat}
    {taken left : List Char} {face : String} (filled : taken ≠ [])
    (first : firstMatch before (taken ++ left) = some (face, taken.length)) :
    matchesFrom (fuel + 1) before offset (taken ++ left) =
      ⟨face, offset, offset + Utf8.byteLength taken⟩ ::
        matchesFrom fuel taken.getLast? (offset + Utf8.byteLength taken) left := by
  obtain ⟨c, taken, rfl⟩ := List.exists_cons_of_ne_nil filled
  rw [List.cons_append] at first ⊢
  rw [List.length_cons] at first
  have front : (c :: (taken ++ left)).take (taken.length + 1) = c :: taken := by simp
  have behind : (c :: (taken ++ left)).drop (taken.length + 1) = left := by simp
  simp only [matchesFrom, first, front, behind]

theorem matchesFrom_records (base : Nat) (done text : List Char) {fuel : Nat}
    (enough : text.length < fuel) :
    ∃ found, Successive combined (done ++ text) done.length found ∧
      List.Forall₂ (Records ⟨base, done ++ text⟩)
        (matchesFrom fuel done.getLast? (base + Utf8.byteLength done) text) found := by
  -- What is scanned moves from `text` over to `done`, so that the text as a whole stays the one in
  -- which positions are counted and assertions are judged.
  induction fuel generalizing done text with
  | zero => exact absurd enough (Nat.not_lt_zero _)
  | succ fuel ih =>
    cases tried : ruleAt? (done ++ text) done.length with
    | none =>
      obtain ⟨first, joined⟩ := step_of_unmatched tried
      cases text with
      | nil =>
        refine ⟨[], .last fun start behind within => ?_, .nil⟩
        rw [List.append_nil] at within joined ⊢
        rw [Nat.le_antisymm within behind, joined]
      | cons c rest =>
        have whole : done ++ [c] ++ rest = done ++ c :: rest := by simp
        have further : base + Utf8.byteLength (done ++ [c]) =
            base + Utf8.byteLength done + c.utf8Size := by
          simp [Utf8.byteLength, Nat.add_assoc]
        obtain ⟨found, successive, records⟩ :=
          ih (done ++ [c]) rest (Nat.lt_of_succ_lt_succ enough)
        rw [whole, List.length_append, List.length_singleton] at successive
        rw [whole, List.getLast?_concat, further] at records
        exact ⟨found, successive.skip joined, by simpa only [matchesFrom, first] using records⟩
    | some rule =>
      obtain ⟨taken, left, rfl, filled, first, joined⟩ := step_of_matched tried
      have shorter : left.length < fuel := by
        have := List.length_pos_of_ne_nil filled
        rw [List.length_append] at enough
        omega
      have last : (done ++ taken).getLast? = taken.getLast? :=
        List.getLast?_append_of_ne_nil _ filled
      have further : base + Utf8.byteLength (done ++ taken) =
          base + Utf8.byteLength done + Utf8.byteLength taken := by
        rw [Utf8.byteLength_append, Nat.add_assoc]
      obtain ⟨found, successive, records⟩ := ih (done ++ taken) left shorter
      rw [List.append_assoc] at successive records
      rw [last, further] at records
      have begun : done.length ≤ (done ++ (taken ++ left)).length := by simp
      have leftmost : Leftmost combined (done ++ (taken ++ left)) done.length done.length
          (done ++ taken).length :=
        ⟨Nat.le_refl _, begun, joined, fun earlier behind before => by omega⟩
      have here : Records ⟨base, done ++ (taken ++ left)⟩
          ⟨rule.1, base + Utf8.byteLength done,
            base + Utf8.byteLength done + Utf8.byteLength taken⟩
          (done.length, (done ++ taken).length) := by
        refine ⟨(Viewport.offsetAt_append base done _).symm, ?_, by simp [tried]⟩
        rw [← List.append_assoc, Viewport.offsetAt_append, further]
      refine ⟨_, .next leftmost successive, ?_⟩
      rw [matchesFrom_taken filled first]
      exact .cons here records

/- The style map. -/

/-- The spans of a match. -/
def stroke (faces : Faces) (view : Viewport) (m : Nat × Nat) : List Span :=
  match styleOf? faces view.text m.1 with
  | some style => [⟨view.offsetAt m.1, style⟩, ⟨view.offsetAt m.2, .plain⟩]
  | none => []

theorem flatMap_records {faces : Faces} {view : Viewport} {scanned : List Found}
    {found : List (Nat × Nat)} (records : List.Forall₂ (Records view) scanned found) :
    (scanned.flatMap fun m => match faces.get? m.face with
      | some style => [⟨m.start, style⟩, ⟨m.stop, .plain⟩]
      | none => []) = found.flatMap (stroke faces view) := by
  induction records with
  | nil => rfl
  | @cons kept m scanned found here _ ih =>
    have style : styleOf? faces view.text m.1 = faces.get? kept.face := by
      obtain ⟨rule, tried, face⟩ := Option.map_eq_some_iff.mp here.face
      rw [styleOf?, tried, Option.bind_some, face]
    rw [List.flatMap_cons, List.flatMap_cons, ih, stroke, style, here.start, here.stop]

theorem spans_eq (faces : Faces) (view : Viewport) :
    ∃ found, Successive combined view.text 0 found ∧
      spans faces view.base view.text = found.flatMap (stroke faces view) := by
  obtain ⟨found, successive, records⟩ :=
    matchesFrom_records view.base [] view.text (Nat.lt_succ_self _)
  exact ⟨found, successive, flatMap_records records⟩

theorem mem_stroke {faces : Faces} {view : Viewport} {m : Nat × Nat} {span : Span}
    (inside : span ∈ stroke faces view m) :
    span.start = view.offsetAt m.1 ∨ span.start = view.offsetAt m.2 := by
  rw [stroke] at inside
  split at inside
  · rcases List.mem_pair.mp inside with rfl | rfl
    · exact .inl rfl
    · exact .inr rfl
  · cases inside

theorem stroke_bounds {faces : Faces} {view : Viewport} {m : Nat × Nat} {span : Span}
    (ordered : m.1 ≤ m.2) (inside : span ∈ stroke faces view m) :
    view.offsetAt m.1 ≤ span.start ∧ span.start ≤ view.offsetAt m.2 := by
  have forth := view.offsetAt_mono ordered
  rcases mem_stroke inside with start | start <;> omega

theorem strokes_ordered (faces : Faces) (view : Viewport) {found : List (Nat × Nat)}
    (filled : ∀ m ∈ found, m.1 ≤ m.2) (parted : found.Pairwise fun m next => m.2 ≤ next.1) :
    (found.flatMap (stroke faces view)).Pairwise (·.start ≤ ·.start) := by
  rw [List.pairwise_flatMap]
  constructor
  · intro m inside
    have forth := view.offsetAt_mono (filled m inside)
    rw [stroke]
    split <;> simp [forth]
  · refine parted.imp_of_mem fun {m next} among among' apart => ?_
    intro span inside span' inside'
    have before := (stroke_bounds (filled m among) inside).2
    have behind := (stroke_bounds (filled next among') inside').1
    have between := view.offsetAt_mono apart
    omega

/-- An offset that a match takes in. -/
def Inside (view : Viewport) (m : Nat × Nat) (offset : Nat) : Prop :=
  view.offsetAt m.1 ≤ offset ∧ offset < view.offsetAt m.2

/-- Nothing is on, or plain style is. -/
def IsPlain (style : Option Style) : Prop := style = none ∨ style = some .plain

theorem lastBegun?_stroke_inside {faces : Faces} {view : Viewport} {m : Nat × Nat} {offset : Nat}
    {style : Style} (face : styleOf? faces view.text m.1 = some style)
    (inside : Inside view m offset) :
    StyleMap.lastBegun? (stroke faces view m) offset = some style := by
  simp only [stroke, face, StyleMap.lastBegun?_cons, if_pos inside.1,
    if_neg (Nat.not_le.mpr inside.2), Option.or_none]
  rfl

theorem lastBegun?_stroke_outside {faces : Faces} {view : Viewport} {m : Nat × Nat} {offset : Nat}
    (outside : Inside view m offset → styleOf? faces view.text m.1 = none) :
    IsPlain (StyleMap.lastBegun? (stroke faces view m) offset) := by
  cases face : styleOf? faces view.text m.1 with
  | none =>
    simp only [stroke, face]
    exact .inl rfl
  | some style =>
    have apart : ¬ Inside view m offset := fun inside => by simp [outside inside] at face
    simp only [stroke, face, StyleMap.lastBegun?_cons]
    by_cases passed : view.offsetAt m.2 ≤ offset
    · rw [if_pos passed]
      exact .inr rfl
    · have ahead : ¬ view.offsetAt m.1 ≤ offset := fun begun =>
        apart ⟨begun, Nat.lt_of_not_le passed⟩
      rw [if_neg passed, if_neg ahead]
      exact .inl rfl

theorem lastBegun?_of_inside {faces : Faces} {view : Viewport} {found : List (Nat × Nat)}
    (filled : ∀ m ∈ found, m.1 ≤ m.2) (parted : found.Pairwise fun m next => m.2 ≤ next.1)
    {m : Nat × Nat} (among : m ∈ found) {offset : Nat} {style : Style}
    (face : styleOf? faces view.text m.1 = some style) (inside : Inside view m offset) :
    StyleMap.lastBegun? (found.flatMap (stroke faces view)) offset = some style := by
  obtain ⟨before, behind, rfl⟩ := List.append_of_mem among
  have later : ∀ span ∈ behind.flatMap (stroke faces view), offset < span.start := by
    intro span member
    obtain ⟨next, among', member⟩ := List.mem_flatMap.mp member
    have low := (stroke_bounds (filled next (by simp [among'])) member).1
    have apart := (List.pairwise_cons.mp (List.pairwise_append.mp parted).2.1).1 next among'
    have between := view.offsetAt_mono apart
    have high := inside.2
    omega
  rw [List.flatMap_append, List.flatMap_cons, StyleMap.lastBegun?_append,
    StyleMap.lastBegun?_append, StyleMap.lastBegun?_of_lt later,
    lastBegun?_stroke_inside face inside]
  rfl

theorem lastBegun?_of_outside {faces : Faces} {view : Viewport} {found : List (Nat × Nat)}
    {offset : Nat}
    (outside : ∀ m ∈ found, Inside view m offset → styleOf? faces view.text m.1 = none) :
    IsPlain (StyleMap.lastBegun? (found.flatMap (stroke faces view)) offset) := by
  induction found with
  | nil => exact .inl rfl
  | cons m found ih =>
    obtain ⟨here, outside⟩ := List.forall_mem_cons.mp outside
    rw [List.flatMap_cons, StyleMap.lastBegun?_append]
    rcases ih outside with none | plain
    · rw [none, Option.none_or]
      exact lastBegun?_stroke_outside here
    · rw [plain]
      exact .inr rfl

/-- What a style map shows of matches in a viewport: each in the style of the rule that produced it,
the first one that matches there, and nothing but plain text elsewhere. -/
structure Paints (faces : Faces) (view : Viewport) (found : List (Nat × Nat)) (styles : StyleMap) :
    Prop where
  produced : ∀ m ∈ found, ∃ rule, ruleAt? view.text m.1 = some rule ∧
    rule.2.matchEnd? view.text m.1 = some m.2
  filled : ∀ m ∈ found, view.offsetAt m.1 < view.offsetAt m.2
  inside : ∀ m ∈ found, ∀ style, styleOf? faces view.text m.1 = some style →
    ∀ offset, Inside view m offset → styles.styleAt? offset = some style
  outside : ∀ offset,
    (∀ m ∈ found, Inside view m offset → styleOf? faces view.text m.1 = none) →
      IsPlain (styles.styleAt? offset)

theorem paints_spans (faces : Faces) (view : Viewport) :
    ∃ found, Successive combined view.text 0 found ∧
      Paints faces view found (.ofSpans (spans faces view.base view.text)) := by
  obtain ⟨found, successive, same⟩ := spans_eq faces view
  obtain ⟨within, parted⟩ := successive.parted combined_filled
  have filled : ∀ m ∈ found, m.1 ≤ m.2 := fun m among => Nat.le_of_lt (within m among).2.1
  have shown : ∀ offset, (StyleMap.ofSpans (spans faces view.base view.text)).styleAt? offset =
      StyleMap.lastBegun? (found.flatMap (stroke faces view)) offset := by
    intro offset
    rw [same, StyleMap.styleAt?_ofSpans (strokes_ordered faces view filled parted)]
  refine ⟨found, successive, ?_, ?_, ?_, ?_⟩
  · intro m among
    have matched := successive.matched among
    rw [matchEnd?_combined] at matched
    exact Option.bind_eq_some_iff.mp matched
  · intro m among
    obtain ⟨-, before, inside⟩ := within m among
    exact view.offsetAt_lt before inside
  · intro m among style face offset inside
    rw [shown, lastBegun?_of_inside filled parted among face inside]
  · intro offset outside
    rw [shown]
    exact lastBegun?_of_outside outside

/-- A baseline cycle paints the successive matches of all patterns in the viewport, and nothing
else. Whatever the window showed before is gone, and all of it where the viewport is no text. -/
theorem highlight_paints_matches (baseline : Baseline) (doc : Document) (window : Window) :
    match Viewport.select doc doc.point window.columns window.rows baseline.limit with
    | .ok view => ∃ found, Successive combined view.text 0 found ∧
        (∀ other, Successive combined view.text 0 other → other = found) ∧
        Paints baseline.faces view found (baseline.highlight doc window).styles
    | .error _ => (baseline.highlight doc window).styles = {} := by
  rw [highlight]
  cases Viewport.select doc doc.point window.columns window.rows baseline.limit with
  | error offset => rfl
  | ok view =>
    obtain ⟨found, successive, paints⟩ := paints_spans baseline.faces view
    exact ⟨found, successive, fun other successive' => successive'.unique successive, paints⟩

end Baseline

end Highlighting
