import Highlighting.Terminal
import Mathlib.Data.List.DropRight

/-! Texts in lines. A text is cut behind each of its line feeds and nowhere else; what a line shows
is the line without the line feeds and carriage returns at its end, so that no line feed is left. -/
namespace Highlighting.Terminal

/-- A text and its pieces when it is cut behind every line feed. -/
inductive Pieces : List Char → List (List Char) → Prop where
  | none : Pieces [] []
  | last {body : List Char} : body ≠ [] → '\n' ∉ body → Pieces body [body]
  | next {body rest : List Char} {more : List (List Char)} :
      '\n' ∉ body → Pieces rest more → Pieces (body ++ '\n' :: rest) ((body ++ ['\n']) :: more)

theorem lines_append {body : List Char} (single : '\n' ∉ body) (rest : List Char) :
    lines (body ++ '\n' :: rest) = (body ++ ['\n']) :: lines rest := by
  induction body with
  | nil => simp [lines]
  | cons c body ih =>
    obtain ⟨other, single⟩ := not_or.mp (List.mem_cons.not.mp single)
    simp [lines, Ne.symm other, ih single]

theorem lines_of_notMem {body : List Char} (filled : body ≠ []) (single : '\n' ∉ body) :
    lines body = [body] := by
  induction body with
  | nil => contradiction
  | cons c body ih =>
    obtain ⟨other, single⟩ := not_or.mp (List.mem_cons.not.mp single)
    cases body with
    | nil => simp [lines, Ne.symm other]
    | cons d body => rw [lines, if_neg (Ne.symm other), ih (by simp) single]

theorem Pieces.eq_lines {text : List Char} {pieces : List (List Char)}
    (cut : Pieces text pieces) : pieces = lines text := by
  induction cut with
  | none => rfl
  | last filled single => exact (lines_of_notMem filled single).symm
  | next single _ ih => rw [lines_append single, ih]

theorem Pieces.cons {c : Char} {rest first : List Char} {more : List (List Char)}
    (other : c ≠ '\n') (cut : Pieces rest (first :: more)) :
    Pieces (c :: rest) ((c :: first) :: more) := by
  cases cut with
  | last _ single => exact .last (by simp) (by simp [Ne.symm other, single])
  | @next body _ _ single later =>
    have none : '\n' ∉ c :: body := by simp [Ne.symm other, single]
    exact .next none later

theorem pieces_lines (text : List Char) : Pieces text (lines text) := by
  induction text with
  | nil => exact .none
  | cons c rest ih =>
    unfold lines
    split
    · next feed =>
      subst feed
      exact .next List.not_mem_nil ih
    · next other =>
      split
      · next first more same =>
        rw [same] at ih
        exact ih.cons other
      · next same =>
        rw [same] at ih
        cases ih
        exact .last (by simp) (by simp [Ne.symm other])

/-- What is left of a line without the run of line feeds and carriage returns at its end. -/
structure Stripped (line body : List Char) : Prop where
  cut : ∃ ending, line = body ++ ending ∧ ∀ c ∈ ending, c = '\n' ∨ c = '\r'
  kept : ∀ c, body.getLast? = some c → c ≠ '\n' ∧ c ≠ '\r'

theorem isLineEnd_iff {c : Char} : isLineEnd c = true ↔ c = '\n' ∨ c = '\r' := by
  simp [isLineEnd]

theorem visible_eq (line : List Char) : visible line = line.rdropWhile isLineEnd := rfl

theorem stripped_visible (line : List Char) : Stripped line (visible line) := by
  rw [visible_eq]
  constructor
  · refine ⟨line.rtakeWhile isLineEnd, ?_, ?_⟩
    · rw [List.rdropWhile, List.rtakeWhile, ← List.reverse_append, List.takeWhile_append_dropWhile,
        List.reverse_reverse]
    · intro c inside
      exact isLineEnd_iff.mp (List.mem_rtakeWhile_imp inside)
  · intro c last
    have filled : line.rdropWhile isLineEnd ≠ [] := by
      intro empty
      rw [empty] at last
      cases last
    have stop := List.rdropWhile_last_not isLineEnd line filled
    rw [List.getLast?_eq_some_getLast filled] at last
    cases last
    rw [isLineEnd_iff] at stop
    exact not_or.mp stop

theorem Stripped.eq_visible {line body : List Char} (stripped : Stripped line body) :
    body = visible line := by
  obtain ⟨⟨ending, rfl, ends⟩, kept⟩ := stripped
  have whole : body.rdropWhile isLineEnd = body := by
    rw [List.rdropWhile_eq_self_iff]
    intro filled ended
    have apart := kept _ (List.getLast?_eq_some_getLast filled)
    rcases isLineEnd_iff.mp ended with feed | back
    · exact apart.1 feed
    · exact apart.2 back
  rw [visible_eq]
  induction ending using List.reverseRecOn with
  | nil => rw [List.append_nil, whole]
  | append_singleton ending c ih =>
    have last : isLineEnd c = true := isLineEnd_iff.mpr (ends c (by simp))
    rw [← List.append_assoc, List.rdropWhile_concat_pos _ _ _ last]
    exact ih fun d inside => ends d (by simp [inside])

end Highlighting.Terminal
