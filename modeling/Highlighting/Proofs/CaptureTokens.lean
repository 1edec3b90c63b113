import Highlighting.Proofs.Tiling

/-! Tokens of captures. Nothing is assumed of the captures: the walk tiles the text whatever their
order and wherever they lie, and agrees with a walk that slices the text by their offsets. -/
namespace Highlighting.Capture

theorem walk_tiles (size covered : Nat) (rest : List Char) (captures : List Capture) :
    Tiles (walk size covered rest captures) rest := by
  induction captures generalizing covered rest with
  | nil => exact gap_tiles rest
  | cons capture more ih =>
    simp only [walk]
    split
    · exact ih covered rest
    · next apart =>
      split
      · exact ih covered rest
      · next before behind found =>
        split
        · exact ih covered rest
        · next claimed tail taken =>
          obtain ⟨rfl, _⟩ := Utf8.splitAt?_eq_some_iff.mp found
          obtain ⟨rfl, length⟩ := Utf8.splitAt?_eq_some_iff.mp taken
          have filled : claimed ≠ [] := by
            rintro rfl
            rw [Utf8.byteLength_nil] at length
            omega
          exact (gap_tiles before).append (.cons filled (ih _ tail))

theorem tokens_tiles (text : List Char) (captures : List Capture) :
    Tiles (tokens text captures) text :=
  walk_tiles _ 0 text _

/-- The walk on offsets alone. A capture with an end inside a character is passed over before
anything is sliced. -/
def sweep? (text : List Char) (covered : Nat) : List Capture → Option (List Token)
  | [] => gapAt? covered (Utf8.byteLength text) text
  | capture :: more =>
    let stop := min capture.stop (Utf8.byteLength text)
    if capture.start < covered ∨ stop ≤ capture.start then sweep? text covered more
    else if (Utf8.splitAt? capture.start text).isNone ∨ (Utf8.splitAt? stop text).isNone then
      sweep? text covered more
    else do
      let gap ← gapAt? covered capture.start text
      let claimed ← Utf8.slice? capture.start stop text
      let tokens ← sweep? text stop more
      some (gap ++ ⟨kindOf capture.name, claimed⟩ :: tokens)

theorem isNone_splitAt?_add (before : List Char) (offset : Nat) (text : List Char) :
    (Utf8.splitAt? (Utf8.byteLength before + offset) (before ++ text)).isNone =
      (Utf8.splitAt? offset text).isNone := by
  rw [Utf8.splitAt?_add, Option.isNone_map]

/-- Both walks agree behind any part of the text that is covered. -/
theorem sweep?_eq_walk (done rest : List Char) (captures : List Capture) :
    sweep? (done ++ rest) (Utf8.byteLength done) captures =
      some (walk (Utf8.byteLength (done ++ rest)) (Utf8.byteLength done) rest captures) := by
  induction captures generalizing done rest with
  | nil =>
    have gap := gapAt?_append done rest []
    rwa [List.append_nil, ← Utf8.byteLength_append] at gap
  | cons capture more ih =>
    simp only [sweep?, walk]
    generalize bound : min capture.stop (Utf8.byteLength (done ++ rest)) = stop
    by_cases passed : capture.start < Utf8.byteLength done ∨ stop ≤ capture.start
    · rw [if_pos passed, if_pos passed, ih]
    · rw [if_neg passed, if_neg passed]
      obtain ⟨skipped, start⟩ : ∃ skipped, capture.start = Utf8.byteLength done + skipped :=
        Nat.exists_eq_add_of_le (by omega)
      obtain ⟨length, rfl⟩ : ∃ length, stop = capture.start + length :=
        Nat.exists_eq_add_of_le (by omega)
      rw [start, Nat.add_sub_cancel_left, Nat.add_sub_cancel_left, isNone_splitAt?_add]
      cases found : Utf8.splitAt? skipped rest with
      | none => simp [ih]
      | some parts =>
        obtain ⟨before, behind⟩ := parts
        obtain ⟨rfl, rfl⟩ := Utf8.splitAt?_eq_some_iff.mp found
        simp only [← Utf8.byteLength_append, ← List.append_assoc, isNone_splitAt?_add]
        cases taken : Utf8.splitAt? length behind with
        | none => simpa using ih done (before ++ behind)
        | some parts =>
          obtain ⟨claimed, tail⟩ := parts
          obtain ⟨rfl, rfl⟩ := Utf8.splitAt?_eq_some_iff.mp taken
          have gap := gapAt?_append done before (claimed ++ tail)
          have slice := Utf8.slice?_append (done ++ before) claimed tail
          have onward := ih (done ++ before ++ claimed) tail
          simp only [← Utf8.byteLength_append, ← List.append_assoc] at gap slice onward ⊢
          simp only [Option.isNone_some, Bool.false_eq_true, or_self, if_false, gap, slice, onward,
            Option.bind_eq_bind, Option.bind_some]

end Highlighting.Capture
