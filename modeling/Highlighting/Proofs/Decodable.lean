import Highlighting.Proofs.Selection

/-! Selection from well-formed text. Between two characters a viewport can always begin, and drawing
its end back by three bytes is enough to reach a place between characters. The cursor is then at
such a place of the viewport. -/
namespace Highlighting

namespace Utf8

/-- A text cut anywhere is whole again less at most three bytes. -/
theorem exists_cut (text : List Char) {n : Nat} (inside : n ≤ byteLength text) :
    ∃ before behind, text = before ++ behind ∧ byteLength before ≤ n ∧
      n ≤ byteLength before + 3 := by
  induction text generalizing n with
  | nil => exact ⟨[], [], rfl, Nat.zero_le n, Nat.le_trans inside (Nat.zero_le 3)⟩
  | cons c rest ih =>
    have size := c.utf8Size_le_four
    rw [byteLength] at inside
    by_cases fits : c.utf8Size ≤ n
    · obtain ⟨before, behind, rfl, below, near⟩ := @ih (n - c.utf8Size) (by omega)
      exact ⟨c :: before, behind, rfl, by rw [byteLength]; omega, by rw [byteLength]; omega⟩
    · exact ⟨[], c :: rest, rfl, Nat.zero_le n, by rw [byteLength_nil]; omega⟩

theorem take_encode (before behind : List Char) :
    (encode (before ++ behind)).take (byteLength before) = encode before := by
  rw [encode_append, ← length_encode before, List.take_left]

theorem drop_encode (before behind : List Char) :
    (encode (before ++ behind)).drop (byteLength before) = encode behind := by
  rw [encode_append, ← length_encode before, List.drop_left]

end Utf8

namespace Document

theorem drop_slice (doc : Document) (start n stop : Nat) :
    (doc.slice start stop).drop n = doc.slice (start + n) stop := by
  rw [slice, slice, List.drop_take, List.drop_drop, Nat.sub_sub]

end Document

namespace Viewport

/-- Drawing back does not go past an end that leaves text. -/
theorem isValid_trimEnd {doc : Document} {start last : Nat} (valid : doc.isValid start last = true)
    {steps stop : Nat} (near : stop ≤ last + steps) (below : last ≤ stop) :
    doc.isValid start (trimEnd doc start steps stop) = true := by
  induction steps generalizing stop with
  | zero =>
    have same : stop = last := by omega
    rwa [trimEnd, same]
  | succ steps ih =>
    rw [trimEnd]
    split
    · assumption
    · rename_i invalid
      have other : stop ≠ last := fun same => invalid (same ▸ valid)
      exact ih (by omega) (by omega)

end Viewport

end Highlighting
