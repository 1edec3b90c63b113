import Highlighting.Lexer.CaptureWalk
import Highlighting.Proofs.Placement

/-! Tokens cut out of a text. A text is sliced by byte offsets, and a slice exists only between two
places between characters; tokens tile a text when none is empty and they join to it. -/
namespace Highlighting

namespace Utf8

/-- The text between two offsets, if both are places between characters. -/
def slice? (start stop : Nat) (text : List Char) : Option (List Char) :=
  match splitAt? start text with
  | none => none
  | some (_, behind) =>
    if start ≤ stop then (splitAt? (stop - start) behind).map (·.1) else none

theorem slice?_append (before slice behind : List Char) :
    slice? (byteLength before) (byteLength before + byteLength slice)
      (before ++ (slice ++ behind)) = some slice := by
  simp only [slice?, splitAt?_append, Nat.le_add_right, if_true, Nat.add_sub_cancel_left,
    Option.map_some]

theorem splitAt?_add (before : List Char) (offset : Nat) (text : List Char) :
    splitAt? (byteLength before + offset) (before ++ text) =
      (splitAt? offset text).map fun (inner, outer) => (before ++ inner, outer) := by
  induction before with
  | nil => cases split : splitAt? offset text <;> simp [split]
  | cons c rest ih =>
    have := c.utf8Size_pos
    have inside : byteLength (c :: rest) + offset ≠ 0 := by simp only [byteLength]; omega
    have enough : c.utf8Size ≤ byteLength (c :: rest) + offset := by simp only [byteLength]; omega
    have left : byteLength (c :: rest) + offset - c.utf8Size = byteLength rest + offset := by
      simp only [byteLength]; omega
    simp only [List.cons_append, splitAt?, if_neg inside, if_pos enough, left, ih]
    cases splitAt? offset text <;> rfl

end Utf8

/-- Non-empty tokens that join to a text. -/
structure Tiles (tokens : List Token) (text : List Char) : Prop where
  filled : ∀ token ∈ tokens, token.text ≠ []
  joins : joined tokens = text

theorem Tiles.nil : Tiles [] [] :=
  ⟨fun _ h => (List.not_mem_nil h).elim, rfl⟩

theorem Tiles.cons {kind : Kind} {text rest : List Char} {tokens : List Token}
    (filled : text ≠ []) (tiles : Tiles tokens rest) :
    Tiles (⟨kind, text⟩ :: tokens) (text ++ rest) := by
  refine ⟨?_, by rw [joined_cons, tiles.joins]⟩
  intro token h
  rcases List.mem_cons.mp h with rfl | h
  · exact filled
  · exact tiles.filled token h

theorem Tiles.append {tokens more : List Token} {text rest : List Char} (first : Tiles tokens text)
    (second : Tiles more rest) : Tiles (tokens ++ more) (text ++ rest) := by
  refine ⟨?_, by rw [joined_append, first.joins, second.joins]⟩
  intro token h
  rcases List.mem_append.mp h with h | h
  · exact first.filled token h
  · exact second.filled token h

namespace Capture

theorem gap_tiles (text : List Char) : Tiles (gap text) text := by
  cases text with
  | nil => exact .nil
  | cons c rest =>
    have tiles : Tiles [⟨.text, c :: rest⟩] (c :: rest ++ []) := .cons (by simp) .nil
    rwa [List.append_nil] at tiles

/-- A token of plain text between two offsets, unless they are the same. -/
def gapAt? (start stop : Nat) (text : List Char) : Option (List Token) :=
  if start < stop then (Utf8.slice? start stop text).map fun plain => [⟨.text, plain⟩]
  else some []

theorem gapAt?_append (before plain behind : List Char) :
    gapAt? (Utf8.byteLength before) (Utf8.byteLength before + Utf8.byteLength plain)
      (before ++ (plain ++ behind)) = some (gap plain) := by
  cases plain with
  | nil => simp [gapAt?, gap]
  | cons c rest =>
    have filled : Utf8.byteLength before <
        Utf8.byteLength before + Utf8.byteLength (c :: rest) :=
      Nat.lt_add_of_pos_right (Utf8.byteLength_pos (by simp))
    rw [gapAt?, if_pos filled, Utf8.slice?_append]
    rfl

end Capture

end Highlighting
