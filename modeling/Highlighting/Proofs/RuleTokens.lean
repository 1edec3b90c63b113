import Highlighting.Lexer.Rule
import Highlighting.Proofs.Tiling

/-! Tokens of rules. The loop over a text is compared with one that counts in bytes and slices the
text by them, and that has no answer where a slice would cut a character or the steps run out. -/
namespace Highlighting

namespace Regex

/- No match reaches past the end of the text. -/

theorem follow_le {before : Option Char} {ways : List Way} {best : Option Nat} {taken : Nat}
    {text : List Char} {n : Nat} (bound : ∀ m, best = some m → m ≤ taken)
    (found : follow before ways best taken text = some n) : n ≤ taken + text.length := by
  induction text generalizing before ways best taken with
  | nil =>
    simp only [follow] at found
    split at found
    · cases found
      exact Nat.le_refl _
    · exact bound n found
  | cons c rest ih =>
    simp only [follow] at found
    have later : ∀ m, (if (advance before (some c) ways).2 then some taken else best) = some m →
        m ≤ taken := by
      intro m h
      split at h
      · cases h
        exact Nat.le_refl _
      · exact bound m h
    rw [List.length_cons]
    split at found
    · have := later n found
      omega
    · have := ih (fun m h => Nat.le_succ_of_le (later m h)) found
      omega

theorem matchAt_le {r : Regex} {before : Option Char} {text : List Char} {n : Nat}
    (found : r.matchAt before text = some n) : n ≤ text.length := by
  have := follow_le (by simp) found
  omega

theorem findFrom_le {r : Regex} {before : Option Char} {skipped : Nat} {text : List Char}
    {start length : Nat} (found : r.findFrom before skipped text = some (start, length)) :
    start + length ≤ skipped + text.length := by
  induction text generalizing before skipped with
  | nil =>
    simp only [findFrom, Option.map_eq_some_iff, Prod.mk.injEq] at found
    obtain ⟨n, matched, rfl, rfl⟩ := found
    have := matchAt_le matched
    omega
  | cons c rest ih =>
    simp only [findFrom] at found
    split at found
    · next n matched =>
      cases found
      have := matchAt_le matched
      omega
    · have := ih found
      rw [List.length_cons]
      omega

theorem find_le {r : Regex} {text : List Char} {start length : Nat}
    (found : r.find text = some (start, length)) : start + length ≤ text.length := by
  simp only [find] at found
  split at found
  · simp only [Option.map_eq_some_iff, Prod.mk.injEq] at found
    obtain ⟨n, matched, rfl, rfl⟩ := found
    have := matchAt_le matched
    omega
  · have := findFrom_le found
    omega

end Regex

namespace Rule

/-- A claim takes a character and stays within the text. -/
theorem claim_bounds {rule : Rule} {before : Option Char} {text : List Char} {n : Nat}
    (claimed : rule.claim before text = some n) : 0 < n ∧ n ≤ text.length := by
  cases before with
  | none =>
    simp only [claim, Option.filter_eq_some_iff, Option.map_eq_some_iff,
      decide_eq_true_eq] at claimed
    obtain ⟨⟨⟨start, length⟩, found, rfl⟩, positive⟩ := claimed
    exact ⟨positive, Regex.find_le found⟩
  | some c =>
    simp only [claim, Option.filter_eq_some_iff, Option.map_eq_some_iff,
      decide_eq_true_eq] at claimed
    obtain ⟨⟨⟨start, length⟩, found, rfl⟩, positive⟩ := claimed
    have := Regex.find_le found
    rw [List.length_cons] at this
    exact ⟨positive, by omega⟩

theorem firstClaim_bounds {rules : List Rule} {before : Option Char} {text : List Char}
    {rule : Rule} {n : Nat} (claimed : firstClaim rules before text = some (rule, n)) :
    0 < n ∧ n ≤ text.length := by
  obtain ⟨tried, _, first⟩ := List.exists_of_findSome?_eq_some claimed
  simp only [Option.map_eq_some_iff, Prod.mk.injEq] at first
  obtain ⟨m, first, rfl, rfl⟩ := first
  exact claim_bounds first

/-- A claim splits the text, behind the characters that it takes. -/
theorem exists_claimed {rules : List Rule} {before : Option Char} {text : List Char} {rule : Rule}
    {n : Nat} (first : firstClaim rules before text = some (rule, n)) :
    ∃ claimed rest, text = claimed ++ rest ∧ claimed.length = n ∧ claimed ≠ [] := by
  obtain ⟨positive, within⟩ := firstClaim_bounds first
  have length : (text.take n).length = n := List.length_take_of_le within
  exact ⟨text.take n, text.drop n, (List.take_append_drop ..).symm, length,
    List.ne_nil_of_length_pos (by omega)⟩

theorem plainToken_eq_gap (reversed : List Char) :
    plainToken reversed = Capture.gap reversed.reverse := by
  cases reversed <;> simp [plainToken, Capture.gap]

/-- With steps enough, the plain text held back and the text ahead are tiled, in this order. -/
theorem tokensFrom_tiles (rules : List Rule) {steps : Nat} {before : Option Char}
    {plain text : List Char} (enough : text.length ≤ steps) :
    Tiles (tokensFrom rules steps before plain text) (plain.reverse ++ text) := by
  induction steps generalizing before plain text with
  | zero =>
    obtain rfl := List.eq_nil_of_length_eq_zero (Nat.le_zero.mp enough)
    rw [tokensFrom, plainToken_eq_gap, List.append_nil]
    exact Capture.gap_tiles _
  | succ steps ih =>
    cases text with
    | nil =>
      rw [tokensFrom, plainToken_eq_gap, List.append_nil]
      exact Capture.gap_tiles _
    | cons c rest =>
      rw [List.length_cons] at enough
      rw [tokensFrom]
      split
      · next rule n claimed =>
        obtain ⟨positive, within⟩ := firstClaim_bounds claimed
        have filled : (c :: rest).take n ≠ [] := by
          simpa using Nat.ne_of_gt positive
        have fewer : ((c :: rest).drop n).length ≤ steps := by
          rw [List.length_drop, List.length_cons]
          omega
        rw [plainToken_eq_gap]
        conv => arg 2; rw [← List.take_append_drop n (c :: rest)]
        exact (Capture.gap_tiles _).append (.cons filled (ih fewer))
      · have tiles : Tiles (tokensFrom rules steps (some c) (c :: plain) rest)
            ((c :: plain).reverse ++ rest) := ih (Nat.le_of_succ_le_succ enough)
        rwa [List.reverse_cons, List.append_assoc] at tiles

theorem tokens_tiles (rules : List Rule) (text : List Char) : Tiles (tokens rules text) text :=
  tokensFrom_tiles rules (Nat.le_succ _)

/- The same loop on byte offsets. `position` is where the next rule is tried and `plain` where the
text held back begins. -/

/-- How many bytes the rule claims at an offset. The character to the left is matched too and taken
off again. -/
def lengthAt? (rule : Rule) (text : List Char) (position : Nat) : Option (Option Nat) :=
  (Utf8.splitAt? position text).map fun (before, after) =>
    let length : Option Nat := match before.getLast? with
      | none => (rule.atStart.find after).map fun (found : Nat × Nat) =>
        Utf8.byteLength (after.take (found.1 + found.2))
      | some c => (rule.behindChar.find (c :: after)).map fun (found : Nat × Nat) =>
        Utf8.byteLength ((c :: after).take (found.1 + found.2)) - c.utf8Size
    length.filter (0 < ·)

/-- The first rule that claims something at an offset, and how many bytes. -/
def firstClaimAt? (text : List Char) (position : Nat) : List Rule → Option (Option (Rule × Nat))
  | [] => some none
  | rule :: rules =>
    match rule.lengthAt? text position with
    | none => none
    | some (some size) => some (some (rule, size))
    | some none => firstClaimAt? text position rules

/-- The offset past the character at an offset. -/
def nextAt? (text : List Char) (position : Nat) : Option Nat :=
  (Utf8.splitAt? position text).map fun (_, behind) =>
    position + (behind.head?.map Char.utf8Size).getD 1

def scan? (rules : List Rule) (text : List Char) : Nat → Nat → Nat → Option (List Token)
  | 0, _, _ => none
  | steps + 1, position, plain =>
    if position < Utf8.byteLength text then
      match firstClaimAt? text position rules with
      | none => none
      | some (some (rule, size)) => do
        let gap ← Capture.gapAt? plain position text
        let claimed ← Utf8.slice? position (position + size) text
        let tokens ← scan? rules text steps (position + size) (position + size)
        some (gap ++ ⟨rule.kind, claimed⟩ :: tokens)
      | some none => (nextAt? text position).bind fun next => scan? rules text steps next plain
    else Capture.gapAt? plain (Utf8.byteLength text) text

theorem filter_byteLength_take {text : List Char} {n : Nat} (within : n ≤ text.length) :
    (some (Utf8.byteLength (text.take n))).filter (0 < ·) =
      ((some n).filter (0 < ·)).map fun n => Utf8.byteLength (text.take n) := by
  cases n with
  | zero => rfl
  | succ n =>
    have nonempty : text ≠ [] := List.ne_nil_of_length_pos (Nat.lt_of_lt_of_le n.succ_pos within)
    have filled : text.take (n + 1) ≠ [] := by simpa using nonempty
    simp [Option.filter_some, Utf8.byteLength_pos filled]

theorem byteLength_take_cons (c : Char) (text : List Char) (n : Nat) :
    Utf8.byteLength ((c :: text).take n) - c.utf8Size = Utf8.byteLength (text.take (n - 1)) := by
  cases n with
  | zero => simp
  | succ n => simp [Utf8.byteLength]

theorem lengthAt?_eq_claimAt? (rule : Rule) (text : List Char) (position : Nat) :
    rule.lengthAt? text position = rule.claimAt? text position := by
  simp only [lengthAt?, claimAt?, claim]
  cases Utf8.splitAt? position text with
  | none => rfl
  | some parts =>
    obtain ⟨before, after⟩ := parts
    simp only [Option.map_some]
    congr 1
    cases before.getLast? with
    | none =>
      cases found : rule.atStart.find after with
      | none => rfl
      | some place => exact filter_byteLength_take (Regex.find_le found)
    | some c =>
      simp only
      cases found : rule.behindChar.find (c :: after) with
      | none => rfl
      | some place =>
        have end_within := Regex.find_le found
        rw [List.length_cons] at end_within
        have within : place.1 + place.2 - 1 ≤ after.length := by omega
        simp only [Option.map_some, byteLength_take_cons]
        exact filter_byteLength_take within

theorem firstClaimAt?_append (rules : List Rule) (before text : List Char) :
    firstClaimAt? (before ++ text) (Utf8.byteLength before) rules =
      some ((firstClaim rules before.getLast? text).map fun (rule, n) =>
        (rule, Utf8.byteLength (text.take n))) := by
  induction rules with
  | nil => rfl
  | cons rule rules ih =>
    cases claimed : rule.claim before.getLast? text with
    | none =>
      simp only [firstClaimAt?, lengthAt?_eq_claimAt?, claimAt?, Utf8.splitAt?_append,
        Option.map_some, claimed, Option.map_none, ih, firstClaim, List.findSome?_cons]
    | some n =>
      simp only [firstClaimAt?, lengthAt?_eq_claimAt?, claimAt?, Utf8.splitAt?_append,
        Option.map_some, claimed, firstClaim, List.findSome?_cons]

theorem nextAt?_append (before : List Char) (c : Char) (rest : List Char) :
    nextAt? (before ++ c :: rest) (Utf8.byteLength before) =
      some (Utf8.byteLength (before ++ [c])) := by
  simp [nextAt?, Utf8.splitAt?_append, Utf8.byteLength]

theorem scan?_end (rules : List Rule) (done plain : List Char) (steps : Nat) :
    scan? rules (done ++ plain.reverse) (steps + 1) (Utf8.byteLength (done ++ plain.reverse))
      (Utf8.byteLength done) = some (plainToken plain) := by
  have gap := Capture.gapAt?_append done plain.reverse []
  rw [List.append_nil] at gap
  rw [scan?, if_neg (Nat.lt_irrefl _), Utf8.byteLength_append, gap, plainToken_eq_gap]

theorem scan?_claim {rules : List Rule} {done plain claimed rest : List Char} {rule : Rule}
    (first : firstClaim rules (done ++ plain.reverse).getLast? (claimed ++ rest) =
      some (rule, claimed.length)) (filled : claimed ≠ []) (steps : Nat) :
    scan? rules (done ++ plain.reverse ++ (claimed ++ rest)) (steps + 1)
        (Utf8.byteLength (done ++ plain.reverse)) (Utf8.byteLength done) =
      (scan? rules (done ++ plain.reverse ++ (claimed ++ rest)) steps
          (Utf8.byteLength (done ++ plain.reverse ++ claimed))
          (Utf8.byteLength (done ++ plain.reverse ++ claimed))).map
        fun tokens => plainToken plain ++ ⟨rule.kind, claimed⟩ :: tokens := by
  have inside : Utf8.byteLength (done ++ plain.reverse) <
      Utf8.byteLength (done ++ plain.reverse ++ (claimed ++ rest)) := by
    have := Utf8.byteLength_pos filled
    simp only [Utf8.byteLength_append]
    omega
  have gap := Capture.gapAt?_append done plain.reverse (claimed ++ rest)
  rw [← Utf8.byteLength_append, ← List.append_assoc] at gap
  have slice := Utf8.slice?_append (done ++ plain.reverse) claimed rest
  rw [scan?, if_pos inside, firstClaimAt?_append, first]
  simp only [Option.map_some, List.take_left, gap, slice, plainToken_eq_gap, Option.bind_some,
    Utf8.byteLength_append _ claimed, Option.bind_eq_bind]
  cases scan? rules (done ++ plain.reverse ++ (claimed ++ rest)) steps
    (Utf8.byteLength (done ++ plain.reverse) + Utf8.byteLength claimed)
    (Utf8.byteLength (done ++ plain.reverse) + Utf8.byteLength claimed) <;> rfl

theorem scan?_skip {rules : List Rule} {done plain rest : List Char} {c : Char}
    (unclaimed : firstClaim rules (done ++ plain.reverse).getLast? (c :: rest) = none)
    (steps : Nat) :
    scan? rules (done ++ plain.reverse ++ c :: rest) (steps + 1)
        (Utf8.byteLength (done ++ plain.reverse)) (Utf8.byteLength done) =
      scan? rules (done ++ plain.reverse ++ c :: rest) steps
        (Utf8.byteLength (done ++ plain.reverse ++ [c])) (Utf8.byteLength done) := by
  have inside : Utf8.byteLength (done ++ plain.reverse) <
      Utf8.byteLength (done ++ plain.reverse ++ c :: rest) := by
    rw [Utf8.byteLength_append _ (c :: rest)]
    exact Nat.lt_add_of_pos_right (Utf8.byteLength_pos (by simp))
  rw [scan?, if_pos inside, firstClaimAt?_append, unclaimed]
  simp only [Option.map_none, nextAt?_append, Option.bind_some]

/-- Both loops agree from every place that the one on offsets reaches: behind `done` in tokens and
`plain` held back. The steps are bounded by bytes for the one and by characters for the other. -/
theorem scan?_eq_tokensFrom (rules : List Rule) (done plain : List Char) {text : List Char}
    {steps bytes : Nat} (enough : text.length ≤ steps) (more : Utf8.byteLength text < bytes) :
    scan? rules (done ++ plain.reverse ++ text) bytes
        (Utf8.byteLength (done ++ plain.reverse)) (Utf8.byteLength done) =
      some (tokensFrom rules steps (done ++ plain.reverse).getLast? plain text) := by
  induction steps generalizing done plain text bytes with
  | zero =>
    obtain rfl := List.eq_nil_of_length_eq_zero (Nat.le_zero.mp enough)
    obtain ⟨bytes, rfl⟩ := Nat.exists_eq_succ_of_ne_zero (Nat.ne_of_gt more)
    rw [List.append_nil, scan?_end, tokensFrom]
  | succ steps ih =>
    obtain ⟨bytes, rfl⟩ := Nat.exists_eq_succ_of_ne_zero (Nat.ne_zero_of_lt more)
    cases text with
    | nil => rw [List.append_nil, scan?_end, tokensFrom]
    | cons c rest =>
      rw [tokensFrom]
      split
      · next rule n first =>
        obtain ⟨claimed, behind, split, rfl, filled⟩ := exists_claimed first
        rw [split] at first enough more ⊢
        rw [List.length_append] at enough
        rw [Utf8.byteLength_append] at more
        have := Utf8.byteLength_pos filled
        have := List.length_pos_iff.mpr filled
        have fewer : behind.length ≤ steps := by omega
        have less : Utf8.byteLength behind < bytes := by omega
        have onward := ih (done ++ plain.reverse ++ claimed) [] fewer less
        have left : (done ++ plain.reverse ++ claimed).getLast? = claimed.getLast? := by
          rw [List.getLast?_append, Option.or_of_isSome]
          simpa using filled
        simp only [List.reverse_nil, List.append_nil, left] at onward
        rw [scan?_claim first filled, ← List.append_assoc, onward]
        simp
      · next unclaimed =>
        have := c.utf8Size_pos
        simp only [Utf8.byteLength] at more
        have less : Utf8.byteLength rest < bytes := by omega
        have onward := ih done (c :: plain) (Nat.le_of_succ_le_succ enough) less
        simp only [List.reverse_cons, ← List.append_assoc, List.getLast?_concat] at onward
        rw [scan?_skip unclaimed]
        simpa using onward

/-- On a whole text the loop on offsets comes to an end, slices at places between characters only,
and has the same tokens. -/
theorem scan?_eq_tokens (rules : List Rule) (text : List Char) {steps : Nat}
    (enough : Utf8.byteLength text < steps) :
    scan? rules text steps 0 0 = some (tokens rules text) :=
  scan?_eq_tokensFrom rules [] [] (Nat.le_succ _) enough

end Rule

end Highlighting
