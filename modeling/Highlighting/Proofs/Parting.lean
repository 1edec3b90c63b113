import Highlighting.Proofs.Tiling
import Mathlib.Data.List.Chain

/-! Two sorts of tokens. A text is cut into tokens that are claimed and gaps between them. Where the
beginning of a claim settles its end and its kind, and no claim begins within a gap, there is one
way to cut the text so that gaps are as long as they can be. -/
namespace Highlighting

namespace Utf8

theorem append_inj_byteLength {before behind left right : List Char}
    (same : before ++ behind = left ++ right) (size : byteLength before = byteLength left) :
    before = left ∧ behind = right := by
  have split := splitAt?_append before behind
  rw [same, size, splitAt?_append] at split
  cases split
  exact ⟨rfl, rfl⟩

end Utf8

theorem Tiles.uncons {token : Token} {tokens : List Token} {text : List Char}
    (tiles : Tiles (token :: tokens) text) :
    token.text ≠ [] ∧ ∃ rest, text = token.text ++ rest ∧ Tiles tokens rest :=
  ⟨tiles.filled token (List.mem_cons_self ..), joined tokens, tiles.joins.symm,
    fun other h => tiles.filled other (List.mem_cons_of_mem token h), rfl⟩

theorem Tiles.ne_nil {token : Token} {tokens : List Token} {text : List Char}
    (tiles : Tiles (token :: tokens) text) : text ≠ [] := by
  obtain ⟨filled, rest, rfl, _⟩ := tiles.uncons
  exact List.append_ne_nil_of_left_ne_nil filled rest

namespace Viewport

theorem exists_placed_around {position offset : Nat} {tokens : List Token}
    (low : position ≤ offset) (high : offset < position + Utf8.byteLength (joined tokens)) :
    ∃ p ∈ placed position tokens, p.start ≤ offset ∧ offset < p.stop := by
  induction tokens generalizing position with
  | nil =>
    rw [joined_nil, Utf8.byteLength_nil] at high
    omega
  | cons token tokens ih =>
    rw [joined_cons, Utf8.byteLength_append, ← Nat.add_assoc] at high
    by_cases first : offset < position + Utf8.byteLength token.text
    · exact ⟨_, .head _, low, first⟩
    · obtain ⟨p, inside, around⟩ := ih (Nat.not_lt.mp first) high
      exact ⟨p, .tail _ inside, around⟩

/-- Tokens from a position on are claimed or gaps, and no gap is followed by another. -/
structure Parted (Claimed Gap : Placed → Prop) (position : Nat) (tokens : List Token) : Prop where
  each : ∀ p ∈ placed position tokens, Claimed p ∨ Gap p
  apart : (placed position tokens).IsChain fun p q => ¬ (Gap p ∧ Gap q)

/-- The beginning of a claim settles it, and lies outside of every gap. -/
structure Settled (Claimed Gap : Placed → Prop) : Prop where
  claim : ∀ {p q}, Claimed p → Claimed q → p.start = q.start →
    p.token.kind = q.token.kind ∧ Utf8.byteLength p.token.text = Utf8.byteLength q.token.text
  outside : ∀ {p q}, Claimed p → Gap q → q.start ≤ p.start → ¬ p.start < q.stop
  plain : ∀ {p}, Gap p → p.token.kind = .text

variable {Claimed Gap : Placed → Prop} {position : Nat} {token : Token} {tokens : List Token}

theorem parted_nil (Claimed Gap : Placed → Prop) (position : Nat) :
    Parted Claimed Gap position [] :=
  ⟨fun _ h => (List.not_mem_nil h).elim, .nil⟩

theorem parted_cons :
    Parted Claimed Gap position (token :: tokens) ↔
      (Claimed ⟨position, token⟩ ∨ Gap ⟨position, token⟩) ∧
        (∀ next ∈ (placed (position + Utf8.byteLength token.text) tokens).head?,
          ¬ (Gap ⟨position, token⟩ ∧ Gap next)) ∧
        Parted Claimed Gap (position + Utf8.byteLength token.text) tokens := by
  constructor
  · rintro ⟨each, apart⟩
    rw [placed] at each apart
    obtain ⟨this, later⟩ := List.forall_mem_cons.mp each
    obtain ⟨next, apart⟩ := List.isChain_cons.mp apart
    exact ⟨this, next, later, apart⟩
  · rintro ⟨this, next, later, apart⟩
    exact ⟨List.forall_mem_cons.mpr ⟨this, later⟩, List.isChain_cons.mpr ⟨next, apart⟩⟩

namespace Settled

variable (settled : Settled Claimed Gap)
include settled

theorem not_gap {p q : Placed} (claimed : Claimed p) (start : p.start = q.start)
    (filled : q.token.text ≠ []) : ¬ Gap q := fun gap =>
  settled.outside claimed gap (Nat.le_of_eq start.symm)
    (start ▸ Nat.lt_add_of_pos_right (Utf8.byteLength_pos filled))

theorem parted_claim (claimed : Claimed ⟨position, token⟩) (filled : token.text ≠ [])
    (behind : Parted Claimed Gap (position + Utf8.byteLength token.text) tokens) :
    Parted Claimed Gap position (token :: tokens) :=
  parted_cons.mpr ⟨.inl claimed, fun _ _ gaps => settled.not_gap claimed rfl filled gaps.1, behind⟩

omit settled in
theorem parted_gap {plain : List Char}
    (gap : plain ≠ [] → Gap ⟨position, ⟨.text, plain⟩⟩)
    (next : ∀ p ∈ (placed (position + Utf8.byteLength plain) tokens).head?, ¬ Gap p)
    (behind : Parted Claimed Gap (position + Utf8.byteLength plain) tokens) :
    Parted Claimed Gap position (Capture.gap plain ++ tokens) := by
  cases plain with
  | nil => exact behind
  | cons c plain =>
    exact parted_cons.mpr ⟨.inr (gap (List.cons_ne_nil c plain)),
      fun p h gaps => next p h gaps.2, behind⟩

/-- A gap is as long as any gap that begins where it does: behind it something is claimed. -/
theorem gap_le {rest more : List Char} {other : Token}
    (first : Parted Claimed Gap position (token :: tokens)) (tiles : Tiles tokens rest)
    (gap : Gap ⟨position, token⟩) (again : Gap ⟨position, other⟩)
    (same : token.text ++ rest = other.text ++ more) :
    Utf8.byteLength other.text ≤ Utf8.byteLength token.text := by
  apply Nat.not_lt.mp
  intro longer
  obtain ⟨_, apart, later⟩ := parted_cons.mp first
  cases tokens with
  | nil =>
    have total := congrArg Utf8.byteLength same
    simp only [← tiles.joins, joined_nil, Utf8.byteLength_append, Utf8.byteLength_nil] at total
    omega
  | cons next tokens =>
    -- The next token begins where the longer gap would have to be.
    rcases (parted_cons.mp later).1 with claimed | gap_behind
    · exact settled.outside claimed again (Nat.le_add_right ..)
        (Nat.add_lt_add_left longer position)
    · exact apart _ rfl ⟨gap, gap_behind⟩

theorem head_eq {rest more : List Char} {other : Token} {others : List Token}
    (first : Parted Claimed Gap position (token :: tokens))
    (second : Parted Claimed Gap position (other :: others))
    (tiles : Tiles tokens rest) (again : Tiles others more) (filled : token.text ≠ [])
    (filled_again : other.text ≠ []) (same : token.text ++ rest = other.text ++ more) :
    token = other ∧ rest = more := by
  have agree : token.kind = other.kind ∧
      Utf8.byteLength token.text = Utf8.byteLength other.text := by
    rcases (parted_cons.mp first).1 with claimed | gap
    · rcases (parted_cons.mp second).1 with claimed_again | gap_again
      · exact settled.claim claimed claimed_again rfl
      · exact absurd gap_again (settled.not_gap claimed rfl filled_again)
    · rcases (parted_cons.mp second).1 with claimed_again | gap_again
      · exact absurd gap (settled.not_gap claimed_again rfl filled)
      · have below := settled.gap_le first tiles gap gap_again same
        have above := settled.gap_le second again gap_again gap same.symm
        exact ⟨(settled.plain gap).trans (settled.plain gap_again).symm,
          Nat.le_antisymm above below⟩
  obtain ⟨kind, size⟩ := agree
  obtain ⟨text, behind⟩ := Utf8.append_inj_byteLength same size
  cases token
  cases other
  simp only at kind text
  rw [kind, text]
  exact ⟨rfl, behind⟩

theorem unique {text : List Char} {others : List Token} (tiles : Tiles tokens text)
    (again : Tiles others text) (first : Parted Claimed Gap position tokens)
    (second : Parted Claimed Gap position others) : tokens = others := by
  induction tokens generalizing text position others with
  | nil =>
    cases others with
    | nil => rfl
    | cons other others => exact absurd tiles.joins.symm again.ne_nil
  | cons token tokens ih =>
    cases others with
    | nil => exact absurd again.joins.symm tiles.ne_nil
    | cons other others =>
      obtain ⟨filled, rest, rfl, tail⟩ := tiles.uncons
      obtain ⟨filled_again, more, same, tail_again⟩ := again.uncons
      obtain ⟨rfl, rfl⟩ := settled.head_eq first second tail tail_again filled filled_again same
      rw [ih tail tail_again (parted_cons.mp first).2.2 (parted_cons.mp second).2.2]

end Settled

end Viewport

end Highlighting
