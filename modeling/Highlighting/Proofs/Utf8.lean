import Highlighting.Text.Utf8

/-! Decoding is exact. The reference is the encoding of single characters: bytes decode to a text
only when they are its encoding, and the error is the offset behind the longest leading text, where
no character is encoded. -/
namespace Highlighting.Utf8

theorem encode_append (before behind : List Char) :
    encode (before ++ behind) = encode before ++ encode behind := by
  simp [encode]

theorem encode_cons (c : Char) (text : List Char) :
    encode (c :: text) = String.utf8EncodeChar c ++ encode text := by
  simp [encode]

theorem length_encode (text : List Char) : (encode text).length = byteLength text := by
  induction text with
  | nil => rfl
  | cons c rest ih => simp [encode_cons, byteLength, ih]

@[simp] theorem byteLength_nil : byteLength [] = 0 := rfl

@[simp] theorem byteLength_append (before behind : List Char) :
    byteLength (before ++ behind) = byteLength before + byteLength behind := by
  induction before with
  | nil => simp
  | cons c rest ih => simp [byteLength, ih, Nat.add_assoc]

theorem byteLength_pos {text : List Char} (nonempty : text ≠ []) : 0 < byteLength text := by
  cases text with
  | nil => exact absurd rfl nonempty
  | cons c rest =>
    have := c.utf8Size_pos
    simp only [byteLength]
    omega

/-- A place between characters is found by the bytes before it. -/
theorem splitAt?_append (before behind : List Char) :
    splitAt? (byteLength before) (before ++ behind) = some (before, behind) := by
  induction before with
  | nil => cases behind <;> simp [splitAt?]
  | cons c rest ih =>
    have := c.utf8Size_pos
    have inside : byteLength (c :: rest) ≠ 0 := by simp only [byteLength]; omega
    have enough : c.utf8Size ≤ byteLength (c :: rest) := by simp [byteLength]
    have left : byteLength (c :: rest) - c.utf8Size = byteLength rest := by simp [byteLength]
    simp only [List.cons_append, splitAt?, if_neg inside, if_pos enough, left, ih, Option.map_some]

theorem splitAt?_eq_some_iff {offset : Nat} {text before behind : List Char} :
    splitAt? offset text = some (before, behind) ↔
      text = before ++ behind ∧ byteLength before = offset := by
  constructor
  · intro h
    induction text generalizing offset before with
    | nil =>
      simp only [splitAt?] at h
      split at h
      · cases h
        exact ⟨rfl, Eq.symm ‹_›⟩
      · cases h
    | cons c rest ih =>
      simp only [splitAt?] at h
      split at h
      · cases h
        exact ⟨rfl, Eq.symm ‹_›⟩
      · split at h
        · simp only [Option.map_eq_some_iff, Prod.mk.injEq] at h
          obtain ⟨⟨inner, outer⟩, found, rfl, rfl⟩ := h
          obtain ⟨rfl, size⟩ := ih found
          refine ⟨rfl, ?_⟩
          simp only [byteLength]
          omega
        · cases h
  · rintro ⟨rfl, rfl⟩
    exact splitAt?_append before behind

/-- No place between characters lies inside one. -/
theorem not_inside_char {before behind left right : List Char} {c : Char}
    (same : before ++ behind = left ++ c :: right) :
    ¬ (byteLength left < byteLength before ∧
      byteLength before < byteLength left + c.utf8Size) := by
  rcases List.append_eq_append_iff.mp same with ⟨more, rfl, _⟩ | ⟨more, rfl, rest⟩
  · rw [byteLength_append]
    omega
  · cases more with
    | nil => simp
    | cons d more =>
      obtain ⟨rfl, _⟩ := List.cons.inj rest
      rw [byteLength_append, byteLength]
      omega

/- The decoder reads a byte at a time. First its single steps, by the range of the byte. -/

theorem piecesFrom_eq (done : List Piece) (pending : Option Pending) (bytes : List UInt8) :
    piecesFrom done pending bytes = done.reverse ++ piecesFrom [] pending bytes := by
  induction bytes generalizing done pending with
  | nil => cases pending <;> simp [piecesFrom]
  | cons b rest ih =>
    simp only [piecesFrom]
    rw [ih ((step pending b).1.reverse ++ done), ih ((step pending b).1.reverse ++ [])]
    simp

theorem piecesFrom_cons (pending : Option Pending) (b : UInt8) (rest : List UInt8) :
    piecesFrom [] pending (b :: rest) =
      (step pending b).1 ++ piecesFrom [] (step pending b).2 rest := by
  simp only [piecesFrom]
  rw [piecesFrom_eq]
  simp

theorem pieces_cons (b : UInt8) (rest : List UInt8) :
    pieces (b :: rest) = (first b).1 ++ piecesFrom [] (first b).2 rest :=
  piecesFrom_cons none b rest

theorem first_one {b : UInt8} (h : b.toNat < 0x80) :
    first b = ([.char (Char.ofNat b.toNat)], none) := by
  simp only [first, if_pos h]

theorem first_two {b : UInt8} (low : 0xc2 ≤ b.toNat) (high : b.toNat < 0xe0) :
    first b = ([], some ⟨1, 0x80, 0xbf, b.toNat - 0xc0, 1⟩) := by
  have h₁ : ¬ b.toNat < 0x80 := by omega
  have h₂ : ¬ b.toNat < 0xc2 := by omega
  simp only [first, if_neg h₁, if_neg h₂, if_pos high]

theorem first_three {b : UInt8} (low : 0xe0 ≤ b.toNat) (high : b.toNat < 0xf0) :
    first b = ([], some ⟨2, if b.toNat = 0xe0 then 0xa0 else 0x80,
      if b.toNat = 0xed then 0x9f else 0xbf, b.toNat - 0xe0, 1⟩) := by
  have h₁ : ¬ b.toNat < 0x80 := by omega
  have h₂ : ¬ b.toNat < 0xc2 := by omega
  have h₃ : ¬ b.toNat < 0xe0 := by omega
  simp only [first, if_neg h₁, if_neg h₂, if_neg h₃, if_pos high]

theorem first_four {b : UInt8} (low : 0xf0 ≤ b.toNat) (high : b.toNat < 0xf5) :
    first b = ([], some ⟨3, if b.toNat = 0xf0 then 0x90 else 0x80,
      if b.toNat = 0xf4 then 0x8f else 0xbf, b.toNat - 0xf0, 1⟩) := by
  have h₁ : ¬ b.toNat < 0x80 := by omega
  have h₂ : ¬ b.toNat < 0xc2 := by omega
  have h₃ : ¬ b.toNat < 0xe0 := by omega
  have h₄ : ¬ b.toNat < 0xf0 := by omega
  simp only [first, if_neg h₁, if_neg h₂, if_neg h₃, if_neg h₄, if_pos high]

theorem first_other {b : UInt8} (h : 0x80 ≤ b.toNat ∧ b.toNat < 0xc2 ∨ 0xf5 ≤ b.toNat) :
    first b = ([.malformed 1 false], none) := by
  have h₁ : ¬ b.toNat < 0x80 := by omega
  by_cases h₂ : b.toNat < 0xc2
  · simp only [first, if_neg h₁, if_pos h₂]
  · have h₃ : ¬ b.toNat < 0xe0 := by omega
    have h₄ : ¬ b.toNat < 0xf0 := by omega
    have h₅ : ¬ b.toNat < 0xf5 := by omega
    simp only [first, if_neg h₁, if_neg h₂, if_neg h₃, if_neg h₄, if_neg h₅]

theorem step_last {p : Pending} {b : UInt8} (missing : p.missing = 1)
    (low : p.low ≤ b) (high : b ≤ p.high) :
    step (some p) b = ([.char (Char.ofNat (p.value * 64 + (b.toNat - 0x80)))], none) := by
  simp [step, low, high, missing]

theorem step_more {p : Pending} {b : UInt8} (missing : 1 < p.missing)
    (low : p.low ≤ b) (high : b ≤ p.high) :
    step (some p) b =
      ([], some ⟨p.missing - 1, 0x80, 0xbf, p.value * 64 + (b.toNat - 0x80), p.size + 1⟩) := by
  simp [step, low, high, Nat.not_le.mpr missing]

theorem step_other {p : Pending} {b : UInt8} (outside : ¬ (p.low ≤ b ∧ b ≤ p.high)) :
    step (some p) b = (.malformed p.size false :: (first b).1, (first b).2) := by
  simp only [step, if_neg outside]

/- The well-formed byte sequences as a table. It stands between the decoder and the encoder: both
agree with it, so neither is unfolded in what follows. -/

/-- A continuation byte. -/
def Tail (b : UInt8) : Prop := 0x80 ≤ b ∧ b ≤ 0xbf

/-- The well-formed byte sequences, each with the code point that it stands for. -/
inductive Spells : List UInt8 → Nat → Prop where
  | one {a : UInt8} : a.toNat < 0x80 → Spells [a] a.toNat
  | two {a b : UInt8} : 0xc2 ≤ a.toNat → a.toNat < 0xe0 → Tail b →
      Spells [a, b] ((a.toNat - 0xc0) * 64 + (b.toNat - 0x80))
  | three {a b c : UInt8} : 0xe0 ≤ a.toNat → a.toNat < 0xf0 → Tail b →
      (a.toNat = 0xe0 → 0xa0 ≤ b) → (a.toNat = 0xed → b ≤ 0x9f) → Tail c →
      Spells [a, b, c] (((a.toNat - 0xe0) * 64 + (b.toNat - 0x80)) * 64 + (c.toNat - 0x80))
  | four {a b c d : UInt8} : 0xf0 ≤ a.toNat → a.toNat < 0xf5 → Tail b →
      (a.toNat = 0xf0 → 0x90 ≤ b) → (a.toNat = 0xf4 → b ≤ 0x8f) → Tail c → Tail d →
      Spells [a, b, c, d]
        ((((a.toNat - 0xf0) * 64 + (b.toNat - 0x80)) * 64 + (c.toNat - 0x80)) * 64 +
          (d.toNat - 0x80))

theorem tail_iff {b : UInt8} : Tail b ↔ 0x80 ≤ b.toNat ∧ b.toNat ≤ 0xbf := Iff.rfl

theorem toNat_byte {n : Nat} (small : n < 256) : (UInt8.ofNat n).toNat = n := by
  simp [Nat.mod_eq_of_lt small]

theorem byte_eq {b : UInt8} {n : Nat} (h : n = b.toNat) : UInt8.ofNat n = b := by
  rw [h, UInt8.ofNat_toNat]

theorem spells_two {n : Nat} (low : 0x7f < n) (high : n ≤ 0x7ff) :
    Spells [UInt8.ofNat (n / 64 % 0x20 + 0xc0), UInt8.ofNat (n % 0x40 + 0x80)] n := by
  have a := toNat_byte (n := n / 64 % 0x20 + 0xc0) (by omega)
  have b := toNat_byte (n := n % 0x40 + 0x80) (by omega)
  generalize UInt8.ofNat (n / 64 % 0x20 + 0xc0) = x at a
  generalize UInt8.ofNat (n % 0x40 + 0x80) = y at b
  have value : (x.toNat - 0xc0) * 64 + (y.toNat - 0x80) = n := by omega
  rw [← value]
  exact .two (by omega) (by omega) (tail_iff.mpr (by omega))

/-- The surrogates are no characters, and their sequences are left out of the table. -/
theorem spells_three {n : Nat} (low : 0x7ff < n) (high : n ≤ 0xffff)
    (valid : n < 0xd800 ∨ 0xdfff < n) :
    Spells [UInt8.ofNat (n / 4096 % 0x10 + 0xe0), UInt8.ofNat (n / 64 % 0x40 + 0x80),
      UInt8.ofNat (n % 0x40 + 0x80)] n := by
  have a := toNat_byte (n := n / 4096 % 0x10 + 0xe0) (by omega)
  have b := toNat_byte (n := n / 64 % 0x40 + 0x80) (by omega)
  have c := toNat_byte (n := n % 0x40 + 0x80) (by omega)
  generalize UInt8.ofNat (n / 4096 % 0x10 + 0xe0) = x at a
  generalize UInt8.ofNat (n / 64 % 0x40 + 0x80) = y at b
  generalize UInt8.ofNat (n % 0x40 + 0x80) = z at c
  have value : ((x.toNat - 0xe0) * 64 + (y.toNat - 0x80)) * 64 + (z.toNat - 0x80) = n := by omega
  have overlong : x.toNat = 0xe0 → 0xa0 ≤ y.toNat := by omega
  have surrogate : x.toNat = 0xed → y.toNat ≤ 0x9f := by omega
  rw [← value]
  exact .three (by omega) (by omega) (tail_iff.mpr (by omega)) overlong surrogate
    (tail_iff.mpr (by omega))

theorem spells_four {n : Nat} (low : 0xffff < n) (high : n < 0x110000) :
    Spells [UInt8.ofNat (n / 262144 % 0x08 + 0xf0), UInt8.ofNat (n / 4096 % 0x40 + 0x80),
      UInt8.ofNat (n / 64 % 0x40 + 0x80), UInt8.ofNat (n % 0x40 + 0x80)] n := by
  have a := toNat_byte (n := n / 262144 % 0x08 + 0xf0) (by omega)
  have b := toNat_byte (n := n / 4096 % 0x40 + 0x80) (by omega)
  have c := toNat_byte (n := n / 64 % 0x40 + 0x80) (by omega)
  have d := toNat_byte (n := n % 0x40 + 0x80) (by omega)
  generalize UInt8.ofNat (n / 262144 % 0x08 + 0xf0) = w at a
  generalize UInt8.ofNat (n / 4096 % 0x40 + 0x80) = x at b
  generalize UInt8.ofNat (n / 64 % 0x40 + 0x80) = y at c
  generalize UInt8.ofNat (n % 0x40 + 0x80) = z at d
  have value : (((w.toNat - 0xf0) * 64 + (x.toNat - 0x80)) * 64 + (y.toNat - 0x80)) * 64 +
      (z.toNat - 0x80) = n := by omega
  have overlong : w.toNat = 0xf0 → 0x90 ≤ x.toNat := by omega
  have past : w.toNat = 0xf4 → x.toNat ≤ 0x8f := by omega
  rw [← value]
  exact .four (by omega) (by omega) (tail_iff.mpr (by omega)) overlong past
    (tail_iff.mpr (by omega)) (tail_iff.mpr (by omega))

/-- A character is encoded by the sequence that stands for it. -/
theorem spells_char (c : Char) : Spells (String.utf8EncodeChar c) c.val.toNat := by
  have valid : c.val.toNat < 0xd800 ∨ 0xdfff < c.val.toNat ∧ c.val.toNat < 0x110000 := c.valid
  simp only [String.utf8EncodeChar]
  generalize c.val.toNat = n at valid
  by_cases one : n ≤ 0x7f
  · rw [if_pos one]
    have a := toNat_byte (n := n) (by omega)
    simpa only [a] using Spells.one (a := UInt8.ofNat n) (by omega)
  · rw [if_neg one]
    by_cases two : n ≤ 0x7ff
    · rw [if_pos two]
      exact spells_two (by omega) two
    · rw [if_neg two]
      by_cases three : n ≤ 0xffff
      · rw [if_pos three]
        exact spells_three (by omega) three (by omega)
      · rw [if_neg three]
        exact spells_four (by omega) (by omega)

theorem Spells.valid {bytes : List UInt8} {n : Nat} (h : Spells bytes n) : n.isValidChar := by
  unfold Nat.isValidChar
  cases h with
  | one small => omega
  | two low high second =>
    have := tail_iff.mp second
    omega
  | @three a b c low high second overlong surrogate third =>
    have := tail_iff.mp second
    have := tail_iff.mp third
    have below : a.toNat = 0xed → b.toNat ≤ 0x9f := surrogate
    omega
  | @four a b c d low high second overlong past third fourth =>
    have := tail_iff.mp second
    have := tail_iff.mp third
    have := tail_iff.mp fourth
    have above : a.toNat = 0xf0 → 0x90 ≤ b.toNat := overlong
    have below : a.toNat = 0xf4 → b.toNat ≤ 0x8f := past
    omega

theorem Spells.encode {bytes : List UInt8} {n : Nat} (h : Spells bytes n) :
    String.utf8EncodeChar (Char.ofNat n) = bytes := by
  have value : (Char.ofNat n).val.toNat = n := by
    rw [Char.ofNat, dif_pos h.valid]
    rfl
  simp only [String.utf8EncodeChar, value]
  clear value
  cases h with
  | one small => rw [if_pos (by omega), UInt8.ofNat_toNat]
  | @two a b low high second =>
    have := tail_iff.mp second
    rw [if_neg (by omega), if_pos (by omega), byte_eq (b := a) (by omega),
      byte_eq (b := b) (by omega)]
  | @three a b c low high second overlong surrogate third =>
    have := tail_iff.mp second
    have := tail_iff.mp third
    have above : a.toNat = 0xe0 → 0xa0 ≤ b.toNat := overlong
    rw [if_neg (by omega), if_neg (by omega), if_pos (by omega), byte_eq (b := a) (by omega),
      byte_eq (b := b) (by omega), byte_eq (b := c) (by omega)]
  | @four a b c d low high second overlong past third fourth =>
    have := tail_iff.mp second
    have := tail_iff.mp third
    have := tail_iff.mp fourth
    have above : a.toNat = 0xf0 → 0x90 ≤ b.toNat := overlong
    rw [if_neg (by omega), if_neg (by omega), if_neg (by omega), byte_eq (b := a) (by omega),
      byte_eq (b := b) (by omega), byte_eq (b := c) (by omega), byte_eq (b := d) (by omega)]

theorem low_bound {n m : Nat} {x b : UInt8} (tail : Tail b) (h : n = m → x ≤ b) :
    (if n = m then x else 0x80) ≤ b := by
  split
  · exact h ‹_›
  · exact tail.1

theorem high_bound {n m : Nat} {x b : UInt8} (tail : Tail b) (h : n = m → b ≤ x) :
    b ≤ (if n = m then x else 0xbf) := by
  split
  · exact h ‹_›
  · exact tail.2

/-- The decoder reads a sequence of the table as its character. -/
theorem Spells.pieces {bytes : List UInt8} {n : Nat} (h : Spells bytes n) (rest : List UInt8) :
    pieces (bytes ++ rest) = .char (Char.ofNat n) :: Utf8.pieces rest := by
  cases h with
  | one small => rw [List.singleton_append, pieces_cons, first_one small]; rfl
  | two low high second =>
    rw [List.cons_append, pieces_cons, first_two low high, List.singleton_append, piecesFrom_cons,
      step_last rfl second.1 second.2]
    rfl
  | @three a b c low high second overlong surrogate third =>
    have more := step_more (p := ⟨2, if a.toNat = 0xe0 then 0xa0 else 0x80,
      if a.toNat = 0xed then 0x9f else 0xbf, a.toNat - 0xe0, 1⟩) (Nat.lt_succ_self 1)
      (low_bound second overlong) (high_bound second surrogate)
    rw [List.cons_append, pieces_cons, first_three low high, List.cons_append, piecesFrom_cons,
      more, List.singleton_append, piecesFrom_cons, step_last rfl third.1 third.2]
    rfl
  | @four a b c d low high second overlong past third fourth =>
    have more := step_more (p := ⟨3, if a.toNat = 0xf0 then 0x90 else 0x80,
      if a.toNat = 0xf4 then 0x8f else 0xbf, a.toNat - 0xf0, 1⟩)
      (Nat.lt_add_of_pos_left Nat.two_pos) (low_bound second overlong) (high_bound second past)
    rw [List.cons_append, pieces_cons, first_four low high, List.cons_append, piecesFrom_cons,
      more, List.cons_append, piecesFrom_cons, step_more (Nat.lt_succ_self 1) third.1 third.2,
      List.singleton_append, piecesFrom_cons, step_last rfl fourth.1 fourth.2]
    rfl

theorem pieces_char_append (c : Char) (rest : List UInt8) :
    pieces (String.utf8EncodeChar c ++ rest) = .char c :: pieces rest := by
  have back : Char.ofNat c.val.toNat = c := Char.ofNat_toNat c
  rw [(spells_char c).pieces rest, back]

theorem pieces_encode_append (text : List Char) (rest : List UInt8) :
    pieces (encode text ++ rest) = text.map .char ++ pieces rest := by
  induction text with
  | nil => rfl
  | cons c more ih =>
    rw [encode_cons, List.append_assoc, pieces_char_append, ih, List.map_cons, List.cons_append]

/- The other direction: where no character is encoded, the decoder reports a malformed stretch. The
invariant of a character under way is that every way to complete it is in the table. -/

/-- The bytes that complete a character under way. -/
def Completes (p : Pending) : List UInt8 → Prop
  | [] => False
  | b :: more => p.low ≤ b ∧ b ≤ p.high ∧ more.length + 1 = p.missing ∧ ∀ x ∈ more, Tail x

def Underway (taken : List UInt8) (p : Pending) : Prop :=
  1 ≤ p.missing ∧ ∀ more, Completes p more → ∃ n, Spells (taken ++ more) n

theorem tail_of_low {n m : Nat} {x b : UInt8} (least : 0x80 ≤ x)
    (h : (if n = m then x else 0x80) ≤ b) : 0x80 ≤ b := by
  split at h
  · exact UInt8.le_trans least h
  · exact h

theorem tail_of_high {n m : Nat} {x b : UInt8} (most : x ≤ 0xbf)
    (h : b ≤ if n = m then x else 0xbf) : b ≤ 0xbf := by
  split at h
  · exact UInt8.le_trans h most
  · exact h

theorem underway_two {b : UInt8} (low : 0xc2 ≤ b.toNat) (high : b.toNat < 0xe0) (value : Nat) :
    Underway [b] ⟨1, 0x80, 0xbf, value, 1⟩ := by
  refine ⟨Nat.le_refl 1, ?_⟩
  intro more completes
  match more, completes with
  | [c], ⟨least, most, _, _⟩ => exact ⟨_, .two low high ⟨least, most⟩⟩

theorem underway_three {b : UInt8} (low : 0xe0 ≤ b.toNat) (high : b.toNat < 0xf0) (value : Nat) :
    Underway [b] ⟨2, if b.toNat = 0xe0 then 0xa0 else 0x80,
      if b.toNat = 0xed then 0x9f else 0xbf, value, 1⟩ := by
  refine ⟨Nat.succ_le_succ (Nat.zero_le _), ?_⟩
  intro more completes
  match more, completes with
  | [c, d], ⟨least, most, _, tails⟩ =>
    have second : Tail c := ⟨tail_of_low (by decide) least, tail_of_high (by decide) most⟩
    refine ⟨_, .three low high second ?_ ?_ (tails d (by simp))⟩
    · intro h
      simpa only [if_pos h] using least
    · intro h
      simpa only [if_pos h] using most

theorem underway_four {b : UInt8} (low : 0xf0 ≤ b.toNat) (high : b.toNat < 0xf5) (value : Nat) :
    Underway [b] ⟨3, if b.toNat = 0xf0 then 0x90 else 0x80,
      if b.toNat = 0xf4 then 0x8f else 0xbf, value, 1⟩ := by
  refine ⟨Nat.succ_le_succ (Nat.zero_le _), ?_⟩
  intro more completes
  match more, completes with
  | [c, d, e], ⟨least, most, _, tails⟩ =>
    have second : Tail c := ⟨tail_of_low (by decide) least, tail_of_high (by decide) most⟩
    refine ⟨_, .four low high second ?_ ?_ (tails d (by simp)) (tails e (by simp))⟩
    · intro h
      simpa only [if_pos h] using least
    · intro h
      simpa only [if_pos h] using most

theorem underway_more {taken : List UInt8} {p : Pending} {b : UInt8} (under : Underway taken p)
    (low : p.low ≤ b) (high : b ≤ p.high) (missing : 1 < p.missing) (value size : Nat) :
    Underway (taken ++ [b]) ⟨p.missing - 1, 0x80, 0xbf, value, size⟩ := by
  refine ⟨Nat.le_sub_one_of_lt missing, ?_⟩
  intro more completes
  match more, completes with
  | c :: more, ⟨least, most, count, tails⟩ =>
    have tails : ∀ x ∈ c :: more, Tail x := by
      intro x hx
      rcases List.mem_cons.mp hx with rfl | hx
      · exact ⟨least, most⟩
      · exact tails x hx
    have count : (c :: more).length + 1 = p.missing := by
      have : more.length + 1 = p.missing - 1 := count
      simp only [List.length_cons]
      omega
    simpa using under.2 (b :: c :: more) ⟨low, high, count, tails⟩

theorem first_cases (b : UInt8) :
    b.toNat < 0x80 ∨ first b = ([.malformed 1 false], none) ∨
      ∃ p, first b = ([], some p) ∧ Underway [b] p := by
  rcases Nat.lt_or_ge b.toNat 0x80 with one | above
  · exact .inl one
  rcases Nat.lt_or_ge b.toNat 0xc2 with outside | low₂
  · exact .inr (.inl (first_other (.inl ⟨above, outside⟩)))
  rcases Nat.lt_or_ge b.toNat 0xe0 with two | low₃
  · exact .inr (.inr ⟨_, first_two low₂ two, underway_two low₂ two _⟩)
  rcases Nat.lt_or_ge b.toNat 0xf0 with three | low₄
  · exact .inr (.inr ⟨_, first_three low₃ three, underway_three low₃ three _⟩)
  rcases Nat.lt_or_ge b.toNat 0xf5 with four | outside
  · exact .inr (.inr ⟨_, first_four low₄ four, underway_four low₄ four _⟩)
  · exact .inr (.inl (first_other (.inr outside)))

/-- A character under way is completed by what follows, or the decoder finds it malformed. -/
theorem piecesFrom_underway {taken : List UInt8} {p : Pending} (under : Underway taken p)
    (rest : List UInt8) :
    (∃ bytes n, Spells bytes n ∧ bytes <+: taken ++ rest) ∨
      ∃ size cutOff more, piecesFrom [] (some p) rest = .malformed size cutOff :: more := by
  induction rest generalizing taken p with
  | nil => exact .inr ⟨p.size, true, [], rfl⟩
  | cons b rest ih =>
    by_cases within : p.low ≤ b ∧ b ≤ p.high
    · obtain ⟨low, high⟩ := within
      by_cases last : p.missing = 1
      · obtain ⟨n, spelled⟩ := under.2 [b] ⟨low, high, last.symm, by simp⟩
        exact .inl ⟨_, n, spelled, ⟨rest, by simp⟩⟩
      · have missing : 1 < p.missing := by have := under.1; omega
        rw [piecesFrom_cons, step_more missing low high]
        simpa using ih (underway_more under low high missing _ _)
    · rw [piecesFrom_cons, step_other within]
      exact .inr ⟨p.size, false, _, rfl⟩

theorem pieces_malformed {bytes : List UInt8} (nonempty : bytes ≠ [])
    (no_char : ∀ c, ¬ String.utf8EncodeChar c <+: bytes) :
    ∃ size cutOff more, pieces bytes = .malformed size cutOff :: more := by
  have no_sequence : ∀ seq n, Spells seq n → ¬ seq <+: bytes := by
    intro seq n spelled
    rw [← spelled.encode]
    exact no_char _
  cases bytes with
  | nil => exact absurd rfl nonempty
  | cons b rest =>
    rcases first_cases b with one | outside | ⟨p, begins, under⟩
    · exact absurd ⟨rest, rfl⟩ (no_sequence [b] _ (.one one))
    · rw [pieces_cons, outside]
      exact ⟨1, false, _, rfl⟩
    · rw [pieces_cons, begins]
      rcases piecesFrom_underway under rest with ⟨seq, n, spelled, begin⟩ | malformed
      · exact absurd begin (no_sequence seq n spelled)
      · exact malformed

/-- The bytes before an offset are text, and no character is encoded there. -/
def IllFormedAt (bytes : List UInt8) (offset : Nat) : Prop :=
  ∃ text rest, bytes = encode text ++ rest ∧ byteLength text = offset ∧ rest ≠ [] ∧
    ∀ c, ¬ String.utf8EncodeChar c <+: rest

theorem IllFormedAt.lt_length {bytes : List UInt8} {offset : Nat} (ill : IllFormedAt bytes offset) :
    offset < bytes.length := by
  obtain ⟨text, rest, rfl, rfl, nonempty, _⟩ := ill
  have := List.length_pos_iff.mpr nonempty
  rw [List.length_append, length_encode]
  omega

theorem IllFormedAt.text_before {bytes : List UInt8} {offset : Nat}
    (ill : IllFormedAt bytes offset) : ∃ text, bytes.take offset = encode text := by
  obtain ⟨text, rest, rfl, rfl, _⟩ := ill
  refine ⟨text, ?_⟩
  rw [← length_encode]
  exact List.take_left

/-- Bytes are text, or ill-formed somewhere. -/
theorem text_or_illFormedAt (bytes : List UInt8) :
    (∃ text, bytes = encode text) ∨ ∃ offset, IllFormedAt bytes offset := by
  generalize size : bytes.length = n
  induction n using Nat.strongRecOn generalizing bytes with
  | ind n ih =>
    by_cases empty : bytes = []
    · exact .inl ⟨[], empty⟩
    · by_cases begins : ∃ c, String.utf8EncodeChar c <+: bytes
      · obtain ⟨c, rest, rfl⟩ := begins
        have := c.utf8Size_pos
        have shorter : rest.length < n := by
          simp only [List.length_append, String.length_utf8EncodeChar] at size
          omega
        rcases ih rest.length shorter rest rfl with ⟨text, rfl⟩ | ⟨_, text, tail, rfl, rfl, h⟩
        · exact .inl ⟨c :: text, (encode_cons c text).symm⟩
        · exact .inr ⟨_, c :: text, tail, by simp [encode_cons], rfl, h⟩
      · have no_char : ∀ c, ¬ String.utf8EncodeChar c <+: bytes := not_exists.mp begins
        exact .inr ⟨0, [], bytes, rfl, rfl, empty, no_char⟩

theorem malformedAt_chars (text : List Char) : malformedAt (text.map .char) = none := by
  simp [malformedAt, Piece.isChar]

theorem size_chars (text : List Char) :
    (text.map Piece.char).foldr (fun p n => p.size + n) 0 = byteLength text := by
  induction text with
  | nil => rfl
  | cons c rest ih =>
    rw [List.map_cons, List.foldr_cons, ih]
    rfl

theorem malformedAt_chars_malformed (text : List Char) (size : Nat) (cutOff : Bool)
    (more : List Piece) :
    malformedAt (text.map .char ++ .malformed size cutOff :: more) = some (byteLength text) := by
  have chars : ∀ p ∈ text.map Piece.char, p.isChar = true := by simp [Piece.isChar]
  have leading : (text.map Piece.char ++ .malformed size cutOff :: more).takeWhile Piece.isChar =
      text.map .char := by
    rw [List.takeWhile_append_of_pos chars]
    simp [Piece.isChar]
  simp [malformedAt, leading, size_chars, Piece.isChar]

theorem pieces_encode (text : List Char) : pieces (encode text) = text.map .char := by
  have all := pieces_encode_append text []
  rwa [List.append_nil, show pieces [] = [] from rfl, List.append_nil] at all

theorem decode_encode (text : List Char) : decode (encode text) = .ok text := by
  simp [decode, pieces_encode, malformedAt_chars, List.filterMap_map, Function.comp_def,
    Piece.char?]

theorem decode_of_illFormedAt {bytes : List UInt8} {offset : Nat} (h : IllFormedAt bytes offset) :
    decode bytes = .error offset := by
  obtain ⟨text, rest, rfl, rfl, nonempty, no_char⟩ := h
  obtain ⟨size, cutOff, more, malformed⟩ := pieces_malformed nonempty no_char
  simp only [decode, pieces_encode_append, malformed, malformedAt_chars_malformed]

theorem decode_eq_ok_iff {bytes : List UInt8} {text : List Char} :
    decode bytes = .ok text ↔ bytes = encode text := by
  constructor
  · intro h
    rcases text_or_illFormedAt bytes with ⟨other, rfl⟩ | ⟨offset, ill⟩
    · rw [decode_encode] at h
      cases h
      rfl
    · rw [decode_of_illFormedAt ill] at h
      cases h
  · rintro rfl
    exact decode_encode text

theorem decode_eq_error_iff {bytes : List UInt8} {offset : Nat} :
    decode bytes = .error offset ↔ IllFormedAt bytes offset := by
  constructor
  · intro h
    rcases text_or_illFormedAt bytes with ⟨text, rfl⟩ | ⟨other, ill⟩
    · rw [decode_encode] at h
      cases h
    · rw [decode_of_illFormedAt ill] at h
      cases h
      exact ill
  · exact decode_of_illFormedAt

theorem isValid_iff {bytes : List UInt8} : isValid bytes = true ↔ ∃ text, bytes = encode text := by
  constructor
  · intro h
    have none : malformedAt (pieces bytes) = none := by simp only [malformedAt]; exact if_pos h
    refine ⟨(pieces bytes).filterMap Piece.char?, decode_eq_ok_iff.mp ?_⟩
    simp only [decode, none]
  · rintro ⟨text, rfl⟩
    simp [isValid, pieces_encode, Piece.isChar]

/-- Cutting bytes short does not move the place where they are ill-formed, when no longer part of
them is text. -/
theorem illFormedAt_of_take {bytes : List UInt8} {size offset : Nat}
    (ill : IllFormedAt (bytes.take size) offset)
    (longer : ∀ n, size < n → n ≤ bytes.length → isValid (bytes.take n) = false) :
    IllFormedAt bytes offset := by
  obtain ⟨text, rest, cut, length, nonempty, no_char⟩ := ill
  have whole : bytes = encode text ++ (rest ++ bytes.drop size) := by
    rw [← List.append_assoc, ← cut, List.take_append_drop]
  refine ⟨text, rest ++ bytes.drop size, whole, length, by simp [nonempty], ?_⟩
  intro c begins
  by_cases short : (String.utf8EncodeChar c).length ≤ rest.length
  · exact no_char c (List.prefix_of_prefix_length_le begins (List.prefix_append _ _) short)
  · obtain ⟨behind, split⟩ := begins
    have text' : bytes = encode (text ++ [c]) ++ behind := by
      rw [whole, ← split]
      simp [encode]
    have bound := congrArg List.length cut
    have total := congrArg List.length text'
    simp only [List.length_append, List.length_take, encode_append] at bound total
    have single : (encode [c]).length = (String.utf8EncodeChar c).length := by simp [encode]
    have taken : bytes.take (encode (text ++ [c])).length = encode (text ++ [c]) := by
      rw [text']
      exact List.take_left
    have valid := isValid_iff.mpr ⟨text ++ [c], taken⟩
    rw [longer _ (by simp only [encode_append, List.length_append]; omega)
      (by simp only [encode_append, List.length_append]; omega)] at valid
    cases valid

end Highlighting.Utf8
