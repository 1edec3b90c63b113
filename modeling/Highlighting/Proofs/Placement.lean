import Highlighting.Proofs.StyleMap
import Highlighting.Proofs.Utf8
import Highlighting.Tokenizer

/-! Tokens in their places. The walk along the tokens is settled by two readings of them: the text
that they join to decides whether it succeeds, and the places of the tokens decide its spans. -/
namespace Highlighting

/-- The text that tokens join to. -/
def joined (tokens : List Token) : List Char :=
  tokens.flatMap (·.text)

@[simp] theorem joined_nil : joined [] = [] := rfl

@[simp] theorem joined_cons (token : Token) (tokens : List Token) :
    joined (token :: tokens) = token.text ++ joined tokens := rfl

@[simp] theorem joined_append (tokens more : List Token) :
    joined (tokens ++ more) = joined tokens ++ joined more := by
  simp [joined]

theorem dropLeading?_eq_some_iff {lead text rest : List Char} :
    dropLeading? lead text = some rest ↔ text = lead ++ rest := by
  induction lead generalizing text with
  | nil => simp [dropLeading?]
  | cons c more ih =>
    cases text with
    | nil => simp [dropLeading?]
    | cons d tail =>
      by_cases same : c = d
      · simp [dropLeading?, same, ih]
      · simp [dropLeading?, same, Ne.symm same]

namespace Viewport

/-- A token with the offset at which it starts. -/
structure Placed where
  start : Nat
  token : Token
  deriving DecidableEq, Repr

/-- Tokens one behind the other. -/
def placed (position : Nat) : List Token → List Placed
  | [] => []
  | token :: tokens =>
    ⟨position, token⟩ :: placed (position + Utf8.byteLength token.text) tokens

namespace Placed

/-- Offset just past the token. -/
def stop (p : Placed) : Nat :=
  p.start + Utf8.byteLength p.token.text

/-- Whether an offset lies strictly inside the token. -/
def Splits (p : Placed) (cursor : Nat) : Prop :=
  p.start < cursor ∧ cursor < p.stop

instance (p : Placed) (cursor : Nat) : Decidable (p.Splits cursor) :=
  inferInstanceAs (Decidable (_ ∧ _))

/-- Where the style of the token begins: at its start, or at the cursor inside it. -/
def onset (cursor : Nat) (p : Placed) : Nat :=
  if p.Splits cursor then cursor else p.start

/-- The style that the token is shown in, if it holds text and has a style. -/
def style? (mapping : Mapping) (faces : Faces) (p : Placed) : Option Style :=
  if p.token.text.isEmpty then none else styleOf mapping faces p.token.kind

def span? (mapping : Mapping) (faces : Faces) (cursor : Nat) (p : Placed) : Option Span :=
  (p.style? mapping faces).map (⟨p.onset cursor, ·⟩)

theorem start_le_onset (cursor : Nat) (p : Placed) : p.start ≤ p.onset cursor := by
  by_cases splits : p.Splits cursor
  · rw [onset, if_pos splits]
    exact Nat.le_of_lt splits.1
  · have same : p.onset cursor = p.start := if_neg splits
    exact Nat.le_of_eq same.symm

theorem onset_lt_stop {p : Placed} (cursor : Nat) (filled : p.token.text ≠ []) :
    p.onset cursor < p.stop := by
  by_cases splits : p.Splits cursor
  · rw [onset, if_pos splits]
    exact splits.2
  · rw [onset, if_neg splits]
    exact Nat.lt_add_of_pos_right (Utf8.byteLength_pos filled)

end Placed

/-- The spans of tokens from a position on. -/
def spansOf (mapping : Mapping) (faces : Faces) (cursor position : Nat) (tokens : List Token) :
    List Span :=
  (placed position tokens).filterMap (Placed.span? mapping faces cursor)

theorem walk_cons (mapping : Mapping) (faces : Faces) (view : Viewport) (cursor position : Nat)
    (token : Token) (tokens : List Token) (rest : List Char) :
    walk mapping faces view cursor position (token.text ++ rest) (token :: tokens) =
      (walk mapping faces view cursor (position + Utf8.byteLength token.text) rest tokens).map
        fun spans => (Placed.span? mapping faces cursor ⟨position, token⟩).toList ++ spans := by
  have lead : dropLeading? token.text (token.text ++ rest) = some rest :=
    dropLeading?_eq_some_iff.mpr rfl
  simp only [walk, lead]
  cases walk mapping faces view cursor (position + Utf8.byteLength token.text) rest tokens with
  | error e => rfl
  | ok spans =>
    by_cases empty : token.text.isEmpty = true
    · simp [Except.map, Placed.span?, Placed.style?, empty]
    · cases style : styleOf mapping faces token.kind with
      | none => simp [Except.map, Placed.span?, Placed.style?, empty, style]
      | some style =>
        simp only [Except.map, Placed.span?, Placed.style?, empty, style]
        rfl

/-- The walk covers the rest of a text exactly when the tokens join to it. -/
theorem walk_eq_ok_iff {mapping : Mapping} {faces : Faces} {view : Viewport}
    {cursor position : Nat} {rest : List Char} {tokens : List Token} {spans : List Span}
    (reaches : position + Utf8.byteLength rest = view.stop) :
    walk mapping faces view cursor position rest tokens = .ok spans ↔
      joined tokens = rest ∧ spans = spansOf mapping faces cursor position tokens := by
  induction tokens generalizing position rest spans with
  | nil =>
    by_cases done : rest = []
    · subst rest
      simp [walk, ← reaches, spansOf, placed, eq_comm]
    · have := Utf8.byteLength_pos done
      have short : position ≠ view.stop := by omega
      simp [walk, short, Ne.symm done]
  | cons token tokens ih =>
    by_cases leads : ∃ behind, rest = token.text ++ behind
    · obtain ⟨behind, rfl⟩ := leads
      rw [Utf8.byteLength_append, ← Nat.add_assoc] at reaches
      rw [walk_cons]
      cases walked : walk mapping faces view cursor
          (position + Utf8.byteLength token.text) behind tokens with
      | ok more =>
        obtain ⟨same, rfl⟩ := (ih reaches).mp walked
        cases span : Placed.span? mapping faces cursor ⟨position, token⟩ <;>
          simp [Except.map, spansOf, placed, span, same, eq_comm]
      | error e =>
        have uncovered : joined tokens ≠ behind := by
          intro same
          have covered : walk mapping faces view cursor
              (position + Utf8.byteLength token.text) behind tokens = .ok _ :=
            (ih reaches).mpr ⟨same, rfl⟩
          cases walked.symm.trans covered
        simp [Except.map, uncovered]
    · have no_lead : dropLeading? token.text rest = none := by
        cases lead : dropLeading? token.text rest with
        | none => rfl
        | some behind => exact absurd ⟨behind, dropLeading?_eq_some_iff.mp lead⟩ leads
      have uncovered : token.text ++ joined tokens ≠ rest := fun same => leads ⟨_, same.symm⟩
      simp [walk, no_lead, uncovered]

/-- Lexing succeeds exactly when the tokens join to the text; their places then give the spans. -/
theorem tokenize_eq_ok_iff {tokenizer : Tokenizer} {mapping : Mapping} {faces : Faces}
    {view : Viewport} {cursor : Nat} {spans : List Span} :
    tokenize tokenizer mapping faces view cursor = .ok spans ↔
      ∃ tokens, tokenizer.lex view.text = .ok tokens ∧ joined tokens = view.text ∧
        spans = spansOf mapping faces cursor view.base tokens := by
  have reaches : view.base + Utf8.byteLength view.text = view.stop := rfl
  cases lexed : tokenizer.lex view.text with
  | ok tokens => simp [tokenize, lexed, walk_eq_ok_iff reaches]
  | error e => simp [tokenize, lexed]

/- Non-empty tokens begin at different offsets, and their spans do too. -/

theorem mem_placed {position : Nat} {tokens : List Token} {p : Placed}
    (h : p ∈ placed position tokens) :
    position ≤ p.start ∧ p.stop ≤ position + Utf8.byteLength (joined tokens) := by
  induction tokens generalizing position with
  | nil => cases h
  | cons token tokens ih =>
    rw [joined_cons, Utf8.byteLength_append]
    rcases List.mem_cons.mp h with rfl | h
    · exact ⟨Nat.le_refl _, by simp only [Placed.stop]; omega⟩
    · have := ih h
      omega

theorem placed_pairwise (position : Nat) (tokens : List Token) :
    (placed position tokens).Pairwise (·.stop ≤ ·.start) := by
  induction tokens generalizing position with
  | nil => exact .nil
  | cons token tokens ih => exact .cons (fun p h => (mem_placed h).1) (ih _)

theorem span?_eq_some {mapping : Mapping} {faces : Faces} {cursor : Nat} {p : Placed}
    {span : Span} (h : p.span? mapping faces cursor = some span) :
    span.start = p.onset cursor ∧ p.token.text ≠ [] := by
  simp only [Placed.span?, Placed.style?, Option.map_eq_some_iff] at h
  obtain ⟨style, shown, rfl⟩ := h
  by_cases empty : p.token.text.isEmpty = true
  · simp [empty] at shown
  · exact ⟨rfl, by simpa using empty⟩

theorem spansOf_ascending (mapping : Mapping) (faces : Faces) (cursor position : Nat)
    (tokens : List Token) : Ascending (spansOf mapping faces cursor position tokens) := by
  refine List.Pairwise.filterMap _ ?_ (placed_pairwise position tokens)
  intro p q apart s hs t ht
  obtain ⟨first, filled⟩ := span?_eq_some hs
  obtain ⟨second, _⟩ := span?_eq_some ht
  have before := Placed.onset_lt_stop cursor filled
  have after := Placed.start_le_onset cursor q
  omega

theorem mem_spansOf {mapping : Mapping} {faces : Faces} {cursor position : Nat}
    {tokens : List Token} {span : Span}
    (h : span ∈ spansOf mapping faces cursor position tokens) :
    position ≤ span.start ∧ span.start < position + Utf8.byteLength (joined tokens) := by
  obtain ⟨p, inside, found⟩ := List.mem_filterMap.mp h
  obtain ⟨start, filled⟩ := span?_eq_some found
  have := mem_placed inside
  have := Placed.onset_lt_stop cursor filled
  have := Placed.start_le_onset cursor p
  omega

end Viewport

end Highlighting
