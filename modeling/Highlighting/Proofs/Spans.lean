import Highlighting.Proofs.Placement

/-! Tokenizing a viewport, in full. Offsets are sums of token lengths, each token has at most one
span, and tokens that do not cover the text are reported by the length of those that do. A loop in
machine words, which slices the text and remembers whether it has met the cursor, comes to the
same. -/
namespace Highlighting.Viewport

/-- Where the token of a given number starts: behind all tokens before it. -/
def offsetOf (base : Nat) (tokens : List Token) (i : Nat) : Nat :=
  base + Utf8.byteLength (joined (tokens.take i))

/-- The span of the token of a given number. The face is that of the nearest ancestor of its kind
that the mapping lists, and it must be registered. -/
def spanAt? (mapping : Mapping) (faces : Faces) (cursor base : Nat) (tokens : List Token)
    (i : Nat) : Option Span := do
  let token ← tokens[i]?
  let face ← mapping.resolve token.kind
  let style ← faces.get? face
  let start := offsetOf base tokens i
  let stop := offsetOf base tokens (i + 1)
  if token.text = [] then none
  else some ⟨if start < cursor ∧ cursor < stop then cursor else start, style⟩

theorem offsetOf_zero (base : Nat) (tokens : List Token) : offsetOf base tokens 0 = base := rfl

theorem offsetOf_cons_succ (base : Nat) (token : Token) (tokens : List Token) (i : Nat) :
    offsetOf base (token :: tokens) (i + 1) =
      offsetOf (base + Utf8.byteLength token.text) tokens i := by
  simp only [offsetOf, List.take_succ_cons, joined_cons, Utf8.byteLength_append, Nat.add_assoc]

theorem offsetOf_succ (base : Nat) {i : Nat} {tokens : List Token} {token : Token}
    (here : tokens[i]? = some token) :
    offsetOf base tokens (i + 1) = offsetOf base tokens i + Utf8.byteLength token.text := by
  simp [offsetOf, List.take_add_one, here, Nat.add_assoc]

theorem offsetOf_mono (base : Nat) (tokens : List Token) {i j : Nat} (ordered : i ≤ j) :
    offsetOf base tokens i ≤ offsetOf base tokens j := by
  obtain ⟨n, rfl⟩ := Nat.exists_eq_add_of_le ordered
  simp [offsetOf, List.take_add]

theorem onset_mk (cursor start : Nat) (token : Token) :
    Placed.onset cursor ⟨start, token⟩ =
      if start < cursor ∧ cursor < start + Utf8.byteLength token.text then cursor else start := rfl

theorem spanAt?_eq_span? (mapping : Mapping) (faces : Faces) (cursor base : Nat)
    (tokens : List Token) (i : Nat) :
    spanAt? mapping faces cursor base tokens i =
      tokens[i]?.bind fun token =>
        Placed.span? mapping faces cursor ⟨offsetOf base tokens i, token⟩ := by
  cases here : tokens[i]? with
  | none => simp [spanAt?, here]
  | some token =>
    have stop := offsetOf_succ base here
    simp only [spanAt?, here, stop, Placed.span?, Placed.style?, styleOf, Option.bind_eq_bind,
      Option.bind_some]
    cases mapping.resolve token.kind with
    | none => simp
    | some face =>
      cases shown : faces.get? face with
      | none => simp [shown]
      | some style =>
        by_cases empty : token.text = []
        · simp [empty]
        · simp [shown, empty, onset_mk]

theorem placed_eq_range (base : Nat) (tokens : List Token) :
    placed base tokens = (List.range tokens.length).filterMap fun i =>
      tokens[i]?.map fun token => ⟨offsetOf base tokens i, token⟩ := by
  induction tokens generalizing base with
  | nil => rfl
  | cons token tokens ih =>
    have later : ∀ i, ((token :: tokens)[i + 1]?.map fun next =>
        (⟨offsetOf base (token :: tokens) (i + 1), next⟩ : Placed)) =
          tokens[i]?.map fun next =>
            ⟨offsetOf (base + Utf8.byteLength token.text) tokens i, next⟩ := by
      intro i
      rw [List.getElem?_cons_succ, offsetOf_cons_succ]
    rw [placed, ih, List.length_cons, List.range_succ_eq_map, List.filterMap_cons,
      List.filterMap_map]
    exact congrArg (_ :: ·) (congrArg (List.filterMap · _) (funext later)).symm

theorem spansOf_eq_range (mapping : Mapping) (faces : Faces) (cursor base : Nat)
    (tokens : List Token) :
    spansOf mapping faces cursor base tokens =
      (List.range tokens.length).filterMap (spanAt? mapping faces cursor base tokens) := by
  rw [spansOf, placed_eq_range, List.filterMap_filterMap]
  congr 1
  funext i
  rw [spanAt?_eq_span?]
  cases tokens[i]? <;> rfl

/-- A span begins where its token does, unless the cursor lies strictly inside the token. -/
theorem start_of_spanAt? {mapping : Mapping} {faces : Faces} {cursor base i : Nat}
    {tokens : List Token} {span : Span}
    (found : spanAt? mapping faces cursor base tokens i = some span) :
    span.start = offsetOf base tokens i ∨
      offsetOf base tokens i < cursor ∧ cursor < offsetOf base tokens (i + 1) := by
  rw [spanAt?_eq_span?] at found
  obtain ⟨token, here, found⟩ := Option.bind_eq_some_iff.mp found
  obtain ⟨start, _⟩ := span?_eq_some found
  rw [offsetOf_succ base here, start]
  by_cases splits : Placed.Splits ⟨offsetOf base tokens i, token⟩ cursor
  · exact .inr splits
  · exact .inl (if_neg splits)

theorem unique_of_moved {base cursor i j : Nat} {tokens : List Token}
    (first : offsetOf base tokens i < cursor ∧ cursor < offsetOf base tokens (i + 1))
    (second : offsetOf base tokens j < cursor ∧ cursor < offsetOf base tokens (j + 1)) : i = j := by
  rcases Nat.lt_trichotomy i j with before | same | behind
  · have := offsetOf_mono base tokens (show i + 1 ≤ j from before)
    omega
  · exact same
  · have := offsetOf_mono base tokens (show j + 1 ≤ i from behind)
    omega

/-- Spans mark the tokens of a viewport: in their order, one for each that has a style. -/
structure Marks (mapping : Mapping) (faces : Faces) (cursor : Nat) (view : Viewport)
    (tokens : List Token) (spans : List Span) : Prop where
  listed : spans =
    (List.range tokens.length).filterMap (spanAt? mapping faces cursor view.base tokens)
  ascending : spans.Pairwise (·.start < ·.start)
  inside : ∀ span ∈ spans, view.base ≤ span.start ∧ span.start < view.stop
  moved : ∀ i j first second,
    spanAt? mapping faces cursor view.base tokens i = some first →
    spanAt? mapping faces cursor view.base tokens j = some second →
    first.start ≠ offsetOf view.base tokens i → second.start ≠ offsetOf view.base tokens j → i = j

theorem marks_spansOf (mapping : Mapping) (faces : Faces) (cursor : Nat) {view : Viewport}
    {tokens : List Token} (covered : joined tokens = view.text) :
    Marks mapping faces cursor view tokens (spansOf mapping faces cursor view.base tokens) := by
  refine ⟨spansOf_eq_range .., spansOf_ascending .., ?_, ?_⟩
  · intro span inside
    have bounds := mem_spansOf inside
    rwa [covered] at bounds
  · intro i j first second found other elsewhere away
    have inner := (start_of_spanAt? found).resolve_left elsewhere
    have outer := (start_of_spanAt? other).resolve_left away
    exact unique_of_moved inner outer

/- Tokens that do not cover the text. -/

/-- The text begins with what so many leading tokens join to, and with no longer run of them. -/
structure LongestRun (tokens : List Token) (text : List Char) (run : Nat) : Prop where
  within : run ≤ tokens.length
  leads : joined (tokens.take run) <+: text
  longest : ∀ n, n ≤ tokens.length → joined (tokens.take n) <+: text → n ≤ run

theorem LongestRun.none {token : Token} {tokens : List Token} {text : List Char}
    (apart : ¬ token.text <+: text) : LongestRun (token :: tokens) text 0 := by
  refine ⟨Nat.zero_le _, List.nil_prefix, ?_⟩
  intro n within leads
  cases n with
  | zero => exact Nat.le_refl 0
  | succ n =>
    rw [List.take_succ_cons, joined_cons] at leads
    exact absurd ((List.prefix_append ..).trans leads) apart

theorem LongestRun.cons {tokens : List Token} {text : List Char} {run : Nat}
    (longest : LongestRun tokens text run) (token : Token) :
    LongestRun (token :: tokens) (token.text ++ text) (run + 1) := by
  refine ⟨Nat.succ_le_succ longest.within, ?_, ?_⟩
  · rw [List.take_succ_cons, joined_cons]
    exact (List.prefix_append_right_inj _).mpr longest.leads
  · intro n within leads
    cases n with
    | zero => exact Nat.zero_le _
    | succ n =>
      rw [List.take_succ_cons, joined_cons, List.prefix_append_right_inj] at leads
      exact Nat.succ_le_succ (longest.longest n (Nat.le_of_succ_le_succ within) leads)

/-- A walk that fails reports how far the longest run of leading tokens reaches. -/
theorem walk_of_uncovered (mapping : Mapping) (faces : Faces) {view : Viewport} (cursor : Nat)
    {position : Nat} {rest : List Char} {tokens : List Token}
    (reaches : position + Utf8.byteLength rest = view.stop) (uncovered : joined tokens ≠ rest) :
    ∃ run, LongestRun tokens rest run ∧
      walk mapping faces view cursor position rest tokens =
        .error (.coverage (Utf8.byteLength view.text)
          (offsetOf position tokens run - view.base)) := by
  induction tokens generalizing position rest with
  | nil =>
    have := Utf8.byteLength_pos (Ne.symm uncovered)
    have short : position ≠ view.stop := by omega
    refine ⟨0, ⟨Nat.le_refl 0, List.nil_prefix, fun n within _ => within⟩, ?_⟩
    simp only [walk, if_neg short, offsetOf_zero]
  | cons token tokens ih =>
    cases lead : dropLeading? token.text rest with
    | none =>
      have apart : ¬ token.text <+: rest := by
        rintro ⟨behind, same⟩
        rw [dropLeading?_eq_some_iff.mpr same.symm] at lead
        cases lead
      refine ⟨0, .none apart, ?_⟩
      simp only [walk, lead, offsetOf_zero]
    | some behind =>
      obtain rfl := dropLeading?_eq_some_iff.mp lead
      rw [Utf8.byteLength_append, ← Nat.add_assoc] at reaches
      have short : joined tokens ≠ behind := by
        intro same
        exact uncovered (by rw [joined_cons, same])
      obtain ⟨run, longest, failed⟩ := ih reaches short
      refine ⟨run + 1, longest.cons token, ?_⟩
      rw [walk_cons, failed, offsetOf_cons_succ]
      rfl

/- The loop in machine words. -/

/-- A sum, unless it is more than the largest word. -/
def add? (most a b : Nat) : Option Nat :=
  if a + b ≤ most then some (a + b) else none

/-- A difference, unless it is negative. -/
def sub? (a b : Nat) : Option Nat :=
  if b ≤ a then some (a - b) else none

/-- The walk with the spans `done` so far and a mark that the cursor was `met` inside a token. There
is no answer when a sum leaves the machine word. -/
def march? (most : Nat) (mapping : Mapping) (faces : Faces) (view : Viewport) (cursor : Nat) :
    Nat → Bool → List Span → List Token → Option (Except Error (List Span))
  | position, _, done, [] => do
    let stop ← add? most view.base (Utf8.byteLength view.text)
    let covered ← sub? position view.base
    some (if position = stop then .ok done
      else .error (.coverage (Utf8.byteLength view.text) covered))
  | position, met, done, token :: tokens => do
    let covered ← sub? position view.base
    let ahead := (Utf8.splitAt? covered view.text).bind fun parts =>
      dropLeading? token.text parts.2
    if ahead.isNone then some (.error (.coverage (Utf8.byteLength view.text) covered))
    else if token.text.isEmpty then march? most mapping faces view cursor position met done tokens
    else do
      let stop ← add? most position (Utf8.byteLength token.text)
      match styleOf mapping faces token.kind with
      | none => march? most mapping faces view cursor stop met done tokens
      | some style =>
        let splits := ! met && decide (position < cursor) && decide (cursor < stop)
        let start := if splits then cursor else position
        march? most mapping faces view cursor stop (met || splits) (done ++ [⟨start, style⟩]) tokens

theorem add?_of_le {most a b : Nat} (fits : a + b ≤ most) : add? most a b = some (a + b) :=
  if_pos fits

theorem sub?_add (a b : Nat) : sub? (a + b) a = some b := by
  rw [sub?, if_pos (Nat.le_add_right a b), Nat.add_sub_cancel_left]

theorem onset_of_met {cursor start : Nat} {token : Token} {met : Bool}
    (behind : met = true → cursor ≤ start) :
    Placed.onset cursor ⟨start, token⟩ =
      if (! met && decide (start < cursor) &&
        decide (cursor < start + Utf8.byteLength token.text)) = true then cursor else start := by
  cases met with
  | false => simp [onset_mk]
  | true => simp [onset_mk, Nat.not_lt.mpr (behind rfl)]

/-- One token that the text goes on with. The mark is only ever set where the cursor is passed. -/
theorem march?_cons {most : Nat} (mapping : Mapping) (faces : Faces) {view : Viewport}
    (cursor : Nat) (fits : view.stop ≤ most) {before ahead : List Char} {token : Token}
    (split : view.text = before ++ (token.text ++ ahead)) {met : Bool}
    (behind : met = true → cursor ≤ view.base + Utf8.byteLength before) (done : List Span)
    (tokens : List Token) :
    ∃ mark : Bool, (mark = true → cursor ≤ view.base + Utf8.byteLength (before ++ token.text)) ∧
      march? most mapping faces view cursor (view.base + Utf8.byteLength before) met done
          (token :: tokens) =
        march? most mapping faces view cursor (view.base + Utf8.byteLength (before ++ token.text))
          mark (done ++ (Placed.span? mapping faces cursor
            ⟨view.base + Utf8.byteLength before, token⟩).toList) tokens := by
  have place : Utf8.splitAt? (Utf8.byteLength before) view.text =
      some (before, token.text ++ ahead) := by rw [split, Utf8.splitAt?_append]
  have lead : dropLeading? token.text (token.text ++ ahead) = some ahead :=
    dropLeading?_eq_some_iff.mpr rfl
  simp only [march?, sub?_add, place, lead, Option.bind_eq_bind, Option.bind_some,
    Option.isNone_some, Bool.false_eq_true, if_false]
  have passed : met = true → cursor ≤ view.base + Utf8.byteLength (before ++ token.text) := by
    intro mark
    have := behind mark
    rw [Utf8.byteLength_append]
    omega
  have past : view.base + Utf8.byteLength before + Utf8.byteLength token.text =
      view.base + Utf8.byteLength (before ++ token.text) := by
    rw [Utf8.byteLength_append, Nat.add_assoc]
  by_cases empty : token.text = []
  · exact ⟨met, passed, by simp [empty, Placed.span?, Placed.style?]⟩
  · have stop : add? most (view.base + Utf8.byteLength before) (Utf8.byteLength token.text) =
        some (view.base + Utf8.byteLength (before ++ token.text)) := by
      rw [← past]
      apply add?_of_le
      simp only [Viewport.stop, split, Utf8.byteLength_append] at fits
      omega
    have filled : token.text.isEmpty = false := by simpa using empty
    simp only [filled, Bool.false_eq_true, if_false, stop, Option.bind_some, Placed.span?,
      Placed.style?]
    cases style : styleOf mapping faces token.kind with
    | none => exact ⟨met, passed, by simp⟩
    | some style =>
      refine ⟨_, ?_, by rw [onset_of_met behind, past]; rfl⟩
      intro mark
      rw [Bool.or_eq_true, Bool.and_eq_true, decide_eq_true_eq] at mark
      rcases mark with mark | ⟨_, inner⟩
      · exact passed mark
      · exact Nat.le_of_lt inner

/-- Both agree from every place in the text. Once the cursor was met it lies behind, so that the
mark changes nothing. -/
theorem march?_eq_walk {most : Nat} (mapping : Mapping) (faces : Faces) {view : Viewport}
    (cursor : Nat) (fits : view.stop ≤ most) {before rest : List Char}
    (split : view.text = before ++ rest) {met : Bool}
    (behind : met = true → cursor ≤ view.base + Utf8.byteLength before) (done : List Span)
    (tokens : List Token) :
    march? most mapping faces view cursor (view.base + Utf8.byteLength before) met done tokens =
      some ((walk mapping faces view cursor (view.base + Utf8.byteLength before) rest tokens).map
        (done ++ ·)) := by
  induction tokens generalizing before rest met done with
  | nil =>
    have whole : add? most view.base (Utf8.byteLength view.text) = some view.stop :=
      add?_of_le fits
    simp only [march?, walk, whole, sub?_add, Option.bind_eq_bind, Option.bind_some,
      Nat.add_sub_cancel_left]
    split <;> simp [Except.map]
  | cons token tokens ih =>
    cases lead : dropLeading? token.text rest with
    | none =>
      have place : Utf8.splitAt? (Utf8.byteLength before) view.text = some (before, rest) := by
        rw [split, Utf8.splitAt?_append]
      simp [march?, walk, sub?_add, place, lead, Except.map]
    | some ahead =>
      obtain rfl := dropLeading?_eq_some_iff.mp lead
      obtain ⟨mark, past, step⟩ := march?_cons mapping faces cursor fits split behind done tokens
      rw [← List.append_assoc] at split
      rw [step, ih split past, walk_cons, Utf8.byteLength_append, Nat.add_assoc]
      cases walk mapping faces view cursor _ ahead tokens <;> simp [Except.map]

theorem march?_eq_walk_start {most : Nat} (mapping : Mapping) (faces : Faces) {view : Viewport}
    (cursor : Nat) (fits : view.stop ≤ most) (tokens : List Token) :
    march? most mapping faces view cursor view.base false [] tokens =
      some (walk mapping faces view cursor view.base view.text tokens) := by
  have unmet : false = true → cursor ≤ view.base + Utf8.byteLength [] := by simp
  have same := march?_eq_walk mapping faces cursor fits (List.nil_append _).symm unmet [] tokens
  rw [Utf8.byteLength_nil, Nat.add_zero] at same
  rw [same]
  cases walk mapping faces view cursor view.base view.text tokens <;> rfl

/-- Tokenizing with any tokenizer. It succeeds exactly when the tokens join to the text, and the
spans are then those of the tokens; if they do not join to it, the error tells how far the longest
run of leading tokens reaches, and a failure to lex is handed on. The loop in machine words comes to
the same whenever the end of the viewport fits in a word. -/
theorem tokenize_exactly (tokenizer : Tokenizer) (mapping : Mapping) (faces : Faces)
    (view : Viewport) (cursor : Nat) :
    let result := tokenize tokenizer mapping faces view cursor
    ((∃ spans, result = .ok spans) ↔
      ∃ tokens, tokenizer.lex view.text = .ok tokens ∧ joined tokens = view.text) ∧
    match tokenizer.lex view.text with
    | .error e => result = .error e
    | .ok tokens =>
      (joined tokens = view.text →
        ∃ spans, result = .ok spans ∧ Marks mapping faces cursor view tokens spans) ∧
      (joined tokens ≠ view.text → ∃ run, LongestRun tokens view.text run ∧
        result = .error (.coverage (Utf8.byteLength view.text)
          (Utf8.byteLength (joined (tokens.take run))))) ∧
      ∀ most, view.stop ≤ most →
        march? most mapping faces view cursor view.base false [] tokens = some result := by
  intro result
  constructor
  · constructor
    · rintro ⟨spans, done⟩
      obtain ⟨tokens, lexed, covered, _⟩ := tokenize_eq_ok_iff.mp done
      exact ⟨tokens, lexed, covered⟩
    · rintro ⟨tokens, lexed, covered⟩
      exact ⟨_, tokenize_eq_ok_iff.mpr ⟨tokens, lexed, covered, rfl⟩⟩
  · cases lexed : tokenizer.lex view.text with
    | error e => simp only [result, tokenize, lexed]
    | ok tokens =>
      refine ⟨?_, ?_, ?_⟩
      · intro covered
        exact ⟨_, tokenize_eq_ok_iff.mpr ⟨tokens, lexed, covered, rfl⟩,
          marks_spansOf mapping faces cursor covered⟩
      · intro uncovered
        have reaches : view.base + Utf8.byteLength view.text = view.stop := rfl
        obtain ⟨run, longest, failed⟩ :=
          walk_of_uncovered mapping faces cursor reaches uncovered
        refine ⟨run, longest, ?_⟩
        simp only [result, tokenize, lexed, failed, offsetOf, Nat.add_sub_cancel_left]
      · intro most fits
        simp only [result, tokenize, lexed]
        exact march?_eq_walk_start mapping faces cursor fits tokens

end Highlighting.Viewport
