import Highlighting.Proofs.Cycle

/-! What a painted window shows. The style map is sparse: an offset shows the last style that began
no later, so that text without a style takes on the style of the text before it. -/
namespace Highlighting

namespace Viewport

/-- The tokens of a viewport that hold text, in their places. -/
def shown (view : Viewport) (tokens : List Token) : List Placed :=
  (placed view.base tokens).filter fun p => p.token.text ≠ []

/-- The style of the last token that has one. -/
def lastStyle? (mapping : Mapping) (faces : Faces) (tokens : List Placed) : Option Style :=
  (tokens.filterMap fun p => styleOf mapping faces p.token.kind).getLast?

theorem lastStyle?_append_singleton (mapping : Mapping) (faces : Faces) (tokens : List Placed)
    (p : Placed) :
    lastStyle? mapping faces (tokens ++ [p]) =
      (styleOf mapping faces p.token.kind).or (lastStyle? mapping faces tokens) := by
  cases style : styleOf mapping faces p.token.kind <;> simp [lastStyle?, style]

theorem shown_pairwise (view : Viewport) (tokens : List Token) :
    (view.shown tokens).Pairwise (·.stop ≤ ·.start) :=
  (placed_pairwise view.base tokens).filter _

theorem filled_of_mem_shown {view : Viewport} {tokens : List Token} {p : Placed}
    (h : p ∈ view.shown tokens) : p.token.text ≠ [] := by
  simpa using (List.mem_filter.mp h).2

/-- The style map of the tokens, asked at an offset. -/
theorem styleAt?_spansOf (mapping : Mapping) (faces : Faces) (view : Viewport)
    (cursor offset : Nat) (tokens : List Token) :
    StyleMap.styleAt? ⟨spansOf mapping faces cursor view.base tokens⟩ offset =
      lastStyle? mapping faces ((view.shown tokens).filter (·.onset cursor ≤ offset)) := by
  rw [StyleMap.styleAt?_of_ascending (spansOf_ascending ..), ← List.getLast?_map, lastStyle?,
    spansOf, shown]
  simp only [List.filter_filterMap, List.map_filterMap, List.filterMap_filter]
  congr 2
  funext p
  by_cases empty : p.token.text = []
  · simp [Placed.span?, Placed.style?, empty]
  · cases style : styleOf mapping faces p.token.kind <;>
      by_cases reached : p.onset cursor ≤ offset <;>
      simp [Placed.span?, Placed.style?, Option.filter_some, empty, style, reached]

/-- Inside a token, all earlier tokens have begun and no later one has. -/
theorem filter_onset_of_mem {view : Viewport} {tokens : List Token} {before behind : List Placed}
    {p : Placed} {cursor offset : Nat} (split : view.shown tokens = before ++ p :: behind)
    (low : p.start ≤ offset) (high : offset < p.stop) :
    (view.shown tokens).filter (·.onset cursor ≤ offset) =
      before ++ if p.onset cursor ≤ offset then [p] else [] := by
  have apart := shown_pairwise view tokens
  rw [split] at apart
  obtain ⟨_, rest, across⟩ := List.pairwise_append.mp apart
  have begun : ∀ q ∈ before, q.onset cursor ≤ offset := by
    intro q inside
    have present : q ∈ view.shown tokens := by simp [split, inside]
    have := Placed.onset_lt_stop cursor (filled_of_mem_shown present)
    have := across q inside p (by simp)
    omega
  have ahead : ∀ q ∈ behind, ¬ q.onset cursor ≤ offset := by
    intro q inside
    have := Placed.start_le_onset cursor q
    have := (List.pairwise_cons.mp rest).1 q inside
    omega
  have all_begun : before.filter (·.onset cursor ≤ offset) = before := by
    simpa [List.filter_eq_self] using begun
  have none_ahead : behind.filter (·.onset cursor ≤ offset) = [] := by
    simpa [List.filter_eq_nil_iff] using ahead
  rw [split, List.filter_append, all_begun, List.filter_cons, none_ahead]
  by_cases reached : p.onset cursor ≤ offset <;> simp [reached]

/-- The style at a byte of a token: its own, or else that of the nearest earlier token with one.
The front of a token with the cursor inside always takes the earlier style. -/
theorem lastStyle?_of_mem {mapping : Mapping} {faces : Faces} {view : Viewport}
    {tokens : List Token} {before behind : List Placed} {p : Placed} {cursor offset : Nat}
    (split : view.shown tokens = before ++ p :: behind)
    (low : p.start ≤ offset) (high : offset < p.stop) :
    lastStyle? mapping faces ((view.shown tokens).filter (·.onset cursor ≤ offset)) =
      if p.Splits cursor ∧ offset < cursor then lastStyle? mapping faces before
      else (styleOf mapping faces p.token.kind).or (lastStyle? mapping faces before) := by
  rw [filter_onset_of_mem split low high]
  by_cases front : p.Splits cursor ∧ offset < cursor
  · have late : ¬ p.onset cursor ≤ offset := by
      rw [Placed.onset, if_pos front.1]
      exact Nat.not_le_of_lt front.2
    rw [if_neg late, if_pos front, List.append_nil]
  · have begun : p.onset cursor ≤ offset := by
      rw [Placed.onset]
      split
      · rename_i splits
        exact Nat.le_of_not_lt fun early => front ⟨splits, early⟩
      · exact low
    rw [if_pos begun, if_neg front, lastStyle?_append_singleton]

/-- A window shows tokens in their places. The styles of the map hold until the next one, and a
token with the cursor strictly inside begins only there. -/
structure Shows (mapping : Mapping) (faces : Faces) (cursor : Nat) (view : Viewport)
    (tokens : List Token) (window : Window) : Prop where
  begun : ∀ offset, window.styleAt? offset =
    lastStyle? mapping faces ((view.shown tokens).filter (·.onset cursor ≤ offset))
  own : ∀ p ∈ view.shown tokens, ∀ style offset, styleOf mapping faces p.token.kind = some style →
    p.start ≤ offset → offset < p.stop → (p.Splits cursor → cursor ≤ offset) →
    window.styleAt? offset = some style
  inherited : ∀ before p behind offset, view.shown tokens = before ++ p :: behind →
    p.start ≤ offset → offset < p.stop →
    styleOf mapping faces p.token.kind = none ∨ p.Splits cursor ∧ offset < cursor →
    window.styleAt? offset = lastStyle? mapping faces before
  keys : ∀ span ∈ window.styles.spans, view.base ≤ span.start ∧ span.start < view.stop

theorem shows_spansOf (mapping : Mapping) (faces : Faces) (cursor : Nat) {view : Viewport}
    {tokens : List Token} (covered : joined tokens = view.text) (window : Window) :
    view.Shows mapping faces cursor tokens
      { window with styles := ⟨spansOf mapping faces cursor view.base tokens⟩ } := by
  have begun := styleAt?_spansOf mapping faces view cursor
  refine ⟨fun offset => begun offset tokens, ?_, ?_, ?_⟩
  · intro p inside style offset styled low high reached
    obtain ⟨before, behind, split⟩ := List.append_of_mem inside
    have not_front : ¬ (p.Splits cursor ∧ offset < cursor) :=
      fun front => Nat.not_le_of_lt front.2 (reached front.1)
    rw [Window.styleAt?, begun, lastStyle?_of_mem split low high, if_neg not_front, styled,
      Option.some_or]
  · intro before p behind offset split low high unstyled
    rw [Window.styleAt?, begun, lastStyle?_of_mem split low high]
    rcases unstyled with plain | front
    · rw [plain, Option.none_or, ite_self]
    · rw [if_pos front]
  · intro span inside
    have := mem_spansOf inside
    rwa [covered] at this

end Viewport

namespace Highlighter

variable {σ : Type}

theorem takes_painted {h : Highlighter σ} {doc : Document} {window : Window} {spans : List Span}
    (gate : h.isOpen doc window = true)
    (succeeded : (h.lexWindow doc window).1 = .ok (some (.highlighted spans))) :
    h.Takes doc window (.painted spans) := by
  obtain ⟨course, takes⟩ := takes_some h doc window
  have same := eq_courseOf_of_takes takes
  rw [gate, succeeded, courseOf] at same
  rwa [same] at takes

/-- A cycle that succeeds shows the tokens of its viewport, whatever the window showed before. -/
theorem cycle_shows_tokens (fallback : Fallback σ) {h : Highlighter σ} {doc : Document}
    {window : Window} {spans : List Span} (gate : h.isOpen doc window = true)
    (succeeded : (h.lexWindow doc window).1 = .ok (some (.highlighted spans))) :
    ∃ view tokens, h.Lexed doc window view tokens ∧
      view.Shows h.mode.mapping h.faces doc.point tokens (h.cycle fallback doc window).2 := by
  have takes := takes_painted gate succeeded
  rw [cycle_of_takes takes fallback]
  obtain ⟨view, tokens, done, rfl⟩ := takes
  exact ⟨view, tokens, done,
    Viewport.shows_spansOf h.mode.mapping h.faces doc.point done.covered window⟩

/- A narrowed line with the cursor between the two bytes of a letter: the letter's style begins at
the cursor, and the equals sign, which has none, takes it on. -/

def assignment : Tokenizer :=
  ⟨"assignment", fun text => .ok
    [⟨⟨"Name.Variable"⟩, text.take 1⟩, ⟨.text, (text.drop 1).take 3⟩,
      ⟨⟨"Literal.Number.Integer"⟩, text.drop 4⟩]⟩

def assigning : Highlighter Unit :=
  ⟨{ mode := ⟨0, some (.ofPatterns "assignment" [] fun _ => .ok assignment), .standard⟩ },
    .standard, {}, ()⟩

def letLine : Document :=
  { name := "line", content := Utf8.encode "let é = 7".toList, point := 5,
    narrowed := some (4, 10) }

theorem cycle_shows_let_line :
    assigning.isOpen letLine ⟨80, 24, true, {}⟩ = true ∧
      (assigning.lexWindow letLine ⟨80, 24, true, {}⟩).1 =
        .ok (some (.highlighted [⟨5, .plain⟩, ⟨9, .colored .magenta⟩])) ∧
      ∃ view tokens, assigning.Lexed letLine ⟨80, 24, true, {}⟩ view tokens ∧
        view.Shows assigning.mode.mapping assigning.faces letLine.point tokens
          (assigning.cycle ⟨fun _ _ window => ((), window)⟩ letLine ⟨80, 24, true, {}⟩).2 := by
  have gate : assigning.isOpen letLine ⟨80, 24, true, {}⟩ = true := rfl
  have succeeded : (assigning.lexWindow letLine ⟨80, 24, true, {}⟩).1 =
      .ok (some (.highlighted [⟨5, .plain⟩, ⟨9, .colored .magenta⟩])) := rfl
  exact ⟨gate, succeeded, cycle_shows_tokens _ gate succeeded⟩

end Highlighter

end Highlighting
