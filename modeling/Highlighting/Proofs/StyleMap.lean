import Highlighting.Window
import Mathlib.Data.List.Induction

/-! Style maps of ascending spans. Such spans are their own map, and the style in effect at an
offset is that of the last of them that begins no later. -/
namespace Highlighting

/-- The offsets of spans ascend strictly. -/
def Ascending (spans : List Span) : Prop :=
  spans.Pairwise (·.start < ·.start)

namespace StyleMap

theorem insertIn_of_last {span : Span} {spans : List Span}
    (last : ∀ s ∈ spans, s.start < span.start) : insertIn span spans = spans ++ [span] := by
  induction spans with
  | nil => rfl
  | cons s rest ih =>
    have before : s.start < span.start := last s (by simp)
    have later : ∀ s ∈ rest, s.start < span.start := fun s hs => last s (by simp [hs])
    rw [insertIn, if_neg (Nat.lt_asymm before), if_neg (Nat.ne_of_gt before), ih later]
    rfl

theorem foldl_insert (done spans : List Span) (ascending : Ascending (done ++ spans)) :
    spans.foldl insert ⟨done⟩ = ⟨done ++ spans⟩ := by
  induction spans generalizing done with
  | nil => simp
  | cons span rest ih =>
    have last : ∀ s ∈ done, s.start < span.start := by
      intro s hs
      exact (List.pairwise_append.mp ascending).2.2 s hs span (by simp)
    have joined : done ++ span :: rest = (done ++ [span]) ++ rest := by simp
    rw [List.foldl_cons, insert, insertIn_of_last last, joined]
    exact ih (done ++ [span]) (joined ▸ ascending)

/-- No two of the spans collide, so that the map keeps them all. -/
theorem ofSpans_of_ascending {spans : List Span} (ascending : Ascending spans) :
    ofSpans spans = ⟨spans⟩ :=
  foldl_insert [] spans ascending

theorem mem_insertIn {span s : Span} {spans : List Span} (inside : s ∈ insertIn span spans) :
    s = span ∨ s ∈ spans := by
  induction spans with
  | nil => simpa [insertIn] using inside
  | cons first rest ih =>
    rw [insertIn] at inside
    split at inside
    · simpa using inside
    · split at inside
      · rcases List.mem_cons.mp inside with rfl | inside
        · exact .inl rfl
        · exact .inr (by simp [inside])
      · rcases List.mem_cons.mp inside with rfl | inside
        · exact .inr (by simp)
        · exact (ih inside).imp_right fun inside => by simp [inside]

theorem ascending_insertIn (span : Span) {spans : List Span} (ascending : Ascending spans) :
    Ascending (insertIn span spans) := by
  induction spans with
  | nil => exact List.pairwise_singleton ..
  | cons first rest ih =>
    obtain ⟨below, above⟩ := List.pairwise_cons.mp ascending
    rw [insertIn]
    split
    · rename_i before
      refine .cons ?_ ascending
      intro s inside
      rcases List.mem_cons.mp inside with rfl | inside
      · exact before
      · exact Nat.lt_trans before (below s inside)
    · split
      · rename_i same
        exact .cons (fun s inside => same ▸ below s inside) above
      · refine .cons ?_ (ih above)
        intro s inside
        rcases mem_insertIn inside with rfl | inside
        · omega
        · exact below s inside

/-- Whatever spans a window is given, those that it holds ascend. -/
theorem ascending_ofSpans (spans : List Span) : Ascending (ofSpans spans).spans := by
  -- Along the fold the map is not empty any more.
  have from_map : ∀ map : StyleMap, Ascending map.spans →
      Ascending (spans.foldl insert map).spans := by
    induction spans with
    | nil => exact fun map ascending => ascending
    | cons span spans ih =>
      exact fun map ascending => ih (map.insert span) (ascending_insertIn span ascending)
  exact from_map {} .nil

theorem takeWhile_of_ascending {spans : List Span} (ascending : Ascending spans) (offset : Nat) :
    spans.takeWhile (·.start ≤ offset) = spans.filter (·.start ≤ offset) := by
  induction spans with
  | nil => rfl
  | cons span rest ih =>
    obtain ⟨before, ascending⟩ := List.pairwise_cons.mp ascending
    by_cases reached : span.start ≤ offset
    · simp [reached, ih ascending]
    · have beyond : ∀ s ∈ rest, offset < s.start := by
        intro s hs
        have := before s hs
        omega
      simpa [reached] using beyond

theorem styleAt?_of_ascending {spans : List Span} (ascending : Ascending spans) (offset : Nat) :
    styleAt? ⟨spans⟩ offset =
      ((spans.filter (·.start ≤ offset)).getLast?).map (·.style) := by
  rw [styleAt?, takeWhile_of_ascending ascending]

theorem styleAt?_cons (span : Span) (spans : List Span) (offset : Nat) :
    styleAt? ⟨span :: spans⟩ offset =
      if span.start ≤ offset then (styleAt? ⟨spans⟩ offset).or (some span.style) else none := by
  by_cases reached : span.start ≤ offset
  · simp only [styleAt?, List.takeWhile_cons, reached, decide_true, if_true, List.getLast?_cons]
    cases (spans.takeWhile (·.start ≤ offset)).getLast? <;> rfl
  · simp only [styleAt?, List.takeWhile_cons, reached, decide_false, Bool.false_eq_true, if_false]
    rfl

theorem get?_cons (span : Span) (spans : List Span) (offset : Nat) :
    get? ⟨span :: spans⟩ offset =
      if span.start = offset then some span.style else get? ⟨spans⟩ offset := by
  by_cases here : span.start = offset <;> simp [get?, here]

theorem get?_of_lt {spans : List Span} {offset : Nat}
    (later : ∀ span ∈ spans, offset < span.start) : get? ⟨spans⟩ offset = none := by
  have absent : spans.find? (·.start = offset) = none := by
    rw [List.find?_eq_none]
    intro span inside
    have := later span inside
    simp only [decide_eq_true_eq]
    omega
  rw [get?, absent]
  rfl

theorem styleAt?_of_lt {spans : List Span} {offset : Nat}
    (later : ∀ span ∈ spans, offset < span.start) : styleAt? ⟨spans⟩ offset = none := by
  cases spans with
  | nil => rfl
  | cons span spans => rw [styleAt?_cons, if_neg (Nat.not_le.mpr (later span (by simp)))]

/-- Where no style begins between two offsets, the later one has a style of its own or that of the
earlier one. -/
theorem styleAt?_of_gap {spans : List Span} (ascending : Ascending spans) {before offset : Nat}
    (later : before < offset)
    (gap : ∀ span ∈ spans, ¬ (before < span.start ∧ span.start < offset)) :
    styleAt? ⟨spans⟩ offset = (get? ⟨spans⟩ offset).or (styleAt? ⟨spans⟩ before) := by
  induction spans with
  | nil => rfl
  | cons span spans ih =>
    obtain ⟨first, ascending⟩ := List.pairwise_cons.mp ascending
    have rest := ih ascending fun s inside => gap s (by simp [inside])
    by_cases begun : span.start ≤ before
    · have reached : span.start ≤ offset := by omega
      have other : span.start ≠ offset := by omega
      rw [styleAt?_cons, styleAt?_cons, get?_cons, if_pos reached, if_pos begun, if_neg other, rest,
        Option.or_assoc]
    · have beyond := gap span (by simp)
      have behind : ∀ s ∈ spans, offset < s.start := by
        intro s inside
        have := first s inside
        omega
      rw [styleAt?_cons, styleAt?_cons, get?_cons, if_neg begun, Option.or_none,
        styleAt?_of_lt behind, get?_of_lt behind]
      by_cases here : span.start = offset
      · rw [if_pos here, if_pos (Nat.le_of_eq here)]
        rfl
      · have ahead : ¬ span.start ≤ offset := by omega
        rw [if_neg here, if_neg ahead]

/- Dropping spans that a lookup does not reach. -/

theorem styleAt?_filter {spans : List Span} (ascending : Ascending spans) {keep : Span → Bool}
    {offset : Nat} (kept : ∀ span ∈ spans, span.start ≤ offset → keep span = true) :
    styleAt? ⟨spans.filter keep⟩ offset = styleAt? ⟨spans⟩ offset := by
  rw [styleAt?_of_ascending (ascending.filter keep), styleAt?_of_ascending ascending,
    List.filter_filter]
  congr 2
  refine List.filter_congr ?_
  intro span inside
  by_cases reached : span.start ≤ offset
  · simp [reached, kept span inside reached]
  · simp [reached]

theorem get?_filter {spans : List Span} {keep : Span → Bool} {offset : Nat}
    (kept : ∀ span ∈ spans, span.start = offset → keep span = true) :
    get? ⟨spans.filter keep⟩ offset = get? ⟨spans⟩ offset := by
  induction spans with
  | nil => rfl
  | cons span spans ih =>
    have rest := ih fun s inside => kept s (by simp [inside])
    by_cases here : span.start = offset
    · rw [List.filter_cons_of_pos (kept span (by simp) here), get?_cons, get?_cons, if_pos here,
        if_pos here]
    · rw [get?_cons, if_neg here, ← rest]
      by_cases keeps : keep span = true
      · rw [List.filter_cons_of_pos keeps, get?_cons, if_neg here]
      · rw [List.filter_cons_of_neg keeps]

/- Spans that come in the order of their offsets, several at one offset or not. -/

theorem ofSpans_concat (spans : List Span) (span : Span) :
    ofSpans (spans ++ [span]) = (ofSpans spans).insert span := by
  rw [ofSpans, List.foldl_append]
  rfl

theorem mem_ofSpans {spans : List Span} {s : Span} (inside : s ∈ (ofSpans spans).spans) :
    s ∈ spans := by
  induction spans using List.reverseRecOn with
  | nil => cases inside
  | append_singleton spans span ih =>
    rw [ofSpans_concat] at inside
    rcases mem_insertIn inside with rfl | earlier
    · simp
    · exact List.mem_append_left _ (ih earlier)

/-- A span that begins no earlier than the others is on from its offset. -/
theorem styleAt?_insertIn_last {span : Span} {spans : List Span} (ascending : Ascending spans)
    (last : ∀ s ∈ spans, s.start ≤ span.start) (offset : Nat) :
    styleAt? ⟨insertIn span spans⟩ offset =
      if span.start ≤ offset then some span.style else styleAt? ⟨spans⟩ offset := by
  induction spans with
  | nil => rw [insertIn, styleAt?_cons]; rfl
  | cons s rest ih =>
    obtain ⟨before, ascending⟩ := List.pairwise_cons.mp ascending
    obtain ⟨begun, last⟩ := List.forall_mem_cons.mp last
    rw [insertIn, if_neg (Nat.not_lt.mpr begun)]
    split
    · next same =>
      have alone : rest = [] := by
        rw [List.eq_nil_iff_forall_not_mem]
        intro t inside
        have above := before t inside
        have below := last t inside
        omega
      rw [alone, styleAt?_cons, styleAt?_cons, same]
      split <;> rfl
    · rw [styleAt?_cons, styleAt?_cons, ih ascending last]
      by_cases reached : span.start ≤ offset
      · have earlier : s.start ≤ offset := Nat.le_trans begun reached
        simp [reached, earlier]
      · simp [reached]

/-- The style of the last span that has begun at an offset. -/
def lastBegun? (spans : List Span) (offset : Nat) : Option Style :=
  ((spans.filter (·.start ≤ offset)).getLast?).map (·.style)

theorem lastBegun?_append (spans more : List Span) (offset : Nat) :
    lastBegun? (spans ++ more) offset = (lastBegun? more offset).or (lastBegun? spans offset) := by
  rw [lastBegun?, List.filter_append, List.getLast?_append, Option.map_or]
  rfl

theorem lastBegun?_cons (span : Span) (spans : List Span) (offset : Nat) :
    lastBegun? (span :: spans) offset =
      (lastBegun? spans offset).or (if span.start ≤ offset then some span.style else none) := by
  have joined : span :: spans = [span] ++ spans := rfl
  rw [joined, lastBegun?_append]
  congr 1
  by_cases reached : span.start ≤ offset <;> simp [lastBegun?, reached]

theorem lastBegun?_of_lt {spans : List Span} {offset : Nat}
    (later : ∀ span ∈ spans, offset < span.start) : lastBegun? spans offset = none := by
  have nothing : spans.filter (·.start ≤ offset) = [] := by
    simpa [List.filter_eq_nil_iff] using later
  rw [lastBegun?, nothing]
  rfl

theorem styleAt?_ofSpans {spans : List Span} (ordered : spans.Pairwise (·.start ≤ ·.start))
    (offset : Nat) : (ofSpans spans).styleAt? offset = lastBegun? spans offset := by
  induction spans using List.reverseRecOn with
  | nil => rfl
  | append_singleton spans span ih =>
    obtain ⟨ordered, -, last⟩ := List.pairwise_append.mp ordered
    have latest : ∀ s ∈ (ofSpans spans).spans, s.start ≤ span.start :=
      fun s inside => last s (mem_ofSpans inside) span (by simp)
    rw [ofSpans_concat, insert, styleAt?_insertIn_last (ascending_ofSpans spans) latest,
      ih ordered, lastBegun?_append, lastBegun?_cons]
    by_cases reached : span.start ≤ offset <;> simp [reached, lastBegun?]

end StyleMap

theorem Window.setSpans_of_ascending {spans : List Span} (ascending : Ascending spans)
    (window : Window) : window.setSpans spans = { window with styles := ⟨spans⟩ } := by
  rw [setSpans, StyleMap.ofSpans_of_ascending ascending]

end Highlighting
