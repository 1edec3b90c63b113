import Highlighting.Proofs.Region
import Highlighting.Proofs.Utf8
import Highlighting.Viewport

/-! What a cycle works on. The text that is chosen lies in the accessible region and is bounded by
the window; when there is none, the reported offset is where the untrimmed window is ill-formed,
although its end may have been drawn back before it was decoded. -/
namespace Highlighting.Viewport

/-- The bounds of a window before its end is drawn back. -/
def stretch (doc : Document) (cursor columns rows limit : Nat) : Nat × Nat :=
  if doc.byteSize < limit then (doc.pointMin, doc.pointMax)
  else
    let start := clamp cursor doc.pointMin doc.pointMax
    (start, min (start + windowLength columns rows) doc.pointMax)

theorem stretch_within {doc : Document} (sound : doc.Sound) (cursor columns rows limit : Nat) :
    doc.pointMin ≤ (stretch doc cursor columns rows limit).1 ∧
      (stretch doc cursor columns rows limit).1 ≤ (stretch doc cursor columns rows limit).2 ∧
      (stretch doc cursor columns rows limit).2 ≤ doc.pointMax := by
  by_cases small : doc.byteSize < limit
  · simp only [stretch, if_pos small]
    exact ⟨Nat.le_refl _, sound.ordered, Nat.le_refl _⟩
  · have high := clamp_le cursor sound.ordered
    simp only [stretch, if_neg small]
    exact ⟨le_clamp cursor, by omega, Nat.min_le_right ..⟩

/-- Drawing back stops at the first end that leaves text; every later end was tried in vain. -/
theorem trimEnd_bounds (doc : Document) (start steps stop : Nat) :
    trimEnd doc start steps stop ≤ stop ∧ stop ≤ trimEnd doc start steps stop + steps ∧
      ∀ n, trimEnd doc start steps stop < n → n ≤ stop → doc.isValid start n = false := by
  induction steps generalizing stop with
  | zero => exact ⟨Nat.le_refl _, Nat.le_refl _, fun n low high => absurd high (Nat.not_le.mpr low)⟩
  | succ steps ih =>
    by_cases valid : doc.isValid start stop = true
    · simp only [trimEnd, if_pos valid]
      exact ⟨Nat.le_refl _, by omega, fun n low high => by omega⟩
    · obtain ⟨below, near, tried⟩ := ih (stop - 1)
      simp only [trimEnd, if_neg valid]
      refine ⟨by omega, by omega, ?_⟩
      intro n low high
      by_cases last : n = stop
      · rw [last]
        exact Bool.eq_false_iff.mpr valid
      · exact tried n low (by omega)

/-- How the decoded bytes lie in the untrimmed window. -/
structure Trimmed (doc : Document) (start stop last : Nat) : Prop where
  low : start ≤ last
  high : last ≤ stop
  near : stop ≤ last + maxCutTail
  tried : ∀ n, last < n → n ≤ stop → doc.isValid start n = false

theorem bounds_fst (doc : Document) (cursor columns rows limit : Nat) :
    (bounds doc cursor columns rows limit).1 = (stretch doc cursor columns rows limit).1 := by
  by_cases small : doc.byteSize < limit
  · simp only [bounds, stretch, if_pos small]
  · simp only [bounds, stretch, if_neg small]

theorem bounds_trimmed {doc : Document} (sound : doc.Sound) (cursor columns rows limit : Nat) :
    Trimmed doc (stretch doc cursor columns rows limit).1
      (stretch doc cursor columns rows limit).2 (bounds doc cursor columns rows limit).2 := by
  by_cases small : doc.byteSize < limit
  · simp only [bounds, stretch, if_pos small]
    exact ⟨sound.ordered, Nat.le_refl _, Nat.le_add_right .., fun n low high => by omega⟩
  · have within := stretch_within sound cursor columns rows limit
    simp only [stretch, if_neg small] at within
    simp only [bounds, stretch, if_neg small]
    generalize min (clamp cursor doc.pointMin doc.pointMax + windowLength columns rows)
      doc.pointMax = stop at within
    obtain ⟨high, near, tried⟩ := trimEnd_bounds doc (clamp cursor doc.pointMin doc.pointMax)
      (min maxCutTail (stop - clamp cursor doc.pointMin doc.pointMax)) stop
    exact ⟨by omega, high, by omega, tried⟩

theorem bounds_of_lt {doc : Document} {cursor columns rows limit : Nat}
    (small : doc.byteSize < limit) :
    bounds doc cursor columns rows limit = (doc.pointMin, doc.pointMax) := by
  simp only [bounds, if_pos small]

/-- A stretch that is ill-formed after its end was drawn back is so at the same place before. -/
theorem illFormedAt_slice {doc : Document} {start stop last offset : Nat}
    (low : doc.pointMin ≤ start) (high : stop ≤ doc.pointMax)
    (inside : doc.pointMax ≤ doc.content.length) (trimmed : Trimmed doc start stop last)
    (ill : Utf8.IllFormedAt (doc.slice start last) offset) :
    Utf8.IllFormedAt (doc.slice start stop) offset := by
  rw [← doc.take_slice trimmed.low trimmed.high] at ill
  refine Utf8.illFormedAt_of_take ill ?_
  intro n longer shorter
  rw [Document.length_slice (Nat.le_trans high inside)] at shorter
  have ordered := trimmed.low
  have drawn := trimmed.high
  have tried := trimmed.tried (start + n) (by omega) (by omega)
  rw [Document.isValid, Document.bytes_eq_slice low (by omega) (by omega)] at tried
  have cut : (doc.slice start stop).take (start + n - start) = doc.slice start (start + n) :=
    doc.take_slice (by omega) (by omega)
  rw [← cut, Nat.add_sub_cancel_left] at tried
  exact tried

/-- The decoded bytes are a slice of the content, in the order of the region's bounds. -/
theorem bounds_within {doc : Document} (sound : doc.Sound) (cursor columns rows limit : Nat) :
    doc.pointMin ≤ (bounds doc cursor columns rows limit).1 ∧
      (bounds doc cursor columns rows limit).1 ≤ (bounds doc cursor columns rows limit).2 ∧
      (bounds doc cursor columns rows limit).2 ≤ doc.pointMax := by
  obtain ⟨low, _, high⟩ := stretch_within sound cursor columns rows limit
  have trimmed := bounds_trimmed sound cursor columns rows limit
  rw [bounds_fst]
  exact ⟨low, trimmed.low, Nat.le_trans trimmed.high high⟩

theorem bytes_bounds {doc : Document} (sound : doc.Sound) (cursor columns rows limit : Nat) :
    doc.bytes (bounds doc cursor columns rows limit).1 (bounds doc cursor columns rows limit).2 =
      doc.slice (bounds doc cursor columns rows limit).1
        (bounds doc cursor columns rows limit).2 := by
  obtain ⟨low, ordered, high⟩ := bounds_within sound cursor columns rows limit
  exact Document.bytes_eq_slice low ordered high

theorem select_eq_ok_iff {doc : Document} (sound : doc.Sound) {cursor columns rows limit : Nat}
    {view : Viewport} :
    select doc cursor columns rows limit = .ok view ↔
      view.base = (bounds doc cursor columns rows limit).1 ∧
        doc.slice view.base (bounds doc cursor columns rows limit).2 = Utf8.encode view.text := by
  have bytes := bytes_bounds sound cursor columns rows limit
  obtain ⟨base, text⟩ := view
  simp only [select]
  generalize bounds doc cursor columns rows limit = b at bytes
  rw [bytes]
  cases decoded : Utf8.decode (doc.slice b.1 b.2) with
  | ok chars =>
    have exact_text := Utf8.decode_eq_ok_iff.mp decoded
    constructor
    · intro h
      cases h
      exact ⟨rfl, exact_text⟩
    · rintro ⟨rfl, same⟩
      rw [Utf8.decode_eq_ok_iff.mpr same] at decoded
      cases decoded
      rfl
  | error offset =>
    constructor
    · intro h
      cases h
    · rintro ⟨rfl, same⟩
      rw [Utf8.decode_eq_ok_iff.mpr same] at decoded
      cases decoded

theorem select_eq_error_iff {doc : Document} (sound : doc.Sound)
    {cursor columns rows limit offset : Nat} :
    select doc cursor columns rows limit = .error offset ↔
      ∃ n, offset = (bounds doc cursor columns rows limit).1 + n ∧
        Utf8.IllFormedAt (doc.slice (bounds doc cursor columns rows limit).1
          (bounds doc cursor columns rows limit).2) n := by
  have bytes := bytes_bounds sound cursor columns rows limit
  simp only [select]
  generalize bounds doc cursor columns rows limit = b at bytes
  rw [bytes]
  cases decoded : Utf8.decode (doc.slice b.1 b.2) with
  | ok text =>
    constructor
    · intro h
      cases h
    · rintro ⟨n, rfl, ill⟩
      rw [Utf8.decode_of_illFormedAt ill] at decoded
      cases decoded
  | error n =>
    constructor
    · intro h
      cases h
      exact ⟨n, rfl, Utf8.decode_eq_error_iff.mp decoded⟩
    · rintro ⟨m, rfl, ill⟩
      rw [Utf8.decode_of_illFormedAt ill] at decoded
      cases decoded
      rfl

/-- A viewport covers the decoded bytes. -/
theorem stop_of_select {doc : Document} (sound : doc.Sound) {cursor columns rows limit : Nat}
    {view : Viewport} (selected : select doc cursor columns rows limit = .ok view) :
    view.stop = (bounds doc cursor columns rows limit).2 := by
  obtain ⟨base, text⟩ := (select_eq_ok_iff sound).mp selected
  obtain ⟨_, ordered, high⟩ := bounds_within sound cursor columns rows limit
  have size := congrArg List.length text
  rw [Document.length_slice (Nat.le_trans high sound.inside), Utf8.length_encode] at size
  simp only [stop]
  omega

theorem text_of_select {doc : Document} (sound : doc.Sound) {cursor columns rows limit : Nat}
    {view : Viewport} (selected : select doc cursor columns rows limit = .ok view) :
    Utf8.encode view.text = (doc.content.drop view.base).take (Utf8.byteLength view.text) := by
  obtain ⟨_, text⟩ := (select_eq_ok_iff sound).mp selected
  have last := stop_of_select sound selected
  rw [← last, Document.slice] at text
  rw [← text]
  simp only [stop, Nat.add_sub_cancel_left]

theorem within_of_select {doc : Document} (sound : doc.Sound) {cursor columns rows limit : Nat}
    {view : Viewport} (selected : select doc cursor columns rows limit = .ok view) :
    doc.pointMin ≤ view.base ∧ view.stop ≤ doc.pointMax := by
  obtain ⟨base, _⟩ := (select_eq_ok_iff sound).mp selected
  obtain ⟨low, _, high⟩ := bounds_within sound cursor columns rows limit
  rw [base, stop_of_select sound selected]
  exact ⟨low, high⟩

/-- The text is the whole region, or as long as the window and the region allow, up to a tail that
can be no whole character. -/
theorem length_of_select {doc : Document} (sound : doc.Sound) {cursor columns rows limit : Nat}
    {view : Viewport} (selected : select doc cursor columns rows limit = .ok view) :
    doc.byteSize < limit ∧ view.base = doc.pointMin ∧ view.stop = doc.pointMax ∨
      limit ≤ doc.byteSize ∧ view.base = clamp cursor doc.pointMin doc.pointMax ∧
        view.stop ≤ view.base + min (windowLength columns rows) (doc.pointMax - view.base) ∧
        view.base + min (windowLength columns rows) (doc.pointMax - view.base) ≤ view.stop + 3 := by
  obtain ⟨base, _⟩ := (select_eq_ok_iff sound).mp selected
  have last := stop_of_select sound selected
  by_cases small : doc.byteSize < limit
  · rw [bounds_of_lt small] at base last
    exact .inl ⟨small, base, last⟩
  · have trimmed := bounds_trimmed sound cursor columns rows limit
    have high := clamp_le cursor sound.ordered
    rw [← last] at trimmed
    rw [bounds_fst] at base
    simp only [stretch, if_neg small] at base trimmed
    have below := trimmed.high
    have near : _ ≤ view.stop + 3 := trimmed.near
    rw [← base] at below near high
    exact .inr ⟨Nat.not_lt.mp small, base, by omega, by omega⟩

/-- The reported offset lies in the decoded bytes, and is where the window is ill-formed before its
end is drawn back. -/
theorem offset_of_select {doc : Document} (sound : doc.Sound)
    {cursor columns rows limit offset : Nat}
    (failed : select doc cursor columns rows limit = .error offset) :
    (bounds doc cursor columns rows limit).1 ≤ offset ∧
      offset < (bounds doc cursor columns rows limit).2 ∧
      (∃ text, doc.slice (bounds doc cursor columns rows limit).1 offset = Utf8.encode text) ∧
      Utf8.IllFormedAt (doc.slice (stretch doc cursor columns rows limit).1
        (stretch doc cursor columns rows limit).2)
        (offset - (stretch doc cursor columns rows limit).1) := by
  obtain ⟨n, rfl, ill⟩ := (select_eq_error_iff sound).mp failed
  obtain ⟨_, _, high⟩ := bounds_within sound cursor columns rows limit
  obtain ⟨low, _, upper⟩ := stretch_within sound cursor columns rows limit
  have trimmed := bounds_trimmed sound cursor columns rows limit
  have shorter := ill.lt_length
  rw [Document.length_slice (Nat.le_trans high sound.inside)] at shorter
  obtain ⟨text, before⟩ := ill.text_before
  have cut : (doc.slice (bounds doc cursor columns rows limit).1
      (bounds doc cursor columns rows limit).2).take
        ((bounds doc cursor columns rows limit).1 + n - (bounds doc cursor columns rows limit).1) =
      doc.slice (bounds doc cursor columns rows limit).1
        ((bounds doc cursor columns rows limit).1 + n) :=
    doc.take_slice (by omega) (by omega)
  rw [Nat.add_sub_cancel_left, before] at cut
  refine ⟨Nat.le_add_right .., by omega, ⟨text, cut.symm⟩, ?_⟩
  rw [bounds_fst, Nat.add_sub_cancel_left]
  rw [bounds_fst] at ill
  exact illFormedAt_slice low upper sound.inside trimmed ill

/-- Every selection after any moves. A chosen text is the content at its place, inside the region,
and is either the whole region or begins at the cursor and is as long as the window allows, up to a
character that its end cuts through. A reported offset is where the untrimmed window is
ill-formed. -/
theorem select_after_moves (name : String) (path : Option String) (content : List UInt8)
    (moves : List Document.Move) (cursor columns rows limit : Nat) :
    let doc := Document.run { name := name, path := path, content := content } moves
    match select doc cursor columns rows limit with
    | .ok view =>
      let length := Utf8.byteLength view.text
      let room := min (windowLength columns rows) (doc.pointMax - view.base)
      Utf8.encode view.text = (content.drop view.base).take length ∧
        doc.pointMin ≤ view.base ∧ view.base + length ≤ doc.pointMax ∧
        doc.pointMax ≤ content.length ∧
        (doc.byteSize < limit ∧ view.base = doc.pointMin ∧ view.base + length = doc.pointMax ∨
          limit ≤ doc.byteSize ∧ view.base = clamp cursor doc.pointMin doc.pointMax ∧
            length ≤ room ∧ room ≤ length + 3)
    | .error offset =>
      let tried := bounds doc cursor columns rows limit
      let whole := stretch doc cursor columns rows limit
      tried.1 ≤ offset ∧ offset < tried.2 ∧ tried.1 = whole.1 ∧
        (∃ text, (content.drop tried.1).take (offset - tried.1) = Utf8.encode text) ∧
        Utf8.IllFormedAt ((content.drop whole.1).take (whole.2 - whole.1)) (offset - whole.1) := by
  intro doc
  have sound : doc.Sound := Document.sound_run (Document.sound_fresh name path content) moves
  have same : doc.content = content := Document.content_run _ moves
  rw [← same]
  split
  · rename_i view selected
    have within := within_of_select sound selected
    have window := length_of_select sound selected
    simp only [stop] at within window
    refine ⟨text_of_select sound selected, within.1, within.2, sound.inside, ?_⟩
    rcases window with whole | ⟨large, base, high, near⟩
    · exact .inl whole
    · exact .inr ⟨large, base, Nat.add_le_add_iff_left.mp high, by omega⟩
  · rename_i offset failed
    obtain ⟨low, high, text, ill⟩ := offset_of_select sound failed
    exact ⟨low, high, bounds_fst .., text, ill⟩

end Highlighting.Viewport
