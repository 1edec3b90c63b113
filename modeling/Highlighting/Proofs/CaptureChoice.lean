import Highlighting.Proofs.CaptureTokens
import Highlighting.Proofs.Parting

/-! The choice between captures. They are gone through by their start, those of one start as they
were delivered, and a capture that is usable is chosen unless it overlaps one chosen before it. The
tokens of a text are the chosen captures and the gaps between them. -/
namespace Highlighting.Capture

/-- Where a capture ends in a text. -/
def stopIn (text : List Char) (capture : Capture) : Nat :=
  min capture.stop (Utf8.byteLength text)

/-- A capture that holds something of a text and begins and ends between characters. -/
structure Usable (text : List Char) (capture : Capture) : Prop where
  filled : capture.start < capture.stopIn text
  starts : (Utf8.splitAt? capture.start text).isSome
  stops : (Utf8.splitAt? (capture.stopIn text) text).isSome

instance (text : List Char) (capture : Capture) : Decidable (Usable text capture) :=
  decidable_of_iff (capture.start < capture.stopIn text ∧
    (Utf8.splitAt? capture.start text).isSome ∧ (Utf8.splitAt? (capture.stopIn text) text).isSome)
    ⟨fun ⟨filled, starts, stops⟩ => ⟨filled, starts, stops⟩,
      fun ⟨filled, starts, stops⟩ => ⟨filled, starts, stops⟩⟩

/-- Some byte belongs to both captures. -/
def Overlap (text : List Char) (c d : Capture) : Prop :=
  c.start < d.stopIn text ∧ d.start < c.stopIn text

instance (text : List Char) (c d : Capture) : Decidable (Overlap text c d) :=
  inferInstanceAs (Decidable (_ ∧ _))

/-- Behind those chosen before, the next capture is chosen too if it is usable and free. -/
def consider (text : List Char) (chosen : List Capture) (capture : Capture) : List Capture :=
  if Usable text capture ∧ ∀ d ∈ chosen, ¬ Overlap text d capture then chosen ++ [capture]
  else chosen

/-- The captures chosen from those in an order. -/
def chosen (text : List Char) (order : List Capture) : List Capture :=
  order.foldl (consider text) []

/-- Captures by their start, where those of one start stand as they were delivered. -/
structure InOrder (captures order : List Capture) : Prop where
  sorted : order.Pairwise (·.start ≤ ·.start)
  stable : ∀ start, order.filter (·.start = start) = captures.filter (·.start = start)

/- The two sorts of tokens. -/

def Claimed (text : List Char) (chosen : List Capture) (p : Viewport.Placed) : Prop :=
  ∃ c ∈ chosen, p.start = c.start ∧ p.stop = c.stopIn text ∧ p.token.kind = kindOf c.name

structure Gap (text : List Char) (chosen : List Capture) (p : Viewport.Placed) : Prop where
  kind : p.token.kind = .text
  free : ∀ c ∈ chosen, p.stop ≤ c.start ∨ c.stopIn text ≤ p.start

/- One order. -/

theorem inOrder_mergeSort (captures : List Capture) :
    InOrder captures (captures.mergeSort fun a b => decide (a.start ≤ b.start)) := by
  have trans : ∀ a b c : Capture, decide (a.start ≤ b.start) → decide (b.start ≤ c.start) →
      decide (a.start ≤ c.start) := by
    simp only [decide_eq_true_eq]
    omega
  have total : ∀ a b : Capture, decide (a.start ≤ b.start) || decide (b.start ≤ a.start) := by
    intro a b
    simp only [Bool.or_eq_true, decide_eq_true_eq]
    omega
  refine ⟨?_, fun start => ?_⟩
  · simpa using List.pairwise_mergeSort trans total captures
  · have perm := (List.mergeSort_perm captures fun a b => decide (a.start ≤ b.start)).filter
      (·.start = start)
    have tied : (captures.filter (·.start = start)).Pairwise
        fun a b => decide (a.start ≤ b.start) := by
      refine List.pairwise_of_forall_mem_list fun a inside b inside' => ?_
      simp only [List.mem_filter, decide_eq_true_eq] at inside inside' ⊢
      omega
    have among := (List.sublist_mergeSort trans total tied List.filter_sublist).filter
      (·.start = start)
    rw [List.filter_filter] at among
    simp only [Bool.and_self] at among
    exact (among.eq_of_length perm.length_eq.symm).symm

theorem start_le_of_mem_filter {first second : Capture} {order other : List Capture}
    (sorted : (first :: order).Pairwise (·.start ≤ ·.start))
    (same : ∀ start, (second :: other).filter (·.start = start) =
      (first :: order).filter (·.start = start)) : first.start ≤ second.start := by
  have inside : second ∈ (second :: other).filter (·.start = second.start) := by simp
  rw [same, List.mem_filter] at inside
  rcases List.mem_cons.mp inside.1 with rfl | inside
  · exact Nat.le_refl _
  · exact (List.pairwise_cons.mp sorted).1 second inside

theorem eq_of_filter_eq {order other : List Capture} (sorted : order.Pairwise (·.start ≤ ·.start))
    (again : other.Pairwise (·.start ≤ ·.start))
    (same : ∀ start, other.filter (·.start = start) = order.filter (·.start = start)) :
    other = order := by
  induction order generalizing other with
  | nil =>
    cases other with
    | nil => rfl
    | cons second other =>
      have inside := same second.start
      simp at inside
  | cons first order ih =>
    cases other with
    | nil =>
      have inside := same first.start
      simp at inside
    | cons second other =>
      have tied : first.start = second.start :=
        Nat.le_antisymm (start_le_of_mem_filter sorted same)
          (start_le_of_mem_filter again fun start => (same start).symm)
      have heads := same first.start
      rw [List.filter_cons_of_pos (by simp [tied]), List.filter_cons_of_pos (by simp)] at heads
      obtain ⟨rfl, _⟩ := List.cons.inj heads
      have tails : ∀ start, other.filter (·.start = start) = order.filter (·.start = start) := by
        intro start
        have whole := same start
        simp only [List.filter_cons] at whole
        split at whole
        · exact (List.cons.inj whole).2
        · exact whole
      rw [ih sorted.of_cons again.of_cons tails]

theorem inOrder_iff {captures order : List Capture} :
    InOrder captures order ↔
      order = captures.mergeSort fun a b => decide (a.start ≤ b.start) := by
  constructor
  · intro first
    have sorted := inOrder_mergeSort captures
    exact eq_of_filter_eq sorted.sorted first.sorted
      fun start => (first.stable start).trans (sorted.stable start).symm
  · rintro rfl
    exact inOrder_mergeSort captures

/- What is chosen, by the end of what was chosen last. -/

/-- The captures kept behind so many bytes. -/
def kept (text : List Char) (covered : Nat) : List Capture → List Capture
  | [] => []
  | c :: more =>
    if Usable text c ∧ covered ≤ c.start then c :: kept text (c.stopIn text) more
    else kept text covered more

theorem mem_kept {text : List Char} {covered : Nat} {captures : List Capture} {c : Capture}
    (h : c ∈ kept text covered captures) : Usable text c ∧ covered ≤ c.start := by
  induction captures generalizing covered with
  | nil => cases h
  | cons first more ih =>
    simp only [kept] at h
    split at h
    · next taken =>
      rcases List.mem_cons.mp h with rfl | h
      · exact taken
      · obtain ⟨usable, behind⟩ := ih h
        have := taken.1.filled
        exact ⟨usable, by omega⟩
    · exact ih h

theorem kept_disjoint (text : List Char) (covered : Nat) (captures : List Capture) :
    (kept text covered captures).Pairwise fun c d => c.stopIn text ≤ d.start := by
  induction captures generalizing covered with
  | nil => exact .nil
  | cons first more ih =>
    simp only [kept]
    split
    · exact .cons (fun d h => (mem_kept h).2) (ih _)
    · exact ih covered

/-- What is usable and not kept overlaps what is kept and begins no later. -/
theorem overlap_of_not_kept {text : List Char} {covered : Nat} {captures : List Capture}
    {c : Capture} (sorted : captures.Pairwise (·.start ≤ ·.start)) (inside : c ∈ captures)
    (usable : Usable text c) (behind : covered ≤ c.start)
    (dropped : c ∉ kept text covered captures) :
    ∃ d ∈ kept text covered captures, Overlap text c d ∧ d.start ≤ c.start := by
  induction captures generalizing covered with
  | nil => cases inside
  | cons first more ih =>
    obtain ⟨least, sorted⟩ := List.pairwise_cons.mp sorted
    simp only [kept] at dropped ⊢
    split at dropped
    · next taken =>
      rw [if_pos taken]
      have later : c ∈ more := List.mem_of_ne_of_mem (by rintro rfl; simp at dropped) inside
      by_cases free : first.stopIn text ≤ c.start
      · obtain ⟨d, h, overlap⟩ := ih sorted later free fun h => dropped (.tail _ h)
        exact ⟨d, .tail _ h, overlap⟩
      · have := least c later
        have := usable.filled
        exact ⟨first, .head _, ⟨by omega, by omega⟩, by omega⟩
    · next passed =>
      rw [if_neg passed]
      rcases List.mem_cons.mp inside with rfl | later
      · exact absurd ⟨usable, behind⟩ passed
      · exact ih sorted later behind dropped

/-- Of those with one start the first that is usable can be kept. -/
theorem find?_of_mem_kept {text : List Char} {covered : Nat} {captures : List Capture}
    {c : Capture} (h : c ∈ kept text covered captures) :
    captures.find? (fun d => d.start = c.start ∧ Usable text d) = some c := by
  obtain ⟨usable, behind⟩ := mem_kept h
  induction captures generalizing covered with
  | nil => cases h
  | cons first more ih =>
    simp only [kept] at h
    split at h
    · next taken =>
      rcases List.mem_cons.mp h with rfl | h
      · simp [usable]
      · have filled := taken.1.filled
        have later := (mem_kept h).2
        have other : first.start ≠ c.start := by omega
        simpa [other] using ih h later
    · next passed =>
      have other : ¬ (first.start = c.start ∧ Usable text first) := by
        rintro ⟨tied, usable⟩
        exact passed ⟨usable, by omega⟩
      rw [List.find?_cons_of_neg (by simpa using other)]
      exact ih h behind

/-- To overlap one chosen before is to begin before the last of them ends. -/
theorem foldl_consider {text : List Char} {taken captures : List Capture} {covered : Nat}
    (sorted : captures.Pairwise (·.start ≤ ·.start))
    (earlier : ∀ d ∈ taken, ∀ c ∈ captures, d.start ≤ c.start)
    (within : ∀ d ∈ taken, d.stopIn text ≤ covered)
    (reached : covered = 0 ∨ ∃ d ∈ taken, d.stopIn text = covered) :
    captures.foldl (consider text) taken = taken ++ kept text covered captures := by
  induction captures generalizing taken covered with
  | nil => simp [kept]
  | cons c more ih =>
    obtain ⟨least, sorted⟩ := List.pairwise_cons.mp sorted
    have free : (Usable text c ∧ ∀ d ∈ taken, ¬ Overlap text d c) ↔
        Usable text c ∧ covered ≤ c.start := by
      refine and_congr_right fun usable => ⟨fun apart => ?_, fun behind d h overlap => ?_⟩
      · rcases reached with rfl | ⟨d, h, rfl⟩
        · exact Nat.zero_le _
        · have first := earlier d h c (.head _)
          have filled := usable.filled
          have none := apart d h
          simp only [Overlap] at none
          omega
      · have := within d h
        have := overlap.2
        omega
    rw [List.foldl_cons, consider, kept]
    simp only [free]
    split
    · next taking =>
      have onward := @ih (taken ++ [c]) (c.stopIn text) sorted ?_ ?_ (.inr ⟨c, by simp, rfl⟩)
      · rw [onward, List.append_assoc, List.singleton_append]
      · intro d h other later
        rcases List.mem_append.mp h with h | h
        · exact earlier d h other (.tail _ later)
        · rw [List.mem_singleton.mp h]
          exact least other later
      · intro d h
        have filled := taking.1.filled
        rcases List.mem_append.mp h with h | h
        · have := within d h
          omega
        · rw [List.mem_singleton.mp h]
    · exact ih sorted (fun d h other later => earlier d h other (.tail _ later)) within reached

theorem chosen_eq_kept {text : List Char} {order : List Capture}
    (sorted : order.Pairwise (·.start ≤ ·.start)) : chosen text order = kept text 0 order :=
  foldl_consider sorted (by simp) (by simp) (.inl rfl)

/- The walk through a text. -/

theorem eq_of_overlap {text : List Char} {chosen : List Capture} {c d : Capture}
    (disjoint : chosen.Pairwise fun c d => c.stopIn text ≤ d.start) (inside : c ∈ chosen)
    (among : d ∈ chosen) (overlap : Overlap text c d) : c = d := by
  obtain ⟨i, low, rfl⟩ := List.mem_iff_getElem.mp inside
  obtain ⟨j, high, rfl⟩ := List.mem_iff_getElem.mp among
  have apart := List.pairwise_iff_getElem.mp disjoint
  rcases Nat.lt_trichotomy i j with before | rfl | behind
  · exact absurd (apart i j low high before) (Nat.not_le.mpr overlap.2)
  · rfl
  · exact absurd (apart j i high low behind) (Nat.not_le.mpr overlap.1)

theorem settled {text : List Char} {chosen : List Capture}
    (usable : ∀ c ∈ chosen, Usable text c)
    (disjoint : chosen.Pairwise fun c d => c.stopIn text ≤ d.start) :
    Viewport.Settled (Claimed text chosen) (Gap text chosen) where
  claim := by
    rintro ⟨start, token⟩ ⟨_, other⟩ ⟨c, inside, begins, ends, kind⟩
      ⟨d, among, begins_again, ends_again, kind_again⟩ rfl
    have tied : c.start = d.start := begins.symm.trans begins_again
    have overlap : Overlap text c d :=
      ⟨tied ▸ (usable d among).filled, tied ▸ (usable c inside).filled⟩
    obtain rfl := eq_of_overlap disjoint inside among overlap
    refine ⟨kind.trans kind_again.symm, ?_⟩
    exact Nat.add_left_cancel (ends.trans ends_again.symm)
  outside := by
    rintro p q ⟨c, inside, begins, _, _⟩ gap low high
    have filled := (usable c inside).filled
    rcases gap.free c inside with before | behind <;> omega
  plain gap := gap.kind

theorem walk_cons (text : List Char) (covered : Nat) (rest : List Char) (c : Capture)
    (more : List Capture) :
    walk (Utf8.byteLength text) covered rest (c :: more) =
      if c.start < covered ∨ c.stopIn text ≤ c.start then
        walk (Utf8.byteLength text) covered rest more
      else match Utf8.splitAt? (c.start - covered) rest with
        | none => walk (Utf8.byteLength text) covered rest more
        | some (before, behind) =>
          match Utf8.splitAt? (c.stopIn text - c.start) behind with
          | none => walk (Utf8.byteLength text) covered rest more
          | some (claimed, behind) =>
            gap before ++ ⟨kindOf c.name, claimed⟩ ::
              walk (Utf8.byteLength text) (c.stopIn text) behind more := rfl

theorem walk_of_usable {text done rest : List Char} {c : Capture} (more : List Capture)
    (whole : text = done ++ rest) (usable : Usable text c)
    (behind : Utf8.byteLength done ≤ c.start) :
    ∃ before claimed tail, rest = before ++ (claimed ++ tail) ∧ claimed ≠ [] ∧
      c.start = Utf8.byteLength done + Utf8.byteLength before ∧
      c.stopIn text = c.start + Utf8.byteLength claimed ∧
      walk (Utf8.byteLength text) (Utf8.byteLength done) rest (c :: more) =
        gap before ++ ⟨kindOf c.name, claimed⟩ ::
          walk (Utf8.byteLength text) (c.stopIn text) tail more := by
  obtain ⟨filled, starts, stops⟩ := usable
  obtain ⟨skipped, start⟩ := Nat.exists_eq_add_of_le behind
  obtain ⟨length, stop⟩ := Nat.exists_eq_add_of_le (Nat.le_of_lt filled)
  rw [start, whole, Utf8.splitAt?_add, Option.isSome_map] at starts
  obtain ⟨⟨before, after⟩, found⟩ := Option.isSome_iff_exists.mp starts
  obtain ⟨rfl, rfl⟩ := Utf8.splitAt?_eq_some_iff.mp found
  rw [stop, start, ← Utf8.byteLength_append, whole, ← List.append_assoc, Utf8.splitAt?_add,
    Option.isSome_map] at stops
  obtain ⟨⟨claimed, tail⟩, taken⟩ := Option.isSome_iff_exists.mp stops
  obtain ⟨rfl, rfl⟩ := Utf8.splitAt?_eq_some_iff.mp taken
  have nonempty : claimed ≠ [] := by
    rintro rfl
    rw [stop, Utf8.byteLength_nil] at filled
    exact Nat.lt_irrefl _ filled
  refine ⟨before, claimed, tail, rfl, nonempty, start, stop, ?_⟩
  have apart : ¬ (c.start < Utf8.byteLength done ∨ c.stopIn text ≤ c.start) := by omega
  have gone : c.start - Utf8.byteLength done = Utf8.byteLength before := by
    rw [start, Nat.add_sub_cancel_left]
  have size : c.stopIn text - c.start = Utf8.byteLength claimed := by
    rw [stop, Nat.add_sub_cancel_left]
  simp only [walk_cons, if_neg apart, gone, size, found, taken]

theorem walk_of_unusable {text done rest : List Char} {c : Capture} (more : List Capture)
    (whole : text = done ++ rest)
    (passed : ¬ (Usable text c ∧ Utf8.byteLength done ≤ c.start)) :
    walk (Utf8.byteLength text) (Utf8.byteLength done) rest (c :: more) =
      walk (Utf8.byteLength text) (Utf8.byteLength done) rest more := by
  rw [walk_cons]
  by_cases apart : c.start < Utf8.byteLength done ∨ c.stopIn text ≤ c.start
  · rw [if_pos apart]
  rw [if_neg apart]
  cases found : Utf8.splitAt? (c.start - Utf8.byteLength done) rest with
  | none => rfl
  | some parts =>
    obtain ⟨before, behind⟩ := parts
    simp only
    cases taken : Utf8.splitAt? (c.stopIn text - c.start) behind with
    | none => rfl
    | some parts =>
      -- Both ends are between characters, so that the capture is usable.
      obtain ⟨claimed, tail⟩ := parts
      obtain ⟨rfl, size⟩ := Utf8.splitAt?_eq_some_iff.mp found
      obtain ⟨rfl, length⟩ := Utf8.splitAt?_eq_some_iff.mp taken
      have start : c.start = Utf8.byteLength (done ++ before) := by
        rw [Utf8.byteLength_append]
        omega
      have stop : c.stopIn text = Utf8.byteLength (done ++ before ++ claimed) := by
        rw [Utf8.byteLength_append, ← start]
        omega
      refine absurd ⟨⟨by omega, ?_, ?_⟩, by omega⟩ passed
      · rw [start, whole, ← List.append_assoc, Utf8.splitAt?_append]
        rfl
      · rw [stop, whole, ← List.append_assoc, ← List.append_assoc, Utf8.splitAt?_append]
        rfl

/-- The walk behind `taken` captures. -/
theorem walk_parted {text : List Char} {chosen : List Capture}
    (settled : Viewport.Settled (Claimed text chosen) (Gap text chosen)) {done rest : List Char}
    (whole : text = done ++ rest) {taken captures : List Capture}
    (split : chosen = taken ++ kept text (Utf8.byteLength done) captures)
    (within : ∀ d ∈ taken, d.stopIn text ≤ Utf8.byteLength done) :
    Viewport.Parted (Claimed text chosen) (Gap text chosen) (Utf8.byteLength done)
      (walk (Utf8.byteLength text) (Utf8.byteLength done) rest captures) := by
  induction captures generalizing done rest taken with
  | nil =>
    rw [walk, ← List.append_nil (gap rest)]
    refine Viewport.Settled.parted_gap (fun _ => ⟨rfl, ?_⟩) (by simp [Viewport.placed])
      (Viewport.parted_nil ..)
    intro c inside
    rw [split, kept, List.append_nil] at inside
    exact .inr (within c inside)
  | cons c more ih =>
    rw [kept] at split
    by_cases keeping : Usable text c ∧ Utf8.byteLength done ≤ c.start
    · obtain ⟨before, claimed, tail, rfl, filled, start, stop, walks⟩ :=
        walk_of_usable more whole keeping.1 keeping.2
      rw [if_pos keeping] at split
      have reach : Utf8.byteLength (done ++ before ++ claimed) = c.stopIn text := by
        simp only [Utf8.byteLength_append]
        omega
      have onward := @ih (done ++ before ++ claimed) tail (by simp [whole]) (taken ++ [c])
      rw [reach] at onward
      have behind := onward (by rw [split, List.append_assoc]; rfl) ?_
      · have claim : Claimed text chosen ⟨c.start, ⟨kindOf c.name, claimed⟩⟩ :=
          ⟨c, by simp [split], rfl, stop.symm, rfl⟩
        have tokens : Viewport.Parted (Claimed text chosen) (Gap text chosen) c.start
            (⟨kindOf c.name, claimed⟩ ::
              walk (Utf8.byteLength text) (c.stopIn text) tail more) := by
          refine settled.parted_claim claim filled ?_
          rw [← stop]
          exact behind
        rw [walks]
        refine Viewport.Settled.parted_gap (fun _ => ⟨rfl, ?_⟩) ?_ (start ▸ tokens)
        · intro d inside
          simp only [Viewport.Placed.stop, ← start]
          rcases List.mem_append.mp (split ▸ inside) with h | h
          · exact .inr (within d h)
          · rcases List.mem_cons.mp h with rfl | h
            · exact .inl (Nat.le_refl _)
            · exact .inl (Nat.le_trans (Nat.le_of_lt keeping.1.filled) (mem_kept h).2)
        · rw [← start]
          rintro p ⟨⟩
          exact settled.not_gap claim rfl filled
      · intro d h
        rcases List.mem_append.mp h with h | h
        · have := within d h
          omega
        · rw [List.mem_singleton.mp h]
    · rw [walk_of_unusable more whole keeping]
      exact ih whole (by rwa [if_neg keeping] at split) within

/-- Every capture chosen is a token: one lies around its start, and that can only be its own. -/
theorem exists_token_of_chosen {text : List Char} {chosen : List Capture} {tokens : List Token}
    (usable : ∀ c ∈ chosen, Usable text c)
    (disjoint : chosen.Pairwise fun c d => c.stopIn text ≤ d.start) (tiles : Tiles tokens text)
    (parted : Viewport.Parted (Claimed text chosen) (Gap text chosen) 0 tokens) {c : Capture}
    (inside : c ∈ chosen) :
    ∃ p ∈ Viewport.placed 0 tokens,
      p.start = c.start ∧ p.stop = c.stopIn text ∧ p.token.kind = kindOf c.name := by
  have filled := (usable c inside).filled
  have within : c.stopIn text ≤ Utf8.byteLength text := Nat.min_le_right ..
  obtain ⟨p, there, low, high⟩ := Viewport.exists_placed_around (Nat.zero_le c.start)
    (by rw [tiles.joins]; omega : c.start < 0 + Utf8.byteLength (joined tokens))
  rcases parted.each p there with ⟨d, among, begins, ends, kind⟩ | gap
  · obtain rfl := eq_of_overlap disjoint inside among ⟨by omega, by omega⟩
    exact ⟨p, there, begins, ends, kind⟩
  · rcases gap.free c inside with before | behind <;> omega

/-- Whatever captures are delivered, those chosen are disjoint and the tokens of the text are they
and the gaps between them, as long as they can be. A usable capture that is not chosen overlaps one
that begins no later, of usable captures with one start only the first delivered can be chosen, and
nothing depends on the order in which captures of different starts are delivered. -/
theorem tokens_of_chosen (text : List Char) (captures : List Capture) :
    ∃ order picked, picked = chosen text order ∧
      (∀ other, InOrder captures other ↔ other = order) ∧
      (∀ other, Tiles other text ∧
        Viewport.Parted (Claimed text picked) (Gap text picked) 0 other ↔
          other = tokens text captures) ∧
      (∀ c ∈ picked, ∃ p ∈ Viewport.placed 0 (tokens text captures),
        p.start = c.start ∧ p.stop = c.stopIn text ∧ p.token.kind = kindOf c.name) ∧
      picked.Pairwise (fun c d => c.stopIn text ≤ d.start) ∧
      (∀ c ∈ captures, Usable text c → c ∉ picked →
        ∃ d ∈ picked, Overlap text c d ∧ d.start ≤ c.start) ∧
      (∀ c ∈ picked,
        captures.find? (fun d => d.start = c.start ∧ Usable text d) = some c) ∧
      ∀ again, (∀ start, again.filter (·.start = start) = captures.filter (·.start = start)) →
        tokens text again = tokens text captures := by
  have ordered := inOrder_mergeSort captures
  generalize sorting : (captures.mergeSort fun a b => decide (a.start ≤ b.start)) = order at ordered
  have usable : ∀ c ∈ kept text 0 order, Usable text c := fun c inside => (mem_kept inside).1
  have disjoint := kept_disjoint text 0 order
  have parted : Viewport.Parted (Claimed text (kept text 0 order)) (Gap text (kept text 0 order)) 0
      (tokens text captures) := by
    rw [tokens, sorting]
    exact walk_parted (settled usable disjoint) (List.nil_append text).symm
      (List.nil_append _).symm (by simp)
  have tiles := tokens_tiles text captures
  refine ⟨order, kept text 0 order, (chosen_eq_kept ordered.sorted).symm, ?_, ?_, ?_, disjoint, ?_,
    ?_, ?_⟩
  · intro other
    rw [inOrder_iff, sorting]
  · intro other
    constructor
    · rintro ⟨again, second⟩
      exact (settled usable disjoint).unique again tiles second parted
    · rintro rfl
      exact ⟨tiles, parted⟩
  · exact fun c inside => exists_token_of_chosen usable disjoint tiles parted inside
  · intro c inside fit dropped
    have among : c ∈ order := sorting ▸ List.mem_mergeSort.mpr inside
    exact overlap_of_not_kept ordered.sorted among fit (Nat.zero_le _) dropped
  · intro c inside
    have tied : ∀ list : List Capture, list.find? (fun d => d.start = c.start ∧ Usable text d) =
        (list.filter (·.start = c.start)).find? (Usable text ·) := by
      intro list
      simp [List.find?_filter]
    rw [tied, ← ordered.stable, ← tied]
    exact find?_of_mem_kept inside
  · intro again same
    have ordered' : InOrder again order :=
      ⟨ordered.sorted, fun start => (ordered.stable start).trans (same start).symm⟩
    rw [tokens, tokens, ← inOrder_iff.mp ordered', sorting]

end Highlighting.Capture
