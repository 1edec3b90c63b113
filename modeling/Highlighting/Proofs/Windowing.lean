import Highlighting.Proofs.Decodable

/-! Windows of a large document. The end of a window is drawn back, by three bytes at most, to where
the rest is text. Of well-formed text that leaves the longest text that fits, and a character that
the window cuts through is dropped. But bytes that no character begins with are dropped in the same
way when they are among the last three; only before those is an ill-formed byte reported. -/
namespace Highlighting

namespace Utf8

theorem IllFormedAt.isValid_eq_false {bytes : List UInt8} {offset : Nat}
    (ill : IllFormedAt bytes offset) : isValid bytes = false := by
  apply Bool.eq_false_iff.mpr
  intro valid
  obtain ⟨text, rfl⟩ := isValid_iff.mp valid
  cases (decode_encode text).symm.trans (decode_of_illFormedAt ill)

theorem IllFormedAt.unique {bytes : List UInt8} {offset other : Nat}
    (ill : IllFormedAt bytes offset) (again : IllFormedAt bytes other) : other = offset :=
  Except.error.inj ((decode_of_illFormedAt again).symm.trans (decode_of_illFormedAt ill))

theorem IllFormedAt.take {bytes : List UInt8} {offset size : Nat} (ill : IllFormedAt bytes offset)
    (behind : offset < size) : IllFormedAt (bytes.take size) offset := by
  obtain ⟨text, rest, rfl, rfl, nonempty, no_char⟩ := ill
  refine ⟨text, rest.take (size - byteLength text), ?_, rfl, ?_, ?_⟩
  · have whole : (encode text).take size = encode text :=
      List.take_of_length_le (by rw [length_encode]; omega)
    rw [List.take_append, whole, length_encode]
  · have room : size - byteLength text ≠ 0 := by omega
    simp [room, nonempty]
  · intro c begins
    exact no_char c (begins.trans (List.take_prefix ..))

theorem exists_rest {whole text : List Char} {rest : List UInt8}
    (split : encode whole = encode text ++ rest) :
    ∃ more, whole = text ++ more ∧ rest = encode more := by
  have decoded := congrArg pieces split
  rw [pieces_encode, pieces_encode_append] at decoded
  obtain ⟨front, more, rfl, same, _⟩ := List.map_eq_append_iff.mp decoded
  obtain rfl : front = text := (List.map_inj_right fun _ _ => Piece.char.inj).mp same
  rw [encode_append] at split
  exact ⟨more, rfl, (List.append_cancel_left split).symm⟩

theorem Spells.first_lt {b : UInt8} {rest : List UInt8} {n : Nat} (h : Spells (b :: rest) n) :
    b.toNat < 0xf5 := by
  cases h <;> omega

/-- A character begins at the offset, and the bytes end before it does. -/
structure CutOffAt (bytes : List UInt8) (offset : Nat) : Prop where
  ill : IllFormedAt bytes offset
  begun : ∃ c, bytes.drop offset <+: String.utf8EncodeChar c

theorem CutOffAt.near {bytes : List UInt8} {offset : Nat} (cut : CutOffAt bytes offset) :
    bytes.length ≤ offset + 3 := by
  obtain ⟨⟨text, rest, rfl, rfl, _, no_char⟩, c, begun⟩ := cut
  rw [← length_encode, List.drop_left] at begun
  have size := c.utf8Size_le_four
  have shorter : rest.length < (String.utf8EncodeChar c).length := by
    rcases Nat.lt_or_ge rest.length (String.utf8EncodeChar c).length with shorter | long
    · exact shorter
    · have same := begun.eq_of_length_le long
      exact absurd (same ▸ List.prefix_refl rest) (no_char c)
  rw [String.length_utf8EncodeChar] at shorter
  rw [List.length_append, length_encode]
  omega

/-- What is left of bytes when their end is drawn back. -/
structure Kept (bytes : List UInt8) (size : Nat) : Prop where
  high : size ≤ bytes.length
  near : bytes.length ≤ size + 3
  tried : ∀ n, size < n → n ≤ bytes.length → isValid (bytes.take n) = false
  reached : ∀ n, n ≤ bytes.length → bytes.length ≤ n + 3 → isValid (bytes.take n) = true →
    isValid (bytes.take size) = true

/- The three ways in which drawing back can end: at once, where the bytes are ill-formed, or behind
that place. -/

theorem Kept.eq_length {text : List Char} {size : Nat} (kept : Kept (encode text) size) :
    size = (encode text).length := by
  have valid : isValid ((encode text).take (encode text).length) = true := by
    rw [List.take_length]
    exact isValid_iff.mpr ⟨text, rfl⟩
  rcases Nat.lt_or_eq_of_le kept.high with shorter | whole
  · rw [kept.tried _ shorter (Nat.le_refl _)] at valid
    cases valid
  · exact whole

theorem Kept.eq_offset {bytes : List UInt8} {size offset : Nat} (kept : Kept bytes size)
    (ill : IllFormedAt bytes offset) (near : bytes.length ≤ offset + 3) : size = offset := by
  -- A shorter part would not be the longest that is text, and a longer one is no text.
  have inside := Nat.le_of_lt ill.lt_length
  have valid := isValid_iff.mpr ill.text_before
  rcases Nat.lt_trichotomy size offset with before | same | behind
  · rw [kept.tried offset before inside] at valid
    cases valid
  · exact same
  · have reached := kept.reached offset inside near valid
    rw [(ill.take behind).isValid_eq_false] at reached
    cases reached

theorem Kept.illFormedAt {bytes : List UInt8} {size offset : Nat} (kept : Kept bytes size)
    (ill : IllFormedAt bytes offset) (early : offset + 3 < bytes.length) :
    IllFormedAt (bytes.take size) offset := by
  have near := kept.near
  exact ill.take (by omega)

/-- The longest text at the start of another that takes no more bytes than there is room for. -/
structure LongestWithin (room : Nat) (text shown : List Char) : Prop where
  begins : shown <+: text
  fits : byteLength shown ≤ room
  longest : ∀ other, other <+: text → byteLength other ≤ room → other <+: shown

/- Drawing back a window onto text leaves the longest text that fits into it. -/

theorem take_take_encode {part text : List Char} {room : Nat} (begins : part <+: text)
    (fits : byteLength part ≤ room) :
    ((encode text).take room).take (byteLength part) = encode part := by
  obtain ⟨behind, rfl⟩ := begins
  rw [List.take_take, Nat.min_eq_left fits, take_encode]

theorem Kept.exists_text {text : List Char} {room size : Nat}
    (kept : Kept ((encode text).take room) size) :
    ∃ shown, shown <+: text ∧ size = byteLength shown ∧
      ((encode text).take room).take size = encode shown := by
  have length : ((encode text).take room).length = min room (byteLength text) := by
    rw [List.length_take, length_encode]
  obtain ⟨part, behind, split, below, near⟩ :=
    exists_cut text (show ((encode text).take room).length ≤ byteLength text by omega)
  have cut : ((encode text).take room).take (byteLength part) = encode part :=
    take_take_encode ⟨behind, split.symm⟩ (by omega)
  obtain ⟨shown, whole⟩ :=
    isValid_iff.mp (kept.reached _ below near (isValid_iff.mpr ⟨part, cut⟩))
  have bytes : encode shown <+: encode text :=
    whole ▸ (List.take_prefix ..).trans (List.take_prefix ..)
  obtain ⟨rest, same⟩ := bytes
  obtain ⟨more, rfl, _⟩ := exists_rest same.symm
  refine ⟨shown, List.prefix_append .., ?_, whole⟩
  rw [← length_encode, ← whole, List.length_take, Nat.min_eq_left kept.high]

/- A longer text that fits would have been found before the end was drawn back so far. -/
theorem Kept.byteLength_le {text other : List Char} {room size : Nat}
    (kept : Kept ((encode text).take room) size) (begins : other <+: text)
    (fits : byteLength other ≤ room) : byteLength other ≤ size := by
  have cut := take_take_encode begins fits
  have inside := congrArg List.length cut
  rw [List.length_take, length_encode] at inside
  apply Nat.not_lt.mp
  intro longer
  have tried := kept.tried _ longer (by omega)
  rw [cut, isValid_iff.mpr ⟨other, rfl⟩] at tried
  cases tried

theorem Kept.longestWithin {text : List Char} {room size : Nat}
    (kept : Kept ((encode text).take room) size) :
    ∃ shown, ((encode text).take room).take size = encode shown ∧
      LongestWithin room text shown := by
  obtain ⟨shown, leads, rfl, whole⟩ := kept.exists_text
  have high := kept.high
  rw [List.length_take] at high
  refine ⟨shown, whole, leads, by omega, ?_⟩
  intro other begins fits
  rcases List.prefix_or_prefix_of_prefix begins leads with inside | ⟨lost, rfl⟩
  · exact inside
  · have shorter := kept.byteLength_le begins fits
    rw [byteLength_append] at shorter
    cases lost with
    | nil => simp
    | cons c lost =>
      have := byteLength_pos (List.cons_ne_nil c lost)
      omega

end Utf8

namespace Viewport

/-- The accessible bytes from the cursor on, as far as the visible area calls for. -/
def window (doc : Document) (cursor columns rows : Nat) : List UInt8 :=
  let start := clamp cursor doc.pointMin doc.pointMax
  doc.bytes start (start + windowLength columns rows)

theorem window_eq_slice {doc : Document} (sound : doc.Sound) (cursor columns rows : Nat) :
    window doc cursor columns rows = doc.slice (clamp cursor doc.pointMin doc.pointMax)
      (min (clamp cursor doc.pointMin doc.pointMax + windowLength columns rows) doc.pointMax) := by
  have low : doc.pointMin ≤ clamp cursor doc.pointMin doc.pointMax := le_clamp cursor
  have high := clamp_le cursor sound.ordered
  simp only [window]
  generalize clamp cursor doc.pointMin doc.pointMax = start at low high
  have stop : clamp (start + windowLength columns rows) doc.pointMin doc.pointMax =
      min (start + windowLength columns rows) doc.pointMax :=
    Nat.max_eq_right (by omega)
  rw [Document.bytes, stop, clamp_of_mem low (by omega)]
  rfl

theorem window_of_text {doc : Document} (sound : doc.Sound) {before behind : List Char}
    (region : doc.slice doc.pointMin doc.pointMax = Utf8.encode (before ++ behind)) {cursor : Nat}
    (boundary : clamp cursor doc.pointMin doc.pointMax = doc.pointMin + Utf8.byteLength before)
    (columns rows : Nat) :
    window doc cursor columns rows =
      (Utf8.encode behind).take (windowLength columns rows) := by
  have high := clamp_le cursor sound.ordered
  have rest : doc.slice (clamp cursor doc.pointMin doc.pointMax) doc.pointMax =
      Utf8.encode behind := by
    rw [boundary, ← doc.drop_slice, region, Utf8.drop_encode]
  have room := congrArg List.length rest
  rw [Document.length_slice sound.inside] at room
  have cut : min (windowLength columns rows) (Utf8.encode behind).length =
      min (clamp cursor doc.pointMin doc.pointMax + windowLength columns rows) doc.pointMax -
        clamp cursor doc.pointMin doc.pointMax := by
    omega
  rw [window_eq_slice sound, ← doc.take_slice (by omega) (Nat.min_le_right ..), rest, ← cut,
    ← List.take_eq_take_min]

theorem bytes_eq_take {doc : Document} {start stop n : Nat} (low : doc.pointMin ≤ start)
    (high : stop ≤ doc.pointMax) (above : start ≤ n) (below : n ≤ stop) :
    doc.bytes start n = (doc.slice start stop).take (n - start) := by
  rw [doc.take_slice above below]
  exact Document.bytes_eq_slice low above (Nat.le_trans below high)

theorem kept_trimEnd {doc : Document} (sound : doc.Sound) {start stop : Nat}
    (low : doc.pointMin ≤ start) (ordered : start ≤ stop) (high : stop ≤ doc.pointMax) :
    Utf8.Kept (doc.slice start stop)
      (trimEnd doc start (min maxCutTail (stop - start)) stop - start) := by
  have length : (doc.slice start stop).length = stop - start :=
    Document.length_slice (Nat.le_trans high sound.inside)
  have part : ∀ n, start ≤ n → n ≤ stop →
      doc.isValid start n = Utf8.isValid ((doc.slice start stop).take (n - start)) :=
    fun n above below => congrArg Utf8.isValid (bytes_eq_take low high above below)
  obtain ⟨drawn, near, tried⟩ := trimEnd_bounds doc start (min maxCutTail (stop - start)) stop
  have three : maxCutTail = 3 := rfl
  refine ⟨by omega, by omega, ?_, ?_⟩
  · intro n longer inside
    have invalid := tried (start + n) (by omega) (by omega)
    rwa [part _ (by omega) (by omega), Nat.add_sub_cancel_left] at invalid
  · intro n inside close valid
    have fits : doc.isValid start (start + n) = true := by
      rwa [part _ (by omega) (by omega), Nat.add_sub_cancel_left]
    rw [← part _ (by omega) drawn]
    exact isValid_trimEnd fits (by omega) (by omega)

/- Of a large document the window is decoded, less what drawing back takes from its end. -/
theorem select_window {doc : Document} (sound : doc.Sound) (cursor columns rows : Nat)
    {limit : Nat} (large : limit ≤ doc.byteSize) :
    ∃ size, Utf8.Kept (window doc cursor columns rows) size ∧
      (∀ text, (window doc cursor columns rows).take size = Utf8.encode text →
        select doc cursor columns rows limit =
          .ok ⟨clamp cursor doc.pointMin doc.pointMax, text⟩) ∧
      ∀ offset, Utf8.IllFormedAt ((window doc cursor columns rows).take size) offset →
        select doc cursor columns rows limit =
          .error (clamp cursor doc.pointMin doc.pointMax + offset) := by
  have low : doc.pointMin ≤ clamp cursor doc.pointMin doc.pointMax := le_clamp cursor
  have high := clamp_le cursor sound.ordered
  simp only [select, bounds, if_neg (Nat.not_lt.mpr large), window_eq_slice sound]
  generalize clamp cursor doc.pointMin doc.pointMax = start at low high
  have ordered : start ≤ min (start + windowLength columns rows) doc.pointMax := by omega
  have inside := Nat.min_le_right (start + windowLength columns rows) doc.pointMax
  generalize min (start + windowLength columns rows) doc.pointMax = stop at ordered inside
  obtain ⟨drawn, near, _⟩ := trimEnd_bounds doc start (min maxCutTail (stop - start)) stop
  have decoded := bytes_eq_take low inside (show start ≤ _ by omega) drawn
  refine ⟨_, kept_trimEnd sound low ordered inside, ?_, ?_⟩
  · intro text whole
    simp only [decoded, whole, Utf8.decode_encode]
  · intro offset ill
    simp only [decoded, Utf8.decode_of_illFormedAt ill]

/-- What is chosen for the bytes of a window, by where they are ill-formed. -/
structure Answers (bytes : List UInt8) (start : Nat) (answer : Except Nat Viewport) : Prop where
  text : ∀ text, bytes = Utf8.encode text → answer = .ok ⟨start, text⟩
  late : ∀ offset text, Utf8.IllFormedAt bytes offset → bytes.length ≤ offset + 3 →
    bytes.take offset = Utf8.encode text → answer = .ok ⟨start, text⟩
  early : ∀ offset, Utf8.IllFormedAt bytes offset → offset + 3 < bytes.length →
    answer = .error (start + offset)

/-- What the bytes of a window call for: a character that is cut off is told apart from bytes that
are no text, wherever these are. -/
structure Separates (bytes : List UInt8) (start : Nat) (answer : Except Nat Viewport) : Prop where
  ok_iff : (∃ view, answer = .ok view) ↔
    (∃ text, bytes = Utf8.encode text) ∨ ∃ offset, Utf8.CutOffAt bytes offset
  text : ∀ text, bytes = Utf8.encode text → answer = .ok ⟨start, text⟩
  cut : ∀ offset text, Utf8.CutOffAt bytes offset → bytes.take offset = Utf8.encode text →
    answer = .ok ⟨start, text⟩
  corrupt : ∀ offset, Utf8.IllFormedAt bytes offset → ¬ Utf8.CutOffAt bytes offset →
    answer = .error (start + offset)

theorem answers_select {doc : Document} (sound : doc.Sound) (cursor columns rows : Nat)
    {limit : Nat} (large : limit ≤ doc.byteSize) :
    Answers (window doc cursor columns rows) (clamp cursor doc.pointMin doc.pointMax)
      (select doc cursor columns rows limit) := by
  obtain ⟨size, kept, chosen, failed⟩ := select_window sound cursor columns rows large
  refine ⟨?_, ?_, ?_⟩
  · intro text whole
    apply chosen
    rw [whole] at kept ⊢
    rw [kept.eq_length, List.take_length]
  · intro offset text ill near before
    apply chosen
    rw [kept.eq_offset ill near, before]
  · intro offset ill early
    exact failed offset (kept.illFormedAt ill early)

theorem Answers.separates_iff {bytes : List UInt8} {start : Nat} {answer : Except Nat Viewport}
    (answers : Answers bytes start answer) :
    Separates bytes start answer ↔
      ∀ offset, Utf8.IllFormedAt bytes offset → bytes.length ≤ offset + 3 →
        Utf8.CutOffAt bytes offset := by
  constructor
  · intro separates offset ill near
    apply Classical.byContradiction
    intro other
    obtain ⟨text, before⟩ := ill.text_before
    have failed := separates.corrupt offset ill other
    rw [answers.late offset text ill near before] at failed
    cases failed
  · intro begun
    have cut : ∀ offset text, Utf8.CutOffAt bytes offset →
        bytes.take offset = Utf8.encode text → answer = .ok ⟨start, text⟩ :=
      fun offset text cut before => answers.late offset text cut.ill cut.near before
    have corrupt : ∀ offset, Utf8.IllFormedAt bytes offset → ¬ Utf8.CutOffAt bytes offset →
        answer = .error (start + offset) :=
      fun offset ill other =>
        answers.early offset ill (Nat.not_le.mp fun near => other (begun offset ill near))
    refine ⟨⟨?_, ?_⟩, answers.text, cut, corrupt⟩
    · rintro ⟨view, chosen⟩
      rcases Utf8.text_or_illFormedAt bytes with text | ⟨offset, ill⟩
      · exact .inl text
      · refine .inr ⟨offset, Classical.byContradiction fun other => ?_⟩
        cases (corrupt offset ill other).symm.trans chosen
    · rintro (⟨text, whole⟩ | ⟨offset, off⟩)
      · exact ⟨_, answers.text text whole⟩
      · obtain ⟨text, before⟩ := off.ill.text_before
        exact ⟨_, cut offset text off before⟩

/-- Every selection from a large document, after any moves. The text before an ill-formed place is
chosen when at most three bytes are left behind that place, and otherwise the place is reported. A
character that the window cuts through is told apart from bytes that are no text unless such bytes
are among those three. -/
theorem select_separates (name : String) (path : Option String) (content : List UInt8)
    (moves : List Document.Move) (cursor columns rows limit : Nat) :
    let doc := Document.run { name := name, path := path, content := content } moves
    let bytes := window doc cursor columns rows
    let start := clamp cursor doc.pointMin doc.pointMax
    let answer := select doc cursor columns rows limit
    limit ≤ doc.byteSize →
    Answers bytes start answer ∧
      (Separates bytes start answer ↔
        ∀ offset, Utf8.IllFormedAt bytes offset → bytes.length ≤ offset + 3 →
          Utf8.CutOffAt bytes offset) := by
  intro doc bytes start answer large
  have sound : doc.Sound := Document.sound_run (Document.sound_fresh name path content) moves
  have answers := answers_select sound cursor columns rows large
  exact ⟨answers, answers.separates_iff⟩

/- The window ends before the last byte of the sign. -/
theorem select_separates_cut_sign :
    let doc := Document.run
      { name := "t", path := none, content := [0xff, 0x61, 0xe2, 0x82, 0xac, 0xff] } [.narrow 1 5]
    4 ≤ doc.byteSize ∧ select doc 0 2 2 4 = .ok ⟨1, ['a']⟩ ∧
      Separates (window doc 0 2 2) 1 (select doc 0 2 2 4) := by
  intro doc
  have large : 4 ≤ doc.byteSize := by decide
  have ill : Utf8.IllFormedAt (window doc 0 2 2) 1 := Utf8.decode_eq_error_iff.mp rfl
  have cut : Utf8.CutOffAt (window doc 0 2 2) 1 := ⟨ill, '€', by decide⟩
  have separates : Separates (window doc 0 2 2) 1 (select doc 0 2 2 4) := by
    refine (select_separates "t" none _ [.narrow 1 5] 0 2 2 4 large).2.mpr ?_
    intro offset found _
    rwa [ill.unique found]
  exact ⟨large, separates.cut 1 ['a'] cut rfl, separates⟩

/- From the cursor on there are two letters and a byte that begins no character. -/
theorem select_drops_corrupt_byte :
    let doc := Document.run { name := "t", path := none, content := [0x61, 0x62, 0x63, 0xff] } []
    0 ≤ doc.byteSize ∧ ¬ Separates (window doc 1 4 2) 1 (select doc 1 4 2 0) := by
  intro doc
  refine ⟨Nat.zero_le _, ?_⟩
  intro separates
  have sound : doc.Sound := Document.sound_fresh ..
  have chosen : select doc 1 4 2 0 = .ok ⟨1, ['b', 'c']⟩ :=
    (select_eq_ok_iff sound).mpr ⟨by decide, by decide⟩
  have ill : Utf8.IllFormedAt (window doc 1 4 2) 2 := Utf8.decode_eq_error_iff.mp rfl
  have other : ¬ Utf8.CutOffAt (window doc 1 4 2) 2 := by
    rintro ⟨_, c, rest, begun⟩
    have spelled := Utf8.spells_char c
    rw [← begun] at spelled
    exact absurd spelled.first_lt (by decide)
  have failed := separates.corrupt 2 ill other
  rw [chosen] at failed
  cases failed

/-- Of a well-formed region all or the longest text that fits is chosen. -/
theorem select_of_text (name : String) (path : Option String) (content : List UInt8)
    (moves : List Document.Move) (before behind : List Char) (cursor columns rows limit : Nat) :
    let doc := Document.run { name := name, path := path, content := content } moves
    let start := clamp cursor doc.pointMin doc.pointMax
    doc.bytes doc.pointMin doc.pointMax = Utf8.encode (before ++ behind) →
    start = doc.pointMin + Utf8.byteLength before →
    (doc.byteSize < limit →
      select doc cursor columns rows limit = .ok ⟨doc.pointMin, before ++ behind⟩) ∧
    (limit ≤ doc.byteSize →
      ∃ shown, select doc cursor columns rows limit = .ok ⟨start, shown⟩ ∧
        Utf8.LongestWithin (windowLength columns rows) behind shown) := by
  intro doc start region boundary
  have sound : doc.Sound := Document.sound_run (Document.sound_fresh name path content) moves
  constructor
  · intro small
    simp only [select, bounds_of_lt small, region, Utf8.decode_encode]
  · intro large
    obtain ⟨size, kept, chosen, _⟩ := select_window sound cursor columns rows large
    rw [Document.bytes_eq_slice (Nat.le_refl _) sound.ordered (Nat.le_refl _)] at region
    rw [window_of_text sound region boundary] at kept chosen
    obtain ⟨shown, text, longest⟩ := kept.longestWithin
    exact ⟨shown, chosen shown text, longest⟩

/- The window of six bytes ends inside the second sign. -/
theorem select_of_text_cut_sign :
    let doc := Document.run
      { name := "t", path := none,
        content := [0xff, 0x61, 0xc3, 0xa9, 0xe2, 0x82, 0xac, 0xe2, 0x82, 0xac, 0xff] }
      [.narrow 1 10]
    doc.bytes doc.pointMin doc.pointMax = Utf8.encode (['a'] ++ ['é', '€', '€']) ∧
      clamp 2 doc.pointMin doc.pointMax = doc.pointMin + Utf8.byteLength ['a'] ∧
      9 ≤ doc.byteSize ∧ select doc 2 5 2 9 = .ok ⟨2, ['é', '€']⟩ ∧
      Utf8.LongestWithin 6 ['é', '€', '€'] ['é', '€'] := by
  intro doc
  have region : doc.bytes doc.pointMin doc.pointMax =
      Utf8.encode (['a'] ++ ['é', '€', '€']) := by decide
  have boundary : clamp 2 doc.pointMin doc.pointMax =
      doc.pointMin + Utf8.byteLength ['a'] := by decide
  have large : 9 ≤ doc.byteSize := by decide
  have sound : doc.Sound := Document.sound_run (Document.sound_fresh ..) _
  have chosen : select doc 2 5 2 9 = .ok ⟨2, ['é', '€']⟩ :=
    (select_eq_ok_iff sound).mpr ⟨by decide, by decide⟩
  obtain ⟨shown, selected, longest⟩ :=
    (select_of_text "t" none _ [.narrow 1 10] ['a'] ['é', '€', '€'] 2 5 2 9 region boundary).2 large
  rw [chosen] at selected
  obtain rfl : ['é', '€'] = shown := congrArg text (Except.ok.inj selected)
  exact ⟨region, boundary, large, chosen, longest⟩

end Viewport

end Highlighting
