import Highlighting.Proofs.GlobReading
import Highlighting.Proofs.PreferredMatch
import Mathlib.Data.List.Forall2

/-! What file patterns match. The expression of a pattern is searched for, and ends where the name
ends, so that it describes a suffix of the name: the pieces between the stars, one after the other,
apart from each other by characters of one line. -/
namespace Highlighting.FilePattern

open Regex

/-- A text that is a piece of a pattern, up to case. -/
def Spells (piece text : List Char) : Prop :=
  List.Forall₂ (fun c d => CaseFold.same c d = true) piece text

/-- A text of pieces in their order, with anything but line feeds between two of them. -/
inductive Joins : List (List Char) → List Char → Prop
  | last {piece text} (spelled : Spells piece text) : Joins [piece] text
  | cons {piece pieces front between back} (spelled : Spells piece front) (line : '\n' ∉ between)
      (onward : Joins pieces back) : Joins (piece :: pieces) (front ++ between ++ back)

/-- A text that glyphs stand for. -/
inductive Fits : List Glyph → List Char → Prop
  | nil : Fits [] []
  | char {c d glyphs rest} (alike : CaseFold.same c d = true) (onward : Fits glyphs rest) :
      Fits (some c :: glyphs) (d :: rest)
  | leave {glyphs rest} (onward : Fits glyphs rest) : Fits (none :: glyphs) rest
  | pass {d glyphs rest} (inside : d ≠ '\n') (onward : Fits (none :: glyphs) rest) :
      Fits (none :: glyphs) (d :: rest)

/- Glyphs and pieces. -/

theorem fits_char_iff {c : Char} {glyphs : List Glyph} {text : List Char} :
    Fits (some c :: glyphs) text ↔
      ∃ d rest, text = d :: rest ∧ CaseFold.same c d = true ∧ Fits glyphs rest := by
  constructor
  · rintro (_ | ⟨alike, onward⟩)
    exact ⟨_, _, rfl, alike, onward⟩
  · rintro ⟨d, rest, rfl, alike, onward⟩
    exact .char alike onward

theorem fits_star_iff {glyphs : List Glyph} {text : List Char} :
    Fits (none :: glyphs) text ↔
      ∃ between back, text = between ++ back ∧ '\n' ∉ between ∧ Fits glyphs back := by
  constructor
  · induction text with
    | nil =>
      rintro (_ | _ | onward)
      exact ⟨[], [], rfl, List.not_mem_nil, onward⟩
    | cons d rest ih =>
      rintro (_ | _ | onward | ⟨inside, onward⟩)
      · exact ⟨[], d :: rest, rfl, List.not_mem_nil, onward⟩
      · obtain ⟨between, back, rfl, line, onward⟩ := ih onward
        exact ⟨d :: between, back, rfl, by simp [line, inside.symm], onward⟩
  · rintro ⟨between, back, rfl, line, onward⟩
    induction between with
    | nil => exact .leave onward
    | cons d between ih =>
      rw [List.mem_cons, not_or] at line
      exact .pass (Ne.symm line.1) (ih line.2)

theorem fits_map_some_iff {piece text : List Char} :
    Fits (piece.map some) text ↔ Spells piece text := by
  induction piece generalizing text with
  | nil =>
    rw [List.map_nil, Spells, List.forall₂_nil_left_iff]
    constructor
    · rintro ⟨⟩
      rfl
    · rintro rfl
      exact .nil
  | cons c piece ih =>
    rw [List.map_cons, fits_char_iff, Spells, List.forall₂_cons_left_iff]
    constructor
    · rintro ⟨d, rest, rfl, alike, onward⟩
      exact ⟨d, rest, alike, ih.mp onward, rfl⟩
    · rintro ⟨d, rest, alike, onward, rfl⟩
      exact ⟨d, rest, rfl, alike, ih.mpr onward⟩

theorem joins_star_iff {pieces : List (List Char)} (some_piece : pieces ≠ []) {text : List Char} :
    Joins ([] :: pieces) text ↔
      ∃ between back, text = between ++ back ∧ '\n' ∉ between ∧ Joins pieces back := by
  constructor
  · rintro (_ | ⟨⟨⟩, line, onward⟩)
    · exact absurd rfl some_piece
    · exact ⟨_, _, rfl, line, onward⟩
  · rintro ⟨between, back, rfl, line, onward⟩
    have first : Spells [] [] := .nil
    exact .cons first line onward

theorem joins_char_iff {c : Char} {piece : List Char} {pieces : List (List Char)}
    {text : List Char} :
    Joins ((c :: piece) :: pieces) text ↔
      ∃ d rest, text = d :: rest ∧ CaseFold.same c d = true ∧ Joins (piece :: pieces) rest := by
  constructor
  · rintro (⟨_ | ⟨alike, spelled⟩⟩ | ⟨_ | ⟨alike, spelled⟩, line, onward⟩)
    · exact ⟨_, _, rfl, alike, .last spelled⟩
    · exact ⟨_, _, rfl, alike, .cons spelled line onward⟩
  · rintro ⟨d, rest, rfl, alike, spelled | ⟨spelled, line, onward⟩⟩
    · exact .last (.cons alike spelled)
    · exact .cons (.cons alike spelled) line onward

/-- Glyphs fit where the pieces between their stars are joined. -/
theorem fits_iff_joins (chars text : List Char) :
    Fits (chars.map Glyph.ofChar) text ↔ Joins (chars.splitOn '*') text := by
  induction chars generalizing text with
  | nil =>
    rw [List.splitOn_nil]
    constructor
    · rintro ⟨⟩
      exact .last .nil
    · rintro (⟨⟨⟩⟩ | ⟨_, _, ⟨⟩⟩)
      exact .nil
  | cons c chars ih =>
    have pieces := List.splitOn_ne_nil '*' chars
    rw [List.map_cons, List.splitOn_cons_eq_if_modifyHead, Glyph.ofChar]
    by_cases star : c = '*'
    · rw [if_pos star, if_pos (beq_iff_eq.mpr star), fits_star_iff, joins_star_iff pieces]
      simp only [ih]
    · rw [if_neg star, if_neg (by simpa using star), fits_char_iff]
      obtain ⟨piece, more, split⟩ := List.exists_cons_of_ne_nil pieces
      rw [split, List.modifyHead_cons, joins_char_iff]
      simp only [ih, split]

/- Matching. -/

theorem contains_glyph {c : Char} {chars : CharSet} (read : Glyph.regex (some c) = .set chars)
    (d : Char) : chars.contains d = true ↔ CaseFold.same c d = true := by
  cases read
  split
  · exact CharSet.contains_folded_single c d
  · next alone => exact CharSet.contains_single_of_alone alone d

theorem contains_except (c d : Char) : (CharSet.except c).contains d = true ↔ d ≠ c := by
  have alike : (CharSet.single c).mem d.toNat = true ↔ d = c := by
    rw [CharSet.mem_single, Char.toNat_inj]
  simp [CharSet.contains, CharSet.except, CharSet.mem, ← alike]

theorem ends_seqAll_cons {r : Regex} {rs : List Regex} (more : rs ≠ []) (done rest : List Char) :
    ends done rest [.seqAll (r :: rs)] = ends done rest [r, .seqAll rs] := by
  obtain ⟨s, rs, rfl⟩ := List.exists_cons_of_ne_nil more
  exact ends_seq done rest r (.seqAll (s :: rs)) []

/-- A loop over a set passes over members, as many as lead somewhere. -/
theorem ends_loop_set_iff (greedy : Bool) (chars : CharSet) (way : Way) (done rest : List Char) :
    ends done rest (.loop greedy (.set chars) :: way) ≠ [] ↔
      ∃ between back, rest = between ++ back ∧ (∀ c ∈ between, chars.contains c = true) ∧
        ends (done ++ between) back way ≠ [] := by
  induction rest generalizing done with
  | nil =>
    rw [Ne, ends_loop_eq_nil_iff, ends_set_nil]
    simp
  | cons d rest ih =>
    rw [Ne, ends_loop_eq_nil_iff, ends_set_cons, not_and_or]
    constructor
    · rintro (round | behind)
      · split at round
        · next inside =>
          obtain ⟨between, back, rfl, all, alive⟩ := (ih (done ++ [d])).mp round
          exact ⟨d :: between, back, rfl, List.forall_mem_cons.mpr ⟨inside, all⟩,
            by simpa using alive⟩
        · exact absurd rfl round
      · exact ⟨[], d :: rest, rfl, nofun, by simpa using behind⟩
    · rintro ⟨between, back, split, all, alive⟩
      cases between with
      | nil =>
        subst split
        exact .inr (by simpa using alive)
      | cons c between =>
        cases split
        obtain ⟨inside, all⟩ := List.forall_mem_cons.mp all
        rw [if_pos inside]
        exact .inl ((ih (done ++ [d])).mpr ⟨between, back, rfl, all, by simpa using alive⟩)

/-- The expression of a body matches what its glyphs stand for, to the end of the text. -/
theorem ends_body_iff (glyphs : List Glyph) (done rest : List Char) :
    ends done rest [.seqAll (glyphs.map Glyph.regex ++ [.look .textEnd])] ≠ [] ↔
      Fits glyphs rest := by
  induction glyphs generalizing done rest with
  | nil =>
    rw [List.map_nil, List.nil_append, seqAll, ends_textEnd, ends_nil]
    constructor
    · intro alive
      split at alive
      · next stop => exact stop ▸ .nil
      · exact absurd rfl alive
    · rintro ⟨⟩
      simp
  | cons glyph glyphs ih =>
    rw [List.map_cons, List.cons_append, ends_seqAll_cons (by simp)]
    cases glyph with
    | some c =>
      obtain ⟨chars, read⟩ : ∃ chars, Glyph.regex (some c) = .set chars := ⟨_, rfl⟩
      rw [read, fits_char_iff]
      cases rest with
      | nil => simp
      | cons d rest =>
        simp [ends_set_cons, contains_glyph read, ← ih (done ++ [d]) rest]
    | none =>
      have loop : Glyph.regex none = .loop true (.set (.except '\n')) := rfl
      have line : ∀ between : List Char,
          (∀ c ∈ between, (CharSet.except '\n').contains c = true) ↔ '\n' ∉ between := by
        simp only [contains_except]
        exact fun between => ⟨fun all inside => all _ inside rfl, fun apart c inside same =>
          apart (same ▸ inside)⟩
      rw [loop, ends_loop_set_iff, fits_star_iff]
      simp only [line, ih]

/-- A pattern with a body describes how a name ends. -/
theorem isMatch_write (source path : String) (glyphs : List Glyph) :
    (glob source (readBody (write glyphs))).isMatch path = true ↔
      ∃ suffix, suffix <:+ (FileName.base path).toList ∧ Fits glyphs suffix := by
  rw [isMatch, readBody_write, Regex.isMatch_iff]
  simp only [ends_body_iff]
  constructor
  · rintro ⟨done, rest, split, fits⟩
    exact ⟨rest, ⟨done, split.symm⟩, fits⟩
  · rintro ⟨rest, ⟨done, split⟩, fits⟩
    exact ⟨done, rest, split.symm, fits⟩

/-- A pattern matches the name that it is, up to case what ends in its extension, or up to case what
ends in its pieces. Every character but a star stands for itself, whatever it is and wherever it
stands. -/
theorem isMatch_ofText (source path : String) :
    ('*' ∉ source.toList →
      ((ofText source).isMatch path = true ↔ FileName.base path = source)) ∧
    (∀ extension, source.toList = '*' :: '.' :: extension →
      ((ofText source).isMatch path = true ↔
        ∃ suffix, suffix <:+ (FileName.base path).toList ∧ Spells ('.' :: extension) suffix)) ∧
    ('*' ∈ source.toList → (∀ extension, source.toList ≠ '*' :: '.' :: extension) →
      ((ofText source).isMatch path = true ↔
        ∃ suffix, suffix <:+ (FileName.base path).toList ∧
          Joins ((dropStar source.toList).splitOn '*') suffix)) := by
  refine ⟨fun plain => ?_, fun extension form => ?_, fun star other => ?_⟩
  · rw [ofText, body?_of_name plain]
    exact beq_iff_eq
  · rw [ofText, form, body?_of_extension, isMatch_write]
    simp only [fits_map_some_iff]
  · rw [ofText, body?_of_stars star other, isMatch_write]
    simp only [fits_iff_joins]

example : (ofText "*a\\*.rb").isMatch "dir/xA\\b.RB" = true := by decide +kernel

end Highlighting.FilePattern
