import Highlighting.Lexer.FilePattern
import Highlighting.Proofs.Folding
import Highlighting.Proofs.PatternParts

/-! From a file pattern to the expression that is matched. The pattern is escaped, its stars are
opened in the escaped text, and that is read as a regular expression. Each character comes out as a
set of its own and each star as a loop, whatever stands before it: the backslash that a star is
replaced with is its own, since every other one is followed by what it escapes. -/
namespace Highlighting.FilePattern

open Regex Regex.Reader

/-- A character that stands for itself, or none for a star. -/
abbrev Glyph := Option Char

/-- What a character of a pattern stands for. -/
def Glyph.ofChar (c : Char) : Glyph := if c = '*' then none else some c

/-- A glyph in a regular expression. -/
def Glyph.written : Glyph → List Char
  | some c => escapeChar c
  | none => ".*".toList

/-- A glyph in a text. -/
def write (glyphs : List Glyph) : List Char := glyphs.flatMap Glyph.written

theorem write_cons (glyph : Glyph) (glyphs : List Glyph) :
    write (glyph :: glyphs) = glyph.written ++ write glyphs := rfl

/- Opening stars in an escaped text. -/

theorem openStars_cons {c : Char} (other : c ≠ '\\') (rest : List Char) :
    openStars (c :: rest) = c :: openStars rest := by
  rw [openStars]
  rintro tail rfl
  exact absurd rfl other

theorem openStars_backslash {rest : List Char} (other : rest.head? ≠ some '*') :
    openStars ('\\' :: rest) = '\\' :: openStars rest := by
  rw [openStars]
  rintro tail _ rfl
  exact other rfl

/-- A star is escaped like the others, so that no escaped text begins with one. -/
theorem head?_escape_ne (text : List Char) : (escape text).head? ≠ some '*' := by
  cases text with
  | nil => simp [escape]
  | cons c rest =>
    simp only [escape, List.flatMap_cons, escapeChar]
    split
    · simp
    · next plain =>
      intro star
      cases Option.some.inj star
      exact plain rfl

theorem openStars_escape (text : List Char) :
    openStars (escape text) = write (text.map Glyph.ofChar) := by
  induction text with
  | nil => rfl
  | cons c rest ih =>
    have head := head?_escape_ne rest
    simp only [escape, write, List.flatMap_cons, List.map_cons] at ih head ⊢
    rw [← ih]
    by_cases star : c = '*'
    · subst star
      rfl
    · simp only [Glyph.ofChar, if_neg star, Glyph.written, escapeChar]
      split
      · by_cases backslash : c = '\\'
        · subst backslash
          rw [List.cons_append, openStars_backslash (by simp), List.singleton_append,
            openStars_backslash head]
          rfl
        · rw [List.cons_append, openStars_backslash (by simpa using star), List.singleton_append,
            openStars_cons backslash]
          rfl
      · next plain =>
        have other : c ≠ '\\' := by
          rintro rfl
          exact plain rfl
        rw [List.singleton_append, openStars_cons other]
        rfl

/- The body of a pattern. -/

/-- A pattern without the star that it may begin with. -/
def dropStar : List Char → List Char
  | '*' :: rest => rest
  | chars => chars

theorem body?_of_name {source : List Char} (plain : '*' ∉ source) : body? source = none := by
  unfold body?
  split
  · simp at plain
  · simp at plain
  · simp [plain]

theorem body?_of_extension (extension : List Char) :
    body? ('*' :: '.' :: extension) = some (write (('.' :: extension).map some)) := by
  simp only [body?, escape, write, List.map_cons, List.flatMap_cons, List.flatMap_map]
  rfl

theorem body?_of_stars {source : List Char} (star : '*' ∈ source)
    (other : ∀ extension, source ≠ '*' :: '.' :: extension) :
    body? source = some (write ((dropStar source).map Glyph.ofChar)) := by
  unfold body?
  split
  · next extension => exact absurd rfl (other extension)
  · rw [openStars_escape]
    rfl
  · next _ other_star =>
    have whole : dropStar source = source := by
      unfold dropStar
      split
      · exact (other_star _ rfl).elim
      · rfl
    rw [if_pos (by simpa using star), openStars_escape, whole]

/- Reading what is written. -/

/-- What a glyph is matched by. -/
def Glyph.regex : Glyph → Regex
  | some c =>
    .set (if (CaseFold.orbit c.toNat).any (· ≠ c.toNat) then .folded (.single c) else .single c)
  | none => .loop true (.set (.except '\n'))

/-- What a glyph is read as. -/
def Glyph.part (glyph : Glyph) : Part :=
  match glyph with
  | some _ => ⟨glyph.regex, 0, 32, true⟩
  | none => ⟨glyph.regex, 1, 440, true⟩

theorem escape_of_isMeta {c : Char} (special : isMeta c) (flags : Flags) (rest : List Char) :
    Reader.escape flags (c :: rest) = some (.literal c false, rest) := by
  have among : c ∈ "\\.+*?()|[]\x7b\x7d^$#&-~".toList := by simpa [isMeta] using special
  simp only [String.reduceToList, List.mem_cons, List.not_mem_nil, or_false] at among
  rcases among with rfl | rfl | rfl | rfl | rfl | rfl | rfl | rfl | rfl | rfl | rfl | rfl | rfl |
    rfl | rfl | rfl | rfl | rfl <;> rfl

theorem item_of_not_isMeta {c : Char} (plain : isMeta c = false) (st : State) (rest : List Char) :
    st.item c rest =
      (st.flags.part? (.literal c false)).bind fun part => some (st.add part rest) := by
  unfold State.item
  split <;> first | exact absurd plain (by decide) | rfl

theorem part?_literal (c : Char) :
    caseless.part? (.literal c false) = some (Glyph.part (some c)) := by
  simp [Flags.part?, caseless, Glyph.part, Glyph.regex]

/-- A character is read in one step, escaped or not. -/
theorem read_char (fuel : Nat) (names : List (List Char)) (above : List Level) (level : Level)
    (c : Char) (rest : List Char) :
    Reader.read (fuel + 1) ⟨caseless, names, above, level, escapeChar c ++ rest⟩ =
      Reader.read fuel ⟨caseless, names, above, level.add (Glyph.part (some c)), rest⟩ := by
  unfold escapeChar
  split
  · next special =>
    have skipped : skip caseless ('\\' :: c :: rest) = '\\' :: c :: rest := rfl
    simp only [List.cons_append, List.nil_append, Reader.read, skipped, State.item,
      escape_of_isMeta special, Option.bind_eq_bind, Option.bind_some, part?_literal]
    rfl
  · next plain =>
    have skipped : skip caseless (c :: rest) = c :: rest := rfl
    simp only [List.cons_append, List.nil_append, Reader.read, skipped,
      item_of_not_isMeta (Bool.eq_false_iff.mpr plain), Option.bind_eq_bind, Option.bind_some,
      part?_literal]
    rfl

/-- A star is read in two steps, if no mark of reluctance follows. -/
theorem read_star (fuel : Nat) (names : List (List Char)) (above : List Level) (level : Level)
    {rest : List Char} (greedy : rest.head? ≠ some '?') :
    Reader.read (fuel + 2) ⟨caseless, names, above, level, ".*".toList ++ rest⟩ =
      Reader.read fuel ⟨caseless, names, above, level.add (Glyph.part none), rest⟩ := by
  have taken : takeReluctant rest = (true, rest) := by
    rw [takeReluctant]
    rintro tail rfl
    exact greedy rfl
  have skipped : skip caseless ('*' :: rest) = '*' :: rest := rfl
  have first : Reader.read (fuel + 2) ⟨caseless, names, above, level, ".*".toList ++ rest⟩ =
      Reader.read (fuel + 1) ⟨caseless, names, above, level.add ⟨.set (.except '\n'), 0, 400, true⟩,
        '*' :: rest⟩ := rfl
  rw [first]
  simp only [Reader.read, skipped, State.item, taken]
  rfl

theorem head?_write_ne (glyphs : List Glyph) :
    (write glyphs ++ "\\z".toList).head? ≠ some '?' := by
  cases glyphs with
  | nil => simp [write]
  | cons glyph rest =>
    rw [write_cons]
    cases glyph with
    | none => simp [Glyph.written]
    | some c =>
      simp only [Glyph.written, escapeChar]
      split
      · simp
      · next plain =>
        intro mark
        cases Option.some.inj mark
        exact plain rfl

theorem length_written_pos (glyph : Glyph) : 0 < glyph.written.length := by
  cases glyph with
  | none => exact Nat.succ_pos _
  | some c =>
    simp only [Glyph.written, escapeChar]
    split <;> exact Nat.succ_pos _

theorem read_write (names : List (List Char)) (level : Level) (glyphs : List Glyph) {fuel : Nat}
    (enough : (write glyphs ++ "\\z".toList).length < fuel) :
    Reader.read fuel ⟨caseless, names, [], level, write glyphs ++ "\\z".toList⟩ =
      some (Level.close { level with
        parts := ⟨.look .textEnd, 0, 32, true⟩ ::
          ((glyphs.map Glyph.part).reverse ++ level.parts) }) := by
  induction glyphs generalizing level fuel with
  | nil =>
    obtain ⟨more, rfl⟩ : ∃ more, fuel = more + 2 := ⟨fuel - 2, by simp [write] at enough; omega⟩
    rfl
  | cons glyph glyphs ih =>
    rw [write_cons, List.append_assoc, List.length_append] at enough
    have wide := length_written_pos glyph
    have whole : ∀ part : Part, (glyphs.map Glyph.part).reverse ++ (level.add part).parts =
        (glyphs.map Glyph.part).reverse ++ [part] ++ level.parts := by simp [Level.add]
    rw [write_cons, List.append_assoc, List.map_cons, List.reverse_cons, ← whole]
    cases glyph with
    | some c =>
      obtain ⟨more, rfl⟩ : ∃ more, fuel = more + 1 := ⟨fuel - 1, by omega⟩
      exact (read_char more names [] level c _).trans (ih (level.add _) (by omega))
    | none =>
      have two : Glyph.written none = ".*".toList := rfl
      obtain ⟨more, rfl⟩ : ∃ more, fuel = more + 2 := ⟨fuel - 2, by
        rw [two] at enough; simp at enough; omega⟩
      exact (read_star more names [] level (head?_write_ne glyphs)).trans
        (ih (level.add _) (by rw [two] at enough; simp at enough ⊢; omega))

theorem operand_part (glyph : Glyph) : glyph.part.operand = true := by
  cases glyph <;> rfl

theorem regex_part (glyph : Glyph) : glyph.part.regex = glyph.regex := by
  cases glyph <;> rfl

/-- The expression of a body: its glyphs, and the end of the name. -/
theorem readBody_write (glyphs : List Glyph) :
    readBody (write glyphs) = .seqAll (glyphs.map Glyph.regex ++ [.look .textEnd]) := by
  have reads := read_write [] ⟨caseless, [], []⟩ glyphs (Nat.lt_succ_self _)
  have taken : readBody (write glyphs) = ((Reader.read (write glyphs ++ "\\z".toList).length.succ
      ⟨caseless, [], [], ⟨caseless, [], []⟩, write glyphs ++ "\\z".toList⟩).map (·.regex)).getD
        (.set .empty) := rfl
  have operand : ∀ part ∈ glyphs.map Glyph.part, part.operand = true := by
    simp [operand_part]
  rw [taken, reads, Option.map_some, Option.getD_some, close_regex, List.append_nil]
  have ends : Begun (⟨.look .textEnd, 0, 32, true⟩ :: (glyphs.map Glyph.part).reverse) :=
    ⟨_, .head _, rfl⟩
  have all : operands (⟨.look .textEnd, 0, 32, true⟩ :: (glyphs.map Glyph.part).reverse) =
      glyphs.map Glyph.regex ++ [.look .textEnd] := by
    simp [operands, List.filter_eq_self.mpr operand, Function.comp_def, regex_part]
  rw [← all, ← joinParts_regex ends]
  rfl

end Highlighting.FilePattern
