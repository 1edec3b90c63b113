import Highlighting.Proofs.GlobMatching

/-! Stars in an extension. Everywhere else a star of a file pattern stands for any characters, but
behind `*.` it is taken for the character that it is. A pattern with such a star matches names that
have the star themselves, and misses others that its pieces describe. -/
namespace Highlighting

namespace FilePattern

/-- A name that ends in the pieces between the stars of a pattern, the one that it may begin with
apart. -/
def Describes (source : String) (name : String) : Prop :=
  ∃ suffix, suffix <:+ name.toList ∧ Joins ((dropStar source.toList).splitOn '*') suffix

theorem eq_star_of_same {c : Char} (alike : CaseFold.same '*' c = true) : c = '*' := by
  have alone : ¬ (CaseFold.orbit '*'.toNat).any (· ≠ '*'.toNat) := by decide +kernel
  have inside := (CharSet.contains_single_of_alone alone c).mpr alike
  exact Char.toNat_inj.mp ((CharSet.mem_single '*' c.toNat).mp inside)

theorem star_mem_of_spells {piece text : List Char} (spelled : Spells piece text)
    (starred : '*' ∈ piece) : '*' ∈ text := by
  induction spelled with
  | nil => cases starred
  | cons alike _ ih =>
    rcases List.mem_cons.mp starred with rfl | later
    · rw [eq_star_of_same alike]
      exact List.mem_cons_self
    · exact List.mem_cons_of_mem _ (ih later)

/- A star stands for itself among other things, and for nothing among other things. -/

theorem fits_of_spells {chars text : List Char} (spelled : Spells chars text) :
    Fits (chars.map Glyph.ofChar) text := by
  induction spelled with
  | nil => exact .nil
  | @cons c d chars text alike _ ih =>
    rw [List.map_cons, Glyph.ofChar]
    split
    · next star =>
      rw [star] at alike
      rw [eq_star_of_same alike]
      exact .pass (by decide) (.leave ih)
    · exact .char alike ih

theorem fits_filter (chars : List Char) :
    Fits (chars.map Glyph.ofChar) (chars.filter (· ≠ '*')) := by
  induction chars with
  | nil => exact .nil
  | cons c chars ih =>
    rw [List.map_cons, Glyph.ofChar]
    split
    · next star =>
      rw [List.filter_cons_of_neg (by simpa using star)]
      exact .leave ih
    · next other =>
      rw [List.filter_cons_of_pos (by simpa using other)]
      exact .char (beq_iff_eq.mpr rfl) ih

/-- A pattern of `*.` and an extension with a star matches what ends in a dot and that extension,
star and all. Such a name is one that the pattern describes, and has a star; where no separator
stands in the extension, there is a name that the pattern describes and does not match. -/
theorem isMatch_of_starred_extension {source : String} {extension : List Char}
    (form : source.toList = '*' :: '.' :: extension) (starred : '*' ∈ extension) :
    (∀ path, (ofText source).isMatch path = true ↔
      ∃ suffix, suffix <:+ (FileName.base path).toList ∧ Spells ('.' :: extension) suffix) ∧
    (∀ path, (ofText source).isMatch path = true →
      '*' ∈ (FileName.base path).toList ∧ Describes source (FileName.base path)) ∧
    ('/' ∉ extension → ∃ path,
      Describes source (FileName.base path) ∧ (ofText source).isMatch path = false) := by
  have inside : '*' ∈ '.' :: extension := List.mem_cons_of_mem _ starred
  have pieces : dropStar source.toList = '.' :: extension := by rw [form]; rfl
  have matched : ∀ path, (ofText source).isMatch path = true ↔
      ∃ suffix, suffix <:+ (FileName.base path).toList ∧ Spells ('.' :: extension) suffix := by
    intro path
    rw [ofText, form, body?_of_extension, isMatch_write]
    simp only [fits_map_some_iff]
  have has_star : ∀ path, (ofText source).isMatch path = true →
      '*' ∈ (FileName.base path).toList := by
    intro path found
    obtain ⟨suffix, ends, spelled⟩ := (matched path).mp found
    exact ends.subset (star_mem_of_spells spelled inside)
  refine ⟨matched, fun path found => ⟨has_star path found, ?_⟩, fun flat => ?_⟩
  · obtain ⟨suffix, ends, spelled⟩ := (matched path).mp found
    refine ⟨suffix, ends, ?_⟩
    rw [pieces, ← fits_iff_joins]
    exact fits_of_spells spelled
  · -- The pieces one behind the other, with nothing between them.
    let name := ('.' :: extension).filter (· ≠ '*')
    have whole : FileName.base (String.ofList name) = String.ofList name := by
      refine FileName.base_of_flat ?_
      simp [name, flat]
    refine ⟨String.ofList name, ⟨name, by simp [whole], ?_⟩, ?_⟩
    · rw [pieces, ← fits_iff_joins]
      exact fits_filter _
    · refine Bool.eq_false_iff.mpr fun found => ?_
      have star := has_star _ found
      rw [whole] at star
      simp [name] at star

theorem isMatch_of_starred_archive :
    (ofText "*.tar.*").isMatch "b/A.TAR.*" = true ∧ Describes "*.tar.*" "A.TAR.*" := by
  have form : "*.tar.*".toList = '*' :: '.' :: "tar.*".toList := by decide
  have law := isMatch_of_starred_extension form (by decide)
  have base : FileName.base "b/A.TAR.*" = "A.TAR.*" := by decide
  have found : (ofText "*.tar.*").isMatch "b/A.TAR.*" = true := by
    refine (law.1 _).mpr ⟨".TAR.*".toList, ?_, ?_⟩
    · rw [base]
      exact ⟨['A'], by decide⟩
    · simp [Spells, CaseFold.same, CaseFold.fold]
  exact ⟨found, base ▸ (law.2.1 _ found).2⟩

theorem starred_extension_misses_archive :
    (ofText "*.tar.*").isMatch "a.tar.gz" = false ∧
      Describes "*.tar.*" (FileName.base "a.tar.gz") := by
  have base : FileName.base "a.tar.gz" = "a.tar.gz" := by decide
  have pieces : (dropStar "*.tar.*".toList).splitOn '*' = [".tar.".toList, []] := by decide
  have front : Spells ".tar.".toList ".tar.".toList := by
    simp [Spells, CaseFold.same, CaseFold.fold]
  have joins : Joins [".tar.".toList, []] (".tar.".toList ++ "gz".toList ++ []) :=
    .cons front (by decide) (.last .nil)
  rw [base]
  refine ⟨by decide +kernel, ".tar.gz".toList, ⟨['a'], by decide⟩, ?_⟩
  rw [pieces]
  exact joins

end FilePattern

end Highlighting
