import Highlighting.Regex.Reader

/-! What reading comes to. A level is closed to an alternation of sequences, one of the parts of
each alternative, and what is left when the text is at its end is the expression of the whole. -/
namespace Highlighting.Regex.Reader

/-- Parts of which one can be repeated. -/
def Begun (parts : List Part) : Prop := ∃ part ∈ parts, part.operand

/-- The expressions of an alternative, first to last. -/
def operands (parts : List Part) : List Regex :=
  (parts.reverse.filter (·.operand)).map (·.regex)

theorem operands_concat (parts : List Part) {part : Part} (operand : part.operand) :
    operands (parts ++ [part]) = part.regex :: operands parts := by
  simp [operands, operand]

theorem operands_ne_nil {parts : List Part} (begun : Begun parts) : operands parts ≠ [] := by
  obtain ⟨part, member, operand⟩ := begun
  have among : part.regex ∈ operands parts :=
    List.mem_map_of_mem (List.mem_filter.mpr ⟨List.mem_reverse.mpr member, operand⟩)
  exact List.ne_nil_of_mem among

theorem joinParts_regex {parts : List Part} (begun : Begun parts) :
    (joinParts parts).regex = .seqAll (operands parts) := by
  obtain ⟨part, member, operand⟩ := begun
  simp only [joinParts, operands]
  split
  · next none =>
    rw [List.reverse_eq_nil_iff.mp none] at member
    cases member
  · next only one =>
    rw [← List.mem_reverse, one, List.mem_singleton] at member
    subst member
    simp [one, operand, seqAll]
  · rfl

theorem close_regex (level : Level) :
    level.close.regex =
      .altAll ((joinParts level.parts :: level.branches).reverse.map (·.regex)) := by
  simp only [Level.close]
  split
  · next only one => rw [one]; rfl
  · rfl

theorem read_end {fuel : Nat} {flags : Flags} {names : List (List Char)} {above : List Level}
    {level : Level} {text : List Char} {part : Part} (finished : skip flags text = [])
    (reads : read fuel ⟨flags, names, above, level, text⟩ = some part) :
    above = [] ∧ level.close = part := by
  cases fuel with
  | zero => cases reads
  | succ fuel =>
    simp only [read, finished, List.isEmpty_iff, Option.ite_none_right_eq_some,
      Option.some.injEq] at reads
    exact reads

theorem skip_nil (flags : Flags) : skip flags [] = [] := by
  cases verbose : flags.verbose <;> simp [skip, skipComments, verbose]

theorem ofText?_reads {classes : ClassName.Lookup} {text : List Char} {r : Regex}
    (written : ofText? classes text = some r) :
    ∃ part : Part, read (text.length + 1) (.start (.initial classes) text) = some part ∧
      part.regex = r := by
  unfold ofText? at written
  split at written
  · next part reads =>
    rw [Option.ite_none_right_eq_some] at written
    exact ⟨part, reads, Option.some.inj written.2⟩
  · cases written

end Highlighting.Regex.Reader
