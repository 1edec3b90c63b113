import Highlighting.Proofs.PatternParts
import Highlighting.Proofs.WrappedPattern

/-! The two forms of a rule. The written pattern is put into a group, behind an anchor in the one
form and behind an anchor and a character in the other. A pattern may close that group and go on
with alternatives of its own, which then stand beside the anchor in the first form, but not in the
second, where a group around all of it is left. -/
namespace Highlighting.Regex.Reader

/-- The start of the text, as both forms ask for it. -/
def anchor : Part := ⟨.look .textStart, 0, 32, true⟩

/-- The group of one character that comes first in the second form. -/
def anyChar : Part := ⟨.set .any, 1, 464, true⟩

/-- Two levels of which only the first has the anchor in front of its first alternative. -/
inductive Anchored : Level → Level → Prop
  | first {outer parts} : Begun parts → Anchored ⟨outer, [], parts ++ [anchor]⟩ ⟨outer, [], parts⟩
  | later {outer front branches parts} : Begun front →
    Anchored ⟨outer, branches ++ [joinParts (front ++ [anchor])], parts⟩
      ⟨outer, branches ++ [joinParts front], parts⟩

/-- The same, where a group may be the first thing behind the anchor. -/
inductive Awaiting : Level → Level → Prop
  | fresh (outer) : Awaiting ⟨outer, [], [anchor]⟩ ⟨outer, [], []⟩
  | begun {first second} : Anchored first second → Awaiting first second

theorem parallel_eq : Parallel Eq Eq where
  enter := id
  leave := by
    rintro level _ part _ rfl
    rfl
  add := by
    rintro level _ part rfl
    rfl
  branch := by
    rintro level _ rfl
    rfl
  repeated := by
    rintro level _ flags greedy least most parts rfl repeats
    exact ⟨parts, repeats, rfl⟩

theorem repeatLast_begun {flags : Flags} {greedy : Bool} {least : Nat} {most : Option Nat}
    {parts repeated : List Part}
    (repeats : repeatLast flags greedy least most parts = some repeated) :
    Begun repeated := by
  cases parts with
  | nil => cases repeats
  | cons part rest =>
    simp only [repeatLast, Option.ite_none_left_eq_some, Option.some.injEq] at repeats
    obtain ⟨_, rfl⟩ := repeats
    exact ⟨_, .head _, rfl⟩

theorem repeatLast_append (flags : Flags) (greedy : Bool) (least : Nat) (most : Option Nat)
    {parts : List Part} (begun : Begun parts) (more : List Part) :
    repeatLast flags greedy least most (parts ++ more) =
      (repeatLast flags greedy least most parts).map (· ++ more) := by
  cases parts with
  | nil =>
    obtain ⟨part, member, _⟩ := begun
    cases member
  | cons part rest =>
    simp only [repeatLast, List.cons_append]
    split <;> split <;> rfl

theorem Anchored.add {first second : Level} (anchored : Anchored first second) (part : Part) :
    Anchored (first.add part) (second.add part) := by
  cases anchored with
  | first begun =>
    obtain ⟨other, member, operand⟩ := begun
    exact .first ⟨other, .tail _ member, operand⟩
  | later begun => exact .later begun

theorem parallel_anchored : Parallel Awaiting Anchored where
  enter := .begun
  leave := by
    rintro first second part operand (⟨outer⟩ | anchored)
    · exact @Anchored.first outer [part] ⟨part, .head _, operand⟩
    · exact anchored.add part
  add := fun part anchored => anchored.add part
  branch := by
    rintro first second (@⟨outer, parts, begun⟩ | @⟨outer, front, branches, parts, begun⟩)
    · exact @Anchored.later outer parts [] [] begun
    · exact @Anchored.later outer front (joinParts parts :: branches) [] begun
  repeated := by
    rintro first second flags greedy least most repeated (@⟨outer, parts, begun⟩ | begun) repeats
    · rw [repeatLast_append flags greedy least most begun] at repeats
      obtain ⟨parts', repeats', rfl⟩ := Option.map_eq_some_iff.mp repeats
      exact ⟨parts', repeats', .first (repeatLast_begun repeats')⟩
    · exact ⟨repeated, repeats, .later begun⟩

theorem Anchored.close {first second : Level} (anchored : Anchored first second) :
    ∃ lead others, lead ≠ [] ∧
      first.close.regex = .altAll (.seqAll (.look .textStart :: lead) :: others) ∧
      second.close.regex = .altAll (.seqAll lead :: others) := by
  have whole : ∀ {parts : List Part}, Begun parts → (joinParts (parts ++ [anchor])).regex =
      .seqAll (.look .textStart :: operands parts) := by
    rintro parts ⟨part, member, operand⟩
    rw [joinParts_regex ⟨part, List.mem_append_left _ member, operand⟩, operands_concat _ rfl]
    rfl
  cases anchored with
  | @first outer parts begun =>
    refine ⟨operands parts, [], operands_ne_nil begun, ?_, ?_⟩
    · rw [close_regex, ← whole begun]
      rfl
    · rw [close_regex, ← joinParts_regex begun]
      rfl
  | @later outer front branches parts begun =>
    refine ⟨operands front, (joinParts parts :: branches).reverse.map (·.regex),
      operands_ne_nil begun, ?_, ?_⟩
    · rw [close_regex, ← whole begun, ← List.cons_append, List.reverse_append]
      rfl
    · rw [close_regex, ← joinParts_regex begun, ← List.cons_append, List.reverse_append]
      rfl

/-- A group of a pattern with no flags of its own, when its first parts have been read. -/
def plainLevel (classes : ClassName.Lookup) (parts : List Part) : Level :=
  ⟨.initial classes, [], parts⟩

variable {classes : ClassName.Lookup}

/- From the start of a form to the pattern, and from its end to the end of the form. -/

theorem read_prefix (fuel : Nat) (text : List Char) :
    read (fuel + 2) (.start (.initial classes) ("\\A(?:".toList ++ text)) =
      read fuel ⟨.initial classes, [], [plainLevel classes [anchor]], plainLevel classes [],
        text⟩ := rfl

theorem read_long_prefix (fuel : Nat) (text : List Char) :
    read (fuel + 6) (.start (.initial classes) ("\\A(?s:.)((?:".toList ++ text)) =
      read fuel ⟨.initial classes, [],
        [plainLevel classes [], plainLevel classes [anyChar, anchor]], plainLevel classes [],
        text⟩ := rfl

theorem read_closing {fuel : Nat} {flags : Flags} {names : List (List Char)} {outer level : Level}
    {above : List Level} {text rest : List Char} {part : Part}
    (next : skip flags text = ')' :: rest)
    (reads : read fuel ⟨flags, names, outer :: above, level, text⟩ = some part) :
    ∃ fuel', read fuel' ⟨level.outer, names, above, outer.add level.close.grouped, rest⟩ =
      some part := by
  cases fuel with
  | zero => cases reads
  | succ fuel =>
    simp only [read, next] at reads
    exact ⟨fuel, reads⟩

theorem skip_closing (flags : Flags) (rest : List Char) :
    skip flags (')' :: rest) = ')' :: rest := by
  cases verbose : flags.verbose <;> simp [skip, skipComments, verbose, Character.isBlank]

/-- Where the first reader is done, the second closes the group that the pattern stands in. -/
theorem read_behind {away here : Level → Level → Prop} {n : Nat} {outer : Level}
    {below : List Level} {last last' : State} {fuel : Nat} {part : Part}
    (alike : Alike away here (outer :: below) (n + 1) last last')
    (finished : skip last.flags last.text = []) (bottom : last.above = [])
    (reads : read fuel last' = some part) :
    here last.level last'.level ∧ ∃ more flags names,
      read more ⟨flags, names, below, outer.add last'.level.close.grouped,
        List.replicate n ')'⟩ = some part := by
  have skipped := skip_trails last.flags alike.trails
  rw [finished, alike.flags] at skipped
  have levels := alike.levels
  rw [bottom] at levels
  obtain ⟨reading, below'⟩ := levels.reading
  refine ⟨reading, ?_⟩
  obtain ⟨flags', names', above', level', text'⟩ := last'
  subst below'
  rcases skipped with closes | ⟨_, swallowed⟩
  · obtain ⟨more, reads⟩ := read_closing closes reads
    exact ⟨more, _, _, reads⟩
  · cases (read_end swallowed reads).1

/-- In groups a pattern is read as it is alone. -/
theorem read_grouped {pattern : List Char} {r : Regex}
    (written : ofText? classes pattern = some r) (n : Nat) {outer : Level} {below : List Level}
    {fuel : Nat} {part : Part} (enough : pattern.length < fuel)
    (reads : read fuel ⟨.initial classes, [], outer :: below, plainLevel classes [],
      pattern ++ List.replicate (n + 1) ')'⟩ = some part) :
    ∃ more flags names, ∃ inner : Part, inner.regex = r ∧
      read more ⟨flags, names, below, outer.add inner.grouped, List.replicate n ')'⟩ =
        some part := by
  obtain ⟨inner, alone, rfl⟩ := ofText?_reads written
  have start : Alike Eq Eq (outer :: below) (n + 1) (.start (.initial classes) pattern)
      ⟨.initial classes, [], outer :: below, plainLevel classes [],
        pattern ++ List.replicate (n + 1) ')'⟩ :=
    ⟨rfl, rfl, .bottom rfl, .append (n + 1) pattern⟩
  obtain ⟨last, last', steps, less, alike, finished, bottom, closed, run⟩ :=
    read_alike parallel_eq start alone
  obtain ⟨spare, rfl⟩ := Nat.exists_eq_add_of_le (Nat.le_trans (Nat.le_of_lt_succ less)
    (Nat.le_of_lt enough))
  rw [run] at reads
  obtain ⟨same, more, flags, names, reads⟩ := read_behind alike finished bottom reads
  rw [← same, closed] at reads
  exact ⟨more, flags, names, inner, rfl, reads⟩

end Highlighting.Regex.Reader

namespace Highlighting.Rule

open Regex Regex.Reader

variable {classes : ClassName.Lookup} {kind : Kind} {pattern : List Char} {rule : Rule}

/-- The forms of a pattern that is well-formed by itself. -/
theorem forms_of_ofText? {r : Regex} (written : Regex.ofText? classes pattern = some r)
    (accepted : ofPattern? classes kind pattern = some rule) :
    rule.atStart = .seq (.look .textStart) r ∧
      rule.behindChar = .seq (.look .textStart) (.seq (.set .any) r) := by
  obtain ⟨atStart, first, h⟩ := Option.bind_eq_some_iff.mp accepted
  obtain ⟨behindChar, second, h⟩ := Option.bind_eq_some_iff.mp h
  cases h
  constructor
  · obtain ⟨part, reads, rfl⟩ := ofText?_reads first
    rw [List.append_assoc, show _ + 1 = (pattern.length + 5) + 2 by simp, read_prefix] at reads
    obtain ⟨more, flags, names, inner, rfl, reads⟩ := read_grouped written 0 (by omega) reads
    obtain ⟨_, rfl⟩ := read_end (skip_nil flags) reads
    rfl
  · obtain ⟨part, reads, rfl⟩ := ofText?_reads second
    rw [List.append_assoc, show _ + 1 = (pattern.length + 9) + 6 by simp, read_long_prefix] at reads
    obtain ⟨more, flags, names, inner, rfl, reads⟩ := read_grouped written 1 (by omega) reads
    obtain ⟨more, reads⟩ := read_closing (skip_closing flags []) reads
    obtain ⟨_, rfl⟩ := read_end (skip_nil _) reads
    rfl

/-- The forms of any pattern that fits into both. -/
theorem forms_of_ofPattern? (accepted : ofPattern? classes kind pattern = some rule) :
    ∃ lead others, lead ≠ [] ∧
      rule.atStart = .altAll (.seqAll (.look .textStart :: lead) :: others) ∧
      rule.behindChar =
        .seqAll [.look .textStart, .set .any, .altAll (.seqAll lead :: others)] := by
  obtain ⟨atStart, first, h⟩ := Option.bind_eq_some_iff.mp accepted
  obtain ⟨behindChar, second, h⟩ := Option.bind_eq_some_iff.mp h
  cases h
  obtain ⟨part, reads, rfl⟩ := ofText?_reads first
  obtain ⟨part', reads', rfl⟩ := ofText?_reads second
  rw [List.append_assoc, show _ + 1 = (pattern.length + 5) + 2 by simp, read_prefix] at reads
  rw [List.append_assoc, show _ + 1 = (pattern.length + 9) + 6 by simp, read_long_prefix] at reads'
  have start : Alike Awaiting Anchored [plainLevel classes [anyChar, anchor]] 1
      ⟨.initial classes, [], [plainLevel classes [anchor]], plainLevel classes [],
        pattern ++ ")".toList⟩
      ⟨.initial classes, [], [plainLevel classes [], plainLevel classes [anyChar, anchor]],
        plainLevel classes [], pattern ++ "))".toList⟩ :=
    ⟨rfl, rfl, .inside _ [] (.fresh (.initial classes)), .inl (by simp)⟩
  obtain ⟨last, last', steps, less, alike, finished, bottom, rfl, run⟩ :=
    read_alike parallel_anchored start reads
  obtain ⟨spare, fuel⟩ := Nat.exists_eq_add_of_le (by omega : steps ≤ pattern.length + 9)
  rw [fuel, run] at reads'
  obtain ⟨anchored, more, flags, names, reads'⟩ := read_behind alike finished bottom reads'
  obtain ⟨_, rfl⟩ := read_end (skip_nil flags) reads'
  obtain ⟨lead, others, some, front, behind⟩ := anchored.close
  refine ⟨lead, others, some, front, ?_⟩
  rw [← behind]
  rfl

end Highlighting.Rule
