import Highlighting.Proofs.PreferredMatch
import Highlighting.Proofs.RuleForms
import Highlighting.Proofs.RuleTokens
import Highlighting.Proofs.Utf8

/-! A rule in its context. The matcher that a rule runs begins at most one character to the left of
where the rule is tried, and sees nothing before that. What the rule claims is nevertheless what its
pattern prefers in the whole text, since no assertion asks for more than one character. -/
namespace Highlighting

@[simp] theorem CharSet.contains_any (c : Char) : CharSet.any.contains c = true := rfl

namespace Regex

/-- How many bytes the preferred match takes that begins between two parts of a text. -/
def preferredSize? (r : Regex) (before after : List Char) : Option Nat :=
  (r.preferredEnd? before after).map fun stop =>
    Utf8.byteLength (((before ++ after).take stop).drop before.length)

theorem preferredSize?_eq (r : Regex) (before after : List Char) :
    r.preferredSize? before after =
      (r.matchAt before.getLast? after).map fun n => Utf8.byteLength (after.take n) := by
  rw [preferredSize?, preferredEnd?_eq, Option.map_map]
  congr 1
  funext n
  rw [Function.comp_apply, Nat.add_comm, List.take_length_add_append, List.drop_left']
  rfl

theorem matchAt_none_eq (r : Regex) (text : List Char) :
    r.matchAt none text = (ends [] text [r]).head? := by
  have whole := preferredEnd?_eq r [] text
  simpa [preferredEnd?] using whole.symm

theorem matchAt_some_eq (r : Regex) (c : Char) (text : List Char) :
    (r.matchAt (some c) text).map (· + 1) = (ends [c] text [r]).head? :=
  (preferredEnd?_eq r [c] text).symm

end Regex

namespace Rule

open Regex

/-- Behind a character the form that begins with one claims what its match takes further on. -/
theorem claim_behind {rule : Rule} (anchored : rule.behindChar.startsAtTextStart = true) {c : Char}
    {text : List Char} {taken : Option Nat}
    (found : rule.behindChar.matchAt none (c :: text) = taken.map (· + 1)) :
    rule.claim (some c) text = taken.filter (0 < ·) := by
  simp [claim, find, anchored, found, Function.comp_def]

variable {classes : ClassName.Lookup} {kind : Kind} {pattern : List Char} {r : Regex} {rule : Rule}

/-- Both forms of a rule find what the pattern itself prefers. -/
theorem claim_eq_matchAt (written : Regex.ofText? classes pattern = some r)
    (accepted : ofPattern? classes kind pattern = some rule) (before : Option Char)
    (text : List Char) :
    rule.claim before text = (r.matchAt before text).filter (0 < ·) := by
  obtain ⟨front, behind⟩ := forms_of_ofText? written accepted
  cases before with
  | none =>
    have same : rule.atStart.matchAt none text = r.matchAt none text := by
      simp [front, matchAt_none_eq, ends_textStart]
    have anchored : rule.atStart.startsAtTextStart = true := by rw [front]; rfl
    simp [claim, find, anchored, same, Function.comp_def]
  | some c =>
    refine claim_behind (by rw [behind]; rfl) ?_
    simp [behind, matchAt_none_eq, matchAt_some_eq, ends_textStart, ends_set_cons]

/-- At every place between characters a rule claims as much as the preferred match of its pattern
takes there in the whole text, and claims nothing where that match is empty or there is none. -/
theorem claimAt?_eq_preferred (written : Regex.ofText? classes pattern = some r)
    (accepted : ofPattern? classes kind pattern = some rule) (text : List Char) (start : Nat) :
    rule.claimAt? text start = (Utf8.splitAt? start text).map fun (before, after) =>
      (r.preferredSize? before after).filter (0 < ·) := by
  unfold claimAt?
  congr 1
  funext ⟨before, after⟩
  simp only [claim_eq_matchAt written accepted, preferredSize?_eq]
  cases matched : r.matchAt before.getLast? after with
  | none => rfl
  | some n => exact (filter_byteLength_take (matchAt_le matched)).symm

theorem claimAt?_eq_preferred_of_word :
    ∃ r rule, Regex.ofText? .standard "\\ba\\b".toList = some r ∧
      ofPattern? .standard ⟨"K"⟩ "\\ba\\b".toList = some rule ∧
      rule.claimAt? "é a".toList 3 = some (some 1) ∧ rule.claimAt? "ba".toList 1 = some none := by
  have written : Regex.ofText? .standard "\\ba\\b".toList = some (.seqAll
      [.look (.wordBoundary false), .char 'a', .look (.wordBoundary false)]) := by decide +kernel
  have fits : (ofPattern? .standard ⟨"K"⟩ "\\ba\\b".toList).isSome := by decide +kernel
  obtain ⟨rule, accepted⟩ := Option.isSome_iff_exists.mp fits
  refine ⟨_, rule, written, accepted, ?_⟩
  rw [claimAt?_eq_preferred written accepted, claimAt?_eq_preferred written accepted]
  decide +kernel

end Rule

end Highlighting
