import Highlighting.Proofs.LeftContext

/-! Rules without assertions. Such a rule has no use for the character on the left, and should claim
as much at the start of a text as behind other characters. It does, unless its pattern closes the
group it is put into: an alternative behind that group is not anchored at the start of a text, where
a match may then begin later on. -/
namespace Highlighting

namespace Regex

/-- The assertions in an expression, in the order in which they are written. -/
def looks : Regex → List Assertion
  | .look assertion => [assertion]
  | .seq a b => a.looks ++ b.looks
  | .alt a b => a.looks ++ b.looks
  | .loop _ a => a.looks
  | _ => []

theorem looks_seqAll (rs : List Regex) : (seqAll rs).looks = rs.flatMap looks := by
  induction rs with
  | nil => rfl
  | cons r rest ih =>
    cases rest with
    | nil => simp [seqAll]
    | cons s rest => simp only [seqAll, looks, ih, List.flatMap_cons]

theorem looks_altAll (rs : List Regex) : (altAll rs).looks = rs.flatMap looks := by
  induction rs with
  | nil => rfl
  | cons r rest ih =>
    cases rest with
    | nil => simp [altAll]
    | cons s rest => simp only [altAll, looks, ih, List.flatMap_cons]

/- Only assertions ask for the character on the left, and only the first step is told of it. -/

theorem openHead_of_no_looks {r : Regex} (free : r.looks = []) (before other after : Option Char)
    (way : Way) (next : Opening → Opening) :
    openHead before after r way next = openHead other after r way next := by
  induction r generalizing way next with
  | empty => rfl
  | look assertion => cases free
  | set chars => rfl
  | seq a b iha ihb =>
    obtain ⟨freea, freeb⟩ := List.append_eq_nil_iff.mp free
    simp only [openHead, iha freea, ihb freeb]
  | alt a b iha ihb =>
    obtain ⟨freea, freeb⟩ := List.append_eq_nil_iff.mp free
    funext found
    simp only [openHead, iha freea, ihb freeb]
  | loop greedy a iha =>
    funext found
    simp only [openHead, iha free]

theorem matchAt_of_no_looks {r : Regex} (free : r.looks = []) (before : Option Char)
    (text : List Char) : r.matchAt before text = r.matchAt none text := by
  have same : ∀ after, advance before after [[r]] = advance none after [[r]] := by
    intro after
    simp only [advance, openWays, openWay, openHead_of_no_looks free before none]
  cases text <;> simp only [matchAt, follow, same]

/- Searching finds what matches at the start, if anything does, and else something further on. -/

theorem findFrom_ge {r : Regex} {before : Option Char} {skipped : Nat} {text : List Char}
    {start length : Nat} (found : r.findFrom before skipped text = some (start, length)) :
    skipped ≤ start := by
  induction text generalizing before skipped with
  | nil =>
    simp only [findFrom, Option.map_eq_some_iff, Prod.mk.injEq] at found
    obtain ⟨n, _, rfl, rfl⟩ := found
    exact Nat.le_refl _
  | cons c rest ih =>
    simp only [findFrom] at found
    split at found
    · cases found
      exact Nat.le_refl _
    · exact Nat.le_of_succ_le (ih found)

theorem find_of_matchAt {r : Regex} {text : List Char} {n : Nat}
    (matched : r.matchAt none text = some n) : r.find text = some (0, n) := by
  cases text <;> simp [find, findFrom, matched]

theorem find_pos {r : Regex} {text : List Char} {start length : Nat}
    (unmatched : r.matchAt none text = none) (found : r.find text = some (start, length)) :
    0 < start := by
  simp only [find, unmatched, Option.map_none, Option.ite_none_left_eq_some] at found
  cases text with
  | nil => simp [findFrom, unmatched] at found
  | cons c rest =>
    simp only [findFrom, unmatched] at found
    exact findFrom_ge found.2

end Regex

namespace Rule

open Regex

/-- A rule with no assertion in either form but the start of the text, which each begins with. -/
def Plain (rule : Rule) : Prop := rule.atStart.looks = [.textStart]

variable {classes : ClassName.Lookup} {kind : Kind} {pattern : List Char} {rule : Rule}

/-- What a plain rule finds at the start of a text, before anything is tried further on, it finds
behind any character. -/
theorem claim_of_plain (accepted : ofPattern? classes kind pattern = some rule)
    (plain : rule.Plain) (c : Char) (text : List Char) :
    rule.claim (some c) text = (rule.atStart.matchAt none text).filter (0 < ·) := by
  obtain ⟨lead, others, filled, front, behind⟩ := forms_of_ofPattern? accepted
  have free : (altAll (seqAll lead :: others)).looks = [] := by
    rw [Plain, front, looks_altAll, List.flatMap_cons, looks_seqAll, List.flatMap_cons] at plain
    rw [looks_altAll, List.flatMap_cons, looks_seqAll]
    exact List.cons_injective plain
  have same : rule.atStart.matchAt none text =
      (altAll (seqAll lead :: others)).matchAt none text := by
    obtain ⟨first, lead, rfl⟩ := List.exists_cons_of_ne_nil filled
    simp [front, matchAt_none_eq, ends_altAll, seqAll, ends_textStart]
  refine claim_behind (by rw [behind]; rfl) ?_
  rw [same, ← matchAt_of_no_looks free (some c)]
  simp [behind, seqAll, matchAt_none_eq, matchAt_some_eq, ends_textStart, ends_set_cons]

theorem claimAt?_append (rule : Rule) (left text : List Char) :
    rule.claimAt? (left ++ text) (Utf8.byteLength left) =
      some ((rule.claim left.getLast? text).map fun n => Utf8.byteLength (text.take n)) := by
  rw [claimAt?, Utf8.splitAt?_append, Option.map_some]

/-- What a plain rule claims behind other characters, it claims at the start of a text. The two
agree exactly where what is found at the start of the text begins there, and for a pattern that is
well-formed by itself they always do. -/
theorem forms_agree_iff (accepted : ofPattern? classes kind pattern = some rule)
    (plain : rule.Plain) {left : List Char} (filled : left ≠ []) (text : List Char) :
    (∀ size, rule.claimAt? (left ++ text) (Utf8.byteLength left) = some (some size) →
      rule.claimAt? text 0 = some (some size)) ∧
    (rule.claimAt? (left ++ text) (Utf8.byteLength left) = rule.claimAt? text 0 ↔
      ∀ start length, rule.atStart.find text = some (start, length) → start = 0) ∧
    ((Regex.ofText? classes pattern).isSome →
      rule.claimAt? (left ++ text) (Utf8.byteLength left) = rule.claimAt? text 0) := by
  obtain ⟨front, c, rfl⟩ := (List.eq_nil_or_concat left).resolve_left filled
  have here := rule.claimAt?_append [] text
  rw [List.nil_append, Utf8.byteLength_nil, List.getLast?_nil] at here
  rw [claimAt?_append, here, List.concat_eq_append, List.getLast?_concat,
    claim_of_plain accepted plain]
  cases matched : rule.atStart.matchAt none text with
  | some n => simp [claim, find_of_matchAt matched]
  | none =>
    cases found : rule.atStart.find text with
    | none => simp [claim, found]
    | some place =>
      obtain ⟨start, length⟩ := place
      have late := find_pos matched found
      have claims : rule.claim none text = some (start + length) := by
        simp [claim, found, Option.filter_some]
        omega
      refine ⟨by simp, ⟨by simp [claims], ?_⟩, ?_⟩
      · intro begins
        have := begins start length rfl
        omega
      · intro whole
        obtain ⟨r, written⟩ := Option.isSome_iff_exists.mp whole
        obtain ⟨anchored, _⟩ := forms_of_ofText? written accepted
        have first : rule.atStart.startsAtTextStart = true := by rw [anchored]; rfl
        simp [find, first, matched] at found

/- A pattern that closes the group it is put into, and opens another one. -/

theorem ofPattern?_of_open_pattern :
    ofPattern? .standard ⟨"K"⟩ "a)|(?:b".toList = some
      ⟨⟨"K"⟩, .alt (.seq (.look .textStart) (.char 'a')) (.char 'b'),
        .seqAll [.look .textStart, .set .any, .alt (.char 'a') (.char 'b')]⟩ := by
  decide +kernel

theorem forms_agree_of_open_pattern :
    ∃ rule, ofPattern? .standard ⟨"K"⟩ "a)|(?:b".toList = some rule ∧ rule.Plain ∧
      rule.claimAt? "ub".toList 1 = rule.claimAt? "b".toList 0 := by
  refine ⟨_, ofPattern?_of_open_pattern, rfl, ?_⟩
  have agree := forms_agree_iff ofPattern?_of_open_pattern rfl (List.cons_ne_nil 'u' []) ['b']
  refine agree.2.1.mpr ?_
  intro start length found
  have first : (0, 1) = (start, length) := Option.some.inj found
  cases first
  rfl

/-- At the start of a text the other alternative is not anchored, and what is passed over to get to
it is claimed with it. -/
theorem claims_more_at_start :
    ∃ rule, ofPattern? .standard ⟨"K"⟩ "a)|(?:b".toList = some rule ∧ rule.Plain ∧
      rule.claimAt? "xxb".toList 0 = some (some 3) ∧
      rule.claimAt? "uxxb".toList 1 = some none :=
  ⟨_, ofPattern?_of_open_pattern, rfl, by decide +kernel⟩

end Rule

end Highlighting
