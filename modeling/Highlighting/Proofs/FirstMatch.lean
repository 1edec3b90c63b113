import Highlighting.Proofs.Parting
import Highlighting.Proofs.RuleTokens

/-! First match. At each offset the rules of a table settle who wins: the first that claims
something there. That and the demand that plain text be as long as it can be leave a text one way
to be cut, and the loop over the text finds it. Rules that are appended win only where no rule
before them does. -/
namespace Highlighting

namespace Rule

/-- No rule claims anything at an offset between characters. -/
def Unclaimed (rules : List Rule) (text : List Char) (offset : Nat) : Prop :=
  ∀ rule ∈ rules, rule.claimAt? text offset = some none

/-- A rule claims so many bytes at an offset, and no rule before it claims anything. -/
def Wins (rules : List Rule) (text : List Char) (offset : Nat) (rule : Rule) (size : Nat) : Prop :=
  ∃ earlier later, rules = earlier ++ rule :: later ∧ Unclaimed earlier text offset ∧
    rule.claimAt? text offset = some (some size)

/-- No rule claims anything between the characters from `start` on and before `stop`. -/
def Quiet (rules : List Rule) (text : List Char) (start stop : Nat) : Prop :=
  ∀ offset, start ≤ offset → offset < stop → (Utf8.splitAt? offset text).isSome = true →
    Unclaimed rules text offset

/- The two sorts of tokens. A rule may have the kind of plain text, so that the kind does not tell
them apart. -/

def Claimed (rules : List Rule) (text : List Char) (p : Viewport.Placed) : Prop :=
  ∃ rule, Wins rules text p.start rule (Utf8.byteLength p.token.text) ∧ p.token.kind = rule.kind

structure Gap (rules : List Rule) (text : List Char) (p : Viewport.Placed) : Prop where
  kind : p.token.kind = .text
  quiet : Quiet rules text p.start p.stop

/-- Tokens from a position on are claimed or gaps, and no gap is followed by another. -/
structure FirstMatch (rules : List Rule) (text : List Char) (position : Nat)
    (tokens : List Token) : Prop where
  each : ∀ p ∈ Viewport.placed position tokens, Claimed rules text p ∨ Gap rules text p
  apart : (Viewport.placed position tokens).IsChain fun p q =>
    ¬ (Gap rules text p ∧ Gap rules text q)

/- Winning, along the table. -/

theorem not_wins_nil {text : List Char} {offset size : Nat} {rule : Rule} :
    ¬ Wins [] text offset rule size := by
  rintro ⟨earlier, later, split, _⟩
  simp at split

theorem unclaimed_cons {first : Rule} {rules : List Rule} {text : List Char} {offset : Nat} :
    Unclaimed (first :: rules) text offset ↔
      first.claimAt? text offset = some none ∧ Unclaimed rules text offset := by
  simp [Unclaimed]

theorem wins_cons {first rule : Rule} {rules : List Rule} {text : List Char} {offset size : Nat} :
    Wins (first :: rules) text offset rule size ↔
      first = rule ∧ rule.claimAt? text offset = some (some size) ∨
        first.claimAt? text offset = some none ∧ Wins rules text offset rule size := by
  constructor
  · rintro ⟨earlier, later, split, passed, claimed⟩
    cases earlier with
    | nil =>
      obtain ⟨rfl, _⟩ := List.cons.inj split
      exact .inl ⟨rfl, claimed⟩
    | cons other earlier =>
      obtain ⟨rfl, rest⟩ := List.cons.inj split
      obtain ⟨none, passed⟩ := unclaimed_cons.mp passed
      exact .inr ⟨none, earlier, later, rest, passed, claimed⟩
  · rintro (⟨rfl, claimed⟩ | ⟨none, earlier, later, rfl, passed, claimed⟩)
    · exact ⟨[], rules, rfl, fun _ h => (List.not_mem_nil h).elim, claimed⟩
    · exact ⟨first :: earlier, later, rfl, unclaimed_cons.mpr ⟨none, passed⟩, claimed⟩

theorem wins_iff {rules : List Rule} {text : List Char} {offset : Nat} {rule : Rule} {size : Nat} :
    Wins rules text offset rule size ↔
      firstClaimAt? text offset rules = some (some (rule, size)) := by
  induction rules with
  | nil => simp [not_wins_nil, firstClaimAt?]
  | cons first rules ih =>
    rw [wins_cons, firstClaimAt?, lengthAt?_eq_claimAt?, ih]
    cases claimed : first.claimAt? text offset with
    | none =>
      have other : first = rule → rule.claimAt? text offset = none := fun same => same ▸ claimed
      simp +contextual [other]
    | some answer =>
      cases answer with
      | none =>
        have other : first = rule → rule.claimAt? text offset = some none :=
          fun same => same ▸ claimed
        simp +contextual [other]
      | some n =>
        have same : first = rule → rule.claimAt? text offset = some (some n) :=
          fun same => same ▸ claimed
        simp +contextual [same]

theorem unclaimed_of_firstClaimAt? {rules : List Rule} {text : List Char} {offset : Nat}
    (unclaimed : firstClaimAt? text offset rules = some none) : Unclaimed rules text offset := by
  induction rules with
  | nil => exact fun _ h => (List.not_mem_nil h).elim
  | cons first rules ih =>
    rw [firstClaimAt?, lengthAt?_eq_claimAt?] at unclaimed
    split at unclaimed
    · cases unclaimed
    · cases unclaimed
    · next none => exact unclaimed_cons.mpr ⟨none, ih unclaimed⟩

theorem wins_append {rules more : List Rule} {text : List Char} {offset : Nat} {rule : Rule}
    {size : Nat} :
    Wins (rules ++ more) text offset rule size ↔
      Wins rules text offset rule size ∨
        Unclaimed rules text offset ∧ Wins more text offset rule size := by
  induction rules with
  | nil => simp [not_wins_nil, Unclaimed]
  | cons first rules ih =>
    rw [List.cons_append, wins_cons, wins_cons, unclaimed_cons, ih]
    grind

theorem Wins.unique {rules : List Rule} {text : List Char} {offset : Nat} {rule other : Rule}
    {size n : Nat} (wins : Wins rules text offset rule size)
    (again : Wins rules text offset other n) : rule = other ∧ size = n := by
  have same := (wins_iff.mp wins).symm.trans (wins_iff.mp again)
  cases same
  exact ⟨rfl, rfl⟩

/- A winner is between characters, so that no quiet stretch holds its offset. -/
theorem Wins.not_quiet {rules : List Rule} {text : List Char} {offset : Nat} {rule : Rule}
    {size start stop : Nat} (wins : Wins rules text offset rule size) (low : start ≤ offset)
    (high : offset < stop) : ¬ Quiet rules text start stop := by
  intro quiet
  obtain ⟨earlier, later, rfl, _, claimed⟩ := wins
  have between : (Utf8.splitAt? offset text).isSome = true := by
    rw [claimAt?] at claimed
    obtain ⟨_, split, _⟩ := Option.map_eq_some_iff.mp claimed
    rw [split]
    rfl
  have none := quiet offset low high between rule (by simp)
  rw [claimed] at none
  cases none

/- A token is a claim or a gap as its beginning settles it. -/

theorem settled (rules : List Rule) (text : List Char) :
    Viewport.Settled (Claimed rules text) (Gap rules text) where
  claim := by
    rintro ⟨start, token⟩ ⟨_, other⟩ ⟨rule, wins, kind⟩ ⟨rival, wins_again, kind_again⟩ rfl
    obtain ⟨rfl, size⟩ := wins.unique wins_again
    exact ⟨kind.trans kind_again.symm, size⟩
  outside := by
    rintro p q ⟨rule, wins, _⟩ gap low high
    exact wins.not_quiet low high gap.quiet
  plain gap := gap.kind

theorem firstMatch_iff {rules : List Rule} {text : List Char} {position : Nat}
    {tokens : List Token} :
    FirstMatch rules text position tokens ↔
      Viewport.Parted (Claimed rules text) (Gap rules text) position tokens :=
  ⟨fun first => ⟨first.each, first.apart⟩, fun parted => ⟨parted.each, parted.apart⟩⟩

/- Quiet stretches, a character at a time. -/

theorem quiet_nil (rules : List Rule) (text : List Char) (offset : Nat) :
    Quiet rules text offset offset :=
  fun _ low high _ => absurd low (Nat.not_le.mpr high)

theorem Quiet.concat {rules : List Rule} {before rest : List Char} {c : Char} {start : Nat}
    (quiet : Quiet rules (before ++ c :: rest) start (Utf8.byteLength before))
    (unclaimed : Unclaimed rules (before ++ c :: rest) (Utf8.byteLength before)) :
    Quiet rules (before ++ c :: rest) start (Utf8.byteLength (before ++ [c])) := by
  intro offset low high between
  rcases Nat.lt_trichotomy offset (Utf8.byteLength before) with earlier | rfl | inside
  · exact quiet offset low earlier between
  · exact unclaimed
  · obtain ⟨⟨left, right⟩, split⟩ := Option.isSome_iff_exists.mp between
    obtain ⟨same, rfl⟩ := Utf8.splitAt?_eq_some_iff.mp split
    rw [Utf8.byteLength_append] at high
    exact absurd ⟨inside, high⟩ (Utf8.not_inside_char same.symm)

/- The tokens of the loop. -/

theorem plainToken_parted {rules : List Rule} {text done plain : List Char}
    (quiet : Quiet rules text (Utf8.byteLength done) (Utf8.byteLength (done ++ plain.reverse))) :
    Viewport.Parted (Claimed rules text) (Gap rules text) (Utf8.byteLength done)
      (plainToken plain) := by
  rw [Utf8.byteLength_append] at quiet
  rw [plainToken_eq_gap, ← List.append_nil (Capture.gap _)]
  exact Viewport.Settled.parted_gap (fun _ => ⟨rfl, quiet⟩) (by simp [Viewport.placed])
    (Viewport.parted_nil ..)

/-- The loop, behind `done` in tokens and `plain` held back, where nothing was claimed. -/
theorem tokensFrom_firstMatch (rules : List Rule) (done plain text : List Char) (steps : Nat)
    (quiet : Quiet rules (done ++ plain.reverse ++ text) (Utf8.byteLength done)
      (Utf8.byteLength (done ++ plain.reverse))) :
    FirstMatch rules (done ++ plain.reverse ++ text) (Utf8.byteLength done)
      (tokensFrom rules steps (done ++ plain.reverse).getLast? plain text) := by
  rw [firstMatch_iff]
  induction steps generalizing done plain text with
  | zero => exact plainToken_parted quiet
  | succ steps ih =>
    cases text with
    | nil => exact plainToken_parted quiet
    | cons c rest =>
      rw [tokensFrom]
      split
      · next rule n first =>
        obtain ⟨claimed, behind, split, rfl, filled⟩ := exists_claimed first
        rw [split] at first quiet ⊢
        have wins : Wins rules (done ++ plain.reverse ++ (claimed ++ behind))
            (Utf8.byteLength (done ++ plain.reverse)) rule (Utf8.byteLength claimed) :=
          wins_iff.mpr (by rw [firstClaimAt?_append, first]; simp)
        have left : (done ++ plain.reverse ++ claimed).getLast? = claimed.getLast? := by
          rw [List.getLast?_append, Option.or_of_isSome]
          simpa using filled
        have onward := ih (done ++ plain.reverse ++ claimed) [] behind
        simp only [List.reverse_nil, List.append_nil, left, List.append_assoc _ claimed,
          Utf8.byteLength_append _ claimed] at onward
        -- What was held back is quiet, and what is claimed behind it is no gap.
        rw [List.take_left, List.drop_left, plainToken_eq_gap]
        rw [Utf8.byteLength_append] at quiet wins onward
        have behind := onward (quiet_nil rules _ _)
        refine Viewport.Settled.parted_gap (fun _ => ⟨rfl, quiet⟩) ?_
          ((settled rules _).parted_claim ⟨rule, wins, rfl⟩ filled behind)
        rintro p ⟨⟩
        exact (settled rules _).not_gap ⟨rule, wins, rfl⟩ rfl filled
      · next unclaimed =>
        have none : Unclaimed rules (done ++ plain.reverse ++ c :: rest)
            (Utf8.byteLength (done ++ plain.reverse)) :=
          unclaimed_of_firstClaimAt? (by rw [firstClaimAt?_append, unclaimed]; rfl)
        have onward := ih done (c :: plain) rest
        simp only [List.reverse_cons, ← List.append_assoc, List.getLast?_concat] at onward
        rw [← List.append_cons] at onward
        exact onward (quiet.concat none)

theorem FirstMatch.unique {rules : List Rule} {whole text : List Char} {position : Nat}
    {tokens others : List Token} (tiles : Tiles tokens text) (again : Tiles others text)
    (first : FirstMatch rules whole position tokens)
    (second : FirstMatch rules whole position others) : tokens = others :=
  (settled rules whole).unique tiles again (firstMatch_iff.mp first) (firstMatch_iff.mp second)

end Rule

namespace RuleLexer

/-- The rules of a written table, if all can be read. -/
def readRules? (classes : ClassName.Lookup) (table : List RuleText) : Option (List Rule) :=
  table.mapM fun (kind, pattern) => Rule.ofPattern? classes ⟨kind⟩ pattern.toList

theorem readRules?_append (classes : ClassName.Lookup) (table more : List RuleText) :
    readRules? classes (table ++ more) =
      (readRules? classes table).bind fun rules =>
        (readRules? classes more).map (rules ++ ·) := by
  rw [readRules?, List.mapM_append, ← readRules?, ← readRules?]
  cases readRules? classes table <;> cases readRules? classes more <;> rfl

theorem foldlM_withRules {classes : ClassName.Lookup} {lexer longer : RuleLexer}
    {tables : List (List RuleText)} :
    tables.foldlM (withRules classes) lexer = .ok longer ↔
      ∃ rules, readRules? classes tables.flatten = some rules ∧
        longer = { lexer with rules := lexer.rules ++ rules } := by
  induction tables generalizing lexer with
  | nil =>
    simp only [List.foldlM_nil, List.flatten_nil, readRules?, List.mapM_nil]
    simp [pure, Except.pure, eq_comm]
  | cons table tables ih =>
    rw [List.foldlM_cons, List.flatten_cons, readRules?_append, withRules, ← readRules?]
    cases readRules? classes table with
    | none => simp [bind, Except.bind]
    | some rules =>
      have onward := @ih { lexer with rules := lexer.rules ++ rules }
      simp only [bind, Except.bind, onward, Option.bind_some, Option.map_eq_some_iff]
      simp

/-- A table of rules cuts a text in one way: what is claimed is claimed by the first rule that
claims something there, and what is not is gathered as far as it goes. Tables that are appended
stand behind the rules there are, and win only where none of those claims anything. -/
theorem lexes_by_first_match (classes : ClassName.Lookup) (lexer : RuleLexer) :
    (∀ text, ∃ tokens, lexer.tokenizer.lex text = .ok tokens ∧
      Rule.scan? lexer.rules text (Utf8.byteLength text + 1) 0 0 = some tokens ∧
      ∀ other, Tiles other text ∧ Rule.FirstMatch lexer.rules text 0 other ↔ other = tokens) ∧
    (∀ (tables : List (List RuleText)) (longer : RuleLexer),
      tables.foldlM (withRules classes) lexer = .ok longer ↔
        ∃ more, readRules? classes tables.flatten = some more ∧
          longer = { lexer with rules := lexer.rules ++ more }) ∧
    ∀ text offset more rule size,
      (Rule.Wins lexer.rules text offset rule size ↔
        Rule.firstClaimAt? text offset lexer.rules = some (some (rule, size))) ∧
      (Rule.Wins (lexer.rules ++ more) text offset rule size ↔
        Rule.Wins lexer.rules text offset rule size ∨
          Rule.Unclaimed lexer.rules text offset ∧ Rule.Wins more text offset rule size) := by
  refine ⟨?_, fun tables longer => foldlM_withRules, ?_⟩
  · intro text
    have tiles := Rule.tokens_tiles lexer.rules text
    have first : Rule.FirstMatch lexer.rules text 0 (Rule.tokens lexer.rules text) :=
      Rule.tokensFrom_firstMatch lexer.rules [] [] text (text.length + 1)
        (Rule.quiet_nil lexer.rules _ _)
    refine ⟨_, rfl, Rule.scan?_eq_tokens lexer.rules text (Nat.lt_succ_self _), ?_⟩
    intro other
    constructor
    · rintro ⟨again, second⟩
      exact second.unique again tiles first
    · rintro rfl
      exact ⟨tiles, first⟩
  · intro text offset more rule size
    exact ⟨Rule.wins_iff, Rule.wins_append⟩

end RuleLexer

end Highlighting
