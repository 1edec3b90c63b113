import Highlighting.Regex.Reader
import Mathlib.Data.List.Basic

/-! Reading a pattern with closing parentheses behind it. Every part of the reader takes from a text
what it would take if parentheses followed, and leaves the rest with the parentheses behind it. The
one exception is a comment at the end of the text, which swallows them. -/
namespace Highlighting.Regex.Reader

/-- A text, and the text with `n` closing parentheses behind it. At the end of the text a comment
may have swallowed them. -/
def Trails (n : Nat) (text longer : List Char) : Prop :=
  longer = text ++ List.replicate n ')' ∨ text = [] ∧ longer = []

/-- What is read from a text is read from a longer one too. -/
def Carries {α : Type} (n : Nat) (read longer : Option (α × List Char)) : Prop :=
  ∀ value rest, read = some (value, rest) → ∃ more, longer = some (value, more) ∧ Trails n rest more

variable {n : Nat} {flags : Flags} {text longer : List Char}

namespace Trails

theorem append (n : Nat) (text : List Char) : Trails n text (text ++ List.replicate n ')') :=
  .inl rfl

theorem cons {c : Char} (trails : Trails n (c :: text) longer) :
    longer = c :: (text ++ List.replicate n ')') :=
  trails.resolve_right fun h => List.cons_ne_nil _ _ h.1

theorem tail {c : Char} (trails : Trails n (c :: text) longer) :
    ∃ rest, longer = c :: rest ∧ Trails n text rest :=
  ⟨_, trails.cons, append n text⟩

theorem length_le (trails : Trails n text longer) : text.length ≤ longer.length := by
  rcases trails with rfl | ⟨rfl, rfl⟩ <;> simp

theorem head_of_nil (trails : Trails n [] longer) : ∀ c ∈ longer.head?, c = ')' := by
  rcases trails with rfl | ⟨_, rfl⟩
  · cases n with
    | zero => rintro c ⟨⟩
    | succ n =>
      rintro c ⟨⟩
      rfl
  · rintro c ⟨⟩

theorem not_cons {c : Char} (trails : Trails n text longer) (other : c ≠ ')')
    (no : ∀ rest, text ≠ c :: rest) (rest : List Char) : longer ≠ c :: rest := by
  rintro rfl
  cases text with
  | nil => exact other (trails.head_of_nil c rfl)
  | cons d text =>
    cases trails.cons
    exact no text rfl

end Trails

theorem carries_none {α : Type} (longer : Option (α × List Char)) : Carries n none longer := by
  rintro value rest ⟨⟩

theorem carries_some {α : Type} (value : α) (trails : Trails n text longer) :
    Carries n (some (value, text)) (some (value, longer)) := by
  rintro value rest ⟨⟩
  exact ⟨longer, rfl, trails⟩

theorem Carries.bind {α β : Type} {read longer : Option (α × List Char)}
    {f g : α × List Char → Option (β × List Char)} (carries : Carries n read longer)
    (onward : ∀ value rest more, Trails n rest more →
      Carries n (f (value, rest)) (g (value, more))) :
    Carries n (read.bind f) (longer.bind g) := by
  rintro value rest h
  obtain ⟨⟨first, behind⟩, taken, h⟩ := Option.bind_eq_some_iff.mp h
  obtain ⟨more, taken, trails⟩ := carries first behind taken
  rw [taken, Option.bind_some]
  exact onward first behind more trails value rest h

theorem Carries.map {α β : Type} {read longer : Option (α × List Char)} (f : α → β)
    (carries : Carries n read longer) :
    Carries n (read.map fun p => (f p.1, p.2)) (longer.map fun p => (f p.1, p.2)) := by
  rw [Option.map_eq_bind, Option.map_eq_bind]
  exact carries.bind fun value rest more trails => carries_some (f value) trails

/- What a step decides by itself is decided alike. -/
theorem carries_bind_option {α β : Type} (choice : Option α) {f g : α → Option (β × List Char)}
    (onward : ∀ value, Carries n (f value) (g value)) :
    Carries n (choice.bind f) (choice.bind g) := by
  cases choice with
  | none => exact carries_none _
  | some value => exact onward value

/- Blanks and comments. -/

theorem skipComments_replicate (n : Nat) :
    skipComments true (List.replicate n ')') = [] ∧
      skipComments false (List.replicate n ')') = List.replicate n ')' := by
  induction n with
  | zero => exact ⟨rfl, rfl⟩
  | succ n ih => exact ⟨ih.1, rfl⟩

theorem skipComments_trails (inside : Bool) (text : List Char) :
    Trails n (skipComments inside text) (skipComments inside (text ++ List.replicate n ')')) := by
  induction text generalizing inside with
  | nil =>
    cases inside
    · exact .inl (skipComments_replicate n).2
    · exact .inr ⟨rfl, (skipComments_replicate n).1⟩
  | cons c rest ih =>
    cases inside
    · simp only [List.cons_append, skipComments]
      split
      · exact ih false
      · split
        · exact ih true
        · exact .append n (c :: rest)
    · exact ih _

theorem skip_trails (flags : Flags) (trails : Trails n text longer) :
    Trails n (skip flags text) (skip flags longer) := by
  rcases trails with rfl | ⟨rfl, rfl⟩
  · unfold skip
    split
    · exact skipComments_trails false text
    · exact .append n text
  · unfold skip
    split <;> exact .inr ⟨rfl, rfl⟩

theorem length_skipComments_le (inside : Bool) (text : List Char) :
    (skipComments inside text).length ≤ text.length := by
  induction text generalizing inside with
  | nil => cases inside <;> exact Nat.le_refl _
  | cons c rest ih =>
    have shorter := fun inside => Nat.le_succ_of_le (ih inside)
    cases inside
    · simp only [skipComments]
      split
      · exact shorter false
      · split
        · exact shorter true
        · exact Nat.le_refl _
    · exact shorter _

theorem length_skip_le (flags : Flags) (text : List Char) :
    (skip flags text).length ≤ text.length := by
  unfold skip
  split
  · exact length_skipComments_le false text
  · exact Nat.le_refl _

/- Escapes. -/

theorem hexDigits_trails (count value : Nat) (trails : Trails n text longer) :
    Carries n (hexDigits flags count value text) (hexDigits flags count value longer) := by
  induction count generalizing value text longer with
  | zero => exact carries_some value trails
  | succ count ih =>
    cases text with
    | nil => exact carries_none _
    | cons c rest =>
      obtain ⟨more, rfl, behind⟩ := trails.tail
      simp only [hexDigits]
      split
      · exact ih _ (skip_trails flags behind)
      · exact carries_none _

theorem upToBrace_trails {fuel more : Nat} (enough : fuel ≤ more) (trails : Trails n text longer) :
    Carries n (upToBrace flags fuel text) (upToBrace flags more longer) := by
  induction fuel generalizing text longer more with
  | zero => exact carries_none _
  | succ fuel ih =>
    obtain ⟨more, rfl⟩ := Nat.exists_eq_succ_of_ne_zero (Nat.ne_zero_of_lt enough)
    have skipped := skip_trails flags trails
    simp only [upToBrace]
    split
    · exact carries_none _
    · next rest stop =>
      rw [stop] at skipped
      obtain ⟨tail, onward, behind⟩ := skipped.tail
      rw [onward]
      exact carries_some [] behind
    · next c rest other inside =>
      rw [inside] at skipped
      obtain ⟨tail, onward, behind⟩ := skipped.tail
      rw [onward]
      split
      · next h => cases h
      · next h => exact (other (List.cons.inj h).1).elim
      · next h =>
        cases h
        exact (ih (Nat.le_of_succ_le_succ enough) behind).map (c :: ·)

theorem hexEscape_trails (count : Nat) (trails : Trails n text longer) :
    Carries n (hexEscape flags count text) (hexEscape flags count longer) := by
  have skipped := skip_trails flags trails
  simp only [hexEscape]
  split
  · next rest braced =>
    rw [braced] at skipped
    obtain ⟨more, onward, behind⟩ := skipped.tail
    rw [onward]
    refine (upToBrace_trails (Nat.succ_le_succ behind.length_le) behind).bind ?_
    intro digits rest more behind
    refine carries_bind_option _ fun values => ?_
    split
    · exact carries_none _
    · exact carries_bind_option _ fun c => carries_some _ (skip_trails flags behind)
  · next other =>
    split
    · next rest braced => exact absurd braced (skipped.not_cons (by decide) other rest)
    · refine (hexDigits_trails count 0 skipped).bind ?_
      intro value rest more behind
      exact carries_bind_option _ fun c => carries_some _ behind

theorem classEscape_trails (negated : Bool) (trails : Trails n text longer) :
    Carries n (classEscape flags negated text) (classEscape flags negated longer) := by
  have skipped := skip_trails flags trails
  simp only [classEscape]
  split
  · exact carries_none _
  · exact carries_none _
  · next rest braced =>
    rw [braced] at skipped
    obtain ⟨more, onward, behind⟩ := skipped.tail
    rw [onward]
    refine (upToBrace_trails (Nat.succ_le_succ behind.length_le) behind).bind ?_
    intro name rest more behind
    exact carries_bind_option _ fun found => carries_some _ behind
  · next c rest escaped braced first =>
    rw [first] at skipped
    obtain ⟨more, onward, behind⟩ := skipped.tail
    rw [onward]
    split
    · next h => cases h
    · next h => exact (escaped (List.cons.inj h).1).elim
    · next h => exact (braced (List.cons.inj h).1).elim
    · next h =>
      cases h
      exact carries_bind_option _ fun chars => carries_some _ (skip_trails flags behind)

theorem boundary_trails (trails : Trails n text longer) :
    Carries n (boundary flags text) (boundary flags longer) := by
  cases text with
  | nil =>
    have left := trails.not_cons (by decide : '\x7b' ≠ ')') fun _ h => by cases h
    unfold boundary
    simp only
    exact carries_some _ trails
  | cons c rest =>
    obtain ⟨more, rfl, behind⟩ := trails.tail
    unfold boundary
    split
    · next rest h =>
      cases h
      have skipped := skip_trails flags behind
      simp only
      split
      · exact carries_none _
      · next d after first =>
        rw [first] at skipped
        obtain ⟨tail, onward, _⟩ := skipped.tail
        rw [onward]
        simp only
        split
        · refine (upToBrace_trails (Nat.succ_le_succ behind.length_le) behind).bind ?_
          intro name rest more behind
          simp only
          split
          · exact carries_some _ behind
          · exact carries_some _ behind
          · exact carries_some _ behind
          · exact carries_some _ behind
          · exact carries_none _
        · exact carries_some _ trails
    · next other =>
      split
      · next h => exact (other _ (congrArg (· :: rest) (List.cons.inj h).1)).elim
      · exact carries_some _ trails

theorem escape_trails (trails : Trails n text longer) :
    Carries n (escape flags text) (escape flags longer) := by
  cases text with
  | nil => exact carries_none _
  | cons c rest =>
    obtain ⟨more, rfl, behind⟩ := trails.tail
    simp only [escape]
    split
    case h_24 =>
      split
      · exact carries_some _ behind
      · exact carries_none _
    all_goals
      first
      | exact hexEscape_trails _ behind
      | exact classEscape_trails _ behind
      | exact boundary_trails behind
      | exact carries_some _ behind

/- Bracketed classes. -/

theorem classElement_trails (trails : Trails n text longer) :
    Carries n (classElement flags text) (classElement flags longer) := by
  cases text with
  | nil => exact carries_none _
  | cons c rest =>
    obtain ⟨more, rfl, behind⟩ := trails.tail
    unfold classElement
    split
    · next h => cases h
    · next rest h =>
      cases h
      exact escape_trails behind
    · next c rest other h =>
      cases h
      split
      · next h => cases h
      · next h => exact (other (List.cons.inj h).1).elim
      · next h =>
        cases h
        exact carries_some _ behind

theorem classRange_trails (trails : Trails n text longer) :
    Carries n (classRange flags text) (classRange flags longer) := by
  simp only [classRange]
  refine (classElement_trails trails).bind ?_
  intro low rest more behind
  have skipped := skip_trails flags behind
  simp only
  split
  · exact carries_none _
  · next high first =>
    rw [first] at skipped
    obtain ⟨tail, onward, trails⟩ := skipped.tail
    rw [onward] at skipped ⊢
    have beyond := skip_trails flags trails
    simp only
    cases upper : skip flags high with
    | nil => exact carries_none _
    | cons c after =>
      rw [upper] at beyond
      obtain ⟨behind, upper', _⟩ := beyond.tail
      rw [upper'] at beyond ⊢
      simp only [List.head?_cons]
      split
      · exact carries_bind_option _ fun chars => carries_some _ skipped
      · refine (classElement_trails beyond).bind ?_
        intro high rest more behind
        simp only
        split
        · exact carries_bind_option _ fun chars => carries_some _ behind
        · exact carries_none _
  · next nonempty other =>
    obtain ⟨c, after, first⟩ := List.exists_cons_of_ne_nil nonempty
    rw [first] at skipped other ⊢
    obtain ⟨tail, onward, _⟩ := skipped.tail
    have other := skipped.not_cons (c := '-') (by decide) other
    rw [onward] at skipped other ⊢
    simp only
    exact carries_bind_option _ fun chars => carries_some _ skipped

/- Up to a mark the text is the same; where there is none, the longer one has none either. -/
theorem dropWhile_trails (n : Nat) {mark : Char} (other : mark ≠ ')') (text : List Char) :
    (text.dropWhile (· ≠ mark) = [] ∧
        (text ++ List.replicate n ')').dropWhile (· ≠ mark) = []) ∨
      ∃ rest, text.dropWhile (· ≠ mark) = mark :: rest ∧
        (text ++ List.replicate n ')').dropWhile (· ≠ mark) =
          mark :: (rest ++ List.replicate n ')') ∧
        (text ++ List.replicate n ')').takeWhile (· ≠ mark) = text.takeWhile (· ≠ mark) := by
  induction text with
  | nil =>
    refine .inl ⟨rfl, ?_⟩
    simp [Ne.symm other]
  | cons c text ih =>
    by_cases h : c = mark
    · subst h
      exact .inr ⟨text, by simp, by simp, by simp⟩
    · simpa [h] using ih

theorem namedClass?_append (flags : Flags) (negated : Bool) (text : List Char) :
    namedClass? flags negated (text ++ List.replicate n ')') =
      (namedClass? flags negated text).map fun p => (p.1, p.2 ++ List.replicate n ')') := by
  simp only [namedClass?]
  rcases dropWhile_trails n (by decide : ':' ≠ ')') text with
    ⟨none, none'⟩ | ⟨rest, found, found', name⟩
  · rw [none, none']
    rfl
  · rw [found, found', name]
    rcases rest with _ | ⟨c, rest⟩
    · cases n <;> rfl
    · by_cases h : c = ']'
      · subst h
        simp [Option.map_map, Function.comp_def]
      · simp [h]

/-- An ASCII class is closed by its own bracket. -/
theorem asciiClass?_append (flags : Flags) (text : List Char) :
    asciiClass? flags (text ++ List.replicate n ')') =
      (asciiClass? flags text).map fun p => (p.1, p.2 ++ List.replicate n ')') := by
  rcases text with _ | ⟨c, text⟩
  · cases n <;> rfl
  · by_cases h : c = ':'
    · subst h
      by_cases sign : ∃ rest, text = '^' :: rest
      · obtain ⟨rest, rfl⟩ := sign
        exact namedClass?_append flags true rest
      · have plain : ∀ rest, text ≠ '^' :: rest := fun rest h => sign ⟨rest, h⟩
        have plain' := (Trails.append n text).not_cons (by decide) plain
        simp only [List.cons_append, asciiClass?]
        exact namedClass?_append flags false text
    · simp [asciiClass?, h]

theorem leadingHyphens_of_other (flags : Flags) (fuel : Nat) (members : List Member)
    (other : ∀ rest, text ≠ '-' :: rest) :
    leadingHyphens flags fuel members text = (members, text) := by
  cases fuel with
  | zero => rfl
  | succ fuel => simp only [leadingHyphens]

theorem leadingHyphens_trails (flags : Flags) {fuel more : Nat} (members : List Member)
    (enough : text.length ≤ fuel) (enough' : longer.length ≤ more) (trails : Trails n text longer) :
    (leadingHyphens flags fuel members text).1 = (leadingHyphens flags more members longer).1 ∧
      Trails n (leadingHyphens flags fuel members text).2
        (leadingHyphens flags more members longer).2 := by
  induction fuel generalizing text longer more members with
  | zero =>
    obtain rfl := List.eq_nil_of_length_eq_zero (Nat.le_zero.mp enough)
    rw [leadingHyphens_of_other flags more members
      (trails.not_cons (by decide) fun _ h => by cases h)]
    exact ⟨rfl, trails⟩
  | succ fuel ih =>
    simp only [leadingHyphens]
    split
    · next rest =>
      obtain ⟨tail, rfl, behind⟩ := trails.tail
      obtain ⟨more, rfl⟩ := Nat.exists_eq_succ_of_ne_zero (Nat.ne_zero_of_lt enough')
      have less := length_skip_le flags rest
      have less' := length_skip_le flags tail
      rw [List.length_cons] at enough enough'
      exact ih _ (by omega) (by omega) (skip_trails flags behind)
    · next other =>
      rw [leadingHyphens_of_other flags more members (trails.not_cons (by decide) other)]
      exact ⟨rfl, trails⟩

theorem frontMembers?_trails (trails : Trails n text longer) :
    Carries n (frontMembers? flags text) (frontMembers? flags longer) := by
  obtain ⟨same, behind⟩ :=
    leadingHyphens_trails flags [] (Nat.le_refl _) (Nat.le_refl _) trails
  simp only [frontMembers?, ← same]
  cases first : (leadingHyphens flags text.length [] text).2 with
  | nil => exact carries_none _
  | cons c rest =>
    rw [first] at behind
    obtain ⟨more, first', onward⟩ := behind.tail
    rw [first'] at behind ⊢
    simp only
    split
    · have skipped := skip_trails flags onward
      cases next : skip flags rest with
      | nil => exact carries_none _
      | cons d rest =>
        rw [next] at skipped
        obtain ⟨tail, next', _⟩ := skipped.tail
        rw [next'] at skipped ⊢
        exact carries_some _ skipped
    · exact carries_some _ behind

theorem openClass_trails (trails : Trails n text longer) :
    Carries n (openClass flags text) (openClass flags longer) := by
  have skipped := skip_trails flags trails
  simp only [openClass]
  split
  · next rest sign =>
    rw [sign] at skipped
    obtain ⟨more, onward, behind⟩ := skipped.tail
    rw [onward]
    exact (frontMembers?_trails (skip_trails flags behind)).map _
  · next plain =>
    have plain := skipped.not_cons (by decide) plain
    simp only
    exact (frontMembers?_trails skipped).map _

theorem operation?_trails (trails : Trails n text longer) :
    Carries n (operation? text) (operation? longer) := by
  match text with
  | [] => exact carries_none _
  | [c] => exact carries_none _
  | c :: d :: rest =>
    obtain ⟨more, rfl, behind⟩ := trails.tail
    obtain ⟨more, rfl, onward⟩ := behind.tail
    simp only [operation?]
    split
    · exact carries_none _
    · split
      · exact carries_some _ onward
      · exact carries_some _ onward
      · exact carries_some _ onward
      · exact carries_none _

theorem operation?_eq_none (trails : Trails n text longer) (none : operation? text = none) :
    operation? longer = .none := by
  match text with
  | [] =>
    rcases trails with rfl | ⟨_, rfl⟩
    · match n with
      | 0 => rfl
      | 1 => rfl
      | n + 2 => rfl
    · rfl
  | [c] =>
    obtain rfl := trails.cons
    match n with
    | 0 => rfl
    | n + 1 =>
      by_cases h : c = ')'
      · subst h
        rfl
      · simp [operation?, List.replicate_succ, h]
  | c :: d :: rest =>
    obtain ⟨more, rfl, behind⟩ := trails.tail
    obtain ⟨more, rfl, onward⟩ := behind.tail
    simp only [operation?] at none ⊢
    split
    · rfl
    · next same =>
      rw [if_neg same] at none
      split
      · cases none
      · cases none
      · cases none
      · rfl

theorem bracketed_trails {fuel more : Nat} (frames : List ClassFrame) (members : List Member)
    (enough : fuel ≤ more) (trails : Trails n text longer) :
    Carries n (bracketed flags fuel frames members text)
      (bracketed flags more frames members longer) := by
  induction fuel generalizing text longer more frames members with
  | zero => exact carries_none _
  | succ fuel ih =>
    obtain ⟨more, rfl⟩ := Nat.exists_eq_succ_of_ne_zero (Nat.ne_zero_of_lt enough)
    have enough := Nat.le_of_succ_le_succ enough
    have skipped := skip_trails flags trails
    simp only [bracketed]
    split
    · exact carries_none _
    · next rest first =>
      rw [first] at skipped
      rw [skipped.cons]
      simp only [asciiClass?_append]
      cases asciiClass? flags rest with
      | some found =>
        exact carries_bind_option _ fun chars => ih frames _ enough (.append n _)
      | none =>
        refine (openClass_trails (.append n rest)).bind ?_
        intro opened rest more behind
        exact ih _ _ enough behind
    · next rest first =>
      rw [first] at skipped
      rw [skipped.cons]
      simp only
      split
      · refine carries_bind_option _ fun chars => ?_
        split
        · exact carries_some _ (.append n rest)
        · exact ih _ _ enough (.append n rest)
      · exact carries_none _
    · next nonempty opens closes =>
      have opens := skipped.not_cons (by decide) opens
      have closes := skipped.not_cons (by decide) closes
      obtain ⟨c, rest, first⟩ := List.exists_cons_of_ne_nil nonempty
      have nonempty : skip flags longer ≠ [] := by
        rw [first] at skipped
        rw [skipped.cons]
        exact List.cons_ne_nil _ _
      simp only
      cases op : operation? (skip flags text) with
      | some found =>
        obtain ⟨more, op', behind⟩ := operation?_trails skipped _ _ op
        rw [op']
        exact ih _ _ enough behind
      | none =>
        rw [operation?_eq_none skipped op]
        refine (classRange_trails skipped).bind ?_
        intro member rest more behind
        exact ih _ _ enough behind

theorem wholeClass_trails (trails : Trails n text longer) :
    Carries n (wholeClass flags text) (wholeClass flags longer) := by
  refine (openClass_trails trails).bind ?_
  intro opened rest more behind
  exact bracketed_trails _ _ (Nat.succ_le_succ behind.length_le) behind

/- Repetitions. -/

theorem dropBlanks_trails (trails : Trails n text longer) :
    Trails n (text.dropWhile Character.isBlank) (longer.dropWhile Character.isBlank) := by
  rcases trails with rfl | ⟨rfl, rfl⟩
  · induction text with
    | nil =>
      cases n with
      | zero => exact .append 0 []
      | succ n => exact .append (n + 1) []
    | cons c rest ih =>
      simp only [List.cons_append, List.dropWhile_cons]
      split
      · exact ih
      · exact .append n (c :: rest)
  · exact .inr ⟨rfl, rfl⟩

theorem takeReluctant_trails (trails : Trails n text longer) :
    (takeReluctant text).1 = (takeReluctant longer).1 ∧
      Trails n (takeReluctant text).2 (takeReluctant longer).2 := by
  by_cases mark : ∃ rest, text = '?' :: rest
  · obtain ⟨rest, rfl⟩ := mark
    obtain ⟨more, rfl, behind⟩ := trails.tail
    exact ⟨rfl, behind⟩
  · have plain : ∀ rest, text ≠ '?' :: rest := fun rest h => mark ⟨rest, h⟩
    have plain' := trails.not_cons (by decide) plain
    simp only [takeReluctant]
    exact ⟨trivial, trails⟩

theorem decimal_of_other (flags : Flags) (fuel : Nat) (value : Option Nat)
    (other : ∀ c ∈ text.head?, c.isDigit = false) :
    decimal flags fuel value text = (value, text) := by
  cases fuel with
  | zero => rfl
  | succ fuel =>
    cases text with
    | nil => rfl
    | cons c rest => simp [decimal, other c rfl]

theorem decimal_trails (flags : Flags) {fuel more : Nat} (value : Option Nat)
    (enough : text.length ≤ fuel) (enough' : longer.length ≤ more) (trails : Trails n text longer) :
    (decimal flags fuel value text).1 = (decimal flags more value longer).1 ∧
      Trails n (decimal flags fuel value text).2 (decimal flags more value longer).2 := by
  induction fuel generalizing text longer more value with
  | zero =>
    obtain rfl := List.eq_nil_of_length_eq_zero (Nat.le_zero.mp enough)
    rw [decimal_of_other flags more value fun c h => trails.head_of_nil c h ▸ rfl]
    exact ⟨rfl, trails⟩
  | succ fuel ih =>
    cases text with
    | nil =>
      rw [decimal_of_other flags more value fun c h => trails.head_of_nil c h ▸ rfl]
      exact ⟨rfl, trails⟩
    | cons c rest =>
      obtain ⟨tail, rfl, behind⟩ := trails.tail
      obtain ⟨more, rfl⟩ := Nat.exists_eq_succ_of_ne_zero (Nat.ne_zero_of_lt enough')
      simp only [decimal]
      split
      · have less := length_skip_le flags rest
        have less' := length_skip_le flags tail
        rw [List.length_cons] at enough enough'
        exact ih _ (by omega) (by omega) (skip_trails flags behind)
      · exact ⟨rfl, trails⟩

theorem count?_trails (flags : Flags) (trails : Trails n text longer) :
    (count? flags text).1 = (count? flags longer).1 ∧
      Trails n (count? flags text).2 (count? flags longer).2 := by
  have blanks := dropBlanks_trails trails
  obtain ⟨same, behind⟩ :=
    decimal_trails flags none (Nat.le_refl _) (Nat.le_refl _) blanks
  simp only [count?, same]
  exact ⟨trivial, skip_trails flags (dropBlanks_trails behind)⟩

theorem upperBound?_trails (least : Nat) (trails : Trails n text longer) :
    Carries n (upperBound? flags least text) (upperBound? flags least longer) := by
  by_cases comma : ∃ rest, text = ',' :: rest
  · obtain ⟨rest, rfl⟩ := comma
    obtain ⟨more, rfl, behind⟩ := trails.tail
    have skipped := skip_trails flags behind
    simp only [upperBound?]
    split
    · next after brace =>
      rw [brace] at skipped
      obtain ⟨tail, onward, _⟩ := skipped.tail
      rw [onward] at skipped ⊢
      exact carries_some none skipped
    · next other =>
      have other := skipped.not_cons (by decide) other
      obtain ⟨same, behind⟩ := count?_trails flags skipped
      simp only [← same]
      cases (count? flags (skip flags rest)).1 with
      | none => exact carries_none _
      | some high => exact carries_some (some high) behind
  · have plain : ∀ rest, text ≠ ',' :: rest := fun rest h => comma ⟨rest, h⟩
    have plain' := trails.not_cons (by decide) plain
    simp only [upperBound?]
    exact carries_some _ trails

theorem counted_trails (trails : Trails n text longer) :
    Carries n (counted flags text) (counted flags longer) := by
  obtain ⟨same, behind⟩ := count?_trails flags (skip_trails flags trails)
  simp only [counted, ← same]
  refine carries_bind_option _ fun least => (upperBound?_trails least behind).bind ?_
  intro most rest more behind
  by_cases brace : ∃ after, rest = '\x7d' :: after
  · obtain ⟨after, rfl⟩ := brace
    obtain ⟨tail, rfl, onward⟩ := behind.tail
    obtain ⟨same, behind⟩ := takeReluctant_trails (skip_trails flags onward)
    simp only [← same]
    split
    · exact carries_none _
    · exact carries_some _ behind
  · have other : ∀ after, rest ≠ '\x7d' :: after := fun after h => brace ⟨after, h⟩
    simp only
    exact carries_none _

/- Groups. -/

theorem flagItems_trails (seen : List Char) (on dangling : Bool) (trails : Trails n text longer) :
    Carries n (flagItems flags seen on dangling text)
      (flagItems flags seen on dangling longer) := by
  induction text generalizing longer flags seen on dangling with
  | nil => exact carries_none _
  | cons c rest ih =>
    obtain ⟨more, rfl, behind⟩ := trails.tail
    simp only [flagItems]
    split
    · split
      · exact carries_none _
      · exact carries_some _ behind
    · split
      · exact carries_none _
      · split <;> first | exact ih _ _ _ behind | exact carries_none _

theorem groupName_trails (trails : Trails n text longer) :
    Carries n (groupName text) (groupName longer) := by
  rcases trails with rfl | ⟨rfl, rfl⟩
  · simp only [groupName]
    rcases dropWhile_trails n (by decide : '>' ≠ ')') text with
      ⟨none, _⟩ | ⟨rest, found, found', name⟩
    · rw [none]
      exact carries_none _
    · rw [found, found', name]
      simp only
      split
      · exact carries_none _
      · exact carries_some _ (.append n rest)
  · exact carries_none _

end Highlighting.Regex.Reader
