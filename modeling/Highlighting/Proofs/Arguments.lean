import Highlighting.CommandLine
import Mathlib.Data.List.Basic

/-! The grammar of command lines. Arguments are read from left to right as items: flags, options
with the argument behind them as their value, whatever it looks like, and files, of which there may
be one. Any list of arguments can be read to its end, or up to an item that breaks the reading. -/
namespace Highlighting

namespace Unsigned

theorem value_eq_ofDigitChars (digits : List Char) :
    value digits = Nat.ofDigitChars 10 digits 0 := by
  unfold value Nat.ofDigitChars
  congr
  funext n c
  rw [Nat.mul_comm]

/-- Decimal digits of a number of at most `bits` bits. -/
structure Digits (bits : Nat) (digits : List Char) (n : Nat) : Prop where
  some_digit : digits ≠ []
  all_digits : ∀ c ∈ digits, c.isDigit
  amount : Nat.ofDigitChars 10 digits 0 = n
  fits : n < Nat.pow 2 bits

inductive Writes (bits : Nat) : List Char → Nat → Prop where
  | plain {digits : List Char} {n : Nat} : Digits bits digits n → Writes bits digits n
  | signed {digits : List Char} {n : Nat} : Digits bits digits n → Writes bits ('+' :: digits) n

theorem read?_eq_some_iff {bits : Nat} {text : List Char} {n : Nat} :
    read? bits text = some n ↔ Writes bits text n := by
  have inner : ∀ digits : List Char,
      (if digits.isEmpty ∨ ! digits.all Char.isDigit then none
        else if value digits < Nat.pow 2 bits then some (value digits) else none) = some n ↔
      Digits bits digits n := by
    intro digits
    constructor
    · intro read
      obtain ⟨shape, read⟩ := Option.ite_none_left_eq_some.mp read
      obtain ⟨fits, read⟩ := Option.ite_none_right_eq_some.mp read
      cases read
      rw [not_or, Bool.not_eq_true', Bool.not_eq_false] at shape
      exact ⟨by simpa using shape.1, List.all_eq_true.mp shape.2,
        (value_eq_ofDigitChars digits).symm, fits⟩
    · rintro ⟨some_digit, all_digits, amount, fits⟩
      rw [← value_eq_ofDigitChars] at amount
      subst amount
      have shape : ¬ (digits.isEmpty ∨ ! digits.all Char.isDigit) := by
        rw [not_or, Bool.not_eq_true', Bool.not_eq_false]
        exact ⟨by simpa using some_digit, List.all_eq_true.mpr all_digits⟩
      rw [if_neg shape]
      exact if_pos fits
  unfold read?
  dsimp only
  rw [inner]
  split
  case h_1 rest =>
    constructor
    · exact .signed
    · intro writes
      cases writes with
      | plain is => exact absurd (is.all_digits '+' List.mem_cons_self) (by decide)
      | signed is => exact is
  case h_2 unsigned =>
    constructor
    · exact .plain
    · intro writes
      cases writes with
      | plain is => exact is
      | signed is => exact absurd rfl (unsigned _)

end Unsigned

namespace ColorChoice

def name : ColorChoice → String
  | auto => "auto"
  | always => "always"
  | never => "never"

theorem ofName?_eq_some_iff {written : String} {choice : ColorChoice} :
    ofName? written = some choice ↔ choice.name = written := by
  constructor
  · intro named
    unfold ofName? at named
    split at named
    all_goals cases named
    all_goals rfl
  · rintro rfl
    cases choice <;> rfl

end ColorChoice

namespace CommandLine

/- Items and the words that spell them -/

inductive Flag where
  | help
  | version
  | listLexers
  deriving DecidableEq, Repr

def Flag.names : Flag → List String
  | help => ["--help", "-h"]
  | version => ["--version", "-V"]
  | listLexers => ["--list-lexers"]

def ValueOption.name : ValueOption → String
  | cursor => "--cursor"
  | columns => "--columns"
  | rows => "--rows"
  | color => "--color"
  | lexer => "--lexer"

/-- The values that an option takes. -/
def ValueOption.Takes : ValueOption → String → Prop
  | cursor, value => ∃ n, Unsigned.Writes 64 value.toList n
  | columns, value => ∃ n, Unsigned.Writes 16 value.toList n
  | rows, value => ∃ n, Unsigned.Writes 16 value.toList n
  | color, value => ∃ choice : ColorChoice, choice.name = value
  | lexer, _ => True

/-- Whether an argument begins with a hyphen. -/
def Hyphened (argument : String) : Prop := argument.toList.head? = some '-'

instance (argument : String) : Decidable (Hyphened argument) :=
  inferInstanceAs (Decidable (_ = _))

inductive Item where
  | flag (raised : Flag) (name : String)
  | setting (option : ValueOption) (value : String)
  | file (name : String)
  deriving DecidableEq, Repr

namespace Item

def words : Item → List String
  | flag _ name => [name]
  | setting option value => [option.name, value]
  | file name => [name]

theorem words_length_pos (item : Item) : 0 < item.words.length := by
  cases item <;> exact Nat.succ_pos _

def Proper : Item → Prop
  | flag raised name => name ∈ raised.names
  | setting option value => option.Takes value
  | file name => ¬ Hyphened name

def file? : Item → Option String
  | file name => some name
  | _ => none

def valueOf? (option : ValueOption) : Item → Option String
  | setting other value => if other = option then some value else none
  | _ => none

theorem valueOf?_eq_some_iff {option : ValueOption} {item : Item} {value : String} :
    item.valueOf? option = some value ↔ item = .setting option value := by
  cases item <;> simp [valueOf?]

end Item

/- Items behind one another -/

def files (items : List Item) : List String := items.filterMap Item.file?

def valuesOf (option : ValueOption) (items : List Item) : List String :=
  items.filterMap (Item.valueOf? option)

theorem files_append (items more : List Item) : files (items ++ more) = files items ++ files more :=
  List.filterMap_append

theorem files_concat (items : List Item) (item : Item) :
    files (items ++ [item]) = files items ++ item.file?.toList := by
  rw [files_append]
  cases item <;> rfl

theorem valuesOf_concat (option : ValueOption) (items : List Item) (item : Item) :
    valuesOf option (items ++ [item]) = valuesOf option items ++ (item.valueOf? option).toList := by
  rw [valuesOf, List.filterMap_append, List.filterMap_cons, List.filterMap_nil]
  cases item.valueOf? option <;> rfl

structure Readable (items : List Item) : Prop where
  proper : ∀ item ∈ items, item.Proper
  files : (files items).length ≤ 1

/-- The arguments are the words of the items, and the items are as they should be. -/
def Reads (arguments : List String) (items : List Item) : Prop :=
  arguments = items.flatMap Item.words ∧ Readable items

/-- What is wrong with a value that an option does not take. -/
def ValueOption.refusal (option : ValueOption) (value : String) : UsageFault :=
  if option = color then .badColorChoice value else .notNumber option.name value

/-- Behind items that have been read stands what is no item, and why not. -/
inductive Breaks (items : List Item) : List String → UsageFault → Prop where
  | unknown {argument : String} {rest : List String} : Hyphened argument →
      (∀ flag : Flag, argument ∉ flag.names) → (∀ option : ValueOption, argument ≠ option.name) →
      Breaks items (argument :: rest) (.unknownOption argument)
  | second {argument : String} {rest : List String} : ¬ Hyphened argument → files items ≠ [] →
      Breaks items (argument :: rest) (.unexpectedArgument argument)
  | missing (option : ValueOption) : Breaks items [option.name] (.missingValue option.name)
  | refused {option : ValueOption} {value : String} {rest : List String} : ¬ option.Takes value →
      Breaks items (option.name :: value :: rest) (option.refusal value)

/-- The leftmost item that breaks the reading has this fault. -/
def FirstFault (arguments : List String) (fault : UsageFault) : Prop :=
  ∃ items rest, arguments = items.flatMap Item.words ++ rest ∧ Readable items ∧
    Breaks items rest fault

theorem readable_nil : Readable [] :=
  ⟨fun _ => nofun, Nat.zero_le 1⟩

theorem Readable.left {items more : List Item} (readable : Readable (items ++ more)) :
    Readable items := by
  refine ⟨(List.forall_mem_append.mp readable.proper).1, ?_⟩
  have few := readable.files
  rw [files_append, List.length_append] at few
  omega

theorem readable_concat_iff {items : List Item} {item : Item} :
    Readable (items ++ [item]) ↔
      Readable items ∧ item.Proper ∧ (item.file?.isSome → files items = []) := by
  have room : (files items ++ item.file?.toList).length ≤ 1 ↔
      (files items).length ≤ 1 ∧ (item.file?.isSome → files items = []) := by
    rw [← List.length_eq_zero_iff]
    cases item.file? with
    | none => simp
    | some name =>
      rw [List.length_append, Option.toList_some, List.length_singleton]
      simp only [Option.isSome_some, forall_const]
      omega
  constructor
  · rintro ⟨proper, few⟩
    rw [files_concat, room] at few
    obtain ⟨before, last⟩ := List.forall_mem_append.mp proper
    exact ⟨⟨before, few.1⟩, last item List.mem_cons_self, few.2⟩
  · rintro ⟨readable, proper, free⟩
    refine ⟨?_, ?_⟩
    · rw [List.forall_mem_append, List.forall_mem_singleton]
      exact ⟨readable.proper, proper⟩
    · rw [files_concat, room]
      exact ⟨readable.files, free⟩

/-- Behind items that have been read stands another one, or the reading breaks. -/
theorem fits_or_breaks {items : List Item} (readable : Readable items) (argument : String)
    (rest : List String) :
    (∃ item more, argument :: rest = item.words ++ more ∧ Readable (items ++ [item])) ∨
      ∃ fault, Breaks items (argument :: rest) fault := by
  by_cases flagged : ∃ flag : Flag, argument ∈ flag.names
  · obtain ⟨flag, named⟩ := flagged
    have fits : Readable (items ++ [.flag flag argument]) :=
      readable_concat_iff.mpr ⟨readable, named, nofun⟩
    exact .inl ⟨_, rest, rfl, fits⟩
  by_cases optional : ∃ option : ValueOption, argument = option.name
  · obtain ⟨option, rfl⟩ := optional
    cases rest with
    | nil => exact .inr ⟨_, .missing option⟩
    | cons value rest =>
      by_cases takes : option.Takes value
      · have fits : Readable (items ++ [.setting option value]) :=
          readable_concat_iff.mpr ⟨readable, takes, nofun⟩
        exact .inl ⟨_, rest, rfl, fits⟩
      · exact .inr ⟨_, .refused takes⟩
  by_cases hyphened : Hyphened argument
  · exact .inr ⟨_, .unknown hyphened (not_exists.mp flagged) (not_exists.mp optional)⟩
  by_cases free : files items = []
  · have fits : Readable (items ++ [.file argument]) :=
      readable_concat_iff.mpr ⟨readable, hyphened, fun _ => free⟩
    exact .inl ⟨_, rest, rfl, fits⟩
  · exact .inr ⟨_, .second hyphened free⟩

theorem reads_or_breaks_behind {arguments : List String} {items : List Item}
    {rest : List String} (parted : arguments = items.flatMap Item.words ++ rest)
    (readable : Readable items) :
    (∃ items, Reads arguments items) ∨ ∃ fault, FirstFault arguments fault := by
  -- On how many arguments are left, for an item takes one or two of them.
  induction many : rest.length using Nat.strongRecOn generalizing items rest with
  | ind n ih =>
    cases rest with
    | nil => exact .inl ⟨items, by rw [parted, List.append_nil], readable⟩
    | cons argument rest =>
      rcases fits_or_breaks readable argument rest with ⟨item, more, words, fits⟩ | ⟨fault, breaks⟩
      · have fewer : more.length < n := by
          have lengths := congrArg List.length words
          rw [List.length_append] at lengths
          have spoken := item.words_length_pos
          omega
        have parted' : arguments = (items ++ [item]).flatMap Item.words ++ more := by
          rw [parted, words]
          simp
        exact ih more.length fewer parted' fits rfl
      · exact .inr ⟨fault, items, _, parted, readable, breaks⟩

theorem reads_or_breaks (arguments : List String) :
    (∃ items, Reads arguments items) ∨ ∃ fault, FirstFault arguments fault :=
  reads_or_breaks_behind rfl readable_nil

end CommandLine

end Highlighting
