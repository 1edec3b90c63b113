import Highlighting.Proofs.Arguments

/-! Command lines by their items. What a command line asks for is what its items say: the last value
of an option counts, a flag is set where it stands once, and the one file is the file to print. -/
namespace Highlighting

theorem Unsigned.Writes.unique {bits : Nat} {text : List Char} {n m : Nat}
    (writes : Writes bits text n) (writes' : Writes bits text m) : n = m := by
  rw [← read?_eq_some_iff] at writes writes'
  exact Option.some.inj (writes.symm.trans writes')

theorem ColorChoice.name_injective {choice other : ColorChoice} (same : choice.name = other.name) :
    choice = other := by
  have named := ColorChoice.ofName?_eq_some_iff.mpr same
  rw [ColorChoice.ofName?_eq_some_iff.mpr rfl] at named
  exact (Option.some.inj named).symm

namespace CommandLine

/- What stands in a command line -/

attribute [grind cases] Flag ValueOption

/-- The command line has the value of an option that is written so. -/
def ValueOption.Holds : ValueOption → String → CommandLine → Prop
  | cursor, value, line => Unsigned.Writes 64 value.toList line.cursor
  | columns, value, line => ∃ n, line.columns = some n ∧ Unsigned.Writes 16 value.toList n
  | rows, value, line => ∃ n, line.rows = some n ∧ Unsigned.Writes 16 value.toList n
  | color, value, line => line.color.name = value
  | lexer, value, line => line.lexer = some value

/-- Two command lines have the same value of an option. -/
@[grind] def ValueOption.Agree : ValueOption → CommandLine → CommandLine → Prop
  | cursor, line, other => line.cursor = other.cursor
  | columns, line, other => line.columns = other.columns
  | rows, line, other => line.rows = other.rows
  | color, line, other => line.color = other.color
  | lexer, line, other => line.lexer = other.lexer

@[grind] def Flag.isSet : Flag → CommandLine → Bool
  | help, line => line.help
  | version, line => line.version
  | listLexers, line => line.listLexers

/-- The command line without an argument. -/
def standard : CommandLine where
  file := none
  cursor := 0
  columns := none
  rows := none
  color := .auto
  lexer := none
  listLexers := false
  help := false
  version := false

/-- A command line has what items say: the last value of each option, or its standard one, the flags
that stand among them, and the file. -/
structure Means (items : List Item) (line : CommandLine) : Prop where
  last : ∀ option value, (valuesOf option items).getLast? = some value → option.Holds value line
  absent : ∀ option, valuesOf option items = [] → option.Agree line standard
  flags : ∀ flag : Flag, flag.isSet line ↔ ∃ name, Item.flag flag name ∈ items
  file : line.file = (files items).head?

theorem ValueOption.Agree.trans {option : ValueOption} {first second third : CommandLine}
    (agree : option.Agree first second) (agree' : option.Agree second third) :
    option.Agree first third := by
  cases option with
  | cursor | columns | rows | color | lexer => exact Eq.trans agree agree'

theorem ValueOption.Agree.symm {option : ValueOption} {line other : CommandLine}
    (agree : option.Agree line other) : option.Agree other line := by
  cases option with
  | cursor | columns | rows | color | lexer => exact Eq.symm agree

theorem ValueOption.Holds.of_agree {option : ValueOption} {value : String}
    {line other : CommandLine} (holds : option.Holds value line) (agree : option.Agree other line) :
    option.Holds value other := by
  cases option with
  | cursor | columns | rows | color | lexer =>
    unfold ValueOption.Agree at agree
    unfold ValueOption.Holds at holds ⊢
    dsimp only at agree holds ⊢
    rw [agree]
    exact holds

theorem ValueOption.Holds.unique {option : ValueOption} {value : String} {line other : CommandLine}
    (holds : option.Holds value line) (holds' : option.Holds value other) :
    option.Agree line other := by
  cases option with
  | cursor => exact Unsigned.Writes.unique holds holds'
  | columns | rows =>
    obtain ⟨n, held, writes⟩ := holds
    obtain ⟨m, held', writes'⟩ := holds'
    obtain rfl := writes.unique writes'
    exact held.trans held'.symm
  | color => exact ColorChoice.name_injective (holds.trans holds'.symm)
  | lexer => exact holds.trans holds'.symm

theorem eq_of_agree {line other : CommandLine}
    (options : ∀ option : ValueOption, option.Agree line other)
    (flags : ∀ flag : Flag, flag.isSet line = flag.isSet other) (file : line.file = other.file) :
    line = other := by
  have cursor : line.cursor = other.cursor := options .cursor
  have columns : line.columns = other.columns := options .columns
  have rows : line.rows = other.rows := options .rows
  have color : line.color = other.color := options .color
  have lexer : line.lexer = other.lexer := options .lexer
  have help : line.help = other.help := flags .help
  have version : line.version = other.version := flags .version
  have listLexers : line.listLexers = other.listLexers := flags .listLexers
  cases line
  cases other
  simp_all

theorem Means.unique {items : List Item} {line other : CommandLine} (means : Means items line)
    (means' : Means items other) : line = other := by
  apply eq_of_agree
  · intro option
    cases last : (valuesOf option items).getLast? with
    | none =>
      have absent := List.getLast?_eq_none_iff.mp last
      exact (means.absent option absent).trans (means'.absent option absent).symm
    | some value => exact (means.last option value last).unique (means'.last option value last)
  · intro flag
    rw [Bool.eq_iff_iff, means.flags, means'.flags]
  · rw [means.file, means'.file]

/- One item more -/

/-- What an item does to a command line. -/
structure Adds (item : Item) (line next : CommandLine) : Prop where
  holds : ∀ option value, item.valueOf? option = some value → option.Holds value next
  keeps : ∀ option, item.valueOf? option = none → option.Agree next line
  flags : ∀ flag : Flag, flag.isSet next ↔ flag.isSet line ∨ ∃ name, Item.flag flag name = item
  file : next.file = line.file.or item.file?

theorem means_nil : Means [] {} where
  last _ _ := nofun
  absent option _ := by cases option <;> rfl
  flags flag := by cases flag <;> simp [Flag.isSet]
  file := rfl

theorem Means.concat {items : List Item} {item : Item} {line next : CommandLine}
    (means : Means items line) (adds : Adds item line next) : Means (items ++ [item]) next where
  last option value last := by
    rw [valuesOf_concat] at last
    cases given : item.valueOf? option with
    | none =>
      rw [given, Option.toList_none, List.append_nil] at last
      exact (means.last option value last).of_agree (adds.keeps option given)
    | some value' =>
      rw [given, Option.toList_some, List.getLast?_concat] at last
      exact adds.holds option value (given.trans last)
  absent option absent := by
    rw [valuesOf_concat, List.append_eq_nil_iff, Option.toList_eq_nil_iff] at absent
    exact (adds.keeps option absent.2).trans (means.absent option absent.1)
  flags flag := by
    rw [adds.flags, means.flags]
    simp only [List.mem_append, List.mem_singleton, exists_or]
  file := by
    rw [adds.file, means.file, files_concat, List.head?_append]
    cases item.file? <;> rfl

theorem adds_file {line : CommandLine} (free : line.file = none) (name : String) :
    Adds (.file name) line { line with file := some name } where
  holds _ _ := nofun
  keeps option _ := by cases option <;> rfl
  flags flag := by cases flag <;> simp [Flag.isSet]
  file := by
    rw [free]
    rfl

def Flag.raise : Flag → CommandLine → CommandLine
  | help, line => { line with help := true }
  | version, line => { line with version := true }
  | listLexers, line => { line with listLexers := true }

theorem adds_raise (flag : Flag) (name : String) (line : CommandLine) :
    Adds (.flag flag name) line (flag.raise line) where
  holds _ _ := nofun
  keeps option _ := by cases flag <;> cases option <;> rfl
  flags other := by cases flag <;> cases other <;> simp [Flag.isSet, Flag.raise]
  file := by cases flag <;> exact (Option.or_none).symm

theorem adds_setting {option : ValueOption} {value : String} {line next : CommandLine}
    (holds : option.Holds value next)
    (keeps : ∀ other : ValueOption, option ≠ other → other.Agree next line)
    (flags : ∀ flag : Flag, flag.isSet next = flag.isSet line) (file : next.file = line.file) :
    Adds (.setting option value) line next where
  holds other written given := by
    cases Item.valueOf?_eq_some_iff.mp given
    exact holds
  keeps other missing := by
    apply keeps
    rintro rfl
    cases missing.symm.trans (Item.valueOf?_eq_some_iff.mpr rfl)
  flags flag := by simp [flags]
  file := by
    rw [file]
    exact Option.or_none.symm

/- Reading one item -/

theorem hyphened_flag {flag : Flag} {name : String} (named : name ∈ flag.names) :
    Hyphened name := by
  revert name
  cases flag with
  | help | version | listLexers => decide

theorem hyphened_option (option : ValueOption) : Hyphened option.name := by
  cases option with
  | cursor | columns | rows | color | lexer => decide

theorem option_ne_flag (option : ValueOption) (flag : Flag) : option.name ∉ flag.names := by
  cases option <;> cases flag <;> decide

theorem withFlag?_of_named {flag : Flag} {name : String} (named : name ∈ flag.names)
    (line : CommandLine) : withFlag? line name = some (flag.raise line) := by
  revert name
  cases flag <;> simp [Flag.names, withFlag?, Flag.raise]

theorem withFlag?_of_unnamed {name : String} (unnamed : ∀ flag : Flag, name ∉ flag.names)
    (line : CommandLine) : withFlag? line name = none := by
  unfold withFlag?
  split
  · exact absurd (by decide) (unnamed .help)
  · exact absurd (by decide) (unnamed .help)
  · exact absurd (by decide) (unnamed .version)
  · exact absurd (by decide) (unnamed .version)
  · exact absurd (by decide) (unnamed .listLexers)
  · rfl

theorem ofName?_name (option : ValueOption) : ValueOption.ofName? option.name = some option := by
  cases option <;> rfl

theorem ofName?_of_unnamed {name : String} (unnamed : ∀ option : ValueOption, name ≠ option.name) :
    ValueOption.ofName? name = none := by
  unfold ValueOption.ofName?
  split
  · exact absurd rfl (unnamed .cursor)
  · exact absurd rfl (unnamed .columns)
  · exact absurd rfl (unnamed .rows)
  · exact absurd rfl (unnamed .color)
  · exact absurd rfl (unnamed .lexer)
  · rfl

theorem number_of_writes {bits n : Nat} {value : String}
    (writes : Unsigned.Writes bits value.toList n) (name : String) :
    number name value bits = .ok n := by
  rw [number, Unsigned.read?_eq_some_iff.mpr writes]

theorem number_of_unwritten {bits : Nat} {value : String}
    (unwritten : ¬ ∃ n, Unsigned.Writes bits value.toList n) (name : String) :
    number name value bits = .error (.usage (.notNumber name value)) := by
  unfold number
  cases read : Unsigned.read? bits value.toList with
  | none => rfl
  | some n => exact absurd ⟨n, Unsigned.read?_eq_some_iff.mp read⟩ unwritten

theorem withValue_of_takes {option : ValueOption} {value : String} (takes : option.Takes value)
    (line : CommandLine) : ∃ next, withValue line option.name value option = .ok next ∧
      Adds (.setting option value) line next := by
  cases option with
  | cursor =>
    obtain ⟨n, writes⟩ := takes
    refine ⟨{ line with cursor := n }, ?_, adds_setting writes ?_ ?_ rfl⟩
    · rw [withValue, number_of_writes writes]
      rfl
    · grind
    · grind
  | columns =>
    obtain ⟨n, writes⟩ := takes
    refine ⟨{ line with columns := n }, ?_, adds_setting ⟨n, rfl, writes⟩ ?_ ?_ rfl⟩
    · rw [withValue, number_of_writes writes]
      rfl
    · grind
    · grind
  | rows =>
    obtain ⟨n, writes⟩ := takes
    refine ⟨{ line with rows := n }, ?_, adds_setting ⟨n, rfl, writes⟩ ?_ ?_ rfl⟩
    · rw [withValue, number_of_writes writes]
      rfl
    · grind
    · grind
  | color =>
    obtain ⟨choice, rfl⟩ := takes
    have read := ColorChoice.ofName?_eq_some_iff.mpr (rfl : choice.name = choice.name)
    refine ⟨{ line with color := choice }, ?_, adds_setting rfl ?_ ?_ rfl⟩
    · rw [withValue, read]
    · grind
    · grind
  | lexer =>
    refine ⟨{ line with lexer := value }, rfl, adds_setting rfl ?_ ?_ rfl⟩
    · grind
    · grind

theorem withValue_of_refused {option : ValueOption} {value : String}
    (refused : ¬ option.Takes value) (line : CommandLine) :
    withValue line option.name value option = .error (.usage (option.refusal value)) := by
  cases option with
  | cursor | columns | rows =>
    rw [withValue, number_of_unwritten refused]
    rfl
  | color =>
    have unread : ColorChoice.ofName? value = none := by
      rw [Option.eq_none_iff_forall_ne_some]
      intro choice read
      exact refused ⟨choice, ColorChoice.ofName?_eq_some_iff.mp read⟩
    rw [withValue, unread]
    rfl
  | lexer => exact absurd trivial refused

end CommandLine

end Highlighting
