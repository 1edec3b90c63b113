import Highlighting.Error
import Highlighting.Text.Unsigned

/-!
Command lines. Options are read from left to right; the last occurrence of an option counts, and the
leftmost argument that does not fit is reported. An argument that begins with a hyphen is an option,
except as the value of one.
-/
namespace Highlighting

inductive ColorChoice where
  | auto
  | always
  | never
  deriving DecidableEq, Repr

namespace ColorChoice

def ofName? : String → Option ColorChoice
  | "auto" => some auto
  | "always" => some always
  | "never" => some never
  | _ => none

def enabled (isTerminal : Bool) : ColorChoice → Bool
  | auto => isTerminal
  | always => true
  | never => false

end ColorChoice

structure CommandLine where
  file : Option String := none
  cursor : Nat := 0
  columns : Option Nat := none
  rows : Option Nat := none
  color : ColorChoice := .auto
  lexer : Option String := none
  listLexers : Bool := false
  help : Bool := false
  version : Bool := false
  deriving DecidableEq, Repr

namespace CommandLine

inductive ValueOption where
  | cursor
  | columns
  | rows
  | color
  | lexer
  deriving DecidableEq, Repr

def ValueOption.ofName? : String → Option ValueOption
  | "--cursor" => some cursor
  | "--columns" => some columns
  | "--rows" => some rows
  | "--color" => some color
  | "--lexer" => some lexer
  | _ => none

def withFlag? (line : CommandLine) : String → Option CommandLine
  | "--help" => some { line with help := true }
  | "-h" => some { line with help := true }
  | "--version" => some { line with version := true }
  | "-V" => some { line with version := true }
  | "--list-lexers" => some { line with listLexers := true }
  | _ => none

def number (name value : String) (bits : Nat) : Except Error Nat :=
  match Unsigned.read? bits value.toList with
  | some n => .ok n
  | none => .error (.usage (.notNumber name value))

def withValue (line : CommandLine) (name value : String) : ValueOption → Except Error CommandLine
  | .cursor => (number name value 64).map fun n => { line with cursor := n }
  | .columns => (number name value 16).map fun n => { line with columns := some n }
  | .rows => (number name value 16).map fun n => { line with rows := some n }
  | .lexer => .ok { line with lexer := some value }
  | .color =>
    match ColorChoice.ofName? value with
    | some choice => .ok { line with color := choice }
    | none => .error (.usage (.badColorChoice value))

/-- Takes the file to print; there can be only one. -/
def withFile (line : CommandLine) (argument : String) : Except Error CommandLine :=
  if argument.toList.head? = some '-' then .error (.usage (.unknownOption argument))
  else if line.file.isSome then .error (.usage (.unexpectedArgument argument))
  else .ok { line with file := some argument }

def readInto (line : CommandLine) : List String → Except Error CommandLine
  | [] => .ok line
  | argument :: rest =>
    match withFlag? line argument, ValueOption.ofName? argument with
    | some line, _ => readInto line rest
    | none, none =>
      match withFile line argument with
      | .ok line => readInto line rest
      | .error e => .error e
    | none, some option =>
      match rest with
      | [] => .error (.usage (.missingValue argument))
      | value :: rest =>
        match withValue line argument value option with
        | .ok line => readInto line rest
        | .error e => .error e

def ofArguments (arguments : List String) : Except Error CommandLine :=
  readInto {} arguments

end CommandLine

end Highlighting
