import Highlighting.Text.DisplayWidth
import Highlighting.Text.Utf8
import Highlighting.Window

/-!
Terminal output. Styled text becomes a sequence of commands: each character is a write of its own,
and between the writes stand the commands that change the attributes of what is written next. A line
ends with the attributes it began with, so no style leaks into what follows. What is written depends
on the text, the columns and the widths of characters alone; the style map only adds commands.
-/
namespace Highlighting

inductive Command where
  | write (text : List Char)
  | reset
  | foreground (index : Nat)
  | background (index : Nat)
  | bold
  | italic
  | underline
  | reverse
  deriving DecidableEq, Repr

namespace Command

def isWrite : Command → Bool
  | write _ => true
  | _ => false

def escape (code : String) : List Char :=
  '\x1b' :: '[' :: code.toList ++ ['m']

def chars : Command → List Char
  | write text => text
  | reset => escape "0"
  | foreground index => escape ("38;5;" ++ toString index)
  | background index => escape ("48;5;" ++ toString index)
  | bold => escape "1"
  | italic => escape "3"
  | underline => escape "4"
  | reverse => escape "7"

end Command

namespace Terminal

def tabWidth : Nat := 8

/-- The commands that replace whatever attributes are in effect by those of a style. -/
def switchTo (style : Style) : List Command :=
  .reset :: (style.foreground.paletteIndex?.map Command.foreground).toList ++
    (style.background.paletteIndex?.map Command.background).toList ++
    (if style.bold then [.bold] else []) ++ (if style.italic then [.italic] else []) ++
    (if style.underline then [.underline] else []) ++ (if style.reverse then [.reverse] else [])

def switchTo? (style : Option Style) : List Command :=
  (style.map switchTo).getD []

section Layout

variable (widths : CharWidth)

/-- What is written for a character at a column, and the column behind it; nothing where the line is
full. A tab becomes blanks up to the next stop; a character without a width takes one column. -/
def place? (columns column : Nat) (c : Char) : Option (List Char × Nat) :=
  let next := if c = '\t' then (column / tabWidth + 1) * tabWidth
    else column + (widths.columns? c).getD 1
  if next ≤ columns then
    some (if c = '\t' then List.replicate (next - column) ' ' else [c], next)
  else none

/-- The commands for the characters of a line from `column` on. Before each of them but the first of
the line, a style that begins there is switched on. -/
def cells (styles : StyleMap) (columns : Nat) (isFirst : Bool) (offset column : Nat) :
    List Char → List Command
  | [] => []
  | c :: rest =>
    let lead := if isFirst then [] else switchTo? (styles.get? offset)
    match place? widths columns column c with
    | none => lead
    | some (text, next) =>
      lead ++ .write text :: cells styles columns false (offset + c.utf8Size) next rest

/-- Whether a character only ends lines. -/
def isLineEnd (c : Char) : Bool :=
  c = '\n' || c = '\r'

def visible (line : List Char) : List Char :=
  (line.reverse.dropWhile isLineEnd).reverse

/-- The commands for one line: it begins in the style in effect there, and ends without one. -/
def line (window : Window) (offset : Nat) (text : List Char) : List Command :=
  let styled := switchTo? (window.styleAt? offset) ++
    cells widths window.styles window.columns true offset 0 (visible text)
  styled ++ (if styled.all Command.isWrite then [] else [.reset]) ++ [.write ['\n']]

def lines : List Char → List (List Char)
  | [] => []
  | c :: rest =>
    if c = '\n' then [c] :: lines rest
    else match lines rest with
      | first :: more => (c :: first) :: more
      | [] => [[c]]

def linesFrom (window : Window) (offset : Nat) : List (List Char) → List Command
  | [] => []
  | text :: more =>
    line widths window offset text ++ linesFrom window (offset + Utf8.byteLength text) more

/-- The commands for a text that begins at an absolute offset. Without colors only the writes are
left. -/
def render (colors : Bool) (window : Window) (base : Nat) (text : List Char) : List Command :=
  let commands := linesFrom widths window base (lines text)
  if colors then commands else commands.filter Command.isWrite

end Layout

def output (commands : List Command) : List Char :=
  commands.flatMap Command.chars

end Terminal

end Highlighting
