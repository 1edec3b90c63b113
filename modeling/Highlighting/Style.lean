import Highlighting.NameTable

/-!
Colors, text styles and faces. A face is a named style; a face whose style is the default one still
counts as styling, since it is what ends the colors of the text before it.
-/
namespace Highlighting

inductive Color where
  | default
  | black | red | green | yellow | blue | magenta | cyan | white
  | brightBlack | brightRed | brightGreen | brightYellow
  | brightBlue | brightMagenta | brightCyan | brightWhite
  deriving DecidableEq, Repr, Inhabited

namespace Color

/-- All colors, the palette in its numbered order behind the terminal's own. -/
def all : List Color :=
  [default, black, red, green, yellow, blue, magenta, cyan, white, brightBlack, brightRed,
    brightGreen, brightYellow, brightBlue, brightMagenta, brightCyan, brightWhite]

def name : Color → String
  | default => "Default"
  | black => "Black"
  | red => "Red"
  | green => "Green"
  | yellow => "Yellow"
  | blue => "Blue"
  | magenta => "Magenta"
  | cyan => "Cyan"
  | white => "White"
  | brightBlack => "BrightBlack"
  | brightRed => "BrightRed"
  | brightGreen => "BrightGreen"
  | brightYellow => "BrightYellow"
  | brightBlue => "BrightBlue"
  | brightMagenta => "BrightMagenta"
  | brightCyan => "BrightCyan"
  | brightWhite => "BrightWhite"

def plainName (written : String) : String :=
  String.ofList ((written.toList.map Char.toLower).filter fun c => c ≠ '_' ∧ c ≠ '-')

/-- Reads a color name; case, underscores and hyphens do not matter. -/
def ofName? (written : String) : Option Color :=
  all.find? fun color => plainName color.name = plainName written

def paletteIndex? (color : Color) : Option Nat :=
  (all.drop 1).idxOf? color

end Color

structure Style where
  foreground : Color := .default
  background : Color := .default
  bold : Bool := false
  italic : Bool := false
  underline : Bool := false
  reverse : Bool := false
  deriving DecidableEq, Repr, Inhabited

namespace Style

def plain : Style := {}

def colored (color : Color) : Style := { foreground := color }

end Style

abbrev Faces := NameTable Style

namespace Faces

def standard : Faces := NameTable.ofList
  [ ("string", .colored .green),
    ("number", .colored .magenta),
    ("keyword", { foreground := .cyan, bold := true }),
    ("comment", .colored .brightBlack),
    ("function_name", { foreground := .blue, bold := true }),
    ("type", { foreground := .yellow, bold := true }),
    ("constant", .colored .yellow),
    ("variable", .plain),
    ("builtin", .colored .cyan),
    ("label", { foreground := .yellow, bold := true }),
    ("operator", .plain),
    ("punctuation", .plain) ]

end Faces

end Highlighting
