import Highlighting.Regex.Match
import Highlighting.Regex.Reader
import Highlighting.Text.FileName

/-!
Patterns for file names. A pattern without a star is a whole name. Otherwise it describes the end of
a name, up to case: `*.` and an extension mean a dot and that extension, taken literally; any other
pattern may begin anywhere, and each further star stands for any characters of one line. What a
pattern describes is written as a regular expression, which is read in turn.
-/
namespace Highlighting

inductive FilePattern where
  | name (exactly : String)
  | glob (source : String) (regex : Regex)
  deriving DecidableEq, Repr

namespace FilePattern

def escapeChar (c : Char) : List Char :=
  if Regex.Reader.isMeta c then ['\\', c] else [c]

def escape (text : List Char) : List Char :=
  text.flatMap escapeChar

/-- Replaces each `\*` by `.*`, from left to right. -/
def openStars : List Char → List Char
  | '\\' :: '*' :: rest => '.' :: '*' :: openStars rest
  | c :: rest => c :: openStars rest
  | [] => []

/-- What a pattern describes, as a regular expression, unless it is a whole name. -/
def body? (source : List Char) : Option (List Char) :=
  match source with
  | '*' :: '.' :: extension => some ("\\.".toList ++ escape extension)
  | '*' :: rest => some (openStars (escape rest))
  | chars => if chars.contains '*' then some (openStars (escape chars)) else none

/-- How the expression of a pattern is read: up to case. -/
def caseless : Regex.Reader.Flags := { classes := .standard, ignoreCase := true }

def readBody (body : List Char) : Regex :=
  let text := body ++ "\\z".toList
  let part? := Regex.Reader.read (text.length + 1) (.start caseless text)
  (part?.map (·.regex)).getD (.set .empty)

def ofText (source : String) : FilePattern :=
  match body? source.toList with
  | some body => .glob source (readBody body)
  | none => .name source

def source : FilePattern → String
  | name exactly => exactly
  | glob source _ => source

/-- Whether a file's name, the last part of its path, matches the pattern. -/
def isMatch (pattern : FilePattern) (path : String) : Bool :=
  match pattern with
  | name exactly => FileName.base path == exactly
  | glob _ regex => regex.isMatch (FileName.base path).toList

end FilePattern

end Highlighting
