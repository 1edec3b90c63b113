import Highlighting.Regex.Match
import Highlighting.Viewport

/-!
Baseline highlighting, for text without a lexer: comments, strings and numbers in the shapes that
most languages share. Of the patterns that match at a place the first one wins, and behind each
match the style goes back to plain.
-/
namespace Highlighting

namespace Baseline

def restOfLine : Regex := .star true (.set (.except '\n'))

/-- A number sign or two slashes up to the end of the line, or what stands between slash and star
and the next star and slash. -/
def comment : Regex := .altAll
  [ .seq (.char '#') restOfLine,
    .seqAll [.char '/', .char '/', restOfLine],
    .seqAll [.char '/', .char '*', .star false (.set .any), .char '*', .char '/'] ]

/-- Text between two equal quotes on a line; a backslash takes the next character with it. -/
def quoted (quote : Char) : Regex := .seqAll
  [ .char quote,
    .star true (.alt
      (.set (.compl (.unionAll [.single quote, .single '\\', .single '\n'])))
      (.seq (.char '\\') (.set (.except '\n')))),
    .char quote ]

def string : Regex := .alt (quoted '"') (quoted '\'')

/-- Digits, with more behind a point or not, that make a word of their own. -/
def number : Regex := .seqAll
  [ .look (.wordBoundary false),
    .plus true (.set .digit),
    .optional true (.seq (.char '.') (.plus true (.set .digit))),
    .look (.wordBoundary false) ]

def rules : List (String × Regex) :=
  [("comment", comment), ("string", string), ("number", number)]

structure Found where
  face : String
  start : Nat
  stop : Nat
  deriving DecidableEq, Repr

def firstMatch (before : Option Char) (text : List Char) : Option (String × Nat) :=
  rules.findSome? fun rule => (rule.2.matchAt before text).map (rule.1, ·)

/-- The matches of a text from left to right; each begins behind the one before. Every step takes a
character, so as many steps as characters are enough. -/
def matchesFrom : Nat → Option Char → Nat → List Char → List Found
  | 0, _, _, _ => []
  | _ + 1, _, _, [] => []
  | fuel + 1, before, offset, c :: rest =>
    match firstMatch before (c :: rest) with
    | some (face, n + 1) =>
      let taken := (c :: rest).take (n + 1)
      let stop := offset + Utf8.byteLength taken
      ⟨face, offset, stop⟩ :: matchesFrom fuel taken.getLast? stop ((c :: rest).drop (n + 1))
    | _ => matchesFrom fuel (some c) (offset + c.utf8Size) rest

def found (base : Nat) (text : List Char) : List Found :=
  matchesFrom (text.length + 1) none base text

/-- The spans of a text: each match whose face is registered, and plain style behind it. -/
def spans (faces : Faces) (base : Nat) (text : List Char) : List Span :=
  (found base text).flatMap fun m => match faces.get? m.face with
    | some style => [⟨m.start, style⟩, ⟨m.stop, .plain⟩]
    | none => []

end Baseline

structure Baseline where
  faces : Faces
  limit : Nat
  deriving Repr

namespace Baseline

/-- One cycle: the style map becomes the spans of the viewport, or empty when the viewport is no
text. -/
def highlight (baseline : Baseline) (doc : Document) (window : Window) : Window :=
  match Viewport.select doc doc.point window.columns window.rows baseline.limit with
  | .ok view => window.setSpans (spans baseline.faces view.base view.text)
  | .error _ => window.clear

end Baseline

end Highlighting
