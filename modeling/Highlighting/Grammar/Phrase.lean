import Highlighting.Regex.Reader

/-!
Grammars. A grammar is a table of phrases; a phrase says how a stretch of text is made of tokens and
nodes. Of two ways to go on the first that fits is taken, a repetition takes as much as it can, and
blanks and comments may stand in front of any token.
-/
namespace Highlighting

inductive Phrase where
  | empty
  /-- Exactly this text, as a node without a name. -/
  | token (text : String)
  /-- What the pattern matches, as a named node without parts. -/
  | leaf (kind : String) (pattern : Regex)
  /-- What the pattern matches, as no node. -/
  | plain (pattern : Regex)
  | node (kind : String) (body : Phrase)
  /-- The body, whose nodes take a place that has a name in their parent. -/
  | field (name : String) (body : Phrase)
  | ref (name : String)
  | seq (first second : Phrase)
  | either (first second : Phrase)
  | many (body : Phrase)
  /-- Nothing, provided that the body fits here. -/
  | ahead (body : Phrase)
  /-- Nothing, provided that the body does not fit here. -/
  | refuse (body : Phrase)
  /-- The body, with blanks and comments in front of its tokens or without. -/
  | gaps (allowed : Bool) (body : Phrase)
  /-- The base, grown as often as one of the steps fits behind it: a node of the step's kind then
  stands around what there is, in the field of that name, and what the step yields. -/
  | grow (base : Phrase) (steps : List (String × Option String × Phrase))
  deriving Repr, Inhabited

structure Grammar where
  root : String
  item : Phrase
  phrases : List (String × Phrase) := []
  comments : List (String × Regex) := []
  isBlank : Char → Bool := fun c => c.isWhitespace || c = '\x0b' || c = '\x0c' || c = '\ufeff'
  /-- Tokens that no shorter token may cut into. -/
  operators : List String := []

namespace Phrase

/-- A written pattern; one that cannot be read matches nothing but the empty text. -/
def pattern (written : String) : Regex :=
  (Regex.ofText? .standard written.toList).getD .empty

def all : List Phrase → Phrase
  | [] => empty
  | [phrase] => phrase
  | phrase :: rest => seq phrase (all rest)

def any : List Phrase → Phrase
  | [] => refuse empty
  | [phrase] => phrase
  | phrase :: rest => either phrase (any rest)

def optional (phrase : Phrase) : Phrase :=
  either phrase empty

def atLeastOnce (phrase : Phrase) : Phrase :=
  seq phrase (many phrase)

/-- A phrase at least once, with another between its occurrences. -/
def separated (cut phrase : Phrase) : Phrase :=
  seq phrase (many (seq cut phrase))

def tree (kind : String) (phrases : List Phrase) : Phrase :=
  node kind (all phrases)

def word (kind written : String) : Phrase :=
  leaf kind (pattern written)

def text (written : String) : Phrase :=
  plain (pattern written)

def oneOf (tokens : List String) : Phrase :=
  any (tokens.map token)

/-- A named node without parts that is none of the reserved words. -/
def name (kind written : String) (reserved : List String) : Phrase :=
  seq (refuse (oneOf reserved)) (word kind written)

def between (first last : String) (body : Phrase) : Phrase :=
  all [token first, body, token last]

def tight (phrases : List Phrase) : Phrase :=
  gaps false (all phrases)

end Phrase

end Highlighting
