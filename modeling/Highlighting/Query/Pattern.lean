import Highlighting.Regex.Basic

/-!
Highlight queries. A query is a list of patterns for the nodes of a syntax tree; a pattern gives
names to the nodes that it captures. A pattern may come with conditions on the text of captured
nodes.
-/
namespace Highlighting

inductive NodeTest where
  | anything
  | anyNamed
  | named (kind : String)
  | token (text : String)
  deriving DecidableEq, Repr

/-- Whether a node of a kind passes a test; the kind of a node without a name is its text. -/
def NodeTest.admits (test : NodeTest) (isNamed : Bool) (kind : String) : Bool :=
  match test with
  | anything => true
  | anyNamed => isNamed
  | named expected => isNamed && kind = expected
  | token text => ! isNamed && kind = text

inductive NodePattern where
  /-- A node whose children match patterns in order, and of whose children none takes one of the
  places listed as absent. -/
  | node (test : NodeTest) (children : List NodePattern) (absent : List String)
  | field (name : String) (body : NodePattern)
  /-- Gives a name to the first node of a match. -/
  | capture (name : String) (body : NodePattern)
  | oneOf (options : List NodePattern)
  | group (parts : List NodePattern)
  /-- Nothing stands between what is matched before and behind. -/
  | anchor
  | optional (body : NodePattern)
  | repeated (body : NodePattern)
  deriving Repr, Inhabited

inductive Operand where
  | capture (name : String)
  | text (written : String)
  deriving DecidableEq, Repr

/-- A condition on captured text. With `all` it must hold of all nodes of the capture, else of
one. -/
inductive Condition where
  | equalTo (all : Bool) (negated : Bool) (capture : String) (other : Operand)
  | matching (all : Bool) (negated : Bool) (capture : String) (pattern : Regex)
  | among (negated : Bool) (capture : String) (texts : List String)
  deriving Repr

structure QueryPattern where
  parts : List NodePattern
  conditions : List Condition := []
  deriving Repr

structure Query where
  patterns : List QueryPattern := []
  deriving Repr

end Highlighting
