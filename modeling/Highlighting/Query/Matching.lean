import Highlighting.Grammar.SyntaxNode
import Highlighting.Query.Pattern
import Highlighting.Regex.Match
import Highlighting.Text.Utf8

/-!
Matching queries. A pattern matches siblings from a node on, and may pass over siblings between its
parts; every way to match counts. The captures of a query are those of all its matches, by their
start. Of several captures at one start that comes first whose match is complete first when the tree
is entered from outside; so an outer node comes before an inner one, unless its match takes the
inner one too. Of several matches complete at one node that comes first whose pattern was written
first.
-/
namespace Highlighting

structure Capture where
  start : Nat
  stop : Nat
  name : String
  deriving DecidableEq, Repr

/-- Where a node is entered: its start and how deep it lies in the tree. -/
structure Entry where
  start : Nat := 0
  depth : Nat := 0
  deriving DecidableEq, Repr

namespace Entry

def atMost (a b : Entry) : Bool :=
  if a.start = b.start then a.depth ≤ b.depth else a.start < b.start

def later (a b : Entry) : Entry :=
  if a.atMost b then b else a

end Entry

/-- A way to match: what was captured, where the last of its nodes is entered, and the siblings
behind the match. -/
structure Matched where
  captured : List Capture := []
  last : Entry := {}
  rest : List SyntaxNode

namespace Matched

def behind (first second : Matched) : Matched :=
  ⟨first.captured ++ second.captured, first.last.later second.last, second.rest⟩

end Matched

namespace NodePattern

def endings : List SyntaxNode → List (List SyntaxNode)
  | [] => [[]]
  | n :: rest => (n :: rest) :: endings rest

/-- The endings that begin no later than at the first named node. -/
def nextEndings : List SyntaxNode → List (List SyntaxNode)
  | [] => [[]]
  | n :: rest => if n.named then [n :: rest] else (n :: rest) :: nextEndings rest

mutual

def ways (depth : Nat) (siblings : List SyntaxNode) : NodePattern → List Matched
  | .node test children absent =>
    match siblings with
    | [] => []
    | n :: rest =>
      let missing := absent.all fun name => n.children.all fun child => child.field != some name
      if test.admits n.named n.kind && missing then
        (sequence (depth + 1) false n.children children).map fun inside =>
          ⟨inside.captured, inside.last.later ⟨n.start, depth⟩, rest⟩
      else []
  | .field name body =>
    match siblings with
    | [] => []
    | n :: _ => if n.field = some name then ways depth siblings body else []
  | .capture name body =>
    (ways depth siblings body).map fun found =>
      match siblings with
      | [] => found
      | n :: _ =>
        if found.rest.length = siblings.length then found
        else { found with captured := ⟨n.start, n.stop, name⟩ :: found.captured }
  | .oneOf options => anyWay depth siblings options
  | .group parts => sequence depth true siblings parts
  | .anchor => [{ rest := siblings }]
  | .optional body => { rest := siblings } :: ways depth siblings body
  | .repeated body => ways depth siblings body

def anyWay (depth : Nat) (siblings : List SyntaxNode) : List NodePattern → List Matched
  | [] => []
  | p :: rest => ways depth siblings p ++ anyWay depth siblings rest

/-- The ways to match patterns in order; when `next` the first may not pass over named siblings. -/
def sequence (depth : Nat) (next : Bool) (siblings : List SyntaxNode) :
    List NodePattern → List Matched
  | [] => if next && siblings.any (·.named) then [] else [{ rest := siblings }]
  | .anchor :: rest => sequence depth true siblings rest
  | [.group parts] => sequence depth next siblings parts
  | p :: rest =>
    let starts := if next then nextEndings siblings else endings siblings
    let first := starts.flatMap fun place => ways depth place p
    first.flatMap fun found => (sequence depth false found.rest rest).map found.behind

end

end NodePattern

namespace Condition

def textOf (source : List Char) (capture : Capture) : List Char :=
  match Utf8.splitAt? capture.start source with
  | none => []
  | some (_, behind) =>
    match Utf8.splitAt? (capture.stop - capture.start) behind with
    | none => []
    | some (text, _) => text

def textsOf (source : List Char) (captured : List Capture) (name : String) :
    List (List Char) :=
  (captured.filter (·.name = name)).map (textOf source)

def holds (source : List Char) (captured : List Capture) : Condition → Bool
  | equalTo all negated name other =>
    let texts := textsOf source captured name
    let agrees (pair : List Char × List Char) : Bool := (pair.1 == pair.2) != negated
    let pairs := match other with
      | .text written => texts.map (·, written.toList)
      | .capture other => texts.zip (textsOf source captured other)
    if all then pairs.all agrees else pairs.any agrees
  | matching all negated name pattern =>
    let texts := textsOf source captured name
    let fits (text : List Char) : Bool := pattern.isMatch text != negated
    if all then texts.all fits else texts.any fits
  | among negated name written =>
    (textsOf source captured name).all fun text =>
      (written.contains (String.ofList text)) != negated

end Condition

/-- A capture in its place in the order of delivery: where its match is complete, and the pattern of
its match. -/
structure Delivery where
  capture : Capture
  complete : Entry
  pattern : Nat
  deriving Repr

/-- The order of delivery: by start, then by completion, then by pattern. -/
def Delivery.comesBefore (a b : Delivery) : Bool :=
  if a.capture.start ≠ b.capture.start then a.capture.start < b.capture.start
  else if a.complete ≠ b.complete then a.complete.atMost b.complete
  else a.pattern ≤ b.pattern

namespace Query

def deliveriesAt (source : List Char) (depth : Nat) (siblings : List SyntaxNode) (index : Nat)
    (pattern : QueryPattern) : List Delivery :=
  let found := match pattern.parts with
    | [] => []
    | p :: _ => p.ways depth siblings
  (found.filter fun way => pattern.conditions.all (·.holds source way.captured)).flatMap fun way =>
    way.captured.map (⟨·, way.last, index⟩)

def deliveries (q : Query) (source : List Char) (depth : Nat) : List SyntaxNode → List Delivery
  | [] => []
  | ⟨kind, named, field, start, stop, children⟩ :: rest =>
    let siblings := ⟨kind, named, field, start, stop, children⟩ :: rest
    (q.patterns.mapIdx fun i p => deliveriesAt source depth siblings i p).flatten ++
      deliveries q source (depth + 1) children ++ deliveries q source depth rest

def captures (q : Query) (source : List Char) (tree : SyntaxNode) : List Capture :=
  ((deliveries q source 0 [tree]).mergeSort Delivery.comesBefore).map (·.capture)

end Query

end Highlighting
