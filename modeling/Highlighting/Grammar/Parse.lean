import Highlighting.Grammar.Phrase
import Highlighting.Grammar.SyntaxNode
import Highlighting.Regex.Match
import Highlighting.Text.Property
import Highlighting.Text.Utf8

/-!
Parsing: the syntax tree of a text under a grammar. What no phrase fits is passed over character by
character, so every text has a tree.
-/
namespace Highlighting

structure Place where
  offset : Nat := 0
  before : Option Char := none
  rest : List Char

namespace Place

def advance (place : Place) : Nat → Place
  | 0 => place
  | n + 1 =>
    match place with
    | ⟨_, _, []⟩ => place
    | ⟨offset, _, c :: rest⟩ => advance ⟨offset + c.utf8Size, some c, rest⟩ n

def startsWith (place : Place) (text : List Char) : Bool :=
  text.isPrefixOf place.rest

def matching? (place : Place) (pattern : Regex) : Option Place :=
  (pattern.matchAt place.before place.rest).map place.advance

end Place

namespace Grammar

/-- Passes over blanks and comments; the comments become nodes. -/
def skipGap (g : Grammar) : Nat → Place → List SyntaxNode × Place
  | 0, place => ([], place)
  | fuel + 1, place =>
    match place.rest with
    | [] => ([], place)
    | c :: _ =>
      if g.isBlank c then skipGap g fuel (place.advance 1)
      else
        let comment := g.comments.findSome? fun (kind, pattern) =>
          match place.matching? pattern with
          | some next =>
            if place.offset < next.offset then
              some ({ kind := kind, named := true, start := place.offset, stop := next.offset },
                next)
            else none
          | none => none
        match comment with
        | none => ([], place)
        | some (node, next) =>
          let (nodes, place) := skipGap g fuel next
          (node :: nodes, place)

/-- The place behind a token. A token that ends in a word character must not run on into another
one, and must not cut into a longer operator. -/
def token? (g : Grammar) (text : List Char) (place : Place) : Option Place :=
  if ! place.startsWith text then none
  else
    let next := place.advance text.length
    let runsOn := (text.getLast?.map Character.isWord).getD false &&
      (next.rest.head?.map Character.isWord).getD false
    let cuts := g.operators.any fun longer =>
      text.length < longer.length && text.isPrefixOf longer.toList &&
        place.startsWith longer.toList
    if runsOn || cuts then none else some next

mutual

/-- What a phrase yields at a place, and the place behind it. `gaps` tells whether blanks and
comments may stand in front of a token; `fuel` bounds the depth of the recursion. -/
def parse? (g : Grammar) : Nat → Bool → Phrase → Place → Option (List SyntaxNode × Place)
  | 0, _, _, _ => none
  | fuel + 1, gaps, phrase, place =>
    let behindGap : List SyntaxNode × Place :=
      if gaps then g.skipGap fuel place else ([], place)
    match phrase with
    | .empty => some ([], place)
    | .token text =>
      let (lead, place) := behindGap
      (g.token? text.toList place).map fun next =>
        (lead ++ [{ kind := text, named := false, start := place.offset, stop := next.offset }],
          next)
    | .leaf kind pattern =>
      let (lead, place) := behindGap
      (place.matching? pattern).map fun next =>
        (lead ++ [{ kind := kind, named := true, start := place.offset, stop := next.offset }],
          next)
    | .plain pattern =>
      let (lead, place) := behindGap
      (place.matching? pattern).map fun next => (lead, next)
    | .node kind body =>
      let (lead, place) := behindGap
      (parse? g fuel gaps body place).map fun (children, next) =>
        (lead ++ [{ kind := kind, named := true, start := place.offset, stop := next.offset,
                    children := children }], next)
    | .field name body =>
      let (lead, place) := behindGap
      (parse? g fuel gaps body place).map fun (nodes, next) =>
        (lead ++ nodes.map fun node => { node with field := some name }, next)
    | .ref name => (g.phrases.lookup name).bind fun body => parse? g fuel gaps body place
    | .seq first second =>
      match parse? g fuel gaps first place with
      | none => none
      | some (nodes, place) =>
        (parse? g fuel gaps second place).map fun (more, next) => (nodes ++ more, next)
    | .either first second =>
      match parse? g fuel gaps first place with
      | some found => some found
      | none => parse? g fuel gaps second place
    | .many body =>
      match parse? g fuel gaps body place with
      | none => some ([], place)
      | some (nodes, next) =>
        if next.offset = place.offset then some ([], place)
        else match parse? g fuel gaps (.many body) next with
          | some (more, last) => some (nodes ++ more, last)
          | none => some (nodes, next)
    | .ahead body => (parse? g fuel gaps body place).map fun _ => ([], place)
    | .refuse body =>
      match parse? g fuel gaps body place with
      | some _ => none
      | none => some ([], place)
    | .gaps allowed body => parse? g fuel allowed body place
    | .grow base steps =>
      let (lead, place) := behindGap
      match parse? g fuel gaps base place with
      | none => none
      | some (nodes, next) =>
        let (nodes, last) := grow g fuel gaps steps place.offset nodes next
        some (lead ++ nodes, last)

/-- Grows what stands from `start` on by steps that fit behind it. -/
def grow (g : Grammar) : Nat → Bool → List (String × Option String × Phrase) → Nat →
    List SyntaxNode → Place → List SyntaxNode × Place
  | 0, _, _, _, nodes, place => (nodes, place)
  | fuel + 1, gaps, steps, start, nodes, place =>
    let fitting := steps.findSome? fun (kind, field, phrase) =>
      (parse? g fuel gaps phrase place).map fun (more, next) => (kind, field, more, next)
    match fitting with
    | none => (nodes, place)
    | some (kind, field, more, next) =>
      if next.offset = place.offset then (nodes, place)
      else
        let inner := match field with
          | some name => nodes.map fun node => { node with field := some name }
          | none => nodes
        let node : SyntaxNode :=
          { kind := kind, named := true, start := start, stop := next.offset,
            children := inner ++ more }
        grow g fuel gaps steps start [node] next

end

/-- The items of a text; a character that begins none is passed over. -/
def items (g : Grammar) (depth : Nat) : Nat → Place → List SyntaxNode
  | 0, _ => []
  | fuel + 1, place =>
    let (lead, place) := g.skipGap depth place
    match place.rest with
    | [] => lead
    | _ :: _ =>
      match g.parse? depth true g.item place with
      | some (nodes, next) =>
        if next.offset = place.offset then lead ++ items g depth fuel (place.advance 1)
        else lead ++ nodes ++ items g depth fuel next
      | none => lead ++ items g depth fuel (place.advance 1)

/-- How deep a parse may go, for each character of the text and at least. -/
def depthPerCharacter : Nat := 64

/-- The syntax tree of a text. Its root begins at the first character that is no blank and goes to
the end. -/
def tree (g : Grammar) (text : List Char) : SyntaxNode :=
  let blank := text.takeWhile g.isBlank
  let start := Utf8.byteLength blank
  { kind := g.root, named := true, start := start, stop := Utf8.byteLength text,
    children := g.items (depthPerCharacter * (text.length + 16)) (text.length + 1)
      { rest := text } }

end Grammar

end Highlighting
