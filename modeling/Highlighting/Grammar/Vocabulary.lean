import Highlighting.Grammar.Phrase
import Highlighting.Query.Pattern

/-!
Which queries fit a grammar. The words of a query must be words of the grammar: its kinds, its
tokens and the names of places in its nodes. A pattern for a node with children must be one that
some tree of the grammar can match, with the children in the order in which they are written.
-/
namespace Highlighting

structure Vocabulary where
  kinds : List String := []
  tokens : List String := []
  fields : List String := []

def Vocabulary.union (a b : Vocabulary) : Vocabulary :=
  ⟨a.kinds ++ b.kinds, a.tokens ++ b.tokens, a.fields ++ b.fields⟩

namespace Phrase

mutual

def vocabulary : Phrase → Vocabulary
  | token text => { tokens := [text] }
  | leaf kind _ => { kinds := [kind] }
  | node kind body => (vocabulary body).union { kinds := [kind] }
  | field name body => (vocabulary body).union { fields := [name] }
  | seq first second => (vocabulary first).union (vocabulary second)
  | either first second => (vocabulary first).union (vocabulary second)
  | many body => vocabulary body
  | gaps _ body => vocabulary body
  | grow base steps => (vocabulary base).union (stepsVocabulary steps)
  | empty | plain _ | ref _ | ahead _ | refuse _ => {}

def stepsVocabulary : List (String × Option String × Phrase) → Vocabulary
  | [] => {}
  | (kind, name, body) :: rest =>
    ((vocabulary body).union { kinds := [kind], fields := name.toList }).union
      (stepsVocabulary rest)

end

/-- What stands inside the node that a step makes around what has grown so far. -/
def stepBody (grown : Phrase) (name : Option String) (body : Phrase) : Phrase :=
  seq ((name.map (field · grown)).getD grown) body

mutual

/-- What stands inside the nodes of a kind, in each place where a phrase makes one. -/
def bodiesOf (kind : String) : Phrase → List Phrase
  | node made body => (if made = kind then [body] else []) ++ bodiesOf kind body
  | field _ body => bodiesOf kind body
  | seq first second => bodiesOf kind first ++ bodiesOf kind second
  | either first second => bodiesOf kind first ++ bodiesOf kind second
  | many body => bodiesOf kind body
  | gaps _ body => bodiesOf kind body
  | grow base steps => bodiesOf kind base ++ stepBodiesOf kind (grow base steps) steps
  | empty | token _ | leaf _ _ | plain _ | ref _ | ahead _ | refuse _ => []

def stepBodiesOf (kind : String) (grown : Phrase) :
    List (String × Option String × Phrase) → List Phrase
  | [] => []
  | (made, name, body) :: rest =>
    (if made = kind then [stepBody grown name body] else []) ++
      bodiesOf kind body ++ stepBodiesOf kind grown rest

end

end Phrase

structure Wanted where
  field : Option String := none
  test : NodeTest
  parts : List NodePattern := []

namespace NodePattern

mutual

/-- The children that a pattern asks for, in each of the ways to read it. What is optional is not
asked for. -/
def readings : NodePattern → List (List Wanted)
  | node test children _ => [[{ test := test, parts := children }]]
  | field name body => (readings body).map (·.map fun child => { child with field := some name })
  | capture _ body => readings body
  | oneOf options => readingsOfAny options
  | group parts => readingsOfAll parts
  | anchor => [[]]
  | optional _ => [[]]
  | repeated body => readings body

def readingsOfAny : List NodePattern → List (List Wanted)
  | [] => []
  | p :: rest => readings p ++ readingsOfAny rest

def readingsOfAll : List NodePattern → List (List Wanted)
  | [] => [[]]
  | p :: rest => (readings p).flatMap fun first => (readingsOfAll rest).map (first ++ ·)

end

mutual

def nodes : NodePattern → List NodePattern
  | node test children absent => node test children absent :: nodesOfAll children
  | field _ body => nodes body
  | capture _ body => nodes body
  | oneOf options => nodesOfAll options
  | group parts => nodesOfAll parts
  | anchor => []
  | optional body => nodes body
  | repeated body => nodes body

def nodesOfAll : List NodePattern → List NodePattern
  | [] => []
  | p :: rest => nodes p ++ nodesOfAll rest

end

mutual

def fields : NodePattern → List String
  | node _ children absent => absent ++ fieldsOfAll children
  | field name body => name :: fields body
  | capture _ body => fields body
  | oneOf options => fieldsOfAll options
  | group parts => fieldsOfAll parts
  | anchor => []
  | optional body => fields body
  | repeated body => fields body

def fieldsOfAll : List NodePattern → List String
  | [] => []
  | p :: rest => fields p ++ fieldsOfAll rest

end

end NodePattern

namespace Grammar

def vocabulary (g : Grammar) : Vocabulary :=
  (g.phrases.map fun (_, phrase) => phrase.vocabulary).foldl Vocabulary.union
    (g.item.vocabulary.union { kinds := g.root :: "ERROR" :: g.comments.map (·.1) })

def bodiesOf (g : Grammar) (kind : String) : List Phrase :=
  (if kind = g.root then [.many g.item] else []) ++ g.item.bodiesOf kind ++
    g.phrases.flatMap fun (_, phrase) => phrase.bodiesOf kind

/-- Whether a wanted child may be a comment, which may stand anywhere. -/
def mayBeComment (g : Grammar) (child : Wanted) : Bool :=
  child.field = none && child.parts.isEmpty && g.comments.any fun (kind, _) =>
    child.test.admits true kind

mutual

/-- How many of the wanted children may have been met behind what a phrase yields, if `met` of them
were met before it. The phrase stands in a place of its parent. -/
def reach (g : Grammar) (wanted : List Wanted) : Nat → Option String → Phrase → Nat → List Nat
  | 0, _, _, met => [met]
  | fuel + 1, place, phrase, met =>
    let meets (isNamed : Bool) (kind : String) (body : Option Phrase) : List Nat :=
      match wanted[met]? with
      | none => [met]
      | some child =>
        if (child.field = none || child.field = place) && child.test.admits isNamed kind &&
            (child.parts.isEmpty || body.any fun body => g.derives fuel body child.parts)
        then [met, met + 1] else [met]
    match phrase with
    | .empty | .plain _ | .ahead _ | .refuse _ => [met]
    | .token text => meets false text none
    | .leaf kind _ => meets true kind none
    | .node kind body => meets true kind (some body)
    | .field name body => reach g wanted fuel (some name) body met
    | .ref name =>
      match g.phrases.lookup name with
      | some body => reach g wanted fuel place body met
      | none => []
    | .seq first second =>
      ((reach g wanted fuel place first met).flatMap
        (reach g wanted fuel place second)).eraseDups
    | .either first second =>
      (reach g wanted fuel place first met ++ reach g wanted fuel place second met).eraseDups
    | .many body =>
      wanted.foldl
        (fun found _ => (found ++ found.flatMap (reach g wanted fuel place body)).eraseDups) [met]
    | .gaps _ body => reach g wanted fuel place body met
    | .grow base steps =>
      (reach g wanted fuel place base met ++
        steps.flatMap fun (kind, name, body) =>
          meets true kind (some (Phrase.stepBody (.grow base steps) name body))).eraseDups

/-- Whether what a phrase yields may hold the children that patterns ask for. -/
def derives (g : Grammar) : Nat → Phrase → List NodePattern → Bool
  | 0, _, _ => true
  | fuel + 1, body, parts =>
    (NodePattern.readingsOfAll parts).any fun children =>
      let wanted := children.filter fun child => ! g.mayBeComment child
      (g.reach wanted fuel none body 0).contains wanted.length

end

/-- How far phrases are followed: through as many as stand in a chain of references. -/
def chainLimit : Nat := 64

def admitsNode (g : Grammar) (words : Vocabulary) : NodePattern → Bool
  | .node test children _ =>
    match test with
    | .anything | .anyNamed => true
    | .token text => words.tokens.contains text
    | .named kind =>
      words.kinds.contains kind &&
        (children.isEmpty || (g.bodiesOf kind).any (g.derives chainLimit · children))
  | _ => true

def admits (g : Grammar) (q : Query) : Bool :=
  let words := g.vocabulary
  q.patterns.all fun pattern =>
    (NodePattern.fieldsOfAll pattern.parts).all words.fields.contains &&
      (NodePattern.nodesOfAll pattern.parts).all (g.admitsNode words)

end Grammar

end Highlighting
