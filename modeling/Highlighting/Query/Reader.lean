import Highlighting.Query.Pattern
import Highlighting.Regex.Reader
import Highlighting.Text.Property

/-!
Reading queries. A pattern for a named node is written `(kind child child)`, one for a token in
double quotes; `[a b]` stands for either, `(a b)` for siblings, `name: a` for a place in the parent,
`@name` behind a pattern captures, `?`, `*` and `+` repeat, `.` is an anchor, and `(#name argument)`
is a condition. A semicolon begins a comment.
-/
namespace Highlighting.QueryReader

inductive Item where
  | pattern (p : NodePattern)
  | condition (name : String) (operands : List Operand)

def isNameStart (c : Char) : Bool :=
  Character.isWord c || c = '-'

def isNameChar (c : Char) : Bool :=
  isNameStart c || c = '.'

def skip (inComment : Bool) : List Char → List Char
  | [] => []
  | c :: rest =>
    if inComment then skip (c ≠ '\n') rest
    else if c = ';' then skip true rest
    else if Character.isBlank c then skip false rest
    else c :: rest

def next (text : List Char) : List Char := skip false text

def name? (text : List Char) : Option (String × List Char) :=
  match text with
  | c :: _ =>
    if isNameStart c then
      some (String.ofList (text.takeWhile isNameChar), text.dropWhile isNameChar)
    else none
  | [] => none

/-- Reads a quoted text up to its closing quote; the quotes are not part of it, and a line must not
end inside it. -/
def quoted? : List Char → Option (List Char × List Char)
  | [] => none
  | '"' :: rest => some ([], rest)
  | '\\' :: c :: rest =>
    let escaped := match c with
      | 'n' => '\n'
      | 'r' => '\r'
      | 't' => '\t'
      | '0' => '\x00'
      | c => c
    (quoted? rest).map fun (text, rest) => (escaped :: text, rest)
  | '\n' :: _ => none
  | c :: rest => (quoted? rest).map fun (text, rest) => (c :: text, rest)

def operands? : Nat → List Char → Option (List Operand × List Char)
  | 0, _ => none
  | fuel + 1, text =>
    let more (operand : Operand) (rest : List Char) :=
      (operands? fuel (next rest)).map fun (operands, rest) => (operand :: operands, rest)
    match text with
    | ')' :: rest => some ([], rest)
    | '@' :: rest => (name? rest).bind fun (name, rest) => more (.capture name) rest
    | '"' :: rest =>
      (quoted? rest).bind fun (text, rest) => more (.text (String.ofList text)) rest
    | _ => (name? text).bind fun (name, rest) => more (.text name) rest

def condition? (fuel : Nat) (text : List Char) : Option (Item × List Char) := do
  let (name, rest) ← name? text
  let (name, rest) := match rest with
    | '?' :: rest => (name ++ "?", rest)
    | '!' :: rest => (name ++ "!", rest)
    | _ => (name, rest)
  let (operands, rest) ← operands? fuel (next rest)
  some (.condition name operands, rest)

def closes (text : List Char) : Bool :=
  match text with
  | ')' :: _ => true
  | ']' :: _ => true
  | _ => false

def suffixes (p : NodePattern) : Nat → List Char → Option (NodePattern × List Char)
  | 0, text => some (p, text)
  | fuel + 1, text =>
    match next text with
    | '?' :: rest => suffixes (.optional p) fuel rest
    | '+' :: rest => suffixes (.repeated p) fuel rest
    | '*' :: rest => suffixes (.optional (.repeated p)) fuel rest
    | '@' :: rest => (name? rest).bind fun (name, rest) => suffixes (.capture name p) fuel rest
    | rest => some (p, rest)

/-- What is read behind an opening sign: patterns, conditions and absent places. -/
structure Inside where
  parts : List NodePattern := []
  conditions : List (String × List Operand) := []
  absent : List String := []

mutual

/-- Reads one pattern or condition, with the conditions that stand inside it. -/
def item? : Nat → List Char → Option (Item × List (String × List Operand) × List Char)
  | 0, _ => none
  | fuel + 1, text =>
    let finish (p : NodePattern) (conditions : List (String × List Operand)) (rest : List Char) :=
      (suffixes p (rest.length + 1) rest).map fun (p, rest) => (Item.pattern p, conditions, rest)
    match text with
    | '[' :: rest => do
      let (inside, rest) ← inside? fuel ']' {} (next rest)
      if inside.parts.isEmpty then none
      else finish (.oneOf inside.parts) inside.conditions rest
    | '"' :: rest => do
      let (text, rest) ← quoted? rest
      finish (.node (.token (String.ofList text)) [] []) [] rest
    | '(' :: rest =>
      match next rest with
      | '#' :: rest => (condition? fuel rest).map fun (item, rest) => (item, [], rest)
      | '.' :: rest => (condition? fuel rest).map fun (item, rest) => (item, [], rest)
      | rest =>
        match name? rest with
        | some (kind, rest) => do
          let (inside, rest) ← inside? fuel ')' {} (next rest)
          let test := if kind = "_" then NodeTest.anyNamed else .named kind
          finish (.node test inside.parts inside.absent) inside.conditions rest
        | none =>
          match rest with
          | c :: _ =>
            if c = '(' ∨ c = '"' ∨ c = '[' then do
              let (inside, rest) ← inside? fuel ')' {} rest
              finish (.group inside.parts) inside.conditions rest
            else none
          | [] => none
    | _ => do
      let (name, rest) ← name? text
      if name = "_" then finish (.node .anything [] []) [] rest
      else
        match next rest with
        | ':' :: rest =>
          match ← item? fuel (next rest) with
          | (.pattern p, conditions, rest) => some (.pattern (.field name p), conditions, rest)
          | (.condition _ _, _, _) => none
        | _ => none

def inside? : Nat → Char → Inside → List Char → Option (Inside × List Char)
  | 0, _, _, _ => none
  | fuel + 1, close, inside, text =>
    match text with
    | '!' :: rest => do
      let (name, rest) ← name? (next rest)
      inside? fuel close { inside with absent := inside.absent ++ [name] } (next rest)
    | '.' :: rest =>
      inside? fuel close { inside with parts := inside.parts ++ [.anchor] } (next rest)
    | c :: rest =>
      if c = close then some (inside, rest)
      else if closes text then none
      else do
        let (item, conditions, rest) ← item? fuel text
        let inside := { inside with conditions := inside.conditions ++ conditions }
        let inside := match item with
          | .pattern p => { inside with parts := inside.parts ++ [p] }
          | .condition name operands =>
            { inside with conditions := inside.conditions ++ [(name, operands)] }
        inside? fuel close inside (next rest)
    | [] => none

end

/-- The condition that a name and its operands make: none if it does not concern the text, and no
answer if the operands do not fit the name. -/
def conditionOf? (name : String) (operands : List Operand) : Option (Option Condition) :=
  let texts (os : List Operand) : Option (List String) := os.mapM fun
    | .text written => some written
    | .capture _ => none
  let equal (all negated : Bool) : Option (Option Condition) :=
    match operands with
    | [.capture c, other] => some (some (.equalTo all negated c other))
    | _ => none
  let fits (all negated : Bool) : Option (Option Condition) :=
    match operands with
    | [.capture c, .text written] =>
      (Regex.ofText? .standard written.toList).map fun r => some (.matching all negated c r)
    | _ => none
  let among (negated : Bool) : Option (Option Condition) :=
    match operands with
    | .capture c :: rest => (texts rest).map fun ts => some (.among negated c ts)
    | _ => none
  match name with
  | "eq?" => equal true false
  | "not-eq?" => equal true true
  | "any-eq?" => equal false false
  | "any-not-eq?" => equal false true
  | "match?" => fits true false
  | "not-match?" => fits true true
  | "any-match?" => fits false false
  | "any-not-match?" => fits false true
  | "any-of?" => among false
  | "not-any-of?" => among true
  | _ =>
    if name = "set!" ∨ name = "is?" ∨ name = "is-not?" then
      if 1 ≤ operands.length ∧ operands.length ≤ 3 then some none else none
    else some none

def captureNames : NodePattern → List String
  | .node _ children _ => children.attach.flatMap fun ⟨p, _⟩ => captureNames p
  | .field _ body => captureNames body
  | .capture name body => captureNames body ++ [name]
  | .oneOf options => options.attach.flatMap fun ⟨p, _⟩ => captureNames p
  | .group parts => parts.attach.flatMap fun ⟨p, _⟩ => captureNames p
  | .anchor => []
  | .optional body => captureNames body
  | .repeated body => captureNames body

def mentioned (operands : List Operand) : List String :=
  operands.filterMap fun
    | .capture name => some name
    | .text _ => none

/-- Makes a pattern of what was read; its conditions may mention the captures `known` so far and its
own. -/
def finish? (known : List String) (parts : List NodePattern)
    (conditions : List (String × List Operand)) : Option QueryPattern := do
  let known := known ++ parts.flatMap captureNames
  if conditions.any fun (_, operands) => ! (mentioned operands).all known.contains then none
  else
    let read ← conditions.mapM fun (name, operands) => conditionOf? name operands
    some ⟨parts, read.filterMap id⟩

/-- Reads the patterns of a query. Each takes a character, so as many steps as characters are
enough. -/
def patterns? (known : List String) : Nat → List Char → Option (List QueryPattern)
  | 0, _ => none
  | fuel + 1, text =>
    match next text with
    | [] => some []
    | text => do
      let (item, conditions, rest) ← item? (text.length + 1) text
      let pattern ← match item with
        | .pattern p => finish? known [p] conditions
        | .condition name operands => finish? known [] [(name, operands)]
      let more ← patterns? (known ++ pattern.parts.flatMap captureNames) fuel rest
      some (pattern :: more)

end QueryReader

def Query.ofText? (text : List Char) : Option Query :=
  (QueryReader.patterns? [] (text.length + 1) text).map Query.mk

end Highlighting
