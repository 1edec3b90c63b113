import Highlighting.Toml.Quoted
import Highlighting.Toml.Scalar

/-!
Statements: a document read line by line, before the tables are put together. A statement is the
header of a table, the header of one more table of an array, or a key with its value.
-/
namespace Highlighting.Toml

/-- A value as it is written; a table between braces still lists its keys one by one. -/
inductive Written where
  | value (v : Value)
  | array (items : List Written)
  | inlineTable (pairs : List (List String × Written))
  deriving Repr

inductive Statement where
  | table (path : List String)
  | element (path : List String)
  | pair (path : List String) (value : Written)
  deriving Repr

/-- A reader takes the front of a text and leaves the rest. -/
abbrev Reader (α : Type) := List Char → Option (α × List Char)

namespace Statement

/-- The depth that arrays and tables inside one another must stay under, and the number of parts
that a key must stay under. -/
def depthLimit : Nat := 80

def isKeyChar (c : Char) : Bool :=
  c.isAlphanum || c = '_' || c = '-'

def expect? (c : Char) : List Char → Option (List Char)
  | d :: rest => if d = c then some rest else none
  | [] => none

def keyPart? (text : List Char) : Option (String × List Char) :=
  match text with
  | '"' :: rest => (QuotedText.line? '"' rest).map fun (part, rest) => (String.ofList part, rest)
  | '\'' :: rest => (QuotedText.line? '\'' rest).map fun (part, rest) => (String.ofList part, rest)
  | _ =>
    let part := text.takeWhile isKeyChar
    if part.isEmpty then none else some (String.ofList part, text.dropWhile isKeyChar)

/-- Reads the parts of a key between dots and blanks. Each part takes a character, so as many steps
as characters are enough. -/
def keyParts? : Nat → Reader (List String)
  | 0, _ => none
  | fuel + 1, text => do
    let (part, rest) ← keyPart? (text.dropWhile isBlank)
    match rest.dropWhile isBlank with
    | '.' :: rest =>
      let (parts, rest) ← keyParts? fuel rest
      some (part :: parts, rest)
    | rest => some ([part], rest)

def key? (text : List Char) : Option (List String × List Char) :=
  (keyParts? (text.length + 1) text).filter fun (parts, _) => parts.length < depthLimit

def skipGap? (inComment : Bool) : List Char → Option (List Char)
  | [] => some []
  | c :: rest =>
    if c = '\n' then skipGap? false rest
    else if c = '\r' ∧ rest.head? = some '\n' then skipGap? false rest
    else if inComment then (if isPlain c then skipGap? true rest else none)
    else if isBlank c then skipGap? false rest
    else if c = '#' then skipGap? true rest
    else if c = '\r' then none
    else some (c :: rest)

/-- Reads the items of an array up to its closing bracket; a comma may follow the last one. -/
def items? (item : Reader Written) : Nat → Reader (List Written)
  | 0, _ => none
  | fuel + 1, text => do
    match ← skipGap? false text with
    | ']' :: rest => some ([], rest)
    | text =>
      let (first, rest) ← item text
      match ← skipGap? false rest with
      | ']' :: rest => some ([first], rest)
      | ',' :: rest =>
        let (more, rest) ← items? item fuel rest
        some (first :: more, rest)
      | _ => none

/-- Reads the rest of a table between braces, from a key on; no comma may follow the last value. -/
def pairs? (value : Reader Written) : Nat → Reader (List (List String × Written))
  | 0, _ => none
  | fuel + 1, text => do
    let (path, rest) ← key? text
    let rest ← expect? '=' rest
    let (first, rest) ← value (rest.dropWhile isBlank)
    match rest.dropWhile isBlank with
    | '}' :: rest => some ([(path, first)], rest)
    | ',' :: rest =>
      let (more, rest) ← pairs? value fuel rest
      some ((path, first) :: more, rest)
    | _ => none

/-- Reads a value; `depth` tells how many levels of arrays and tables may still begin. -/
def value? : Nat → Reader Written
  | _, '"' :: rest =>
    (QuotedText.read? ('"' :: rest)).map fun (text, rest) => (.value (.string text), rest)
  | _, '\'' :: rest =>
    (QuotedText.read? ('\'' :: rest)).map fun (text, rest) => (.value (.string text), rest)
  | 0, '[' :: _ => none
  | 0, '{' :: _ => none
  | depth + 1, '[' :: rest =>
    (items? (value? depth) (rest.length + 1) rest).map fun (items, rest) => (.array items, rest)
  | depth + 1, '{' :: rest =>
    match rest.dropWhile isBlank with
    | '}' :: rest => some (.inlineTable [], rest)
    | rest =>
      (pairs? (value? depth) (rest.length + 1) rest).map fun (pairs, rest) =>
        (.inlineTable pairs, rest)
  | _, text => (Scalar.read? text).map fun (v, rest) => (.value v, rest)

def one? (text : List Char) : Option (Statement × List Char) :=
  match text with
  | '[' :: '[' :: rest => do
    let (path, rest) ← key? rest
    some (.element path, ← expect? ']' (← expect? ']' rest))
  | '[' :: rest => do
    let (path, rest) ← key? rest
    some (.table path, ← expect? ']' rest)
  | _ => do
    let (path, rest) ← key? text
    let rest ← expect? '=' rest
    let (value, rest) ← value? (depthLimit - 1) (rest.dropWhile isBlank)
    some (.pair path value, rest)

def atLineEnd (text : List Char) : Bool :=
  match text.dropWhile isBlank with
  | [] => true
  | c :: _ => c = '\n' || c = '\r' || c = '#'

/-- Reads statements, each on a line of its own. Each takes a character, so as many steps as
characters are enough. -/
def all? : Nat → List Char → Option (List Statement)
  | 0, _ => none
  | fuel + 1, text => do
    match ← skipGap? false text with
    | [] => some []
    | text =>
      let (first, rest) ← one? text
      if atLineEnd rest then
        let more ← all? fuel rest
        some (first :: more)
      else none

def ofText? (text : List Char) : Option (List Statement) :=
  let text := match text with
    | '\ufeff' :: rest => rest
    | _ => text
  all? (text.length + 1) text

end Statement

end Highlighting.Toml
