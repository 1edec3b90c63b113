import Highlighting.Toml.Statement

/-!
Documents: tables put together from statements. A table may be written once. One that only came
about because a longer path passed through it is implicit, and may still be written; one that came
about through the dots of a key can be filled by further keys with dots, and by nothing else.
-/
namespace Highlighting.Toml

/-- What stands under a key while a document is read: a value, a table, or the rows of an array of
tables. -/
inductive Node where
  | leaf (value : Value)
  | table (implicit dotted : Bool) (entries : List (String × Node))
  | rows (tables : List (List (String × Node)))

abbrev Entries := List (String × Node)

namespace Entries

def replace (entries : Entries) (key : String) (node : Node) : Entries :=
  entries.map fun entry => if entry.1 = key then (key, node) else entry

/-- Changes the table at a path. Tables missing on the way come about implicitly, and of the rows of
an array the last one is meant. With `dotted` the path stands in a key: it makes tables that are
marked so, and may not pass through a table that was written. `change` is told whether its table is
marked. -/
def changeAt? (dotted : Bool) (change : Bool → Entries → Option Entries) :
    List String → Bool → Entries → Option Entries
  | [], marked, entries => change marked entries
  | key :: path, _, entries =>
    match entries.lookup key with
    | none =>
      (changeAt? dotted change path dotted []).map fun inner =>
        entries ++ [(key, .table true dotted inner)]
    | some (.leaf _) => none
    | some (.table implicit marked inner) =>
      if dotted ∧ ! implicit then none
      else
        (changeAt? dotted change path marked inner).map fun inner =>
          replace entries key (.table implicit marked inner)
    | some (.rows tables) =>
      (changeAt? dotted change path false (tables.getLast?.getD [])).map fun inner =>
        replace entries key (.rows (tables.dropLast ++ [inner]))

def insert? (path : List String) (value : Value) (entries : Entries) : Option Entries := do
  let key ← path.getLast?
  let way := path.dropLast
  let place (marked : Bool) (entries : Entries) : Option Entries :=
    if marked = way.isEmpty ∨ (entries.lookup key).isSome then none
    else some (entries ++ [(key, .leaf value)])
  changeAt? true place way false entries

def beginTable? (path : List String) (entries : Entries) : Option Entries := do
  let key ← path.getLast?
  let place (_ : Bool) (entries : Entries) : Option Entries :=
    match entries.lookup key with
    | none => some (entries ++ [(key, .table false false [])])
    | some (.table true false inner) => some (replace entries key (.table false false inner))
    | some _ => none
  changeAt? false place path.dropLast false entries

def beginRow? (path : List String) (entries : Entries) : Option Entries := do
  let key ← path.getLast?
  let place (_ : Bool) (entries : Entries) : Option Entries :=
    match entries.lookup key with
    | none => some (entries ++ [(key, .rows [[]])])
    | some (.rows tables) => some (replace entries key (.rows (tables ++ [[]])))
    | some _ => none
  changeAt? false place path.dropLast false entries

end Entries

mutual

def Node.value : Node → Value
  | .leaf value => value
  | .table _ _ entries => .table (entryValues entries)
  | .rows tables => .array (rowValues tables)

def entryValues : List (String × Node) → List (String × Value)
  | [] => []
  | (key, node) :: rest => (key, node.value) :: entryValues rest

def rowValues : List (List (String × Node)) → List Value
  | [] => []
  | entries :: rest => .table (entryValues entries) :: rowValues rest

end

mutual

/-- The value that was written; a table between braces obeys the same rules as any other. -/
def Written.value? : Written → Option Value
  | .value v => some v
  | .array items => (itemValues? items).map .array
  | .inlineTable pairs => (pairEntries? [] pairs).map fun entries => .table (entryValues entries)

def itemValues? : List Written → Option (List Value)
  | [] => some []
  | item :: rest => do
    let v ← item.value?
    let vs ← itemValues? rest
    some (v :: vs)

def pairEntries? (entries : Entries) : List (List String × Written) → Option Entries
  | [] => some entries
  | (path, written) :: rest => do
    let v ← written.value?
    let entries ← entries.insert? path v
    pairEntries? entries rest

end

/-- Carries out a statement; `header` is the path of the table that keys belong to. -/
def Statement.perform? (header : List String) (entries : Entries) :
    Statement → Option (List String × Entries)
  | .table path => (entries.beginTable? path).map (path, ·)
  | .element path => (entries.beginRow? path).map (path, ·)
  | .pair path written => do
    let v ← written.value?
    let entries ← entries.changeAt? false (fun _ inner => inner.insert? path v) header false
    some (header, entries)

def document? (text : List Char) : Option (List (String × Value)) := do
  let statements ← Statement.ofText? text
  let (_, entries) ← statements.foldlM (fun (header, entries) s => s.perform? header entries)
    (([], []) : List String × Entries)
  some (entryValues entries)

end Highlighting.Toml
