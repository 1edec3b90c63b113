import Highlighting.Highlighter
import Highlighting.Text.Property
import Highlighting.Text.Unsigned
import Highlighting.Toml.Document

/-!
Configurations. A configuration document may switch highlighting off, bound the size of a document
that is lexed whole, switch the debug log on, add to the standard mapping and change faces. Keys
that mean nothing are passed over; a value of a wrong type is an error, and the first one found is
reported: settings in their order here, the entries of a table in the order of their keys.
-/
namespace Highlighting

/-- Changes to a face; an attribute that is left out keeps its value. -/
structure FaceChange where
  foreground : Option Color := none
  background : Option Color := none
  bold : Option Bool := none
  italic : Option Bool := none
  underline : Option Bool := none
  reverse : Option Bool := none
  deriving DecidableEq, Repr

def FaceChange.apply (change : FaceChange) (style : Style) : Style :=
  { foreground := change.foreground.getD style.foreground
    background := change.background.getD style.background
    bold := change.bold.getD style.bold
    italic := change.italic.getD style.italic
    underline := change.underline.getD style.underline
    reverse := change.reverse.getD style.reverse }

structure Configuration where
  settings : Settings := {}
  debug : Bool := false
  tokenMap : List (String × String) := []
  faceChanges : NameTable FaceChange := {}
  deriving Repr

namespace Configuration

/-- Whether a written truth value means yes; anything unknown means no. -/
def isYes (written : List Char) : Bool :=
  let small := String.ofList (written.map Char.toLower)
  ["true", "yes", "on", "1"].contains small

def wrongType {α : Type} (key : String) (value : Toml.Value) : Except Error α :=
  .error (.setting (.wrongType key value.typeName))

def truth (key : String) : Toml.Value → Except Error Bool
  | .boolean b => .ok b
  | .string written => .ok (isYes written)
  | value => wrongType key value

/-- A color by its name; an unknown name is none. -/
def color (key : String) : Toml.Value → Except Error (Option Color)
  | .string name => .ok (Color.ofName? (String.ofList name))
  | value => wrongType key value

def trim (text : List Char) : List Char :=
  ((text.dropWhile Character.isBlank).reverse.dropWhile Character.isBlank).reverse

def sizeLimit : Toml.Value → Except Error Nat
  | .integer n => if n < 0 then .error (.setting (.limitOutOfRange n)) else .ok n.toNat
  | .string written =>
    match Unsigned.read? 64 (trim written) with
    | some n => .ok n
    | none => .error (.setting (.limitNotNumber (String.ofList written)))
  | value => wrongType "highlight-buffer-size-limit" value

def inside (table key : String) : String := table ++ "." ++ key

def tokenMapOf : Toml.Value → Except Error (List (String × String))
  | .table entries => (Toml.sortEntries entries).mapM fun (kind, value) =>
    match value with
    | .string face => .ok (kind, String.ofList face)
    | value => wrongType (inside "token-map" kind) value
  | value => wrongType "token-map" value

def changeBy (path : String) (change : FaceChange) (entry : String × Toml.Value) :
    Except Error FaceChange :=
  let (key, value) := entry
  let field := inside path key
  match key with
  | "foreground" => (color field value).map fun c => { change with foreground := c }
  | "background" => (color field value).map fun c => { change with background := c }
  | "bold" => (truth field value).map fun b => { change with bold := some b }
  | "italic" => (truth field value).map fun b => { change with italic := some b }
  | "underline" => (truth field value).map fun b => { change with underline := some b }
  | "reverse" => (truth field value).map fun b => { change with reverse := some b }
  | _ => .ok change

def faceChange (path : String) : Toml.Value → Except Error FaceChange
  | .table entries => (Toml.sortEntries entries).foldlM (changeBy path) {}
  | value => wrongType path value

def faceChangesOf : Toml.Value → Except Error (List (String × FaceChange))
  | .table entries => (Toml.sortEntries entries).mapM fun (name, value) =>
    (faceChange (inside "faces" name) value).map (name, ·)
  | value => wrongType "faces" value

def setting {α : Type} (entries : List (String × Toml.Value)) (key : String) (fallback : α)
    (read : Toml.Value → Except Error α) : Except Error α :=
  match entries.lookup key with
  | some value => read value
  | none => .ok fallback

def ofEntries (entries : List (String × Toml.Value)) : Except Error Configuration := do
  let standard : Settings := {}
  let enabled ← setting entries "syntax-highlight" standard.enabled (truth "syntax-highlight")
  let limit ← setting entries "highlight-buffer-size-limit" standard.limit sizeLimit
  let debug ← setting entries "debug" false (truth "debug")
  let tokenMap ← setting entries "token-map" [] tokenMapOf
  let faceChanges ← setting entries "faces" [] faceChangesOf
  .ok ⟨⟨enabled, limit⟩, debug, tokenMap, .ofList faceChanges⟩

def ofText (text : List Char) : Except Error Configuration :=
  match Toml.document? text with
  | some entries => ofEntries entries
  | none => .error (.setting .malformed)

/-- The configuration of a file, of which reading came to `read`; without a file all is standard. -/
def ofFile (read : Except FileFault (List UInt8)) : Except Error Configuration :=
  match read with
  | .error .missing => .ok {}
  | .error fault => .error (.file fault)
  | .ok bytes =>
    match Utf8.decode bytes with
    | .ok text => ofText text
    | .error _ => .error (.file .notText)

def mapping (config : Configuration) : Mapping :=
  Mapping.standard.setAll config.tokenMap

/-- The standard faces with the changes; a changed face that is not standard starts out plain. -/
def faces (config : Configuration) : Faces :=
  config.faceChanges.entries.foldl (fun faces (name, change) =>
    faces.set name (change.apply ((faces.get? name).getD .plain))) .standard

end Configuration

end Highlighting
