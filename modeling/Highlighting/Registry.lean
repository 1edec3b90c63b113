import Highlighting.Mode

/-!
Registries of lexers. Lexers stand in the order of their registration under distinct ids; of several
that claim a file the first one is used. The mode of a lexer is made on first use and shared from
then on.
-/
namespace Highlighting

/-- Lexers with their shared modes. Modes are numbered as they are made, and the plain mode, for
files that no lexer claims, has the number zero. -/
structure Registry where
  lexers : List Lexer := []
  modes : NameTable Mode := {}
  mapping : Mapping := .standard
  nextSerial : Nat := 1

inductive Resolution where
  | notFound
  | found (lexer : Lexer)
  | ambiguous (lexers : List Lexer)

def Resolution.first? : Resolution → Option Lexer
  | notFound => none
  | found lexer => some lexer
  | ambiguous lexers => lexers.head?

namespace Registry

def byId? (r : Registry) (id : String) : Option Lexer :=
  r.lexers.find? (·.id = id)

def register (r : Registry) (lexer : Lexer) : Except Error Registry :=
  if r.lexers.any (·.id = lexer.id) then .error (.duplicateLexer lexer.id)
  else .ok { r with lexers := r.lexers ++ [lexer] }

def registerAll (r : Registry) (lexers : List Lexer) : Except Error Registry :=
  lexers.foldlM register r

def ids (r : Registry) : List String :=
  r.lexers.map (·.id)

def select (r : Registry) (path : String) : Resolution :=
  match r.lexers.filter (·.claims path) with
  | [] => .notFound
  | [lexer] => .found lexer
  | lexers => .ambiguous lexers

def resolve? (r : Registry) (path : String) : Option Lexer :=
  (r.select path).first?

def matchesAny (r : Registry) (path : String) : Bool :=
  r.lexers.any (·.claims path)

def plainMode (r : Registry) : Mode :=
  ⟨0, none, r.mapping⟩

def freshMode (r : Registry) (lexer : Option Lexer) (mapping : Mapping) : Mode × Registry :=
  (⟨r.nextSerial, lexer, mapping⟩, { r with nextSerial := r.nextSerial + 1 })

/-- The shared mode of a lexer, made on first use with the registry's mapping. -/
def modeForLexer (r : Registry) (lexer : Lexer) : Mode × Registry :=
  match r.modes.get? lexer.id with
  | some mode => (mode, r)
  | none =>
    let (mode, r) := r.freshMode (some lexer) r.mapping
    (mode, { r with modes := r.modes.set lexer.id mode })

def modeForFile (r : Registry) (path : String) : Option Mode × Registry :=
  match r.resolve? path with
  | none => (none, r)
  | some lexer =>
    let (mode, r) := r.modeForLexer lexer
    (some mode, r)

/-- Binds a registered lexer to a mapping, in a mode of its own. -/
def registerMode (r : Registry) (id : String) (mapping : Mapping) :
    Except Error (Mode × Registry) :=
  match r.byId? id with
  | none => .error (.unknownLexer id)
  | some lexer => .ok (r.freshMode (some lexer) mapping)

def cachedModes (r : Registry) : Nat :=
  r.modes.size

/-- The mode of a document of a file: the shared one of its lexer, or the plain one. -/
def documentMode (r : Registry) (path : String) : DocumentMode × Registry :=
  let (mode?, r) := r.modeForFile path
  (⟨mode?.getD r.plainMode, none, none, none, []⟩, r)

end Registry

end Highlighting
