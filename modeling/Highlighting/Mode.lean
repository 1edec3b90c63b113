import Highlighting.Lexer.Basic

/-!
Modes. A mode binds a lexer to a mapping and is shared by every document of its kind. A document may
use a lexer or a mapping of its own instead; it keeps its tokenizer once that is built, and drops it
when its lexer changes.
-/
namespace Highlighting

/-- A lexer bound to a mapping. The serial number tells shared modes apart that are otherwise
alike. -/
structure Mode where
  serial : Nat
  lexer : Option Lexer
  mapping : Mapping

def Mode.name (mode : Mode) : String :=
  match mode.lexer with
  | some lexer => lexer.id ++ "-mode"
  | none => "fundamental-mode"

/-- The mode of one document, together with the memory of the factories that it calls. -/
structure DocumentMode where
  mode : Mode
  ownLexer : Option Lexer := none
  ownMapping : Option Mapping := none
  built : Option Tokenizer := none
  memory : Memory := []

namespace DocumentMode

def lexer (dm : DocumentMode) : Option Lexer :=
  dm.ownLexer.or dm.mode.lexer

def mapping (dm : DocumentMode) : Mapping :=
  dm.ownMapping.getD dm.mode.mapping

/-- Uses a lexer for this document alone; a tokenizer built before is dropped. -/
def setLexer (dm : DocumentMode) (lexer : Lexer) : DocumentMode :=
  { dm with ownLexer := some lexer, built := none }

def setMapping (dm : DocumentMode) (mapping : Mapping) : DocumentMode :=
  { dm with ownMapping := some mapping }

/-- The document's tokenizer, built on first use; there is none without a lexer. A failure to build
is not kept, so the next use tries again. -/
def tokenizer (dm : DocumentMode) : Except Error (Option Tokenizer) × DocumentMode :=
  match dm.lexer with
  | none => (.ok none, dm)
  | some lexer =>
    match dm.built with
    | some tokenizer => (.ok (some tokenizer), dm)
    | none =>
      match lexer.factory dm.memory with
      | (.ok tokenizer, memory) =>
        (.ok (some tokenizer), { dm with built := some tokenizer, memory := memory })
      | (.error e, memory) => (.error e, { dm with memory := memory })

def describe (dm : DocumentMode) : String :=
  let lexer := match dm.lexer with
    | some lexer => "Some(" ++ Quoted.text lexer.id ++ ")"
    | none => "None"
  "DocumentMode \x7b mode: " ++ Quoted.text dm.mode.name ++ ", lexer: " ++ lexer ++
    ", tokenizer_built: " ++ (if dm.built.isSome then "true" else "false") ++ " \x7d"

end DocumentMode

end Highlighting
