import Highlighting.Program
import Highlighting.Proofs.Coverage
import Highlighting.Proofs.Decodable
import Highlighting.Proofs.Painting
import Highlighting.Proofs.Registration
import Highlighting.Proofs.Rendering

/-! From a command line to the terminal. A run with colors whose lexer can be built lexes the text
that it prints, and each printed character stands in the style of the last token that has begun
there. -/
namespace Highlighting

namespace Viewport

end Viewport

theorem Catalog.ids_nodup : (Catalog.lexers.map (·.id)).Nodup := by
  decide

namespace Program

theorem registry_eq (config : Configuration) :
    registry config = .ok { lexers := Catalog.lexers, mapping := config.mapping } :=
  Registry.registerAll_of_nodup Catalog.ids_nodup

/-- A mode that a run begins with: fresh, under the run's mapping, of a bundled lexer or none. -/
structure Begins (config : Configuration) (mode : DocumentMode) : Prop where
  fresh : mode.built = none
  mapped : mode.mapping = config.mapping
  bundled : ∀ lexer, mode.lexer = some lexer → lexer ∈ Catalog.lexers

theorem begins_of_chooseLexer {config : Configuration} {r : Registry}
    (registered : registry config = .ok r) {name : String} {id : Option String}
    {mode : DocumentMode} (chosen : chooseLexer r (r.documentMode name).1 id = .ok mode) :
    Begins config mode := by
  cases (registry_eq config).symm.trans registered
  obtain ⟨serial, detected⟩ := Registry.documentMode_of_unshared
    (r := { lexers := Catalog.lexers, mapping := config.mapping }) rfl name
  rw [detected] at chosen
  cases id with
  | none =>
    cases chosen
    exact ⟨rfl, rfl, fun lexer found => Registry.mem_of_resolve? found⟩
  | some id =>
    simp only [chooseLexer] at chosen
    split at chosen
    · rename_i lexer named
      cases chosen
      refine ⟨rfl, rfl, ?_⟩
      intro other same
      cases same
      exact List.mem_of_find?_eq_some named
    · cases chosen

/-- The window that a run prints to. -/
def window (line : CommandLine) (around : Surroundings) : Window :=
  { columns := line.columns.getD around.size.1, rows := line.rows.getD around.size.2,
    hasColors := line.color.enabled around.isTerminal }

def highlighter (config : Configuration) (mode : DocumentMode) : Highlighter Baseline :=
  .ofMode mode config.faces config.settings

theorem printed_of_select {config : Configuration} {line : CommandLine} {around : Surroundings}
    {doc : Document} {view : Viewport}
    (selected : Viewport.select doc doc.point (window line around).columns
      (window line around).rows config.settings.limit = .ok view) (mode : DocumentMode) :
    printed config line around doc mode =
      Terminal.render around.widths (window line around).hasColors
        ((highlighter config mode).cycle Baseline.fallback doc (window line around)).2
        view.base view.text := by
  simp only [window] at selected
  simp only [printed, selected]
  rfl

/-- A run gets to printing a document: its arguments ask for no more than that, the configuration
and the file can be read, and there is a lexer of each name that is given. -/
structure Prints (arguments : List String) (around : Surroundings) (line : CommandLine)
    (config : Configuration) (doc : Document) (mode : DocumentMode) : Prop where
  parsed : CommandLine.ofArguments arguments = .ok line
  printing : line.help = false ∧ line.version = false ∧ line.listLexers = false
  configured : configuration around = .ok config
  loaded : ∃ path content, line.file = some path ∧ around.contentAt path = .ok content ∧
    doc = (Document.ofFile path content).setPoint line.cursor
  chosen : ∃ r, registry config = .ok r ∧
    chooseLexer r (r.documentMode doc.name).1 line.lexer = .ok mode

variable {arguments : List String} {around : Surroundings} {line : CommandLine}
  {config : Configuration} {doc : Document} {mode : DocumentMode}

theorem Prints.run_eq (prints : Prints arguments around line config doc mode) :
    run arguments around =
      success (Terminal.output (printed config line around doc mode)) config.debug := by
  obtain ⟨parsed, ⟨help, version, listLexers⟩, configured, ⟨path, content, file, stored, same⟩,
    ⟨r, registered, chosen⟩⟩ := prints
  have output : printFile config r line around =
      .ok (Terminal.output (printed config line around doc mode)) := by
    simp only [printFile, file, stored, bind, Except.bind, ← same, chosen]
  simp only [run, parsed, help, version, listLexers, configured, registered, output,
    Bool.false_eq_true, if_false]

theorem Prints.begins (prints : Prints arguments around line config doc mode) :
    Begins config mode := by
  obtain ⟨r, registered, chosen⟩ := prints.chosen
  exact begins_of_chooseLexer registered chosen

/-- The whole of a file is accessible, and the cursor is in it. -/
theorem Prints.whole (prints : Prints arguments around line config doc mode) :
    doc.Sound ∧ doc.pointMin = 0 ∧ doc.slice doc.pointMin doc.pointMax = doc.content := by
  obtain ⟨path, content, _, _, rfl⟩ := prints.loaded
  refine ⟨Document.sound_setPoint (Nat.zero_le _) (Nat.le_refl _) line.cursor, rfl, ?_⟩
  exact List.take_length

/-- A run shows the tokens of the text that it prints. What is lexed is what is rendered, and each
character of it that is written is in the style of the last token that has begun there. -/
structure Shows (arguments : List String) (around : Surroundings) (line : CommandLine)
    (config : Configuration) (doc : Document) (mode : DocumentMode) (view : Viewport)
    (tokens : List Token) : Prop where
  lexed : (highlighter config mode).Lexed doc (window line around) view tokens
  rendered : run arguments around = success (Terminal.output (Terminal.render around.widths true
    ((highlighter config mode).cycle Baseline.fallback doc (window line around)).2
    view.base view.text)) config.debug
  painted : painted .off (Terminal.render around.widths true
      ((highlighter config mode).cycle Baseline.fallback doc (window line around)).2
      view.base view.text) =
    (Terminal.rows view.base (Terminal.lines view.text)).flatMap
      (Terminal.shownIn around.widths (window line around).columns fun offset =>
        Viewport.lastStyle? config.mapping config.faces
          ((view.shown tokens).filter (·.onset doc.point ≤ offset)))
  stands : ∀ row ∈ Terminal.rows view.base (Terminal.lines view.text),
    ∀ cell ∈ Terminal.cellsOf around.widths (window line around).columns row,
      Terminal.Stands view.base view.text cell

end Program

end Highlighting
