import Highlighting.Proofs.History
import Highlighting.Proofs.Printing

/-! Colors change no text. What is written depends on the text and the widths alone, so a run with
colors only puts escape sequences between the writes of the run without them, whatever its cycle
came to. -/
namespace Highlighting

namespace Command

theorem chars_of_no_write {command : Command} (other : command.isWrite = false) :
    ∃ code, command.chars = escape code := by
  cases command with
  | write text => cases other
  | reset | foreground | background | bold | italic | underline | reverse => exact ⟨_, rfl⟩

end Command

namespace Terminal

/-- The writes for a row. -/
def rowWrites (widths : CharWidth) (columns : Nat) (row : Nat × List Char) : List Command :=
  (cellsOf widths columns row).map (fun cell => .write cell.shown) ++ [.write ['\n']]

/-- The writes for a text in lines of some width. -/
def writes (widths : CharWidth) (columns base : Nat) (text : List Char) : List Command :=
  (rows base (lines text)).flatMap (rowWrites widths columns)

variable {widths : CharWidth}

theorem filter_switchTo? (style : Option Style) :
    (switchTo? style).filter Command.isWrite = [] := by
  cases style with
  | none => rfl
  | some style =>
    rw [List.filter_eq_nil_iff]
    intro command member
    rw [isWrite_of_mem_switchTo member]
    exact Bool.false_ne_true

theorem filter_cells (styles : StyleMap) (columns : Nat) (isFirst : Bool) (offset column : Nat)
    (text : List Char) :
    (cells widths styles columns isFirst offset column text).filter Command.isWrite =
      (fitted widths columns offset column text).map fun cell => .write cell.shown := by
  induction text generalizing isFirst offset column with
  | nil => rfl
  | cons c rest ih =>
    have silent : (if isFirst then [] else switchTo? (styles.get? offset)).filter
        Command.isWrite = [] := by
      cases isFirst with
      | true => rfl
      | false => exact filter_switchTo? _
    cases placed : place? widths columns column c with
    | none => simp only [cells, fitted, placed, silent, List.map_nil]
    | some next =>
      obtain ⟨shown, next⟩ := next
      simp only [cells, fitted, placed, List.filter_append, silent, List.nil_append, List.map_cons]
      rw [List.filter_cons_of_pos rfl, ih]

theorem filter_line (window : Window) (offset : Nat) (text : List Char) :
    (line widths window offset text).filter Command.isWrite =
      rowWrites widths window.columns (offset, text) := by
  have reset : ∀ bare : Bool,
      (if bare then [] else [Command.reset]).filter Command.isWrite = [] := by
    intro bare
    cases bare <;> rfl
  simp only [line, List.filter_append, filter_switchTo?, filter_cells, reset, List.nil_append,
    List.append_nil]
  rfl

theorem filter_linesFrom (window : Window) (offset : Nat) (texts : List (List Char)) :
    (linesFrom widths window offset texts).filter Command.isWrite =
      (rows offset texts).flatMap (rowWrites widths window.columns) := by
  induction texts generalizing offset with
  | nil => rfl
  | cons text more ih =>
    rw [linesFrom, List.filter_append, filter_line, ih, rows, List.flatMap_cons]

/-- Rendering writes the same whatever the styles are, and without colors it does nothing else. -/
theorem filter_render (colors : Bool) (window : Window) (base : Nat) (text : List Char) :
    (render widths colors window base text).filter Command.isWrite =
      writes widths window.columns base text := by
  cases colors with
  | true => exact filter_linesFrom window base (lines text)
  | false =>
    rw [render, if_neg Bool.false_ne_true, List.filter_filter]
    simp only [Bool.and_self]
    exact filter_linesFrom window base (lines text)

theorem render_without_colors (window : Window) (base : Nat) (text : List Char) :
    render widths false window base text = writes widths window.columns base text := by
  rw [render, if_neg Bool.false_ne_true]
  exact filter_linesFrom window base (lines text)

end Terminal

theorem Highlighter.columns_cycle (h : Highlighter Baseline) (doc : Document) (window : Window) :
    (h.cycle Baseline.fallback doc window).2.columns = window.columns := by
  have kept := congrArg Window.columns (Session.highlighted_keeps ⟨h, doc, window⟩).2
  exact kept

namespace Program

variable {colored plain : List String} {around : Surroundings} {line : CommandLine}
  {config : Configuration} {doc : Document} {mode : DocumentMode}

/-- The writes for a document: of its selected text in lines, or of what can be read of it. -/
def writes (widths : CharWidth) (config : Configuration) (columns rows : Nat) (doc : Document) :
    List Command :=
  match Viewport.select doc doc.point columns rows config.settings.limit with
  | .ok view => Terminal.writes widths columns view.base view.text
  | .error _ => [.write (Utf8.decodeLossy (doc.bytes doc.pointMin doc.pointMax))]

theorem filter_printed (config : Configuration) (line : CommandLine) (around : Surroundings)
    (doc : Document) (mode : DocumentMode) :
    (printed config line around doc mode).filter Command.isWrite =
      writes around.widths config (window line around).columns (window line around).rows doc := by
  cases selected : Viewport.select doc doc.point (window line around).columns
      (window line around).rows config.settings.limit with
  | ok view =>
    rw [printed_of_select selected, Terminal.filter_render, Highlighter.columns_cycle]
    simp only [writes, selected]
  | error offset =>
    simp only [window] at selected
    simp only [printed, writes, window, selected]
    rfl

theorem printed_without_colors (off : line.color.enabled around.isTerminal = false)
    (config : Configuration) (doc : Document) (mode : DocumentMode) :
    printed config line around doc mode =
      writes around.widths config (window line around).columns (window line around).rows doc := by
  cases selected : Viewport.select doc doc.point (window line around).columns
      (window line around).rows config.settings.limit with
  | ok view =>
    have colors : (window line around).hasColors = false := off
    rw [printed_of_select selected, colors, Terminal.render_without_colors,
      Highlighter.columns_cycle]
    simp only [writes, selected]
  | error offset =>
    simp only [window] at selected
    simp only [printed, writes, window, selected]

/-- A run gets to printing whatever the choice of colors is. -/
theorem Prints.recolored (prints : Prints colored around line config doc mode)
    {choice : ColorChoice}
    (parsed : CommandLine.ofArguments plain = .ok { line with color := choice }) :
    Prints plain around { line with color := choice } config doc mode :=
  ⟨parsed, prints.printing, prints.configured, prints.loaded, prints.chosen⟩

/-- Of two runs that differ in the choice of colors alone, both end well and write the same text
piece by piece. The one without colors does nothing else; what the one with colors puts between the
pieces are escape sequences. No cycle is excluded: its lexer may succeed, it may fall back, and the
document may be no text. -/
theorem run_always_adds_escapes
    (prints : Prints colored around { line with color := .always } config doc mode)
    (differ : CommandLine.ofArguments plain = .ok { line with color := .never }) :
    let shown := printed config { line with color := .always } around doc mode
    let bare := printed config { line with color := .never } around doc mode
    run colored around = success (Terminal.output shown) config.debug ∧
      run plain around = success (Terminal.output bare) config.debug ∧
      shown.filter Command.isWrite = bare ∧
      (∀ command ∈ bare, command.isWrite = true) ∧
      ∀ command ∈ shown, command.isWrite = false →
        ∃ code, command.chars = Command.escape code := by
  intro shown bare
  have printsBare : Prints plain around { line with color := .never } config doc mode :=
    prints.recolored differ
  have same : shown.filter Command.isWrite = bare := by
    have pieces := filter_printed config { line with color := .always } around doc mode
    have off : bare = _ := printed_without_colors rfl config doc mode
    exact pieces.trans off.symm
  refine ⟨prints.run_eq, printsBare.run_eq, same, ?_, ?_⟩
  · intro command member
    rw [← same] at member
    exact (List.mem_filter.mp member).2
  · intro command _ other
    exact Command.chars_of_no_write other

/- An object with a letter of two bytes and a tab, under a chosen lexer and with the cursor at the
key. -/

def objectText : List Char :=
  ['{', '"', 'é', '"', ':', '\t', '7', '}']

def objectFile : Surroundings :=
  { contentAt := fun _ => .ok (Utf8.encode objectText), configFile := none, widths := .standard,
    logFile := "" }

def objectLine : CommandLine :=
  { file := some "object", cursor := 1, lexer := some "json" }

def objectDocument : Document :=
  (Document.ofFile "object" (Utf8.encode objectText)).setPoint 1

theorem run_always_keeps_object :
    ∃ mode,
      Prints ["--cursor", "1", "--color", "always", "--lexer", "json", "object"] objectFile
        { objectLine with color := .always } {} objectDocument mode ∧
      CommandLine.ofArguments ["--cursor", "1", "--color", "never", "--lexer", "json", "object"] =
        .ok { objectLine with color := .never } ∧
      let shown := printed {} { objectLine with color := .always } objectFile objectDocument mode
      let bare := printed {} { objectLine with color := .never } objectFile objectDocument mode
      run ["--cursor", "1", "--color", "always", "--lexer", "json", "object"] objectFile =
          success (Terminal.output shown) false ∧
        run ["--cursor", "1", "--color", "never", "--lexer", "json", "object"] objectFile =
          success (Terminal.output bare) false ∧
        shown.filter Command.isWrite = bare ∧
        (∀ command ∈ bare, command.isWrite = true) ∧
        ∀ command ∈ shown, command.isWrite = false →
          ∃ code, command.chars = Command.escape code := by
  have prints : Prints ["--cursor", "1", "--color", "always", "--lexer", "json", "object"]
      objectFile { objectLine with color := .always } {} objectDocument _ :=
    ⟨rfl, ⟨rfl, rfl, rfl⟩, rfl, ⟨"object", _, rfl, rfl, rfl⟩, ⟨_, registry_eq {}, rfl⟩⟩
  have differ : CommandLine.ofArguments
      ["--cursor", "1", "--color", "never", "--lexer", "json", "object"] =
        .ok { objectLine with color := .never } := rfl
  exact ⟨_, prints, differ, run_always_adds_escapes prints differ⟩

end Program

end Highlighting
