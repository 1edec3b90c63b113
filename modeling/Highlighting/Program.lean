import Highlighting.Catalog
import Highlighting.CommandLine
import Highlighting.Configuration
import Highlighting.Terminal

/-!
The program: prints a file with syntax highlighting. It is a function of its arguments and of what
it finds around it.
-/
namespace Highlighting.Program

structure Surroundings where
  contentAt : String → Except FileFault (List UInt8)
  /-- The result of reading the configuration file; there is none without a home directory. -/
  configFile : Option (Except FileFault (List UInt8))
  /-- The value of the variable that switches the debug log on. -/
  debugSwitch : Option String := none
  size : Nat × Nat := (80, 24)
  isTerminal : Bool := false
  widths : CharWidth
  logFile : String

structure Result where
  code : Nat
  stdout : List Char := []
  stderr : List Char := []
  logged : Bool := false
  deriving DecidableEq, Repr

def title : String := "lexstyle 0.1.0"

def usage (logFile : String) : List String :=
  [ title ++ " - lexer-driven syntax highlighting",
    "",
    "Usage: lexstyle [OPTIONS] FILE",
    "",
    "Options:",
    "  --cursor N         Cursor byte offset (default 0)",
    "  --columns N        Viewport width (default: terminal width)",
    "  --rows N           Viewport height (default: terminal height)",
    "  --color WHEN       auto, always or never (default auto)",
    "  --lexer ID         Use this lexer instead of detecting one",
    "  --list-lexers      List known lexers and their file patterns",
    "  -h, --help         Show this help message",
    "  -V, --version      Show version information",
    "",
    "Settings are read from ~/.lexstyle.toml; set LEXSTYLE_DEBUG=1 to log",
    "to " ++ logFile ]

def unlines (lines : List String) : List Char :=
  lines.flatMap fun line => line.toList ++ ['\n']

def padded (width : Nat) (text : String) : String :=
  text ++ String.ofList (List.replicate (width - text.length) ' ')

def listing (r : Registry) : List String :=
  r.lexers.map fun lexer =>
    padded 10 lexer.id ++ " " ++ " ".intercalate (lexer.patterns.map (·.source))

/-- The configuration of a run: without a home directory it is standard, and the debug switch adds
to it. -/
def configuration (around : Surroundings) : Except Error Configuration :=
  let config := match around.configFile with
    | some read => Configuration.ofFile read
    | none => .ok {}
  config.map fun config =>
    if (around.debugSwitch.map fun v => Configuration.isYes v.toList).getD false then
      { config with debug := true }
    else config

def registry (config : Configuration) : Except Error Registry :=
  Registry.registerAll { mapping := config.mapping } Catalog.lexers

def chooseLexer (r : Registry) (mode : DocumentMode) : Option String → Except Error DocumentMode
  | none => .ok mode
  | some id =>
    match r.byId? id with
    | some lexer => .ok (mode.setLexer lexer)
    | none => .error (.unknownLexer id)

/-- Prints a document: styled text, or what can be read of it when it is no text. -/
def printed (config : Configuration) (line : CommandLine) (around : Surroundings) (doc : Document)
    (mode : DocumentMode) : List Command :=
  let columns := line.columns.getD around.size.1
  let rows := line.rows.getD around.size.2
  let colors := line.color.enabled around.isTerminal
  let highlighter := Highlighter.ofMode mode config.faces config.settings
  let window := (highlighter.cycle Baseline.fallback doc
    { columns := columns, rows := rows, hasColors := colors }).2
  match Viewport.select doc doc.point columns rows config.settings.limit with
  | .ok view => Terminal.render around.widths colors window view.base view.text
  | .error _ => [.write (Utf8.decodeLossy (doc.bytes doc.pointMin doc.pointMax))]

def printFile (config : Configuration) (r : Registry) (line : CommandLine)
    (around : Surroundings) : Except Error (List Char) := do
  let path ← match line.file with
    | some path => Except.ok path
    | none => Except.error (.usage .noInputFile)
  let content ← match around.contentAt path with
    | .ok content => Except.ok content
    | .error fault => Except.error (.file fault)
  let doc := (Document.ofFile path content).setPoint line.cursor
  let mode ← chooseLexer r (r.documentMode doc.name).1 line.lexer
  .ok (Terminal.output (printed config line around doc mode))

def success (stdout : List Char) (logged : Bool) : Result :=
  ⟨0, stdout, [], logged⟩

def failure (e : Error) (logged : Bool) : Result :=
  ⟨1, [], unlines ["Error: " ++ e.message], logged⟩

def run (arguments : List String) (around : Surroundings) : Result :=
  match CommandLine.ofArguments arguments with
  | .error e => failure e false
  | .ok line =>
    if line.help then success (unlines (usage around.logFile)) false
    else if line.version then success (unlines [title]) false
    else match configuration around with
      | .error e => failure e false
      | .ok config =>
        match registry config with
        | .error e => failure e config.debug
        | .ok r =>
          if line.listLexers then success (unlines (listing r)) config.debug
          else match printFile config r line around with
            | .error e => failure e config.debug
            | .ok output => success output config.debug

end Highlighting.Program
