import Highlighting.Program

/-!
The command line. A run reads the file that its arguments name and the configuration file, and
writes what the program makes of them.
-/
namespace Highlighting

def FileFault.ofError (e : IO.Error) : FileFault :=
  match e with
  | .noFileOrDirectory .. => missing
  | .permissionDenied .. => denied
  | .inappropriateType _ code _ => if code = 20 then notDirectory else isDirectory
  | .invalidArgument _ code _ => if code = 36 then nameTooLong else other (toString e)
  | _ => other (toString e)

def readFileBytes (path : String) : IO (Except FileFault (List UInt8)) := do
  try
    let bytes ← IO.FS.readBinFile path
    return .ok bytes.toList
  catch e => return .error (.ofError e)

def pathBelow (directory name : String) : String :=
  if directory.isEmpty || directory.toList.getLast? = some '/' then directory ++ name
  else directory ++ "/" ++ name

def logPlace : IO (String × String) := do
  let directory := pathBelow ((← IO.getEnv "TMPDIR").getD "/tmp") "lexstyle"
  return (directory, pathBelow directory "debug.log")

def openLog (place : String × String) : IO Unit := do
  try
    IO.FS.createDirAll place.1
    let _ ← IO.FS.Handle.mk place.2 .append
  catch _ => return ()

def surroundings (arguments : List String) (logFile : String) : IO Program.Surroundings := do
  let file := match CommandLine.ofArguments arguments with
    | .ok line => line.file
    | .error _ => none
  let content ← match file with
    | some path => readFileBytes path
    | none => pure (.error .missing)
  let configFile ← match ← IO.getEnv "HOME" with
    | some home => some <$> readFileBytes (pathBelow home ".lexstyle.toml")
    | none => pure none
  return { contentAt := fun _ => content, configFile := configFile,
           debugSwitch := ← IO.getEnv "LEXSTYLE_DEBUG", isTerminal := ← (← IO.getStdout).isTty,
           widths := .standard, logFile := logFile }

end Highlighting

def main (arguments : List String) : IO UInt32 := do
  let place ← Highlighting.logPlace
  let result := Highlighting.Program.run arguments
    (← Highlighting.surroundings arguments place.2)
  if result.logged then Highlighting.openLog place
  (← IO.getStdout).putStr (String.ofList result.stdout)
  (← IO.getStderr).putStr (String.ofList result.stderr)
  return if result.code = 0 then 0 else 1
