/-!
What can go wrong, by cause, and the text that reports it.
-/
namespace Highlighting

inductive FileFault where
  | missing
  | notDirectory
  | isDirectory
  | nameTooLong
  | denied
  | notText
  | other (reason : String)
  deriving DecidableEq, Repr

def FileFault.message : FileFault → String
  | missing => "No such file or directory (os error 2)"
  | notDirectory => "Not a directory (os error 20)"
  | isDirectory => "Is a directory (os error 21)"
  | nameTooLong => "File name too long (os error 36)"
  | denied => "Permission denied (os error 13)"
  | notText => "stream did not contain valid UTF-8"
  | other reason => reason

inductive SettingFault where
  | malformed
  | wrongType (key : String) (found : String)
  | limitOutOfRange (limit : Int)
  | limitNotNumber (written : String)
  deriving DecidableEq, Repr

def SettingFault.message : SettingFault → String
  | malformed => "malformed document"
  | wrongType key found => key ++ " has unexpected type " ++ found
  | limitOutOfRange limit => "highlight-buffer-size-limit out of range: " ++ toString limit
  | limitNotNumber written => "highlight-buffer-size-limit is not a number: " ++ written

inductive UsageFault where
  | unknownOption (argument : String)
  | unexpectedArgument (argument : String)
  | missingValue (option : String)
  | notNumber (option : String) (value : String)
  | badColorChoice (value : String)
  | noInputFile
  deriving DecidableEq, Repr

def UsageFault.message : UsageFault → String
  | unknownOption argument => "unknown option '" ++ argument ++ "'"
  | unexpectedArgument argument => "unexpected argument '" ++ argument ++ "'"
  | missingValue option => option ++ " requires a value"
  | notNumber option value => option ++ " expects a number, got '" ++ value ++ "'"
  | badColorChoice value =>
    "invalid color choice '" ++ value ++ "' (expected auto, always or never)"
  | noInputFile => "no input file (try --help)"

inductive Error where
  | file (fault : FileFault)
  | lexing (lexer message : String)
  | pattern (lexer : String)
  /-- A lexer's highlight query does not fit its grammar. -/
  | grammar (lexer : String)
  /-- Tokens do not join to the text that was lexed. -/
  | coverage (expected actual : Nat)
  | unknownLexer (id : String)
  | duplicateLexer (id : String)
  | setting (fault : SettingFault)
  | usage (fault : UsageFault)
  deriving DecidableEq, Repr

def Error.message : Error → String
  | file fault => "I/O error: " ++ fault.message
  | lexing lexer message => "lexer " ++ lexer ++ " failed: " ++ message
  | pattern lexer => "failed to build lexer " ++ lexer ++ ": invalid pattern"
  | grammar lexer => "failed to load grammar for " ++ lexer ++ ": invalid query"
  | coverage expected actual =>
    "tokens cover " ++ toString actual ++ " bytes of a " ++ toString expected ++ " byte window"
  | unknownLexer id => "No such lexer: " ++ id
  | duplicateLexer id => "Lexer already registered: " ++ id
  | setting fault => "Invalid configuration: " ++ fault.message
  | usage fault => fault.message

end Highlighting
