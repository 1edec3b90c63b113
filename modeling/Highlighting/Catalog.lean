import Highlighting.Language.Bash
import Highlighting.Language.C
import Highlighting.Language.Cpp
import Highlighting.Language.Go
import Highlighting.Language.JavaScript
import Highlighting.Language.Json
import Highlighting.Language.Python
import Highlighting.Language.Rust
import Highlighting.Language.Toml

/-!
The bundled lexers.
-/
namespace Highlighting.Catalog

def lexers : List Lexer :=
  [Language.Bash.lexer, Language.C.lexer, Language.Cpp.lexer, Language.Go.lexer,
    Language.JavaScript.lexer, Language.Json.lexer, Language.Python.lexer, Language.Rust.lexer,
    Language.Toml.lexer]

end Highlighting.Catalog
