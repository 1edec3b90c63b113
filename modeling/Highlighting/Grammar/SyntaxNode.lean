/-!
Syntax nodes. A node covers a stretch of a text, given by byte offsets, and its children cover parts
of it in order.
-/
namespace Highlighting

/-- A node of a syntax tree. A node that is not named is a token, and its kind is its text. -/
structure SyntaxNode where
  kind : String
  named : Bool
  field : Option String := none
  start : Nat
  stop : Nat
  children : List SyntaxNode := []
  deriving Repr

end Highlighting
