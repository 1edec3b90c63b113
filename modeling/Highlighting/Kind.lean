/-!
Token kinds. A kind is a name of segments between dots, such as `Literal.String.Double`; cutting
segments off its end gives the ever more general kinds that it belongs to.
-/
namespace Highlighting

structure Kind where
  name : String
  deriving DecidableEq, Repr

namespace Kind

/-- The kind of text that no lexer classifies. -/
def text : Kind := ⟨"Text"⟩

/-- What stands before each dot of a name, longest first. -/
def stems : List Char → List (List Char)
  | [] => []
  | c :: rest => (stems rest).map (c :: ·) ++ (if c = '.' then [[]] else [])

/-- The kind's name followed by the names of its ancestors, most specific first. -/
def chain (kind : Kind) : List String :=
  kind.name :: (stems kind.name.toList).map String.ofList

def parent? (kind : Kind) : Option String :=
  kind.chain.tail.head?

end Kind

structure Token where
  kind : Kind
  text : List Char
  deriving DecidableEq, Repr

end Highlighting
