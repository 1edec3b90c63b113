import Highlighting.Text.Property

/-!
Quoted text, for showing values to a person. Quotes and backslashes are escaped, and so is every
character that would not be seen by itself.
-/
namespace Highlighting.Quoted

/-- The categories of characters that are not seen: controls, formats, unassigned and private code
points, and separators. -/
def unseen : List Category :=
  [.control, .format, .privateUse, .unassigned, .lineSeparator, .paragraphSeparator,
    .spaceSeparator]

def isShown (c : Char) : Bool :=
  if c.toNat < 128 then 0x20 ≤ c.toNat && c.toNat < 0x7f
  else ! Property.graphemeExtend.contains c && ! unseen.any fun g => g.contains c

def char (c : Char) : String :=
  match c with
  | '\x00' => "\\0"
  | '\t' => "\\t"
  | '\n' => "\\n"
  | '\r' => "\\r"
  | '"' => "\\\""
  | '\\' => "\\\\"
  | c =>
    if isShown c then c.toString
    else "\\u\x7b" ++ String.ofList (Nat.toDigits 16 c.toNat) ++ "\x7d"

def text (s : String) : String :=
  "\"" ++ String.join (s.toList.map char) ++ "\""

def list (ss : List String) : String :=
  "[" ++ ", ".intercalate (ss.map text) ++ "]"

end Highlighting.Quoted
