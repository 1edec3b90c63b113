import Highlighting.Query.Matching
import Highlighting.Mapping

/-!
From captures to tokens. A capture becomes a token of the kind that its name stands for, unless it
overlaps one that became a token before it; what no capture claims is plain text.
-/
namespace Highlighting

namespace Capture

def kindNames : List (String × String) :=
  [ ("attribute", "Name.Decorator"),
    ("boolean", "Keyword.Constant"),
    ("comment", "Comment"),
    ("comment.documentation", "Comment.Doc"),
    ("constant", "Name.Constant"),
    ("constant.builtin", "Keyword.Constant"),
    ("constructor", "Name.Class"),
    ("escape", "Literal.String.Escape"),
    ("float", "Literal.Number.Float"),
    ("function", "Name.Function"),
    ("function.builtin", "Name.Builtin"),
    ("function.macro", "Name.Function.Magic"),
    ("keyword", "Keyword"),
    ("label", "Name.Label"),
    ("module", "Name.Namespace"),
    ("namespace", "Name.Namespace"),
    ("number", "Literal.Number"),
    ("operator", "Operator"),
    ("property", "Name.Attribute"),
    ("punctuation", "Punctuation"),
    ("string", "Literal.String"),
    ("string.escape", "Literal.String.Escape"),
    ("string.regex", "Literal.String.Regex"),
    ("string.special", "Literal.String.Other"),
    ("string.special.key", "Name.Tag"),
    ("tag", "Name.Tag"),
    ("type", "Name.Class"),
    ("type.builtin", "Keyword.Type"),
    ("variable", "Name.Variable"),
    ("variable.builtin", "Name.Builtin.Pseudo") ]

/-- What stands before the last dot of a name, when there is one. -/
def dropSegment? : List Char → Option (List Char)
  | [] => none
  | c :: rest =>
    match dropSegment? rest with
    | some stem => some (c :: stem)
    | none => if c = '.' then some [] else none

/-- The kind of a name: that of the name itself, or else that of the name without its last segment;
each cut shortens the name, so as many cuts as characters are enough. -/
def kindFrom : Nat → List Char → Kind
  | 0, _ => .text
  | fuel + 1, name =>
    match kindNames.lookup (String.ofList name) with
    | some kind => ⟨kind⟩
    | none =>
      match dropSegment? name with
      | some stem => kindFrom fuel stem
      | none => .text

def kindOf (name : String) : Kind :=
  kindFrom (name.toList.length + 1) name.toList

def gap (text : List Char) : List Token :=
  if text.isEmpty then [] else [⟨.text, text⟩]

/-- Goes through captures in the order given. `covered` bytes are in tokens, `rest` is the text
behind them and `size` the size of the whole text. A capture is passed over when it begins before
`covered`, holds nothing, or cuts into a character. -/
def walk (size : Nat) (covered : Nat) (rest : List Char) : List Capture → List Token
  | [] => gap rest
  | capture :: more =>
    let stop := min capture.stop size
    if capture.start < covered ∨ stop ≤ capture.start then walk size covered rest more
    else match Utf8.splitAt? (capture.start - covered) rest with
      | none => walk size covered rest more
      | some (before, behind) =>
        match Utf8.splitAt? (stop - capture.start) behind with
        | none => walk size covered rest more
        | some (claimed, behind) =>
          gap before ++ ⟨kindOf capture.name, claimed⟩ :: walk size stop behind more

/-- The tokens of a text with captures, which are gone through by their start; captures of one start
keep their order. -/
def tokens (text : List Char) (captures : List Capture) : List Token :=
  walk (Utf8.byteLength text) 0 text
    (captures.mergeSort fun a b => decide (a.start ≤ b.start))

end Capture

end Highlighting
