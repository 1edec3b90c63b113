import Highlighting.Error
import Highlighting.Mapping
import Highlighting.Viewport

/-!
Tokenizers and the spans that their tokens give rise to. The tokens of a text must join to exactly
that text. A token whose kind resolves to a registered face switches its style on where it starts;
the token that holds the cursor strictly inside switches it on at the cursor.
-/
namespace Highlighting

structure Tokenizer where
  name : String
  lex : List Char → Except Error (List Token)

def dropLeading? : List Char → List Char → Option (List Char)
  | [], rest => some rest
  | c :: more, d :: rest => if c = d then dropLeading? more rest else none
  | _ :: _, [] => none

namespace Viewport

/-- The style that a kind has: that of the face that it resolves to, if the face is registered. -/
def styleOf (mapping : Mapping) (faces : Faces) (kind : Kind) : Option Style :=
  (mapping.resolve kind).bind faces.get?

/-- Walks tokens along the text from `position` on; `rest` is the text not yet covered. -/
def walk (mapping : Mapping) (faces : Faces) (view : Viewport) (cursor position : Nat)
    (rest : List Char) : List Token → Except Error (List Span)
  | [] =>
    if position = view.stop then .ok []
    else .error (.coverage (Utf8.byteLength view.text) (position - view.base))
  | token :: tokens =>
    match dropLeading? token.text rest with
    | none => .error (.coverage (Utf8.byteLength view.text) (position - view.base))
    | some rest =>
      let stop := position + Utf8.byteLength token.text
      match walk mapping faces view cursor stop rest tokens with
      | .error e => .error e
      | .ok spans =>
        if token.text.isEmpty then .ok spans
        else match styleOf mapping faces token.kind with
          | none => .ok spans
          | some style =>
            let start := if position < cursor ∧ cursor < stop then cursor else position
            .ok (⟨start, style⟩ :: spans)

def tokenize (tokenizer : Tokenizer) (mapping : Mapping) (faces : Faces) (view : Viewport)
    (cursor : Nat) : Except Error (List Span) :=
  match tokenizer.lex view.text with
  | .error e => .error e
  | .ok tokens => walk mapping faces view cursor view.base view.text tokens

inductive Outcome where
  | highlighted (spans : List Span)
  /-- The bytes are no text; nothing was lexed. -/
  | skipped (offset : Nat)
  deriving DecidableEq, Repr

def highlight (tokenizer : Tokenizer) (mapping : Mapping) (faces : Faces) (doc : Document)
    (columns rows limit : Nat) : Except Error Outcome :=
  match select doc doc.point columns rows limit with
  | .error offset => .ok (.skipped offset)
  | .ok view => (tokenize tokenizer mapping faces view doc.point).map .highlighted

end Viewport

end Highlighting
