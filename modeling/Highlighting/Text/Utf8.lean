/-!
UTF-8. A byte sequence is cut into pieces, well-formed characters and ill-formed stretches, one byte
at a time. An ill-formed stretch is as long as it could still have been the start of a character, so
a byte that rules the character out begins the next piece. Decoding succeeds when there are only
characters, and otherwise tells where the first ill-formed stretch begins.
-/
namespace Highlighting.Utf8

/-- A stretch of bytes: a character, or bytes that are none. A stretch is `cutOff` when only the
end of the input keeps it from being a character. -/
inductive Piece where
  | char (c : Char)
  | malformed (size : Nat) (cutOff : Bool)
  deriving DecidableEq, Repr

namespace Piece

def size : Piece → Nat
  | char c => c.utf8Size
  | malformed n _ => n

def isChar : Piece → Bool
  | char _ => true
  | malformed _ _ => false

def char? : Piece → Option Char
  | char c => some c
  | malformed _ _ => none

end Piece

/-- A character under way: the continuation bytes still `missing`, the bounds of the next one, and
the value and number of bytes read so far. -/
structure Pending where
  missing : Nat
  low : UInt8
  high : UInt8
  value : Nat
  size : Nat
  deriving DecidableEq, Repr

/-- A first byte: it completes a piece or starts a longer character. The bounds of the second byte
keep out overlong forms, surrogates and values past the last code point. -/
def first (b : UInt8) : List Piece × Option Pending :=
  let n := b.toNat
  if n < 0x80 then ([.char (Char.ofNat n)], none)
  else if n < 0xc2 then ([.malformed 1 false], none)
  else if n < 0xe0 then ([], some ⟨1, 0x80, 0xbf, n - 0xc0, 1⟩)
  else if n < 0xf0 then
    let low := if n = 0xe0 then 0xa0 else 0x80
    let high := if n = 0xed then 0x9f else 0xbf
    ([], some ⟨2, low, high, n - 0xe0, 1⟩)
  else if n < 0xf5 then
    let low := if n = 0xf0 then 0x90 else 0x80
    let high := if n = 0xf4 then 0x8f else 0xbf
    ([], some ⟨3, low, high, n - 0xf0, 1⟩)
  else ([.malformed 1 false], none)

/-- One byte: the pieces that it completes and the character then under way. -/
def step : Option Pending → UInt8 → List Piece × Option Pending
  | none, b => first b
  | some p, b =>
    if p.low ≤ b ∧ b ≤ p.high then
      let value := p.value * 64 + (b.toNat - 0x80)
      if p.missing ≤ 1 then ([.char (Char.ofNat value)], none)
      else ([], some ⟨p.missing - 1, 0x80, 0xbf, value, p.size + 1⟩)
    else
      let (pieces, next) := first b
      (.malformed p.size false :: pieces, next)

def piecesFrom (done : List Piece) (pending : Option Pending) : List UInt8 → List Piece
  | [] => (match pending with
    | none => done
    | some p => .malformed p.size true :: done).reverse
  | b :: rest =>
    let (pieces, next) := step pending b
    piecesFrom (pieces.reverse ++ done) next rest

def pieces (bytes : List UInt8) : List Piece :=
  piecesFrom [] none bytes

def malformedAt (ps : List Piece) : Option Nat :=
  if ps.all Piece.isChar then none
  else some ((ps.takeWhile Piece.isChar).foldr (fun p n => p.size + n) 0)

/-- Decodes bytes; the error is the offset of the first ill-formed stretch. -/
def decode (bytes : List UInt8) : Except Nat (List Char) :=
  let ps := pieces bytes
  match malformedAt ps with
  | none => .ok (ps.filterMap Piece.char?)
  | some offset => .error offset

def isValid (bytes : List UInt8) : Bool :=
  (pieces bytes).all Piece.isChar

def decodeLossy (bytes : List UInt8) : List Char :=
  (pieces bytes).map fun piece => (piece.char?).getD '\ufffd'

def encode (text : List Char) : List UInt8 :=
  text.flatMap String.utf8EncodeChar

def byteLength : List Char → Nat
  | [] => 0
  | c :: rest => c.utf8Size + byteLength rest

/-- Splits a text behind `offset` bytes; there is no answer inside a character or past the end. -/
def splitAt? (offset : Nat) : List Char → Option (List Char × List Char)
  | [] => if offset = 0 then some ([], []) else none
  | c :: rest =>
    if offset = 0 then some ([], c :: rest)
    else if c.utf8Size ≤ offset then
      (splitAt? (offset - c.utf8Size) rest).map fun (before, after) => (c :: before, after)
    else none

end Highlighting.Utf8
