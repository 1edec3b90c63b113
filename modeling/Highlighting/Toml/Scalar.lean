import Highlighting.Toml.Value

/-!
Values that are written as one word without quotes: booleans, integers, floats, dates and times. A
word is read whole or not at all.
-/
namespace Highlighting.Toml.Scalar

def isWordChar (c : Char) : Bool :=
  c.isAlphanum || c = '_' || c = '+' || c = '-' || c = '.' || c = ':'

def digit (c : Char) : Nat :=
  if c.isDigit then c.toNat - '0'.toNat else c.toLower.toNat - 'a'.toNat + 10

def isDigitOf (base : Nat) (c : Char) : Bool :=
  (c.isDigit || ('a' ≤ c.toLower && c.toLower ≤ 'f')) && digit c < base

def number (base : Nat) (digits : List Char) : Nat :=
  digits.foldl (fun n c => n * base + digit c) 0

/-- Digits without the underscores that separate them; each underscore stands between two
digits. -/
def ungroup? (base : Nat) : List Char → Option (List Char)
  | [] => none
  | c :: rest =>
    if isDigitOf base c then
      match rest with
      | [] => some [c]
      | '_' :: more => (ungroup? base more).map (c :: ·)
      | more => (ungroup? base more).map (c :: ·)
    else none

/-- Digits that may be separated and do not begin with a needless zero. -/
def leading? (word : List Char) : Option (List Char) :=
  (ungroup? 10 word).filter fun digits => digits.length = 1 || digits.head? ≠ some '0'

/-- Splits a sign off; true is the minus sign. -/
def sign : List Char → Bool × List Char
  | '+' :: rest => (false, rest)
  | '-' :: rest => (true, rest)
  | rest => (false, rest)

def fits (n : Int) : Bool :=
  decide (-9223372036854775808 ≤ n ∧ n < 9223372036854775808)

/-- Reads an integer: decimal with an optional sign, or in another base without one. -/
def integer? (word : List Char) : Option Value :=
  let based (base : Nat) (digits : List Char) : Option Value :=
    ((ungroup? base digits).map fun ds => (number base ds : Int)).bind fun n =>
      if fits n then some (.integer n) else none
  match word with
  | '0' :: 'x' :: digits => based 16 digits
  | '0' :: 'o' :: digits => based 8 digits
  | '0' :: 'b' :: digits => based 2 digits
  | _ =>
    let (negative, rest) := sign word
    (leading? rest).bind fun digits =>
      let n : Int := number 10 digits
      let n := if negative then -n else n
      if fits n then some (.integer n) else none

def splitAtFirst (cut : Char → Bool) (word : List Char) : List Char × Option (List Char) :=
  match word.dropWhile (! cut ·) with
  | [] => (word, none)
  | _ :: behind => (word.takeWhile (! cut ·), some behind)

/-- Decimal exponents past this one make any number too large. -/
def exponentBound : Nat := 400

/-- Whether a positive decimal rounds to a number past the largest float of 64 bits: that is so from
half a unit in the last place above the largest one on. -/
def overflows (digits : List Char) (exponent : Int) : Bool :=
  let n := number 10 digits
  if n = 0 then false
  else
    let size := (Nat.toDigits 10 n).length
    if exponent + size > exponentBound then true
    else if exponent + size < 0 then false
    else
      let bound := Nat.pow 2 1024 - Nat.pow 2 970
      if 0 ≤ exponent then bound ≤ n * Nat.pow 10 exponent.toNat
      else bound * Nat.pow 10 (-exponent).toNat ≤ n

def exponent? (word : List Char) : Option Int :=
  let (negative, rest) := sign word
  (ungroup? 10 rest).map fun digits =>
    let n : Int := number 10 digits
    if negative then -n else n

/-- Reads a float: a whole part with a fraction, an exponent or both, or a special value. A positive
one must not be too large. -/
def float? (word : List Char) : Option Value :=
  let (negative, rest) := sign word
  if rest = "inf".toList ∨ rest = "nan".toList then some (.float word)
  else
    let (mantissa, exponent) := splitAtFirst (fun c => c = 'e' || c = 'E') rest
    let (whole, fraction) := splitAtFirst (· = '.') mantissa
    match fraction, exponent with
    | none, none => none
    | _, _ => do
      let whole ← leading? whole
      let fraction ← match fraction with
        | some digits => ungroup? 10 digits
        | none => some []
      let exponent ← match exponent with
        | some written => exponent? written
        | none => some 0
      if ! negative && overflows (whole ++ fraction) (exponent - fraction.length) then none
      else some (.float word)

def twoDigits? (a b : Char) (most : Nat) : Option Nat :=
  if a.isDigit && b.isDigit && number 10 [a, b] ≤ most then some (number 10 [a, b]) else none

def daysOf (year month : Nat) : Nat :=
  let leap := year % 4 = 0 ∧ (year % 100 ≠ 0 ∨ year % 400 = 0)
  if month = 2 then (if leap then 29 else 28)
  else if month = 4 ∨ month = 6 ∨ month = 9 ∨ month = 11 then 30
  else 31

def date? : List Char → Option (List Char)
  | y₁ :: y₂ :: y₃ :: y₄ :: '-' :: m₁ :: m₂ :: '-' :: d₁ :: d₂ :: rest => do
    let year := [y₁, y₂, y₃, y₄]
    let month ← twoDigits? m₁ m₂ 12
    let day ← twoDigits? d₁ d₂ 31
    if year.all Char.isDigit ∧ 1 ≤ month ∧ 1 ≤ day ∧ day ≤ daysOf (number 10 year) month then
      some rest
    else none
  | _ => none

def time? : List Char → Option (List Char)
  | h₁ :: h₂ :: ':' :: m₁ :: m₂ :: ':' :: s₁ :: s₂ :: rest => do
    let _ ← twoDigits? h₁ h₂ 23
    let _ ← twoDigits? m₁ m₂ 59
    let _ ← twoDigits? s₁ s₂ 60
    match rest with
    | '.' :: behind =>
      if (behind.takeWhile Char.isDigit).isEmpty then none
      else some (behind.dropWhile Char.isDigit)
    | _ => some rest
  | _ => none

def isOffset : List Char → Bool
  | ['Z'] => true
  | ['z'] => true
  | [plus, h₁, h₂, ':', m₁, m₂] =>
    (plus = '+' || plus = '-') && (twoDigits? h₁ h₂ 23).isSome && (twoDigits? m₁ m₂ 59).isSome
  | _ => false

def isZonedTime (word : List Char) : Bool :=
  match time? word with
  | some rest => rest.isEmpty || isOffset rest
  | none => false

def isDate (word : List Char) : Bool :=
  date? word = some []

def isDateTime (word : List Char) : Bool :=
  match date? word with
  | some [] => true
  | some (c :: rest) => (c = 'T' || c = 't') && isZonedTime rest
  | none => time? word = some []

def ofWord? (word : List Char) : Option Value :=
  if word = "true".toList then some (.boolean true)
  else if word = "false".toList then some (.boolean false)
  else if isDateTime word then some (.dateTime word)
  else (float? word).or (integer? word)

/-- The value at the front of a text, and the rest: a word, or a date and a time with a blank
between them. -/
def read? (text : List Char) : Option (Value × List Char) :=
  let word := text.takeWhile isWordChar
  let rest := text.dropWhile isWordChar
  let time := (rest.drop 1).takeWhile isWordChar
  if isDate word ∧ rest.head? = some ' ' ∧ ! time.isEmpty then
    if isZonedTime time then
      some (.dateTime (word ++ ' ' :: time), (rest.drop 1).dropWhile isWordChar)
    else none
  else (ofWord? word).map (·, rest)

end Highlighting.Toml.Scalar
