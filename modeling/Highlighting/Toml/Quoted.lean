/-!
Quoted text. Double quotes know escapes and single quotes do not. Between single quotation marks a
text stays on its line; between tripled ones it may hold line breaks, which all become line feeds,
and one or two quotes of its own in front of the closing three.
-/
namespace Highlighting.Toml

def isPlain (c : Char) : Bool :=
  c = '\t' || (' ' ≤ c && c ≠ '\x7f')

def isBlank (c : Char) : Bool :=
  c = ' ' || c = '\t'

def lineBreak? : List Char → Option (List Char)
  | '\n' :: rest => some rest
  | '\r' :: '\n' :: rest => some rest
  | _ => none

namespace QuotedText

def codePoint? (digits : List Char) : Option Char :=
  let value (c : Char) : Option Nat :=
    if c.isDigit then some (c.toNat - '0'.toNat)
    else if 'a' ≤ c.toLower ∧ c.toLower ≤ 'f' then some (c.toLower.toNat - 'a'.toNat + 10)
    else none
  (digits.mapM value).bind fun ds =>
    let n := ds.foldl (fun n d => n * 16 + d) 0
    if n.isValidChar then some (Char.ofNat n) else none

def escaped? (c : Char) : Option Char :=
  [('b', '\x08'), ('t', '\t'), ('n', '\n'), ('f', '\x0c'), ('r', '\r'), ('"', '"'),
    ('\\', '\\')].lookup c

def push? (c : Option Char) (more : Option (List Char × List Char)) :
    Option (List Char × List Char) :=
  match c, more with
  | some c, some (text, rest) => some (c :: text, rest)
  | _, _ => none

def line? (quote : Char) : List Char → Option (List Char × List Char)
  | [] => none
  | c :: rest =>
    if c = quote then some ([], rest)
    else if c = '\\' ∧ quote = '"' then
      match rest with
      | 'u' :: a :: b :: c :: d :: rest => push? (codePoint? [a, b, c, d]) (line? quote rest)
      | 'U' :: a :: b :: c :: d :: e :: f :: g :: h :: rest =>
        push? (codePoint? [a, b, c, d, e, f, g, h]) (line? quote rest)
      | e :: rest => push? (escaped? e) (line? quote rest)
      | [] => none
    else if isPlain c then push? (some c) (line? quote rest)
    else none

def endsLine (text : List Char) : Bool :=
  (lineBreak? (text.dropWhile isBlank)).isSome

/-- What a text of tripled quotes ends in behind its first closing quotes: up to two quotes more
belong to the text. -/
def closing (quote : Char) : List Char → List Char × List Char
  | a :: b :: rest =>
    if a = quote ∧ b = quote then ([a, b], rest)
    else if a = quote then ([a], b :: rest)
    else ([], a :: b :: rest)
  | [a] => if a = quote then ([a], []) else ([], [a])
  | [] => ([], [])

/-- Reads up to the three closing quotes. A backslash at the end of a line takes the blanks and
line breaks behind it away; while `joining` these are being passed over. -/
def lines? (quote : Char) (joining : Bool) : List Char → Option (List Char × List Char)
  | [] => none
  | c :: rest =>
    if joining ∧ (isBlank c ∨ c = '\n' ∨ (c = '\r' ∧ rest.head? = some '\n')) then
      lines? quote true rest
    else if c = quote ∧ rest.take 2 = [quote, quote] then some (closing quote (rest.drop 2))
    else if c = '\\' ∧ quote = '"' then
      if endsLine rest then lines? quote true rest
      else match rest with
        | 'u' :: a :: b :: c :: d :: rest =>
          push? (codePoint? [a, b, c, d]) (lines? quote false rest)
        | 'U' :: a :: b :: c :: d :: e :: f :: g :: h :: rest =>
          push? (codePoint? [a, b, c, d, e, f, g, h]) (lines? quote false rest)
        | e :: rest => push? (escaped? e) (lines? quote false rest)
        | [] => none
    else if c = '\r' ∧ rest.head? = some '\n' then lines? quote false rest
    else if c = '\n' ∨ isPlain c then push? (some c) (lines? quote false rest)
    else none

def opened (text : List Char) : List Char :=
  (lineBreak? text).getD text

def read? : List Char → Option (List Char × List Char)
  | '"' :: '"' :: '"' :: rest => lines? '"' false (opened rest)
  | '\'' :: '\'' :: '\'' :: rest => lines? '\'' false (opened rest)
  | '"' :: rest => line? '"' rest
  | '\'' :: rest => line? '\'' rest
  | _ => none

end QuotedText

end Highlighting.Toml
