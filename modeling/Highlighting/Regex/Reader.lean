import Highlighting.Regex.Basic
import Highlighting.Regex.ClassName

/-!
Reading regular expressions from their written form. Flags hold from where they are set to the end
of their group. Groups may be named, and a name may stand once. There is no answer for a text that
is not a regular expression, that nests too deeply, or whose repetitions make it too large.
-/
namespace Highlighting

namespace Regex.Reader

/-- What decides the meaning of a pattern: the class names that are known, and what a pattern can
change. `unicode` is on at the start, all others are off. -/
structure Flags where
  classes : ClassName.Lookup
  ignoreCase : Bool := false
  multiLine : Bool := false
  dotAll : Bool := false
  swapGreed : Bool := false
  crlf : Bool := false
  unicode : Bool := true
  verbose : Bool := false

def Flags.initial (classes : ClassName.Lookup) : Flags := { classes := classes }

def nestLimit : Nat := 250

/-- How large a pattern may grow; see `weigh`. -/
def weightLimit : Nat := 10 * 1024 * 1024

def weigh (chars : CharSet) : Nat := 24 + 48 * chars.runCount

/-- Passes over blanks and comments; a comment runs from `#` to the end of its line. -/
def skipComments : Bool → List Char → List Char
  | _, [] => []
  | true, c :: rest => skipComments (c ≠ '\n') rest
  | false, c :: rest =>
    if Character.isBlank c then skipComments false rest
    else if c = '#' then skipComments true rest
    else c :: rest

def skip (flags : Flags) (text : List Char) : List Char :=
  if flags.verbose then skipComments false text else text

def isMeta (c : Char) : Bool :=
  "\\.+*?()|[]\x7b\x7d^$#&-~".toList.contains c

def isEscapable (c : Char) : Bool :=
  isMeta c || (c.toNat < 128 && ! c.isAlphanum && c ≠ '<' && c ≠ '>')

def hexDigit? (c : Char) : Option Nat := CodeRange.digit? c.toLower

/-- One element of a pattern or of a class. A literal knows whether it was written as two
hexadecimal digits. -/
inductive Primitive where
  | literal (c : Char) (twoDigits : Bool)
  | look (assertion : Bool → Assertion)
  | lineStart
  | lineEnd
  | dot
  | letterClass (unicode ascii : CharSet) (negated : Bool)
  | named (chars : CharSet) (negated : Bool)

def scalar? (n : Nat) : Option Char :=
  if n.isValidChar then some (Char.ofNat n) else none

/-- Reads `count` hexadecimal digits behind those with the value `value`. -/
def hexDigits (flags : Flags) : Nat → Nat → List Char → Option (Nat × List Char)
  | 0, value, text => some (value, text)
  | _ + 1, _, [] => none
  | count + 1, value, c :: rest =>
    match hexDigit? c with
    | some d => hexDigits flags count (value * 16 + d) (skip flags rest)
    | none => none

def upToBrace (flags : Flags) : Nat → List Char → Option (List Char × List Char)
  | 0, _ => none
  | fuel + 1, text =>
    match skip flags text with
    | [] => none
    | '\x7d' :: rest => some ([], rest)
    | c :: rest => (upToBrace flags fuel rest).map fun (cs, after) => (c :: cs, after)

/-- Reads the code point of an escape behind its letter, which wants `count` digits or braces. -/
def hexEscape (flags : Flags) (count : Nat) (text : List Char) :
    Option (Primitive × List Char) :=
  match skip flags text with
  | '\x7b' :: rest => do
    let (digits, rest) ← upToBrace flags (rest.length + 1) rest
    let values ← digits.mapM hexDigit?
    let c ← if values.isEmpty then none else scalar? (values.foldl (fun n d => n * 16 + d) 0)
    some (.literal c false, skip flags rest)
  | rest => do
    let (value, rest) ← hexDigits flags count 0 rest
    let c ← scalar? value
    some (.literal c (count == 2), rest)

def classEscape (flags : Flags) (negated : Bool) (text : List Char) :
    Option (Primitive × List Char) :=
  match skip flags text with
  | [] => none
  | '\\' :: _ => none
  | '\x7b' :: rest => do
    let (name, rest) ← upToBrace flags (rest.length + 1) rest
    let (chars, flipped) ← flags.classes.braced? name
    some (.named chars (negated != flipped), rest)
  | c :: rest => do
    let chars ← flags.classes.single? [c]
    some (.named chars negated, skip flags rest)

def isBoundaryLetter (c : Char) : Bool := c.isAlpha || c = '-'

/-- Reads what may follow a word boundary: a special form between braces. Braces that begin with
anything else are a repetition and stay. -/
def boundary (flags : Flags) (text : List Char) : Option (Primitive × List Char) :=
  match text with
  | '\x7b' :: rest =>
    match skip flags rest with
    | [] => none
    | c :: _ =>
      if isBoundaryLetter c then do
        let (name, rest) ← upToBrace flags (rest.length + 1) rest
        match String.ofList name with
        | "start" => some (.look .wordStart, rest)
        | "end" => some (.look .wordEnd, rest)
        | "start-half" => some (.look .wordStartHalf, rest)
        | "end-half" => some (.look .wordEndHalf, rest)
        | _ => none
      else some (.look .wordBoundary, text)
  | _ => some (.look .wordBoundary, text)

def asciiDigit : CharSet := .range 0x30 0x39

def asciiBlank : CharSet := .union (.range 9 0xd) (.range 0x20 0x20)

def asciiWord : CharSet :=
  .unionAll [.range 0x30 0x39, .range 0x41 0x5a, .range 0x5f 0x5f, .range 0x61 0x7a]

def escape (flags : Flags) : List Char → Option (Primitive × List Char)
  | [] => none
  | c :: rest =>
    match c with
    | 'x' => hexEscape flags 2 rest
    | 'u' => hexEscape flags 4 rest
    | 'U' => hexEscape flags 8 rest
    | 'p' => classEscape flags false rest
    | 'P' => classEscape flags true rest
    | 'd' => some (.letterClass .digit asciiDigit false, rest)
    | 'D' => some (.letterClass .digit asciiDigit true, rest)
    | 's' => some (.letterClass .blank asciiBlank false, rest)
    | 'S' => some (.letterClass .blank asciiBlank true, rest)
    | 'w' => some (.letterClass .word asciiWord false, rest)
    | 'W' => some (.letterClass .word asciiWord true, rest)
    | 'a' => some (.literal '\x07' false, rest)
    | 'f' => some (.literal '\x0c' false, rest)
    | 't' => some (.literal '\t' false, rest)
    | 'n' => some (.literal '\n' false, rest)
    | 'r' => some (.literal '\r' false, rest)
    | 'v' => some (.literal '\x0b' false, rest)
    | 'A' => some (.look fun _ => .textStart, rest)
    | 'z' => some (.look fun _ => .textEnd, rest)
    | 'b' => boundary flags rest
    | 'B' => some (.look .notWordBoundary, rest)
    | '<' => some (.look .wordStart, rest)
    | '>' => some (.look .wordEnd, rest)
    | _ => if isEscapable c then some (.literal c false, rest) else none

def Flags.fold (flags : Flags) (chars : CharSet) : CharSet :=
  if ! flags.ignoreCase then chars
  else if flags.unicode then .folded chars else .asciiFolded chars

/-- The complement of a set; without Unicode there is none, since it would hold bytes that are no
characters. -/
def Flags.negate? (flags : Flags) (negated : Bool) (chars : CharSet) : Option CharSet :=
  if ! negated then some chars else if flags.unicode then some (.compl chars) else none

def Flags.classSet? (flags : Flags) : Primitive → Option CharSet
  | .letterClass unicode ascii negated =>
    flags.negate? negated (if flags.unicode then unicode else ascii)
  | .named chars negated =>
    if flags.unicode then flags.negate? negated (flags.fold chars) else none
  | _ => none

/-! ### Bracketed classes -/

structure Member where
  chars : CharSet
  depth : Nat

/-- An open bracket with the members before it, or an operation that waits for its right side. -/
inductive ClassFrame where
  | bracket (negated : Bool) (outer : List Member)
  | operation (op : CharSet → CharSet → CharSet) (left : Member)

/-- The union of members, which stand last first. -/
def unionOf (members : List Member) : Member :=
  match members.reverse with
  | [m] => m
  | ms =>
    ⟨.unionAll (ms.map (·.chars)),
      (ms.map (·.depth)).foldl max 0 + (if ms.isEmpty then 0 else 1)⟩

def applyPending (flags : Flags) (frames : List ClassFrame) (right : Member) :
    List ClassFrame × Member :=
  match frames with
  | .operation op left :: rest =>
    (rest, ⟨op (flags.fold left.chars) (flags.fold right.chars), max left.depth right.depth + 1⟩)
  | _ => (frames, right)

/-- A member of one literal; without Unicode it must be ASCII. -/
def literalSet? (flags : Flags) (lo hi : Char) : Option CharSet :=
  if hi < lo then none
  else if flags.unicode || hi.toNat < 128 then some (.range lo.toNat hi.toNat) else none

def classElement (flags : Flags) : List Char → Option (Primitive × List Char)
  | [] => none
  | '\\' :: rest => escape flags rest
  | c :: rest => some (.literal c false, rest)

def classRange (flags : Flags) (text : List Char) : Option (Member × List Char) := do
  let (low, rest) ← classElement flags text
  let alone : Option CharSet := match low with
    | .literal c _ => literalSet? flags c c
    | other => flags.classSet? other
  match skip flags rest with
  | [] => none
  | '-' :: more =>
    match (skip flags more).head? with
    | none => none
    | some next =>
      if next = ']' ∨ next = '-' then some (⟨← alone, 0⟩, '-' :: more)
      else
        let (high, rest) ← classElement flags (skip flags more)
        match low, high with
        | .literal lo _, .literal hi _ => some (⟨← literalSet? flags lo hi, 0⟩, rest)
        | _, _ => none
  | rest => some (⟨← alone, 0⟩, rest)

def namedClass? (flags : Flags) (negated : Bool) (text : List Char) :
    Option (Option CharSet × List Char) :=
  match text.dropWhile (· ≠ ':') with
  | ':' :: ']' :: after =>
    (ClassName.ascii? (String.ofList (text.takeWhile (· ≠ ':')))).map fun chars =>
      (if negated then flags.negate? true (flags.fold chars) else some chars, after)
  | _ => none

def asciiClass? (flags : Flags) (text : List Char) : Option (Option CharSet × List Char) :=
  match text with
  | ':' :: '^' :: rest => namedClass? flags true rest
  | ':' :: rest => namedClass? flags false rest
  | _ => none

/-- Hyphens at the front of a class stand for themselves. -/
def leadingHyphens (flags : Flags) : Nat → List Member → List Char → List Member × List Char
  | 0, members, text => (members, text)
  | fuel + 1, members, text =>
    match text with
    | '-' :: rest =>
      leadingHyphens flags fuel (⟨.single '-', 0⟩ :: members) (skip flags rest)
    | _ => (members, text)

/-- Reads the members that only the front of a class admits; a class does not end there. -/
def frontMembers? (flags : Flags) (text : List Char) : Option (List Member × List Char) :=
  let (members, rest) := leadingHyphens flags text.length [] text
  match rest with
  | [] => none
  | c :: after =>
    if c = ']' ∧ members.isEmpty then
      if (skip flags after).isEmpty then none else some ([⟨.single ']', 0⟩], skip flags after)
    else some (members, rest)

def openClass (flags : Flags) (text : List Char) : Option ((Bool × List Member) × List Char) :=
  match skip flags text with
  | '^' :: rest =>
    (frontMembers? flags (skip flags rest)).map fun (members, rest) => ((true, members), rest)
  | text => (frontMembers? flags text).map fun (members, rest) => ((false, members), rest)

def operation? : List Char → Option ((CharSet → CharSet → CharSet) × List Char)
  | c :: d :: rest =>
    if c ≠ d then none
    else match c with
      | '&' => some (.inter, rest)
      | '-' => some (fun a b => .inter a (.compl b), rest)
      | '~' => some (fun a b => .union (.inter a (.compl b)) (.inter b (.compl a)), rest)
      | _ => none
  | _ => none

def bracketed (flags : Flags) :
    Nat → List ClassFrame → List Member → List Char → Option (Member × List Char)
  | 0, _, _, _ => none
  | fuel + 1, frames, members, text =>
    match skip flags text with
    | [] => none
    | '[' :: rest =>
      match asciiClass? flags rest with
      | some (chars?, after) => do
        bracketed flags fuel frames (⟨← chars?, 0⟩ :: members) after
      | none => do
        let ((negated, inner), after) ← openClass flags rest
        bracketed flags fuel (.bracket negated members :: frames) inner after
    | ']' :: rest =>
      let (frames, all) := applyPending flags frames (unionOf members)
      match frames with
      | .bracket negated outer :: frames => do
        let chars ← flags.negate? negated (flags.fold all.chars)
        let whole : Member := ⟨chars, all.depth + 1⟩
        match frames with
        | [] => some (whole, rest)
        | _ => bracketed flags fuel frames (whole :: outer) rest
      | _ => none
    | text =>
      match operation? text with
      | some (op, rest) =>
        let (frames, left) := applyPending flags frames (unionOf members)
        bracketed flags fuel (.operation op left :: frames) [] rest
      | none => do
        let (member, rest) ← classRange flags text
        bracketed flags fuel frames (member :: members) rest

def wholeClass (flags : Flags) (text : List Char) : Option (Member × List Char) := do
  let ((negated, members), rest) ← openClass flags text
  bracketed flags (rest.length + 1) [.bracket negated []] members rest

/-! ### Sequences, alternatives and groups -/

/-- A piece of a pattern: its expression, how deep it nests and what it weighs. A mere change of
flags is no operand of a repetition. -/
structure Part where
  regex : Regex
  depth : Nat := 0
  weight : Nat := 0
  operand : Bool := true

/-- A group under way: the flags to go back to, its finished alternatives and the parts of the one
being read, both last first. -/
structure Level where
  outer : Flags
  branches : List Part := []
  parts : List Part := []

def deepest (parts : List Part) : Nat := (parts.map (·.depth)).foldl max 0 + 1

def joinParts (parts : List Part) : Part :=
  match parts.reverse with
  | [] => ⟨.empty, 0, 0, true⟩
  | [p] => { p with operand := true }
  | ps =>
    let rs := (ps.filter (·.operand)).map (·.regex)
    ⟨.seqAll rs, deepest ps, ps.foldr (fun p n => p.weight + n) 0, true⟩

def Level.close (level : Level) : Part :=
  match (joinParts level.parts :: level.branches).reverse with
  | [p] => p
  | ps => ⟨.altAll (ps.map (·.regex)), deepest ps, ps.foldr (fun p n => p.weight + 40 + n) 0, true⟩

def Level.add (level : Level) (part : Part) : Level :=
  { level with parts := part :: level.parts }

def Level.branch (level : Level) : Level :=
  { level with branches := joinParts level.parts :: level.branches, parts := [] }

def Part.grouped (part : Part) : Part :=
  ⟨part.regex, part.depth + 1, part.weight + 64, true⟩

def Flags.part? (flags : Flags) : Primitive → Option Part
  | .literal c twoDigits =>
    if flags.unicode then
      let chars := if flags.ignoreCase ∧ (CaseFold.orbit c.toNat).any (· ≠ c.toNat) then
        CharSet.folded (.single c) else .single c
      some ⟨.set chars, 0, 32, true⟩
    else if twoDigits ∧ 128 ≤ c.toNat then none
    else some ⟨.set (flags.fold (.single c)), 0, 32, true⟩
  | .look assertion => some ⟨.look (assertion (! flags.unicode)), 0, 32, true⟩
  | .lineStart =>
    some ⟨.look (if ! flags.multiLine then .textStart
      else if flags.crlf then .crlfLineStart else .lineStart), 0, 32, true⟩
  | .lineEnd =>
    some ⟨.look (if ! flags.multiLine then .textEnd
      else if flags.crlf then .crlfLineEnd else .lineEnd), 0, 32, true⟩
  | .dot =>
    if ! flags.unicode then none
    else
      let chars := if flags.dotAll then .any
        else if flags.crlf then .compl (.union (.single '\r') (.single '\n')) else .except '\n'
      some ⟨.set chars, 0, 400, true⟩
  | .letterClass u a negated =>
    (flags.classSet? (.letterClass u a negated)).map fun s => ⟨.set s, 0, weigh s, true⟩
  | .named chars negated =>
    (flags.classSet? (.named chars negated)).map fun s => ⟨.set s, 0, weigh s, true⟩

def repeatLast (flags : Flags) (greedy : Bool) (least : Nat) (most : Option Nat)
    (parts : List Part) : Option (List Part) :=
  match parts with
  | p :: rest =>
    let weight := match most with
      | some most => p.weight * most + 40 * (most - least)
      | none => p.weight * max 1 least + 40
    if ! p.operand ∨ weightLimit < weight then none
    else
      let greedy := greedy != flags.swapGreed
      some (⟨.times greedy least most p.regex, p.depth + 1, weight, true⟩ :: rest)
  | [] => none

def takeReluctant : List Char → Bool × List Char
  | '?' :: rest => (false, rest)
  | rest => (true, rest)

/-- Reads a decimal number between blanks; without digits there is none. -/
def decimal (flags : Flags) : Nat → Option Nat → List Char → Option Nat × List Char
  | 0, value, text => (value, text)
  | fuel + 1, value, text =>
    match text with
    | c :: rest =>
      if c.isDigit then
        decimal flags fuel (some (value.getD 0 * 10 + (c.toNat - 48))) (skip flags rest)
      else (value, text)
    | [] => (value, text)

def count? (flags : Flags) (text : List Char) : Option Nat × List Char :=
  let text := text.dropWhile Character.isBlank
  let (value, rest) := decimal flags text.length none text
  (value.filter (· < Nat.pow 2 32), skip flags (rest.dropWhile Character.isBlank))

/-- Reads the upper bound of a counted repetition: none behind a comma that nothing follows, and the
lower one where there is no comma. -/
def upperBound? (flags : Flags) (least : Nat) (text : List Char) :
    Option (Option Nat × List Char) :=
  match text with
  | ',' :: rest =>
    match skip flags rest with
    | '\x7d' :: after => some (none, '\x7d' :: after)
    | rest =>
      let (high, rest) := count? flags rest
      high.map fun most => (some most, rest)
  | rest => some (some least, rest)

def counted (flags : Flags) (text : List Char) :
    Option ((Nat × Option Nat × Bool) × List Char) := do
  let (low, rest) := count? flags (skip flags text)
  let least ← low
  let (most, rest) ← upperBound? flags least rest
  match rest with
  | '\x7d' :: rest =>
    let (greedy, rest) := takeReluctant (skip flags rest)
    if (most.getD least) < least then none else some ((least, most, greedy), rest)
  | _ => none

/-- Reads flags up to the colon or the parenthesis behind them. `seen` holds the letters so far;
none may stand twice, and a minus sign wants a letter behind it. -/
def flagItems (flags : Flags) (seen : List Char) (on dangling : Bool) :
    List Char → Option ((Flags × Char) × List Char)
  | [] => none
  | c :: rest =>
    if c = ':' ∨ c = ')' then if dangling then none else some ((flags, c), rest)
    else if seen.contains c then none
    else
      let more (f : Flags) := flagItems f (c :: seen) on false rest
      match c with
      | '-' => flagItems flags (c :: seen) false true rest
      | 'i' => more { flags with ignoreCase := on }
      | 'm' => more { flags with multiLine := on }
      | 's' => more { flags with dotAll := on }
      | 'U' => more { flags with swapGreed := on }
      | 'R' => more { flags with crlf := on }
      | 'u' => more { flags with unicode := on }
      | 'x' => more { flags with verbose := on }
      | _ => none

def isNameChar (first : Bool) (c : Char) : Bool :=
  c = '_' || Property.alphabetic.contains c ||
    (! first && (c = '.' || c = '[' || c = ']' ||
      Category.decimalNumber.contains c || Category.letterNumber.contains c ||
      Category.otherNumber.contains c))

def groupName (text : List Char) : Option (List Char × List Char) :=
  let name := text.takeWhile (· ≠ '>')
  match text.dropWhile (· ≠ '>') with
  | _ :: rest =>
    if name.isEmpty ∨ ! isNameChar true (name.headD ' ') ∨ ! name.all (isNameChar false) then none
    else some (name, rest)
  | [] => none

/-- What reading has come to: flags, group names, the levels above, the one being read, and the
text to go. -/
structure State where
  flags : Flags
  names : List (List Char)
  above : List Level
  level : Level
  text : List Char

def State.start (flags : Flags) (text : List Char) : State :=
  ⟨flags, [], [], ⟨flags, [], []⟩, text⟩

def State.enter (st : State) (flags : Flags) (text : List Char) : State :=
  { st with
    flags := flags, above := st.level :: st.above, level := ⟨st.flags, [], []⟩, text := text }

def State.add (st : State) (part : Part) (text : List Char) : State :=
  { st with level := st.level.add part, text := text }

/-- Leaves a group, which goes back to the flags of the level above. -/
def State.leave (st : State) (text : List Char) : Option State :=
  match st.above with
  | [] => none
  | level :: above =>
    some { st with
      flags := st.level.outer, above := above, level := level.add st.level.close.grouped,
      text := text }

def State.repeated (st : State) (greedy : Bool) (least : Nat) (most : Option Nat)
    (text : List Char) : Option State := do
  let parts ← repeatLast st.flags greedy least most st.level.parts
  some { st with level := { st.level with parts := parts }, text := text }

def State.named (st : State) (text : List Char) : Option State := do
  let (name, rest) ← groupName text
  if st.names.contains name then none
  else some { st.enter st.flags rest with names := name :: st.names }

def State.special (st : State) (text : List Char) : Option State :=
  match text with
  | '<' :: '=' :: _ => none
  | '<' :: '!' :: _ => none
  | 'P' :: '<' :: rest => st.named rest
  | '<' :: rest => st.named rest
  | rest => do
    let ((flags, stop), after) ← flagItems st.flags [] true false rest
    if stop = ':' then some (st.enter flags after)
    else if rest.head? = some ')' then none
    else some { st.add ⟨.empty, 0, 0, false⟩ after with flags := flags }

def State.group (st : State) (rest : List Char) : Option State :=
  match skip st.flags rest with
  | '?' :: rest => st.special rest
  | rest => some (st.enter st.flags rest)

def State.item (st : State) (c : Char) (rest : List Char) : Option State :=
  match c with
  | '(' => st.group rest
  | ')' => st.leave rest
  | '|' => some { st with level := st.level.branch, text := rest }
  | '[' => do
    let (member, rest) ← wholeClass st.flags rest
    some (st.add ⟨.set member.chars, member.depth, weigh member.chars, true⟩ rest)
  | '?' => let (greedy, rest) := takeReluctant rest; st.repeated greedy 0 (some 1) rest
  | '*' => let (greedy, rest) := takeReluctant rest; st.repeated greedy 0 none rest
  | '+' => let (greedy, rest) := takeReluctant rest; st.repeated greedy 1 none rest
  | '\x7b' => do
    let ((least, most, greedy), rest) ← counted st.flags rest
    st.repeated greedy least most rest
  | '\\' => do
    let (primitive, rest) ← escape st.flags rest
    some (st.add (← st.flags.part? primitive) rest)
  | '.' => do some (st.add (← st.flags.part? .dot) rest)
  | '^' => do some (st.add (← st.flags.part? .lineStart) rest)
  | '$' => do some (st.add (← st.flags.part? .lineEnd) rest)
  | c => do some (st.add (← st.flags.part? (.literal c false)) rest)

def read : Nat → State → Option Part
  | 0, _ => none
  | fuel + 1, st =>
    match skip st.flags st.text with
    | [] => if st.above.isEmpty then some st.level.close else none
    | c :: rest => do read fuel (← st.item c rest)

end Regex.Reader

namespace Regex

def ofText? (classes : ClassName.Lookup) (text : List Char) : Option Regex :=
  match Reader.read (text.length + 1) (.start (.initial classes) text) with
  | some part =>
    if part.depth ≤ Reader.nestLimit ∧ part.weight ≤ Reader.weightLimit then some part.regex
    else none
  | none => none

end Regex

end Highlighting
