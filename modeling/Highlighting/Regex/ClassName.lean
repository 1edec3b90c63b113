import Highlighting.Regex.CharSet

/-!
Named classes of characters, as patterns write them: the bracketed ASCII classes such as `alpha`,
and the properties, general categories and scripts of Unicode. In a Unicode name case, blanks,
hyphens, underscores and a leading `is` do not matter. Which Unicode names there are depends on the
tables at hand, so a reader of patterns is given the lookup of these names.
-/
namespace Highlighting.ClassName

def ascii? : String → Option CharSet
  | "alnum" => some (.unionAll [.range 0x30 0x39, .range 0x41 0x5a, .range 0x61 0x7a])
  | "alpha" => some (.union (.range 0x41 0x5a) (.range 0x61 0x7a))
  | "ascii" => some (.range 0 0x7f)
  | "blank" => some (.union (.range 9 9) (.range 0x20 0x20))
  | "cntrl" => some (.union (.range 0 0x1f) (.range 0x7f 0x7f))
  | "digit" => some (.range 0x30 0x39)
  | "graph" => some (.range 0x21 0x7e)
  | "lower" => some (.range 0x61 0x7a)
  | "print" => some (.range 0x20 0x7e)
  | "punct" =>
    some (.unionAll [.range 0x21 0x2f, .range 0x3a 0x40, .range 0x5b 0x60, .range 0x7b 0x7e])
  | "space" => some (.union (.range 9 0xd) (.range 0x20 0x20))
  | "upper" => some (.range 0x41 0x5a)
  | "word" =>
    some (.unionAll [.range 0x30 0x39, .range 0x41 0x5a, .range 0x5f 0x5f, .range 0x61 0x7a])
  | "xdigit" => some (.unionAll [.range 0x30 0x39, .range 0x41 0x46, .range 0x61 0x66])
  | _ => none

/-- A name without what does not matter in it: in lower case, ASCII only, no separators, and
without a leading `is`. -/
def plain (name : List Char) : String :=
  let kept := fun (cs : List Char) => String.ofList <|
    (cs.filter fun c => c.toNat < 128 && c ≠ ' ' && c ≠ '_' && c ≠ '-').map Char.toLower
  match name with
  | i :: s :: rest =>
    if i.toLower = 'i' ∧ s.toLower = 's' then
      if kept rest = "c" then "isc" else kept rest
    else kept name
  | _ => kept name

/-- The general categories of a name, together with the three sets that are named like one. -/
def category? (name : String) : Option CharSet :=
  match name with
  | "any" => some .any
  | "ascii" => some (.range 0 0x7f)
  | "assigned" => some (.compl (.category .unassigned))
  | _ => (Category.named? name).map fun cs => .unionAll (cs.map .category)

def property? (name : String) : Option CharSet :=
  match name with
  | "wspace" | "whitespace" | "space" => some .blank
  | _ => (Property.named? name).map .property

/-- The Unicode names that a reader knows: those that stand alone, and those with a value. -/
structure Lookup where
  single? : List Char → Option CharSet
  valued? : (name value : List Char) → Option CharSet

/-- The names that have a table here: the general categories, the scripts, and the yes-or-no
properties of `Property.names`. Ages, script extensions, the breaks of graphemes, words and
sentences, and all other properties are unknown to it. -/
def Lookup.standard : Lookup where
  single? name :=
    let name := plain name
    (property? name).or ((category? name).or ((Script.named? name).map .script))
  valued? name value :=
    match plain name with
    | "gc" | "generalcategory" => category? (plain value)
    | "sc" | "script" => (Script.named? (plain value)).map .script
    | _ => none

def splitAtMark (mark : List Char) : List Char → Option (List Char × List Char)
  | [] => none
  | c :: rest =>
    if mark.isPrefixOf (c :: rest) then some ([], (c :: rest).drop mark.length)
    else (splitAtMark mark rest).map fun (before, after) => (c :: before, after)

/-- The set that the text between the braces of a class stands for, and whether it is negated. -/
def Lookup.braced? (names : Lookup) (text : List Char) : Option (CharSet × Bool) :=
  match splitAtMark ['!', '='] text with
  | some (name, value) => (names.valued? name value).map (·, true)
  | none =>
    match (splitAtMark [':'] text).or (splitAtMark ['='] text) with
    | some (name, value) => (names.valued? name value).map (·, false)
    | none => (names.single? text).map (·, false)

end Highlighting.ClassName
