import Highlighting.Highlighter
import Highlighting.Proofs.StyleMap
import Highlighting.Proofs.Utf8
import Highlighting.Terminal

/-! What a rendered text looks like. A terminal interprets the commands one after the other; each
character then stands in the attributes of a style of the map, each line begins and ends in none.
A style that begins inside a character is missed on that line and taken up on the next. -/
namespace Highlighting

/-- What a terminal paints characters with. -/
structure Attributes where
  foreground : Option Nat := none
  background : Option Nat := none
  bold : Bool := false
  italic : Bool := false
  underline : Bool := false
  reverse : Bool := false
  deriving DecidableEq, Repr

namespace Attributes

/-- The attributes of a terminal that was told nothing yet, or was reset. -/
def off : Attributes := {}

def apply (a : Attributes) : Command → Attributes
  | .write _ => a
  | .reset => off
  | .foreground index => { a with foreground := some index }
  | .background index => { a with background := some index }
  | .bold => { a with bold := true }
  | .italic => { a with italic := true }
  | .underline => { a with underline := true }
  | .reverse => { a with reverse := true }

def after (a : Attributes) (commands : List Command) : Attributes :=
  commands.foldl apply a

def ofStyle (style : Style) : Attributes :=
  ⟨style.foreground.paletteIndex?, style.background.paletteIndex?, style.bold, style.italic,
    style.underline, style.reverse⟩

/-- The attributes of a style, when there is one. -/
def ofStyle? (style : Option Style) : Attributes :=
  (style.map ofStyle).getD off

theorem ofStyle?_of_plain {style : Option Style} (plain : style = none ∨ style = some .plain) :
    ofStyle? style = off := by
  rcases plain with rfl | rfl <;> rfl

theorem after_append (a : Attributes) (first second : List Command) :
    a.after (first ++ second) = (a.after first).after second :=
  List.foldl_append ..

theorem after_of_writes (a : Attributes) {commands : List Command}
    (writes : commands.all Command.isWrite = true) : a.after commands = a := by
  induction commands with
  | nil => rfl
  | cons command commands ih =>
    obtain ⟨first, rest⟩ := Bool.and_eq_true_iff.mp writes
    cases command with
    | write text => exact ih rest
    | reset | foreground | background | bold | italic | underline | reverse => cases first

end Attributes

/-- What commands write, each time with the attributes in effect. -/
def painted (a : Attributes) : List Command → List (List Char × Attributes)
  | [] => []
  | .write text :: commands => (text, a) :: painted a commands
  | command :: commands => painted (a.apply command) commands

theorem painted_append (a : Attributes) (first second : List Command) :
    painted a (first ++ second) = painted a first ++ painted (a.after first) second := by
  induction first generalizing a with
  | nil => rfl
  | cons command first ih =>
    cases command with
    | write text => exact congrArg ((text, a) :: ·) (ih a)
    | reset | foreground | background | bold | italic | underline | reverse => exact ih _

theorem painted_of_no_writes (a : Attributes) {commands : List Command}
    (none : ∀ command ∈ commands, command.isWrite = false) : painted a commands = [] := by
  induction commands generalizing a with
  | nil => rfl
  | cons command commands ih =>
    have rest : ∀ command ∈ commands, command.isWrite = false :=
      fun c inside => none c (by simp [inside])
    cases command with
    | write text => cases none (.write text) (by simp)
    | reset | foreground | background | bold | italic | underline | reverse => exact ih _ rest

namespace Terminal

theorem after_switchTo (a : Attributes) (style : Style) :
    a.after (switchTo style) = .ofStyle style := by
  obtain ⟨foreground, background, bold, italic, underline, reverse⟩ := style
  simp only [switchTo, Attributes.ofStyle]
  cases foreground.paletteIndex? <;> cases background.paletteIndex? <;> cases bold <;>
    cases italic <;> cases underline <;> cases reverse <;> rfl

theorem isWrite_of_mem_switchTo {style : Style} {command : Command}
    (inside : command ∈ switchTo style) : command.isWrite = false := by
  simp only [switchTo, List.cons_append, List.mem_cons, List.mem_append, Option.mem_toList,
    Option.map_eq_some_iff, List.mem_ite_nil_right, List.not_mem_nil, or_false] at inside
  rcases inside with rfl |
    (((((⟨_, _, rfl⟩ | ⟨_, _, rfl⟩) | ⟨_, rfl⟩) | ⟨_, rfl⟩) | ⟨_, rfl⟩) | ⟨_, rfl⟩) <;> rfl

theorem after_switchTo? (a : Attributes) (style : Option Style) :
    a.after (switchTo? style) = (style.map .ofStyle).getD a := by
  cases style with
  | none => rfl
  | some style => exact after_switchTo a style

theorem painted_switchTo? (a : Attributes) (style : Option Style) :
    painted a (switchTo? style) = [] := by
  cases style with
  | none => rfl
  | some style => exact painted_of_no_writes a fun _ => isWrite_of_mem_switchTo

/-- A character that a line has room for: its offset, and what is written for it. -/
structure Cell where
  offset : Nat
  char : Char
  shown : List Char
  deriving DecidableEq, Repr

/-- The characters from `column` on for which there is room. -/
def fitted (widths : CharWidth) (columns offset column : Nat) : List Char → List Cell
  | [] => []
  | c :: rest =>
    match place? widths columns column c with
    | none => []
    | some (shown, next) =>
      ⟨offset, c, shown⟩ :: fitted widths columns (offset + c.utf8Size) next rest

/-- Lines one behind the other, each with the offset at which it begins. -/
def rows (offset : Nat) : List (List Char) → List (Nat × List Char)
  | [] => []
  | line :: more => (offset, line) :: rows (offset + Utf8.byteLength line) more

/-- The characters of a line that are written. -/
def cellsOf (widths : CharWidth) (columns : Nat) (row : Nat × List Char) : List Cell :=
  fitted widths columns row.1 0 (visible row.2)

/-- A row as it looks when each character is in the style of its offset; the line feed has none. -/
def shownIn (widths : CharWidth) (columns : Nat) (styleAt? : Nat → Option Style)
    (row : Nat × List Char) : List (List Char × Attributes) :=
  (cellsOf widths columns row).map (fun cell => (cell.shown, .ofStyle? (styleAt? cell.offset))) ++
    [(['\n'], .off)]

/-- No style begins inside a character of a text. -/
def Unsplit (styles : StyleMap) (base : Nat) (text : List Char) : Prop :=
  ∀ before c behind, text = before ++ c :: behind → ∀ span ∈ styles.spans,
    ¬ (base + Utf8.byteLength before < span.start ∧
      span.start < base + Utf8.byteLength before + c.utf8Size)

theorem Unsplit.left {styles : StyleMap} {base : Nat} {text more : List Char}
    (unsplit : Unsplit styles base (text ++ more)) : Unsplit styles base text := by
  rintro before c behind rfl
  exact unsplit before c (behind ++ more) (by simp)

theorem Unsplit.right {styles : StyleMap} {base : Nat} {text more : List Char}
    (unsplit : Unsplit styles base (text ++ more)) :
    Unsplit styles (base + Utf8.byteLength text) more := by
  rintro before c behind rfl
  have whole := unsplit (text ++ before) c behind (by simp)
  rwa [Utf8.byteLength_append, ← Nat.add_assoc] at whole

theorem Unsplit.head {styles : StyleMap} {base : Nat} {c : Char} {rest : List Char}
    (unsplit : Unsplit styles base (c :: rest)) :
    ∀ span ∈ styles.spans, ¬ (base < span.start ∧ span.start < base + c.utf8Size) :=
  unsplit [] c rest rfl

theorem Unsplit.tail {styles : StyleMap} {base : Nat} {c : Char} {rest : List Char}
    (unsplit : Unsplit styles base (c :: rest)) : Unsplit styles (base + c.utf8Size) rest := by
  have split : Unsplit styles base ([c] ++ rest) := unsplit
  exact split.right

/-- Each character is written in the style in effect where it stands. What carries the induction is
that the style before it is still switched on, and none began inside the character before. -/
theorem painted_cells (widths : CharWidth) {styles : StyleMap}
    (ascending : Ascending styles.spans) (columns column : Nat) {a : Attributes} (isFirst : Bool)
    {offset : Nat} {text : List Char} (unsplit : Unsplit styles offset text)
    (lead : a.after (if isFirst then [] else switchTo? (styles.get? offset)) =
      .ofStyle? (styles.styleAt? offset)) :
    painted a (cells widths styles columns isFirst offset column text) =
      (fitted widths columns offset column text).map
        fun cell => (cell.shown, .ofStyle? (styles.styleAt? cell.offset)) := by
  induction text generalizing isFirst a offset column with
  | nil => rfl
  | cons c rest ih =>
    have silent : painted a (if isFirst then [] else switchTo? (styles.get? offset)) = [] := by
      cases isFirst with
      | true => rfl
      | false => exact painted_switchTo? a _
    cases placed : place? widths columns column c with
    | none => simp only [cells, fitted, placed, silent, List.map_nil]
    | some next =>
      obtain ⟨shown, next⟩ := next
      have size := c.utf8Size_pos
      -- The style at the next character is its own or the one that is still switched on.
      have switched := StyleMap.styleAt?_of_gap ascending (Nat.lt_add_of_pos_right size)
        unsplit.head
      have follows : (Attributes.ofStyle? (styles.styleAt? offset)).after
          (switchTo? (styles.get? (offset + c.utf8Size))) =
            .ofStyle? (styles.styleAt? (offset + c.utf8Size)) := by
        rw [after_switchTo?, switched]
        cases styles.get? (offset + c.utf8Size) <;> rfl
      simp only [cells, fitted, placed, painted_append, silent, lead, painted, List.nil_append,
        List.map_cons]
      rw [ih next false unsplit.tail follows]

variable {widths : CharWidth}

theorem exists_visible_append (line : List Char) : ∃ ending, line = visible line ++ ending := by
  refine ⟨(line.reverse.takeWhile isLineEnd).reverse, ?_⟩
  rw [visible, ← List.reverse_append, List.takeWhile_append_dropWhile, List.reverse_reverse]

/-- A line goes back to no attributes before its end, unless it never left them. -/
theorem after_reset (styled : List Command) :
    (Attributes.off.after styled).after (if styled.all Command.isWrite then [] else [.reset]) =
      .off := by
  by_cases writes : styled.all Command.isWrite = true
  · rw [if_pos writes, Attributes.after_of_writes _ writes]
    rfl
  · rw [if_neg writes]
    rfl

theorem after_line (window : Window) (offset : Nat) (text : List Char) :
    Attributes.off.after (line widths window offset text) = .off := by
  simp only [line]
  rw [Attributes.after_append, Attributes.after_append, after_reset]
  rfl

theorem painted_reset (a : Attributes) (writes : Bool) :
    painted a (if writes then [] else [.reset]) = [] := by
  cases writes <;> rfl

theorem painted_line {window : Window} (ascending : Ascending window.styles.spans) {offset : Nat}
    {text : List Char} (unsplit : Unsplit window.styles offset (visible text)) :
    painted .off (line widths window offset text) =
      shownIn widths window.columns window.styleAt? (offset, text) := by
  have begun : (Attributes.off.after (switchTo? (window.styleAt? offset))).after [] =
      .ofStyle? (window.styles.styleAt? offset) := after_switchTo? .off _
  have styled := painted_cells widths ascending window.columns 0 true unsplit begun
  simp only [line]
  rw [painted_append, painted_append, painted_reset, Attributes.after_append, after_reset,
    painted_append, painted_switchTo?, styled, List.nil_append, List.append_nil]
  rfl

/-- Lines do not affect each other: each begins without attributes. -/
theorem painted_linesFrom {window : Window}
    {look : Nat × List Char → List (List Char × Attributes)} {offset : Nat}
    {texts : List (List Char)}
    (each : ∀ row ∈ rows offset texts, painted .off (line widths window row.1 row.2) = look row) :
    painted .off (linesFrom widths window offset texts) = (rows offset texts).flatMap look := by
  induction texts generalizing offset with
  | nil => rfl
  | cons text more ih =>
    obtain ⟨first, rest⟩ := List.forall_mem_cons.mp each
    rw [linesFrom, painted_append, after_line, first, ih rest]
    rfl

theorem flatten_lines (text : List Char) : (lines text).flatten = text := by
  induction text with
  | nil => rfl
  | cons c rest ih =>
    rw [lines]
    by_cases feed : c = '\n'
    · rw [if_pos feed, List.flatten_cons, ih]
      rfl
    · rw [if_neg feed]
      cases pieces : lines rest with
      | nil =>
        rw [pieces] at ih
        rw [← ih]
        rfl
      | cons first more =>
        rw [pieces] at ih
        rw [← ih]
        rfl

/-- A row is a part of the text, at its place. -/
theorem exists_append_of_mem_rows {base : Nat} {texts : List (List Char)} {row : Nat × List Char}
    (inside : row ∈ rows base texts) :
    ∃ before behind, texts.flatten = before ++ row.2 ++ behind ∧
      row.1 = base + Utf8.byteLength before := by
  induction texts generalizing base with
  | nil => cases inside
  | cons text more ih =>
    rcases List.mem_cons.mp inside with rfl | inside
    · exact ⟨[], more.flatten, rfl, rfl⟩
    · obtain ⟨before, behind, same, start⟩ := ih inside
      refine ⟨text ++ before, behind, ?_, ?_⟩
      · rw [List.flatten_cons, same]
        simp only [List.append_assoc]
      · rw [start, Utf8.byteLength_append, Nat.add_assoc]

theorem Unsplit.row {styles : StyleMap} {base : Nat} {texts : List (List Char)}
    (unsplit : Unsplit styles base texts.flatten) {row : Nat × List Char}
    (inside : row ∈ rows base texts) : Unsplit styles row.1 (visible row.2) := by
  obtain ⟨before, behind, same, start⟩ := exists_append_of_mem_rows inside
  obtain ⟨ending, cut⟩ := exists_visible_append row.2
  rw [same] at unsplit
  have line := unsplit.left.right
  rw [← start, cut] at line
  exact line.left

/-- The styles that a line can show: those that begin before it, with it or with one of its
characters. -/
def met (styles : StyleMap) (start : Nat) (line : List Char) : StyleMap :=
  ⟨styles.spans.filter fun span =>
    span.start ≤ start || (Utf8.splitAt? (span.start - start) line).isSome⟩

theorem unsplit_met (styles : StyleMap) (start : Nat) (line : List Char) :
    Unsplit (met styles start line) start line := by
  rintro before c behind rfl span inside ⟨low, high⟩
  obtain ⟨_, keeps⟩ := List.mem_filter.mp inside
  -- A span that begins behind the start of the line was kept because a character stands there.
  rcases Bool.or_eq_true_iff.mp keeps with early | place
  · have := of_decide_eq_true early
    omega
  · obtain ⟨⟨left, right⟩, found⟩ := Option.isSome_iff_exists.mp place
    obtain ⟨same, size⟩ := Utf8.splitAt?_eq_some_iff.mp found
    have := Utf8.not_inside_char same.symm
    omega

theorem get?_met {styles : StyleMap} {start : Nat} (before behind : List Char) :
    (met styles start (before ++ behind)).get? (start + Utf8.byteLength before) =
      styles.get? (start + Utf8.byteLength before) := by
  refine StyleMap.get?_filter ?_
  intro span _ here
  have place : span.start - start = Utf8.byteLength before := by omega
  simp [place, Utf8.splitAt?_append]

theorem styleAt?_met {styles : StyleMap} (ascending : Ascending styles.spans) (start : Nat)
    (line : List Char) : (met styles start line).styleAt? start = styles.styleAt? start := by
  refine StyleMap.styleAt?_filter ascending ?_
  intro span _ early
  simp [early]

/-- A line is the same under two maps that agree where a character begins. -/
theorem cells_congr {styles other : StyleMap} {text : List Char} {offset : Nat}
    (agree : ∀ before behind, text = before ++ behind →
      styles.get? (offset + Utf8.byteLength before) = other.get? (offset + Utf8.byteLength before))
    (columns : Nat) (isFirst : Bool) (column : Nat) :
    cells widths styles columns isFirst offset column text =
      cells widths other columns isFirst offset column text := by
  induction text generalizing isFirst offset column with
  | nil => rfl
  | cons c rest ih =>
    have here := agree [] (c :: rest) rfl
    have later : ∀ before behind, rest = before ++ behind →
        styles.get? (offset + c.utf8Size + Utf8.byteLength before) =
          other.get? (offset + c.utf8Size + Utf8.byteLength before) := by
      rintro before behind rfl
      have whole := agree (c :: before) behind rfl
      rwa [Utf8.byteLength, ← Nat.add_assoc] at whole
    rw [Utf8.byteLength_nil, Nat.add_zero] at here
    simp only [cells, here, ih later]

theorem line_met {window : Window} (ascending : Ascending window.styles.spans) (offset : Nat)
    (text : List Char) :
    line widths window offset text =
      line widths { window with styles := met window.styles offset (visible text) } offset
        text := by
  have same : cells widths window.styles window.columns true offset 0 (visible text) =
      cells widths (met window.styles offset (visible text)) window.columns true offset 0
        (visible text) := by
    refine cells_congr ?_ window.columns true 0
    intro before behind cut
    rw [cut, get?_met]
  simp only [line, Window.styleAt?, same, styleAt?_met ascending]

theorem painted_line_met {window : Window} (ascending : Ascending window.styles.spans)
    (row : Nat × List Char) :
    painted .off (line widths window row.1 row.2) =
      shownIn widths window.columns (met window.styles row.1 (visible row.2)).styleAt? row := by
  have kept : Ascending (met window.styles row.1 (visible row.2)).spans := ascending.filter _
  rw [line_met ascending]
  exact painted_line kept (unsplit_met window.styles row.1 (visible row.2))

/-- The character of a cell, as it stands in a text. -/
def Stands (base : Nat) (text : List Char) (cell : Cell) : Prop :=
  ∃ before behind, text = before ++ cell.char :: behind ∧
    cell.offset = base + Utf8.byteLength before ∧
    (cell.char ≠ '\t' → cell.shown = [cell.char]) ∧
    (cell.char = '\t' → ∃ n, cell.shown = List.replicate n ' ')

theorem stands_of_mem_fitted {columns base column : Nat} {text : List Char} {cell : Cell}
    (inside : cell ∈ fitted widths columns base column text) : Stands base text cell := by
  induction text generalizing base column with
  | nil => cases inside
  | cons c rest ih =>
    rw [fitted] at inside
    split at inside
    · cases inside
    · rename_i shown next placed
      rcases List.mem_cons.mp inside with rfl | inside
      · refine ⟨[], rest, rfl, rfl, ?_, ?_⟩
        · intro other
          simp only [place?, if_neg other] at placed
          split at placed <;> cases placed
          rfl
        · intro tab
          simp only [place?, if_pos tab] at placed
          split at placed <;> cases placed
          exact ⟨_, rfl⟩
      · obtain ⟨before, behind, rfl, place, look⟩ := ih inside
        refine ⟨c :: before, behind, rfl, ?_, look⟩
        rw [place, Utf8.byteLength, Nat.add_assoc]

/-- What is written of a row are characters of the text, each at its offset. -/
theorem stands_of_mem_rows {columns base : Nat} {texts : List (List Char)} {row : Nat × List Char}
    {cell : Cell} (inside : row ∈ rows base texts) (written : cell ∈ cellsOf widths columns row) :
    Stands base texts.flatten cell := by
  obtain ⟨left, right, same, start⟩ := exists_append_of_mem_rows inside
  obtain ⟨ending, cut⟩ := exists_visible_append row.2
  obtain ⟨before, behind, line, place, look⟩ := stands_of_mem_fitted written
  refine ⟨left ++ before, behind ++ ending ++ right, ?_, ?_, look⟩
  · rw [same, cut, line]
    simp only [List.append_assoc, List.cons_append]
  · rw [place, start, Utf8.byteLength_append, Nat.add_assoc]

theorem painted_render {window : Window} (ascending : Ascending window.styles.spans) {base : Nat}
    {text : List Char} (unsplit : Unsplit window.styles base text) :
    painted .off (render widths true window base text) =
      (rows base (lines text)).flatMap (shownIn widths window.columns window.styleAt?) := by
  rw [render, if_pos rfl]
  refine painted_linesFrom ?_
  intro row inside
  rw [← flatten_lines text] at unsplit
  exact painted_line ascending (unsplit.row inside)

/-- Whatever map a window holds, each character is written in the last style that began before its
line, with it, or with a character of it. Where no style begins inside a character, that is the
style in effect there; no style and the plain style have no attributes. -/
theorem render_shows_styles (widths : CharWidth) (window : Window) (spans : List Span) (base : Nat)
    (text : List Char) :
    let shown := window.setSpans spans
    let layout := rows base (lines text)
    painted .off (render widths true shown base text) =
        layout.flatMap (fun row =>
          shownIn widths shown.columns (met shown.styles row.1 (visible row.2)).styleAt? row) ∧
      (Unsplit shown.styles base text →
        painted .off (render widths true shown base text) =
          layout.flatMap (shownIn widths shown.columns shown.styleAt?)) ∧
      (∀ offset, shown.styleAt? offset = none ∨ shown.styleAt? offset = some .plain →
        Attributes.ofStyle? (shown.styleAt? offset) = .off) ∧
      ∀ row ∈ layout, ∀ cell ∈ cellsOf widths shown.columns row, Stands base text cell := by
  intro shown layout
  have ascending : Ascending shown.styles.spans := StyleMap.ascending_ofSpans spans
  refine ⟨?_, painted_render ascending, fun _ => Attributes.ofStyle?_of_plain, ?_⟩
  · exact painted_linesFrom fun row _ => painted_line_met ascending row
  · intro row inside cell written
    have stands := stands_of_mem_rows inside written
    rwa [flatten_lines] at stands

/- A comment of two lines, with the cursor between the two bytes of a control character. The style
that begins there is in effect at the letter behind it, but only the next line is written in it. -/

def remark : List Char := ['/', '*', '\u0085', 'a', '\n', 'b', '*', '/']

def remarking : Highlighter Unit :=
  ⟨{ mode := ⟨0, some (.ofPatterns "remark" [] fun _ => .ok ⟨"remark", fun text =>
    .ok [⟨⟨"Comment"⟩, text⟩]⟩), .standard⟩ }, .standard, {}, ()⟩

def remarked : Window :=
  (remarking.cycle ⟨fun _ _ window => ((), window)⟩
    { name := "remark", content := Utf8.encode remark, point := 3 } ⟨80, 24, true, {}⟩).2

theorem render_misses_style_inside_char :
    remarked.styleAt? 4 = some (.colored .brightBlack) ∧
      (⟨4, 'a', ['a']⟩ : Cell) ∈ cellsOf .standard 80 (0, remark.take 5) ∧
      painted .off (render .standard true remarked 0 remark) =
        [(['/'], .off), (['*'], .off), (['\u0085'], .off), (['a'], .off), (['\n'], .off),
          (['b'], .ofStyle (.colored .brightBlack)), (['*'], .ofStyle (.colored .brightBlack)),
          (['/'], .ofStyle (.colored .brightBlack)), (['\n'], .off)] ∧
      painted .off (render .standard true remarked 0 remark) ≠
        (rows 0 (lines remark)).flatMap (shownIn .standard remarked.columns remarked.styleAt?) := by
  decide +kernel

end Terminal

end Highlighting
