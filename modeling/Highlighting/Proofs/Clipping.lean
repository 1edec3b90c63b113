import Highlighting.Proofs.Coloring
import Highlighting.Proofs.Lines

/-! Lines in a window. Of every line the longest part is written that is no wider than the window,
and a line feed behind it. A tab takes the room up to the next stop, any other character its own
width or else one column; how wide a text is never goes down when more characters follow, and so the
first character without room ends the line. -/
namespace Highlighting.Terminal

/-- The characters that commands write. -/
def written : List Command → List Char
  | [] => []
  | .write text :: commands => text ++ written commands
  | _ :: commands => written commands

section Layout

variable (widths : CharWidth)

/-- The column behind a character. -/
def columnAfter (column : Nat) (c : Char) : Nat :=
  if c = '\t' then (column / tabWidth + 1) * tabWidth
  else column + (widths.columns? c).getD 1

def columnBehind (column : Nat) (text : List Char) : Nat :=
  text.foldl (columnAfter widths) column

def width (text : List Char) : Nat := columnBehind widths 0 text

/-- A text with blanks in place of its tabs. -/
def expanded (column : Nat) : List Char → List Char
  | [] => []
  | c :: rest =>
    (if c = '\t' then List.replicate (columnAfter widths column c - column) ' ' else [c]) ++
      expanded (columnAfter widths column c) rest

/-- The longest part of a text, from its beginning on, that is no wider than some columns. -/
structure LongestWithin (columns : Nat) (text shown : List Char) : Prop where
  begins : shown <+: text
  fits : width widths shown ≤ columns
  longest : ∀ other, other <+: text → width widths other ≤ columns → other <+: shown

/-- What a line shows in some columns; its next character would be too much. -/
def Clips (columns : Nat) (line shown : List Char) : Prop :=
  ∃ body, Stripped line body ∧ LongestWithin widths columns body shown ∧
    ∀ c, shown ++ [c] <+: body → columns < width widths (shown ++ [c])

/-- The characters of a row that are kept. -/
def kept (columns : Nat) (row : Nat × List Char) : List Char :=
  (cellsOf widths columns row).map (·.char)

end Layout

/-- The first multiple of eight behind a column. -/
structure NextStop (column stop : Nat) : Prop where
  multiple : 8 ∣ stop
  behind : column < stop
  first : ∀ other, 8 ∣ other → column < other → stop ≤ other

variable {widths : CharWidth}

/- Columns -/

theorem nextStop_columnAfter (widths : CharWidth) (column : Nat) :
    NextStop column (columnAfter widths column '\t') := by
  have stop : columnAfter widths column '\t' = (column / 8 + 1) * 8 := rfl
  rw [stop]
  constructor
  · exact Nat.dvd_mul_left 8 _
  · omega
  · rintro _ ⟨n, rfl⟩ later
    omega

theorem le_columnAfter (widths : CharWidth) (column : Nat) (c : Char) :
    column ≤ columnAfter widths column c := by
  unfold columnAfter
  split
  · have := (nextStop_columnAfter widths column).behind
    unfold columnAfter at this
    exact Nat.le_of_lt this
  · omega

theorem le_columnBehind (column : Nat) (text : List Char) :
    column ≤ columnBehind widths column text := by
  induction text generalizing column with
  | nil => exact Nat.le_refl _
  | cons c rest ih => exact Nat.le_trans (le_columnAfter widths column c) (ih _)

theorem columnBehind_append (column : Nat) (text more : List Char) :
    columnBehind widths column (text ++ more) =
      columnBehind widths (columnBehind widths column text) more :=
  List.foldl_append ..

theorem columnBehind_replicate (column n : Nat) :
    columnBehind widths column (List.replicate n ' ') = column + n := by
  induction n generalizing column with
  | zero => rfl
  | succ n ih =>
    have blank : columnAfter widths column ' ' = column + 1 := by
      rw [columnAfter, if_neg (by decide), widths.blank]
      rfl
    rw [List.replicate_succ, columnBehind, List.foldl_cons, blank]
    exact (ih _).trans (by omega)

theorem columnBehind_expanded (column : Nat) (text : List Char) :
    columnBehind widths column (expanded widths column text) = columnBehind widths column text := by
  induction text generalizing column with
  | nil => rfl
  | cons c rest ih =>
    have shown : columnBehind widths column (if c = '\t' then
        List.replicate (columnAfter widths column c - column) ' ' else [c]) =
          columnAfter widths column c := by
      split
      · have later := le_columnAfter widths column c
        rw [columnBehind_replicate]
        omega
      · rfl
    unfold expanded
    rw [columnBehind_append, shown, ih]
    rfl

theorem place?_eq (columns column : Nat) (c : Char) :
    place? widths columns column c = if columnAfter widths column c ≤ columns then
      some (if c = '\t' then List.replicate (columnAfter widths column c - column) ' ' else [c],
        columnAfter widths column c) else none := rfl

/- The characters for which there is room -/

theorem flatMap_shown_fitted (columns offset column : Nat) (text : List Char) :
    (fitted widths columns offset column text).flatMap (·.shown) =
      expanded widths column ((fitted widths columns offset column text).map (·.char)) := by
  induction text generalizing offset column with
  | nil => rfl
  | cons c rest ih =>
    unfold fitted
    rw [place?_eq]
    by_cases room : columnAfter widths column c ≤ columns
    · rw [if_pos room, List.flatMap_cons, ih, List.map_cons, expanded]
    · rw [if_neg room]
      rfl

theorem chars_fitted_begins (columns offset column : Nat) (text : List Char) :
    (fitted widths columns offset column text).map (·.char) <+: text := by
  induction text generalizing offset column with
  | nil => exact List.prefix_refl _
  | cons c rest ih =>
    unfold fitted
    split
    · exact List.nil_prefix
    · exact List.cons_prefix_cons.mpr ⟨rfl, ih _ _⟩

theorem chars_fitted_fits {columns column : Nat} (room : column ≤ columns) (offset : Nat)
    (text : List Char) :
    columnBehind widths column ((fitted widths columns offset column text).map (·.char)) ≤
      columns := by
  induction text generalizing offset column with
  | nil => exact room
  | cons c rest ih =>
    unfold fitted
    rw [place?_eq]
    by_cases next : columnAfter widths column c ≤ columns
    · rw [if_pos next]
      exact ih next _
    · rw [if_neg next]
      exact room

theorem chars_fitted_longest {columns column : Nat} (offset : Nat) {text other : List Char}
    (begins : other <+: text) (fits : columnBehind widths column other ≤ columns) :
    other <+: (fitted widths columns offset column text).map (·.char) := by
  induction other generalizing offset column text with
  | nil => exact List.nil_prefix
  | cons c other ih =>
    obtain ⟨behind, rfl⟩ := begins
    have room : columnAfter widths column c ≤ columns := Nat.le_trans (le_columnBehind _ other) fits
    rw [List.cons_append, fitted, place?_eq, if_pos room]
    exact List.cons_prefix_cons.mpr ⟨rfl, ih _ (List.prefix_append ..) fits⟩

theorem longestWithin_fitted (columns offset : Nat) (text : List Char) :
    LongestWithin widths columns text ((fitted widths columns offset 0 text).map (·.char)) :=
  ⟨chars_fitted_begins .., chars_fitted_fits (Nat.zero_le _) ..,
    fun _ begins fits => chars_fitted_longest offset begins fits⟩

theorem LongestWithin.full {columns : Nat} {text shown : List Char}
    (within : LongestWithin widths columns text shown) {c : Char} (more : shown ++ [c] <+: text) :
    columns < width widths (shown ++ [c]) := by
  apply Nat.lt_of_not_le
  intro fits
  have shorter := (within.longest _ more fits).length_le
  rw [List.length_append, List.length_singleton] at shorter
  omega

/- Written lines -/

theorem written_append (first second : List Command) :
    written (first ++ second) = written first ++ written second := by
  induction first with
  | nil => rfl
  | cons command first ih =>
    cases command with
    | write text => simp [written, ih]
    | reset | foreground | background | bold | italic | underline | reverse => exact ih

theorem written_filter (commands : List Command) :
    written (commands.filter Command.isWrite) = written commands := by
  induction commands with
  | nil => rfl
  | cons command commands ih =>
    cases command with
    | write text => exact congrArg (text ++ ·) ih
    | reset | foreground | background | bold | italic | underline | reverse => exact ih

theorem written_cells (cells : List Cell) :
    written (cells.map fun cell => .write cell.shown) = cells.flatMap (·.shown) := by
  induction cells with
  | nil => rfl
  | cons cell cells ih => exact congrArg (cell.shown ++ ·) ih

theorem written_rowWrites (columns : Nat) (row : Nat × List Char) :
    written (rowWrites widths columns row) =
      expanded widths 0 (kept widths columns row) ++ ['\n'] := by
  rw [rowWrites, written_append, written_cells, kept, cellsOf, flatMap_shown_fitted]
  rfl

theorem written_writes (columns base : Nat) (text : List Char) :
    written (writes widths columns base text) =
      ((rows base (lines text)).map (kept widths columns)).flatMap
        (expanded widths 0 · ++ ['\n']) := by
  unfold writes
  induction rows base (lines text) with
  | nil => rfl
  | cons row more ih =>
    rw [List.flatMap_cons, written_append, written_rowWrites, ih]
    rfl

theorem clips_kept (widths : CharWidth) (columns : Nat) (row : Nat × List Char) :
    Clips widths columns row.2 (kept widths columns row) := by
  have longest : LongestWithin widths columns (visible row.2) (kept widths columns row) :=
    longestWithin_fitted columns row.1 _
  exact ⟨visible row.2, stripped_visible row.2, longest, fun _ more => longest.full more⟩

theorem clips_rows (widths : CharWidth) (columns base : Nat) (texts : List (List Char)) :
    List.Forall₂ (Clips widths columns) texts ((rows base texts).map (kept widths columns)) := by
  induction texts generalizing base with
  | nil => exact .nil
  | cons text more ih => exact .cons (clips_kept widths columns (base, text)) (ih _)

theorem width_le_of_kept {columns base : Nat} {texts : List (List Char)} {shown : List Char}
    (inside : shown ∈ (rows base texts).map (kept widths columns)) :
    width widths shown ≤ columns := by
  obtain ⟨row, _, rfl⟩ := List.mem_map.mp inside
  exact (longestWithin_fitted columns row.1 _).fits

theorem written_render (colors : Bool) (window : Window) (base : Nat) (text : List Char) :
    written (render widths colors window base text) =
      ((rows base (lines text)).map (kept widths window.columns)).flatMap
        (expanded widths 0 · ++ ['\n']) := by
  rw [← written_filter, filter_render, written_writes]

theorem LongestWithin.unique {columns : Nat} {text shown other : List Char}
    (within : LongestWithin widths columns text shown)
    (within' : LongestWithin widths columns text other) : shown = other := by
  have front := within'.longest _ within.begins within.fits
  have back := within.longest _ within'.begins within'.fits
  exact front.eq_of_length (Nat.le_antisymm front.length_le back.length_le)

theorem Clips.unique {columns : Nat} {line shown other : List Char}
    (clips : Clips widths columns line shown) (clips' : Clips widths columns line other) :
    shown = other := by
  obtain ⟨_, stripped, within, _⟩ := clips
  obtain ⟨_, stripped', within', _⟩ := clips'
  rw [stripped.eq_visible] at within
  rw [stripped'.eq_visible] at within'
  exact within.unique within'

theorem eq_of_clips {columns : Nat} {texts shown other : List (List Char)}
    (clips : List.Forall₂ (Clips widths columns) texts shown)
    (clips' : List.Forall₂ (Clips widths columns) texts other) : shown = other := by
  induction clips generalizing other with
  | nil => cases clips'; rfl
  | cons first _ ih =>
    cases clips' with
    | cons first' rest' => rw [first.unique first', ih rest']

/-- The text is cut behind its line feeds. Of each line without its end the longest part is written
that is no wider than the window, with blanks for its tabs, and a line feed behind it; the next
character of the line would be too much, and the blanks do not make it wider. A tab goes on to the
next stop, a control character takes one column, and any other character its own width. Neither the
styles nor the place of the text nor the choice of colors has a part in that. -/
theorem render_clips_lines (widths : CharWidth) (colors : Bool) (window : Window) (base : Nat)
    (text : List Char) :
    (∀ pieces, Pieces text pieces → ∀ shown,
      List.Forall₂ (Clips widths window.columns) pieces shown →
        written (render widths colors window base text) =
          shown.flatMap (expanded widths 0 · ++ ['\n']) ∧
        ∀ line ∈ shown, width widths (expanded widths 0 line) ≤ window.columns) ∧
    (∃ pieces shown, Pieces text pieces ∧
      List.Forall₂ (Clips widths window.columns) pieces shown) ∧
    (∀ column, NextStop column (columnAfter widths column '\t')) ∧
    (∀ column (c : Char), c ≠ '\t' → Character.isControl c = true →
      columnAfter widths column c = column + 1) ∧
    (∀ column (c : Char) n, c ≠ '\t' → widths.columns? c = some n →
      columnAfter widths column c = column + n) ∧
    (∀ (colors' : Bool) (other : Window) (base' : Nat), other.columns = window.columns →
      written (render widths colors' other base' text) =
        written (render widths colors window base text)) := by
  have clips := clips_rows widths window.columns base (lines text)
  refine ⟨?_, ⟨_, _, pieces_lines text, clips⟩, nextStop_columnAfter widths, ?_, ?_, ?_⟩
  · intro pieces cut shown parts
    rw [cut.eq_lines] at parts
    obtain rfl := eq_of_clips parts clips
    refine ⟨written_render colors window base text, ?_⟩
    intro line inside
    unfold width
    rw [columnBehind_expanded]
    exact width_le_of_kept inside
  · intro column c other control
    rw [columnAfter, if_neg other, widths.control c control]
    rfl
  · intro column c n other known
    rw [columnAfter, if_neg other, known]
    rfl
  · intro colors' other base' same
    have parts := clips_rows widths window.columns base' (lines text)
    rw [written_render, written_render, same, eq_of_clips parts clips]

example : written (render .standard true { columns := 9, rows := 1 } 0 "a\tbc\r\nd".toList) =
    "a       b\nd\n".toList := by decide

end Highlighting.Terminal
