import Highlighting.Text.CodeRange

/-!
File names within paths. Empty segments and `.` name nothing and are passed over; a path that ends
in `..`, or has no other segment, has no file name.
-/
namespace Highlighting.FileName

/-- The segments of a path that name something. -/
def segments (path : String) : List (List Char) :=
  (CodeRange.fields (· == '/') path.toList).filter fun s => s ≠ [] ∧ s ≠ ['.']

def last? (path : String) : Option String :=
  match (segments path).getLast? with
  | some s => if s = ['.', '.'] then none else some (String.ofList s)
  | none => none

/-- The file name that a path ends in, or the whole path when it has none. -/
def base (path : String) : String :=
  (last? path).getD path

theorem segments_append (directory rest : String) :
    segments (directory ++ "/" ++ rest) = segments directory ++ segments rest := by
  have text : (directory ++ "/" ++ rest).toList = directory.toList ++ '/' :: rest.toList := by
    simp
  rw [segments, text, CodeRange.fields_append rfl, List.filter_append, segments, segments]

theorem segments_of_flat {name : String} (flat : '/' ∉ name.toList) :
    segments name = if name = "" ∨ name = "." then [] else [name.toList] := by
  have whole : CodeRange.fields (· == '/') name.toList = [name.toList] := by
    apply CodeRange.fields_of_uncut
    rintro c inside
    apply beq_false_of_ne
    rintro rfl
    exact flat inside
  rw [segments, whole]
  by_cases unnamed : name = "" ∨ name = "."
  · rw [if_pos unnamed]
    rcases unnamed with rfl | rfl <;> rfl
  · have filled : name.toList ≠ [] := fun none => unnamed (.inl (String.toList_eq_nil_iff.mp none))
    have other : name.toList ≠ ['.'] := fun same => unnamed (.inr (String.toList_inj.mp same))
    rw [if_neg unnamed, List.filter_cons_of_pos (by simp [filled, other])]
    rfl

/-- Behind a directory, a name that does not stand for a directory itself is the file name. -/
theorem last?_append_name (directory : String) {name : String} (flat : '/' ∉ name.toList)
    (named : name ≠ "" ∧ name ≠ "." ∧ name ≠ "..") :
    last? (directory ++ "/" ++ name) = some name := by
  have parts : segments name = [name.toList] := by
    rw [segments_of_flat flat, if_neg (by simp [named])]
  have other : name.toList ≠ ['.', '.'] := fun same => named.2.2 (String.toList_inj.mp same)
  simp only [last?, segments_append, parts, List.getLast?_append, List.getLast?_singleton,
    Option.some_or, if_neg other, String.ofList_toList]

theorem last?_append_slash (path : String) : last? (path ++ "/") = last? path := by
  have blank : segments "" = [] := rfl
  have nothing : segments (path ++ "/" ++ "") = segments path := by
    rw [segments_append, blank, List.append_nil]
  rw [String.append_empty] at nothing
  rw [last?, nothing, last?]

theorem last?_eq_none_iff {path : String} :
    last? path = none ↔ segments path = [] ∨ (segments path).getLast? = some ['.', '.'] := by
  unfold last?
  cases parts : (segments path).getLast? with
  | none => simp [List.getLast?_eq_none_iff.mp parts]
  | some segment =>
    have filled : segments path ≠ [] := by
      intro empty
      simp [empty] at parts
    by_cases parent : segment = ['.', '.'] <;> simp [filled, parent]

theorem base_append_name (directory : String) {name : String} (flat : '/' ∉ name.toList)
    (named : name ≠ "" ∧ name ≠ "." ∧ name ≠ "..") : base (directory ++ "/" ++ name) = name := by
  rw [base, last?_append_name directory flat named, Option.getD_some]

theorem base_append_slash {path : String} (named : last? path ≠ none) :
    base (path ++ "/") = base path := by
  obtain ⟨name, found⟩ := Option.ne_none_iff_exists'.mp named
  rw [base, base, last?_append_slash, found, Option.getD_some, Option.getD_some]

/-- A path that names only directories stands for itself. -/
theorem base_of_unnamed {path : String}
    (unnamed : segments path = [] ∨ (segments path).getLast? = some ['.', '.']) :
    base path = path := by
  rw [base, last?_eq_none_iff.mpr unnamed, Option.getD_none]

theorem base_of_flat {name : String} (flat : '/' ∉ name.toList) : base name = name := by
  rw [base, last?, segments_of_flat flat]
  by_cases blank : name = "" ∨ name = "."
  · rw [if_pos blank]
    rfl
  · simp only [if_neg blank, List.getLast?_singleton, String.ofList_toList]
    split <;> rfl

example : base "a/b.rb/" = "b.rb" ∧ base "a/./b/." = "b" ∧ base "a/.." = "a/.." ∧ base "/" = "/" := by
  decide

end Highlighting.FileName
