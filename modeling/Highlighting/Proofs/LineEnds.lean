import Highlighting.Proofs.Coloring
import Highlighting.Proofs.Lines

/-! No style outlasts its line. The commands of a line write a line feed at their end only, where
the attributes are off again; so lines one behind the other leave a terminal as they found it. -/
namespace Highlighting.Terminal

variable {widths : CharWidth}

/-- Commands that have the attributes off at every line feed and at their end. -/
structure LeaksNothing (commands : List Command) : Prop where
  feeds : ∀ before shown behind, commands = before ++ .write shown :: behind → '\n' ∈ shown →
    Attributes.off.after before = .off
  ends : Attributes.off.after commands = .off

theorem LeaksNothing.append {first second : List Command} (clean : LeaksNothing first)
    (clean' : LeaksNothing second) : LeaksNothing (first ++ second) := by
  constructor
  · intro before shown behind split feed
    rcases List.append_eq_append_iff.mp split with ⟨later, rfl, rest⟩ | ⟨earlier, rfl, rest⟩
    · rw [Attributes.after_append, clean.ends]
      exact clean'.feeds later shown behind rest feed
    · cases earlier with
      | nil =>
        rw [List.append_nil] at clean
        exact clean.ends
      | cons command earlier =>
        cases rest
        exact clean.feeds before shown earlier rfl feed
  · rw [Attributes.after_append, clean.ends, clean'.ends]

end Highlighting.Terminal
