import Mathlib.Data.List.Basic

/-! Texts that are joined at a mark, and when they can be told from what they are joined to. -/

namespace Marks

variable {α : Type} {mark : α} {a b c d : List α}

/-- Texts that are joined alike are the same, or the mark of one stands inside the other's texts. -/
theorem append_cases (same : a ++ mark :: b = c ++ mark :: d) :
    (a = c ∧ b = d) ∨ (mark ∈ c ∧ mark ∈ b) ∨ (mark ∈ a ∧ mark ∈ d) := by
  rcases List.append_eq_append_iff.mp same with ⟨more, longer, rest⟩ | ⟨more, longer, rest⟩
  · cases more with
    | nil => exact .inl ⟨by simpa using longer.symm, by simpa using rest⟩
    | cons first more =>
      -- The first text of the right side goes on past the mark of the left one.
      obtain ⟨rfl, below⟩ := List.cons.inj rest
      exact .inr (.inl ⟨by simp [longer], by simp [below]⟩)
  · cases more with
    | nil => exact .inl ⟨by simpa using longer, by simpa using rest.symm⟩
    | cons first more =>
      obtain ⟨rfl, below⟩ := List.cons.inj rest
      exact .inr (.inr ⟨by simp [longer], by simp [below]⟩)

/-- Texts are split alike at the first mark. -/
theorem first_inj (noneBefore : mark ∉ a) (noneOther : mark ∉ c)
    (same : a ++ mark :: b = c ++ mark :: d) : a = c ∧ b = d := by
  rcases append_cases same with alike | ⟨inside, -⟩ | ⟨inside, -⟩
  · exact alike
  · exact absurd inside noneOther
  · exact absurd inside noneBefore

/-- Texts are split alike at the last mark. -/
theorem last_inj (noneAfter : mark ∉ b) (noneOther : mark ∉ d)
    (same : a ++ mark :: b = c ++ mark :: d) : a = c ∧ b = d := by
  rcases append_cases same with alike | ⟨-, inside⟩ | ⟨-, inside⟩
  · exact alike
  · exact absurd inside noneAfter
  · exact absurd inside noneOther

/-- Texts around the only mark are not those around any other. -/
theorem only_inj (noneBefore : mark ∉ a) (noneAfter : mark ∉ b)
    (same : a ++ mark :: b = c ++ mark :: d) : a = c ∧ b = d := by
  rcases append_cases same with alike | ⟨-, inside⟩ | ⟨inside, -⟩
  · exact alike
  · exact absurd inside noneAfter
  · exact absurd inside noneBefore

end Marks
