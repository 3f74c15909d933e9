/-
# Search for a fragment

Whether a text contains a fragment as consecutive characters. The empty fragment is
contained in every text.
-/

namespace VolumePlugin.Text

/-- Whether the fragment starts at some position of the text. -/
def contains (fragment : List Char) : List Char → Bool
  | [] => fragment.isEmpty
  | c :: rest => fragment.isPrefixOf (c :: rest) || contains fragment rest

/-- The search finds exactly the fragments that cut the text in three. -/
theorem contains_iff {fragment text : List Char} :
    contains fragment text = true ↔ ∃ front back, text = front ++ fragment ++ back := by
  induction text with
  | nil =>
      constructor
      · intro found
        have empty : fragment = [] := List.isEmpty_iff.1 found
        exact ⟨[], [], by simp [empty]⟩
      · rintro ⟨front, back, cut⟩
        have empty := congrArg List.length cut
        simp only [List.length_nil, List.length_append] at empty
        have none_left : fragment = [] := List.eq_nil_of_length_eq_zero (by omega)
        simp [contains, none_left]
  | cons c rest ih =>
      rw [contains, Bool.or_eq_true, ih, List.isPrefixOf_iff_prefix]
      constructor
      · rintro (⟨back, cut⟩ | ⟨front, back, cut⟩)
        · exact ⟨[], back, by simpa using cut.symm⟩
        · exact ⟨c :: front, back, by simp [cut]⟩
      · rintro ⟨front, back, cut⟩
        cases front with
        | nil => exact .inl ⟨back, by simpa using cut.symm⟩
        | cons d front =>
            simp only [List.cons_append, List.cons.injEq] at cut
            exact .inr ⟨front, back, cut.2⟩

end VolumePlugin.Text
