import StoryTrace.Text.Preview

/-!
# Previews of previews

The dots of a preview count as characters when it is cut again. A narrower limit cuts them off with
the rest, and a limit that has room for them leaves the preview as it is.
-/

namespace StoryTrace.Text

variable {text : String} {a b limit : Nat}

theorem toList_preview_of_lt_length (h : limit < text.length) :
    (preview text limit).toList = text.toList.take limit ++ ellipsis.toList := by
  rw [preview_of_lt_length h, String.toList_append, String.toList_ofList]

theorem length_preview_of_lt_length (h : limit < text.length) :
    (preview text limit).length = limit + 3 := by
  have hKept : limit ≤ text.toList.length := String.length_toList ▸ Nat.le_of_lt h
  calc (preview text limit).length
    _ = (text.toList.take limit).length + ellipsis.toList.length := by
      rw [← String.length_toList, toList_preview_of_lt_length h, List.length_append]
    _ = limit + 3 := by rw [List.length_take_of_le hKept]; rfl

theorem length_preview_le (text : String) (limit : Nat) :
    (preview text limit).length ≤ limit + 3 := by
  rcases Nat.lt_or_ge limit text.length with hLong | hShort
  · exact Nat.le_of_eq (length_preview_of_lt_length hLong)
  · rw [preview_of_length_le hShort]
    exact Nat.le_add_right_of_le hShort

/-- Up to its limit a preview has the characters of the text. -/
theorem take_toList_preview (h : b ≤ a) :
    (preview text a).toList.take b = text.toList.take b := by
  rcases Nat.lt_or_ge a text.length with hLong | hShort
  · have hKept : b ≤ (text.toList.take a).length := by
      rw [List.length_take, String.length_toList]
      exact Nat.le_min.2 ⟨h, Nat.le_trans h (Nat.le_of_lt hLong)⟩
    rw [toList_preview_of_lt_length hLong, List.take_append_of_le_length hKept, List.take_take,
      Nat.min_eq_left h]
  · rw [preview_of_length_le hShort]

/-- A preview is longer than a limit up to its own exactly when the text is. -/
theorem lt_length_preview_iff (h : b ≤ a) : b < (preview text a).length ↔ b < text.length := by
  rcases Nat.lt_or_ge a text.length with hLong | hShort
  · rw [length_preview_of_lt_length hLong]
    omega
  · rw [preview_of_length_le hShort]

theorem preview_preview_of_le (h : b ≤ a) : preview (preview text a) b = preview text b := by
  rcases Nat.lt_or_ge b text.length with hLong | hShort
  · have hCut := (lt_length_preview_iff h).2 hLong
    rw [preview_of_lt_length hCut, preview_of_lt_length hLong, take_toList_preview h]
  · rw [preview_of_length_le (Nat.le_trans hShort h)]

theorem preview_preview_of_add_three_le (h : a + 3 ≤ b) :
    preview (preview text a) b = preview text a :=
  preview_of_length_le (Nat.le_trans (length_preview_le text a) h)

theorem preview_preview_self (text : String) (limit : Nat) :
    preview (preview text limit) limit = preview text limit :=
  preview_preview_of_le (Nat.le_refl limit)

/-- The preview of a text that was cut is left as it is by the same limit and by those that have
room for the dots, and by no other one. -/
theorem preview_preview_eq_self_iff (hLong : a < text.length) :
    preview (preview text a) b = preview text a ↔ b = a ∨ a + 3 ≤ b := by
  constructor
  case mp =>
    intro hSame
    rcases Nat.lt_or_ge b (a + 3) with hNarrow | hRoom
    · -- Cut twice, the text has as many characters as if only the second limit had cut it.
      have hCut : b < (preview text a).length := by rwa [length_preview_of_lt_length hLong]
      have hLengths := congrArg String.length hSame
      rw [length_preview_of_lt_length hCut, length_preview_of_lt_length hLong] at hLengths
      exact .inl (Nat.add_right_cancel hLengths)
    · exact .inr hRoom
  case mpr =>
    rintro (rfl | hRoom)
    · exact preview_preview_self text b
    · exact preview_preview_of_add_three_le hRoom

example : preview (preview "été" 1) 3 = "é....." := by decide

/-- A text within the limit is left as it is. A longer one is cut between two of its characters,
after as many of them as the limit says, and the dots take the place of the others. -/
structure CutAt (text : String) (limit : Nat) : Prop where
  short : text.length ≤ limit → cutPos? text limit = none ∧ preview text limit = text
  long : limit < text.length → ∃ p : text.Pos, cutPos? text limit = some p ∧
    p.Splits (String.ofList (text.toList.take limit)) (String.ofList (text.toList.drop limit)) ∧
    preview text limit = String.ofList (text.toList.take limit) ++ "..."

theorem cutAt (text : String) (limit : Nat) : CutAt text limit := by
  constructor
  case short => exact fun h => ⟨cutPos?_of_length_le h, preview_of_length_le h⟩
  case long =>
    intro h
    obtain ⟨p, hCut, hSplits⟩ := exists_cutPos?_of_lt_length h
    exact ⟨p, hCut, hSplits, preview_of_lt_length h⟩

end StoryTrace.Text
