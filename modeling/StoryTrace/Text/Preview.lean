/-!
# Previews

A preview keeps the first characters of a text and marks the cut with three dots, so a preview is
longer than its limit exactly when something was cut. The cut lies between two characters, however
many bytes they take.
-/

namespace StoryTrace.Text

/-- The mark that stands for what a preview leaves out. -/
def ellipsis : String := "..."

/-- Where the text is cut if it is longer than the limit: before the first character beyond it. -/
def cutPos? (text : String) (limit : Nat) : Option text.Pos :=
  let p := text.startPos.nextn limit
  if p = text.endPos then none else some p

/-- The first `limit` characters of the text, followed by dots if the text is longer. -/
def preview (text : String) (limit : Nat) : String :=
  match cutPos? text limit with
  | some p => (text.sliceTo p).copy ++ ellipsis
  | none => text

variable {text : String} {limit : Nat}

theorem cutPos?_of_length_le (h : text.length ≤ limit) : cutPos? text limit = none := by
  have hRest : text.toList.drop limit = [] := List.drop_eq_nil_of_le (String.length_toList ▸ h)
  have hEnd := (text.splits_nextn_startPos limit).eq_endPos_iff.2 (by rw [hRest, String.ofList_nil])
  rw [cutPos?, if_pos hEnd]

/-- A longer text is cut between its first `limit` characters and the others. -/
theorem exists_cutPos?_of_lt_length (h : limit < text.length) :
    ∃ p : text.Pos, cutPos? text limit = some p ∧
      p.Splits (String.ofList (text.toList.take limit))
        (String.ofList (text.toList.drop limit)) := by
  have hSplits := text.splits_nextn_startPos limit
  refine ⟨_, if_neg fun hEnd => ?_, hSplits⟩
  have hRest := String.ofList_eq_empty_iff.1 (hSplits.eq_endPos_iff.1 hEnd)
  rw [← String.length_toList] at h
  exact Nat.not_le.2 h (List.drop_eq_nil_iff.1 hRest)

theorem preview_of_length_le (h : text.length ≤ limit) : preview text limit = text := by
  rw [preview, cutPos?_of_length_le h]

theorem preview_of_lt_length (h : limit < text.length) :
    preview text limit = String.ofList (text.toList.take limit) ++ ellipsis := by
  obtain ⟨p, hCut, hSplits⟩ := exists_cutPos?_of_lt_length h
  simp only [preview, hCut, hSplits.copy_sliceTo_eq]

end StoryTrace.Text
