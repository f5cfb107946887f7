import StoryTrace.Text.Blank

/-!
# Lines and margins

A text of lines divides into them again if no line holds a newline or ends in a carriage return,
and a text is left as it is when it is trimmed if no white space stands around it.
-/

namespace StoryTrace.Text

theorem linesOf_append_newline {line : List Char} (hNewline : '\n' ∉ line)
    (hReturn : line.getLast? ≠ some '\r') (rest : List Char) :
    linesOf (line ++ '\n' :: rest) = line :: linesOf rest := by
  induction line with
  | nil => exact linesOf_newline rest
  | cons c line ih =>
      have hChar : c ≠ '\n' := fun h => hNewline (h ▸ List.mem_cons_self ..)
      have hLine : '\n' ∉ line := fun h => hNewline (List.mem_cons_of_mem _ h)
      -- A carriage return would have to stand before the newline, but it is not the last character.
      have hBreak (more : List Char) (h : c = '\r') : line ++ '\n' :: rest ≠ '\n' :: more := by
        cases line with
        | nil => simp [h] at hReturn
        | cons d line =>
            intro hSame
            obtain ⟨hNext, -⟩ := List.cons.inj hSame
            exact hLine (hNext ▸ List.mem_cons_self ..)
      have hLast : line.getLast? ≠ some '\r' := by
        cases line with
        | nil => simp
        | cons d line => simpa using hReturn
      rw [List.cons_append, linesOf, ih hLine hLast]
      · exact fun more h => hBreak more h
      · exact hChar

/-- No white space stands around the text. -/
structure Trimmed (s : String) : Prop where
  first : s.toList.head?.any isBlank = false
  last : s.toList.getLast?.any isBlank = false

/-- A text that stays whole on a line: it holds no newline, and no white space stands around it. -/
structure OnLine (s : String) : Prop extends Trimmed s where
  newline : '\n' ∉ s.toList

instance (s : String) : Decidable (OnLine s) :=
  decidable_of_iff (s.toList.head?.any isBlank = false ∧ s.toList.getLast?.any isBlank = false ∧
      '\n' ∉ s.toList)
    ⟨fun h => ⟨⟨h.1, h.2.1⟩, h.2.2⟩, fun h => ⟨h.first, h.last, h.newline⟩⟩

theorem dropWhile_eq_self {cs : List Char} (h : cs.head?.any isBlank = false) :
    cs.dropWhile isBlank = cs := by
  cases cs with
  | nil => rfl
  | cons c rest => exact List.dropWhile_cons_of_neg (by simpa using h)

namespace Trimmed

variable {s : String}

theorem trimStart_eq (h : Trimmed s) : trimStart s.toList = s.toList := dropWhile_eq_self h.first

theorem trimEnd_eq (h : Trimmed s) : trimEnd s.toList = s.toList := by
  have hReversed : s.toList.reverse.dropWhile isBlank = s.toList.reverse := by
    apply dropWhile_eq_self
    rw [List.head?_reverse]
    exact h.last
  rw [trimEnd, hReversed, List.reverse_reverse]

theorem trim_eq (h : Trimmed s) : trim s = s := by
  rw [trim, h.trimStart_eq, h.trimEnd_eq, String.ofList_toList]

theorem trim_space_eq (h : Trimmed s) : trim (String.ofList (' ' :: s.toList)) = s := by
  have hSpace : trimStart (' ' :: s.toList) = trimStart s.toList :=
    List.dropWhile_cons_of_pos rfl
  rw [trim, String.toList_ofList, hSpace, h.trimStart_eq, h.trimEnd_eq, String.ofList_toList]

theorem getLast?_ne_return (h : Trimmed s) : s.toList.getLast? ≠ some '\r' := by
  intro hReturn
  have hBlank := h.last
  rw [hReturn] at hBlank
  exact absurd hBlank (by decide)

end Trimmed

end StoryTrace.Text
