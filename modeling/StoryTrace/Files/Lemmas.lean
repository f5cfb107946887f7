import StoryTrace.Files.Lookup

/-!
# Reading what was written

A file that was written through a path is found through the same path, since writing a file changes
no directory. The main statements are `read?_write?` and `read?_append?`.
-/

namespace StoryTrace.Files

theorem isDirectoryAt_of_step? {f : Files} {place next : Place} {step : String}
    (h : f.step? place step = some next) : f.isDirectoryAt place = true := by
  simp only [step?, Option.ite_none_right_eq_some, Bool.and_eq_true] at h
  exact h.1.1

/-- A step that does not lead to a directory leads to a name in the directory it starts from. -/
theorem eq_append_of_step? {f : Files} {place next : Place} {step : String}
    (h : f.step? place step = some next) (hn : f.isDirectoryAt next = false) :
    next = place ++ [step] := by
  have hd := isDirectoryAt_of_step? h
  simp only [step?, Option.ite_none_right_eq_some] at h
  have hnext : beside place step = next := by simpa using h.2
  unfold beside at hnext
  split at hnext
  · simp_all
  · split at hnext
    · subst hnext
      have := FileEntry.isDirectoryAt_dropLast hd
      simp [isDirectoryAt] at hn
      simp_all
    · exact hnext.symm

/-- A path that names no directory ends in a name in a directory, or has no steps. -/
theorem eq_append_of_foldlM {f : Files} {start place : Place} {steps : List String}
    (h : steps.foldlM f.step? start = some place) (hn : f.isDirectoryAt place = false) :
    steps = [] ∨ ∃ q name, f.isDirectoryAt q = true ∧ place = q ++ [name] := by
  rcases List.eq_nil_or_concat steps with rfl | ⟨before, last, rfl⟩
  · exact .inl rfl
  · refine .inr ?_
    rw [List.concat_eq_append, List.foldlM_append] at h
    obtain ⟨q, _, hq⟩ := Option.bind_eq_some_iff.1 h
    have hq : f.step? q last = some place := by simpa using hq
    exact ⟨q, last, isDirectoryAt_of_step? hq, eq_append_of_step? hq hn⟩

/-- Paths lead to the same places in trees with the same directories. -/
theorem place?_congr {f g : Files}
    (h : ∀ place, g.isDirectoryAt place = f.isDirectoryAt place) (hc : g.current = f.current)
    (path : String) :
    g.place? path = f.place? path := by
  have hstep : g.step? = f.step? := by
    funext place step
    simp [step?, h]
  simp [place?, start, hc, hstep]

/-- No text is put where a directory stands. -/
theorem isDirectoryAt_of_isWritableAt {f : Files} {place : Place}
    (h : f.isWritableAt place = true) : f.isDirectoryAt place = false := by
  unfold isWritableAt findAt? at h
  unfold isDirectoryAt FileEntry.isDirectoryAt
  cases hFound : f.root.find? place <;> simp_all

/-- What was written to a file is read from it. -/
theorem read?_write? {f g : Files} {path content : String} (h : f.write? path content = some g) :
    g.read? path = some content := by
  unfold write? at h
  split at h
  · simp at h
  · rename_i hs
    simp only [Bool.not_eq_true] at hs
    simp only [Option.map_eq_some_iff, Option.filter_eq_some_iff] at h
    obtain ⟨place, ⟨hp, hd⟩, rfl⟩ := h
    have hd : f.isDirectoryAt place = false := isDirectoryAt_of_isWritableAt hd
    have hp' := hp
    simp only [place?, Option.ite_none_right_eq_some] at hp'
    obtain ⟨hu, hfold⟩ := hp'
    have hne : path.isEmpty = false := by
      simp only [Path.isUsable, Bool.and_eq_true, Bool.not_eq_true'] at hu
      exact hu.1.1
    rcases eq_append_of_foldlM hfold hd with hnil | ⟨q, name, hq, rfl⟩
    · exact absurd hnil (Path.steps_ne_nil hne hs)
    · have hsame (other : Place) : (f.putAt (q ++ [name]) (.text content)).isDirectoryAt other =
          f.isDirectoryAt other := FileEntry.isDirectoryAt_put rfl hq hd
      have hplace := (place?_congr hsame rfl path).trans hp
      have hfound : (f.putAt (q ++ [name]) (.text content)).findAt? (q ++ [name]) =
          some (.text content) := FileEntry.find?_put_self hq
      simp only [read?, find?, hplace, Option.bind_some, hfound, hs]
      rfl

/-- Appending to a file keeps what is in it. -/
theorem read?_append? {f g : Files} {path content : String}
    (h : f.append? path content = some g) :
    g.read? path = some ((f.read? path).getD "" ++ content) := by
  unfold append? at h
  split at h
  · rename_i before hb
    rw [read?_write? h]
    simp [read?, hb, FileEntry.text?]
  · simp at h
  · rename_i hb
    have : f.read? path = none := by simp [read?, hb]
    simp [read?_write? h, this]

end StoryTrace.Files
