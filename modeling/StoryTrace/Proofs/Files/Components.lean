import Mathlib.Data.List.Infix
import Mathlib.Data.List.TakeWhile
import StoryTrace.Files.Lookup

/-!
# Paths as lists of names

A path leads through names. Single dots do not count, except for one at the start of a relative
path. The path of the directory above has all names but the last, so the paths upwards from a path
have the prefixes of its names, the longest first, and a joined path has the names of both.

The main statements are `map_components_upwards`, `components_join` and, for the places that paths
name in a tree, `Files.place_eq_append` and `Files.exists_place?_of_join`.
-/

namespace StoryTrace

namespace Path

/-! ## Steps of a text with a slash in it -/

/-- The steps of a path that is given by its characters. -/
def stepsOf (cs : List Char) : List String :=
  ((splitSlashes cs).map String.ofList).filter (· != "")

theorem steps_eq_stepsOf (path : String) : steps path = stepsOf path.toList := rfl

theorem stepsOf_nil : stepsOf [] = [] := rfl

theorem splitSlashes_append (xs ys : List Char) :
    splitSlashes (xs ++ '/' :: ys) = splitSlashes xs ++ splitSlashes ys := by
  induction xs with
  | nil =>
      obtain ⟨part, more, hParts⟩ := List.exists_cons_of_ne_nil (splitSlashes_ne_nil ys)
      simp [splitSlashes, hParts]
  | cons c xs ih =>
      obtain ⟨part, more, hParts⟩ := List.exists_cons_of_ne_nil (splitSlashes_ne_nil xs)
      simp only [List.cons_append, splitSlashes, ih, hParts]
      split <;> rfl

theorem splitSlashes_of_notMem {cs : List Char} (h : '/' ∉ cs) : splitSlashes cs = [cs] := by
  induction cs with
  | nil => rfl
  | cons c cs ih =>
      rw [List.mem_cons, not_or] at h
      simp [splitSlashes, ih h.2, Ne.symm h.1]

theorem stepsOf_append (xs ys : List Char) :
    stepsOf (xs ++ '/' :: ys) = stepsOf xs ++ stepsOf ys := by
  rw [stepsOf, splitSlashes_append, List.map_append, List.filter_append]
  rfl

theorem stepsOf_of_notMem {cs : List Char} (hNe : cs ≠ []) (h : '/' ∉ cs) :
    stepsOf cs = [String.ofList cs] := by
  simp [stepsOf, splitSlashes_of_notMem h, hNe]

/-- A text that starts with anything but a slash has a step. -/
theorem stepsOf_ne_nil {cs : List Char} (hNe : cs ≠ []) (h : cs.head? ≠ some '/') :
    stepsOf cs ≠ [] := by
  obtain ⟨c, rest, rfl⟩ := List.exists_cons_of_ne_nil hNe
  have hSlash : c ≠ '/' := by simpa using h
  obtain ⟨part, hPart, hSome⟩ := exists_part_ne_nil (List.mem_cons_self (l := rest)) hSlash
  apply List.ne_nil_of_mem (a := String.ofList part)
  apply List.mem_filter.2
  exact ⟨List.mem_map_of_mem hPart, by simpa using hSome⟩

/-! ## Components -/

/-- The names that a path, given by its characters, leads through. -/
def componentsOf (cs : List Char) : List String :=
  if cs.head? = some '/' then (stepsOf cs).filter (· != ".")
  else (stepsOf cs).take 1 ++ ((stepsOf cs).drop 1).filter (· != ".")

def components (path : String) : List String := componentsOf path.toList

/-- Without single dots, the names of a path are its steps. -/
theorem filter_components (path : String) :
    (components path).filter (· != ".") = (steps path).filter (· != ".") := by
  rw [components, componentsOf, steps_eq_stepsOf]
  split
  · simp only [List.filter_filter, Bool.and_self]
  · rw [List.filter_append, List.filter_filter]
    simp only [Bool.and_self, ← List.filter_append, List.take_append_drop]

theorem notMem_steps_of_notMem_components {path : String} (hUp : ".." ∉ components path) :
    ".." ∉ steps path := by
  intro hMem
  have hName : ".." ∈ (components path).filter (· != ".") := by
    rw [filter_components]
    exact List.mem_filter.2 ⟨hMem, by decide⟩
  exact hUp (List.mem_of_mem_filter hName)

/-- What follows a slash adds its names to those of the text before the slash. -/
theorem componentsOf_append (xs ys : List Char) :
    componentsOf (xs ++ '/' :: ys) = componentsOf xs ++ (stepsOf ys).filter (· != ".") := by
  unfold componentsOf
  rw [stepsOf_append]
  by_cases hNe : xs = []
  · subst hNe
    simp [stepsOf_nil]
  · have hHead : (xs ++ '/' :: ys).head? = xs.head? := List.head?_append_of_ne_nil xs hNe
    rw [hHead]
    by_cases hSlash : xs.head? = some '/'
    · simp [hSlash]
    · obtain ⟨first, rest, hSteps⟩ := List.exists_cons_of_ne_nil (stepsOf_ne_nil hNe hSlash)
      simp [hSlash, hSteps]

/-- A slash at the end does not count. -/
theorem componentsOf_append_slash (xs : List Char) :
    componentsOf (xs ++ ['/']) = componentsOf xs := by
  rw [componentsOf_append, stepsOf_nil, List.filter_nil, List.append_nil]

/-- A single dot after a slash at the end does not count. -/
theorem componentsOf_append_dot (xs : List Char) :
    componentsOf (xs ++ ['/', '.']) = componentsOf xs := by
  have hDot : (stepsOf ['.']).filter (· != ".") = [] := by decide
  rw [componentsOf_append, hDot, List.append_nil]

/-- A text without a slash is a single name. -/
theorem componentsOf_of_notMem {cs : List Char} (hNe : cs ≠ []) (h : '/' ∉ cs) :
    componentsOf cs = [String.ofList cs] := by
  have hHead : cs.head? ≠ some '/' := fun hSlash => h (List.mem_of_head? hSlash)
  simp [componentsOf, hHead, stepsOf_of_notMem hNe h]

/-! ## What trimming keeps -/

/-- Slashes and single dots at the end of a path do not count. -/
theorem componentsOf_trimReversed (cs : List Char) :
    componentsOf (trimReversed cs).reverse = componentsOf cs.reverse := by
  fun_induction trimReversed cs with
  | case1 rest h => rw [List.isEmpty_iff.1 h]
  | case2 rest h ih => rw [ih, List.reverse_cons, componentsOf_append_slash]
  | case3 rest h =>
      rw [List.isEmpty_iff.1 h]
      decide
  | case4 rest h ih =>
      rw [ih]
      simpa using (componentsOf_append_dot rest.reverse).symm
  | case5 cs _ _ => rfl

theorem getLast?_trimReversed (cs : List Char) : (trimReversed cs).getLast? = cs.getLast? := by
  fun_induction trimReversed cs with
  | case1 rest h => rw [List.isEmpty_iff.1 h]
  | case2 rest h ih => rw [ih, List.getLast?_cons_of_ne_nil (by simpa using h)]
  | case3 rest h =>
      rw [List.isEmpty_iff.1 h]
      rfl
  | case4 rest h ih =>
      rw [ih, List.getLast?_cons_cons, List.getLast?_cons_of_ne_nil (by simpa using h)]
  | case5 cs _ _ => rfl

/-- A trimmed path does not end in a single dot after a slash. -/
theorem trimReversed_ne_dot {cs : List Char} (rest : List Char) :
    trimReversed cs ≠ '.' :: '/' :: rest := by
  fun_induction trimReversed cs with
  | case1 | case3 => simp
  | case2 _ _ ih | case4 _ _ ih => exact ih
  | case5 cs _ hDot => exact hDot rest

/-! ## The directory above -/

/-- Once it is trimmed, a path is a single name, or a name after the slash that the path of the
directory above ends in before its own trimming. -/
structure EndsIn (path above : String) (before last : List Char) : Prop where
  ne_nil : last ≠ []
  noSlash : '/' ∉ last
  begins : before = [] ∨ last ≠ ['.'] ∧ ∃ xs, before = xs ++ ['/']
  trimmed : trimReversed path.toList.reverse = (before ++ last).reverse
  above : above = String.ofList (trimReversed before.reverse).reverse

theorem exists_endsIn {path above : String} (h : parent? path = some above) :
    ∃ before last, EndsIn path above before last := by
  obtain ⟨c, rest, hSlash, hTrim, hAbove⟩ := exists_of_parent? h
  refine ⟨(rest.dropWhile (· != '/')).reverse, (c :: rest.takeWhile (· != '/')).reverse,
    by simp, ?noSlash, ?begins, ?trimmed, by simpa using hAbove⟩
  case noSlash =>
    intro hMem
    have hTaken : '/' ∈ rest.takeWhile (· != '/') := by simpa [hSlash.symm] using hMem
    simpa using List.mem_takeWhile_imp hTaken
  case begins =>
    cases hDrop : rest.dropWhile (· != '/') with
    | nil => exact .inl rfl
    | cons d more =>
        obtain rfl : d = '/' := by
          simpa [hDrop] using List.head?_dropWhile_not (· != '/') rest
        refine .inr ⟨fun hDot => ?_, more.reverse, List.reverse_cons⟩
        obtain ⟨rfl, hTake⟩ : c = '.' ∧ rest.takeWhile (· != '/') = [] :=
          List.cons_eq_cons.1 (List.reverse_injective hDot)
        have hRest := List.takeWhile_append_dropWhile (p := (· != '/')) (l := rest)
        rw [hTake, hDrop, List.nil_append] at hRest
        exact trimReversed_ne_dot more (hTrim.trans (by rw [hRest]))
  case trimmed =>
    rw [List.reverse_append, List.reverse_reverse, List.reverse_reverse, List.cons_append,
      List.takeWhile_append_dropWhile, hTrim]

theorem components_eq_of_trimmed {path : String} {cs : List Char}
    (h : trimReversed path.toList.reverse = cs.reverse) : components path = componentsOf cs := by
  have hTrim := componentsOf_trimReversed path.toList.reverse
  rw [h, List.reverse_reverse, List.reverse_reverse] at hTrim
  exact hTrim.symm

/-- The directory above has all names of a path but the last. -/
theorem exists_components_of_parent? {path above : String} (h : parent? path = some above) :
    ∃ name, components path = components above ++ [name] := by
  obtain ⟨before, last, hEnds⟩ := exists_endsIn h
  have hAbove : components above = componentsOf before := by
    rw [hEnds.above, components, String.toList_ofList, componentsOf_trimReversed,
      List.reverse_reverse]
  refine ⟨String.ofList last, ?_⟩
  rw [components_eq_of_trimmed hEnds.trimmed, hAbove]
  obtain rfl | ⟨hDot, xs, rfl⟩ := hEnds.begins
  · exact componentsOf_of_notMem hEnds.ne_nil hEnds.noSlash
  · have hName : String.ofList last ≠ "." := by
      intro hSame
      exact hDot (by simpa using congrArg String.toList hSame)
    rw [List.append_assoc, List.singleton_append, componentsOf_append, componentsOf_append_slash,
      stepsOf_of_notMem hEnds.ne_nil hEnds.noSlash]
    simp [hName]

/-- A path without a directory above it has no names. -/
theorem components_of_parent?_eq_none {path : String} (h : parent? path = none) :
    components path = [] := by
  unfold parent? at h
  split at h
  · next hTrim =>
    calc components path
      _ = componentsOf [] := components_eq_of_trimmed hTrim
      _ = [] := rfl
  · next hTrim =>
    calc components path
      _ = componentsOf ['/'] := components_eq_of_trimmed hTrim
      _ = [] := rfl
  · simp at h

/-- Both a path and the directory above it start from the root, or neither does. -/
theorem isAbsolute_of_parent? {path above : String} (h : parent? path = some above) :
    isAbsolute above = isAbsolute path := by
  obtain ⟨before, last, hEnds⟩ := exists_endsIn h
  have hPath : path.toList.head? = (before ++ last).head? := by
    have hLast := getLast?_trimReversed path.toList.reverse
    rw [hEnds.trimmed, List.getLast?_reverse, List.getLast?_reverse] at hLast
    exact hLast.symm
  have hAbove : above.toList.head? = before.head? := by
    rw [hEnds.above, String.toList_ofList, List.head?_reverse, getLast?_trimReversed,
      List.getLast?_reverse]
  rw [isAbsolute, isAbsolute, hPath, hAbove]
  obtain rfl | ⟨-, xs, rfl⟩ := hEnds.begins
  · have hHead : last.head? ≠ some '/' := fun hSlash => hEnds.noSlash (List.mem_of_head? hSlash)
    simpa using hHead
  · rw [List.head?_append_of_ne_nil (xs ++ ['/']) (by simp)]

/-! ## The paths upwards -/

/-- The paths upwards from a path have the prefixes of its names, the longest first. -/
theorem map_components_upwards (path : String) :
    (upwards path).map components = (components path).inits.reverse := by
  fun_induction upwards path with
  | case1 path ih =>
      rw [List.map_cons]
      split
      · next hNone => simp [components_of_parent?_eq_none hNone]
      · next above hAbove =>
        obtain ⟨name, hName⟩ := exists_components_of_parent? hAbove
        simp [ih above hAbove, hName]

example : (upwards "./a//b/.").map components = [[".", "a", "b"], [".", "a"], ["."], []] := by
  decide +kernel

/-- The names of a path upwards are the first ones of the path. -/
theorem components_prefix_of_mem_upwards {path above : String} (h : above ∈ upwards path) :
    components above <+: components path := by
  have hMem : components above ∈ (upwards path).map components := List.mem_map_of_mem h
  rw [map_components_upwards, List.mem_reverse, List.mem_inits] at hMem
  exact hMem

/-- The paths upwards from a path all start from the root, or none of them does. -/
theorem isAbsolute_of_mem_upwards {path other : String} (h : other ∈ upwards path) :
    isAbsolute other = isAbsolute path := by
  induction path using upwards.induct with
  | case1 path ih =>
      obtain rfl | ⟨above, hAbove, hMem⟩ := mem_upwards.1 h
      · rfl
      · exact (ih above hAbove hMem).trans (isAbsolute_of_parent? hAbove)

/-! ## Joined paths -/

section Join

variable {base path : String} (hBase : base ≠ "") (hPath : isAbsolute path = false)

include hBase hPath

/-- A relative path stands after a slash in a joined path, be it that the first path ends in one or
that it was put between the two. -/
theorem exists_toList_join :
    ∃ xs, (join base path).toList = xs ++ '/' :: path.toList ∧
      (base.toList = xs ∨ base.toList = xs ++ ['/']) := by
  by_cases hSlash : base.toList.getLast? = some '/'
  · obtain ⟨xs, hChars⟩ := List.getLast?_eq_some_iff.1 hSlash
    exact ⟨xs, by simp [join, hPath, hBase, hChars], .inr hChars⟩
  · exact ⟨base.toList, by simp [join, hPath, hBase, hSlash], .inl rfl⟩

theorem steps_join : steps (join base path) = steps base ++ steps path := by
  obtain ⟨xs, hJoin, hChars | hChars⟩ := exists_toList_join hBase hPath
  · simp only [steps_eq_stepsOf, hJoin, hChars, stepsOf_append]
  · simp only [steps_eq_stepsOf, hJoin, hChars, stepsOf_append, stepsOf_nil, List.append_nil]

/-- A joined path leads through the names of both paths. -/
theorem components_join :
    components (join base path) = components base ++ (steps path).filter (· != ".") := by
  obtain ⟨xs, hJoin, hChars | hChars⟩ := exists_toList_join hBase hPath
  · rw [components, components, hJoin, hChars, componentsOf_append, steps_eq_stepsOf]
  · rw [components, components, hJoin, hChars, componentsOf_append, componentsOf_append_slash,
      steps_eq_stepsOf]

theorem isAbsolute_join : isAbsolute (join base path) = isAbsolute base := by
  obtain ⟨xs, hJoin, hChars | hChars⟩ := exists_toList_join hBase hPath
  · have hNe : xs ≠ [] := by simpa [← hChars] using hBase
    rw [isAbsolute, isAbsolute, hJoin, hChars, List.head?_append_of_ne_nil xs hNe]
  · rw [isAbsolute, isAbsolute, hJoin, hChars]
    cases xs <;> rfl

theorem endsInSlash_join (hNe : path ≠ "") :
    endsInSlash (join base path) = endsInSlash path := by
  obtain ⟨xs, hJoin, -⟩ := exists_toList_join hBase hPath
  obtain ⟨c, rest, hChars⟩ := List.exists_cons_of_ne_nil (by simpa using hNe : path.toList ≠ [])
  rw [endsInSlash, endsInSlash, hJoin, List.getLast?_append_of_ne_nil xs (List.cons_ne_nil _ _),
    hChars, List.getLast?_cons_cons]

theorem isUsable_of_join (h : isUsable (join base path) = true) : isUsable base = true := by
  obtain ⟨more, hMore⟩ : ∃ more, join base path = base ++ more := by
    by_cases hSlash : base.toList.getLast? = some '/'
    · exact ⟨path, by simp [join, hPath, hBase, hSlash]⟩
    · exact ⟨"/" ++ path, by simp [join, hPath, hBase, hSlash, String.append_assoc]⟩
  simp only [hMore, isUsable, holdsNul, Bool.and_eq_true, decide_eq_true_eq, Bool.not_eq_true',
    String.utf8ByteSize_append, String.toList_append, List.any_append, Bool.or_eq_false_iff] at h ⊢
  obtain ⟨⟨-, hSize⟩, hNul, -⟩ := h
  exact ⟨⟨by simpa using hBase, by omega⟩, hNul⟩

end Join

theorem join_ne_empty (base : String) {path : String} (h : path ≠ "") : join base path ≠ "" := by
  unfold join
  split
  · exact h
  · split <;> simp [h]

end Path

/-- Below nothing but a directory does something stand. -/
theorem FileEntry.isDirectoryAt_of_find? {e found : FileEntry} {place more : Place}
    (h : e.find? (place ++ more) = some found) (hMore : more ≠ []) :
    e.isDirectoryAt place = true := by
  induction place generalizing e with
  | nil =>
      obtain ⟨name, rest, rfl⟩ := List.exists_cons_of_ne_nil hMore
      cases e with
      | directory entries => rfl
      | _ => simp [find?] at h
  | cons step rest ih =>
      rw [isDirectoryAt_cons]
      cases e with
      | directory entries =>
          obtain ⟨below, hBelow, hRest⟩ := Option.bind_eq_some_iff.1 h
          exact (Option.any_eq_true ..).2 ⟨below, hBelow, ih hRest⟩
      | _ => simp [find?] at h

namespace Files

/-- Steps that do not lead up lead below the place they start from. -/
theorem eq_append_of_foldlM_step? {f : Files} {base place : Place} {steps : List String}
    (hUp : ".." ∉ steps) (h : steps.foldlM f.step? base = some place) :
    place = base ++ steps.filter (· != ".") := by
  induction steps generalizing base with
  | nil => simpa using h.symm
  | cons step rest ih =>
      rw [List.mem_cons, not_or] at hUp
      obtain ⟨next, hNext, hRest⟩ := Option.bind_eq_some_iff.1 h
      have hBeside : beside base step = next := by
        simp only [step?, Option.ite_none_right_eq_some] at hNext
        simpa using hNext.2
      rw [ih hUp.2 hRest, ← hBeside, beside]
      by_cases hDot : step = "."
      · simp [hDot]
      · simp [hDot, Ne.symm hUp.1]

/-- A path that does not lead up names the place that its names lead to from where it starts. -/
theorem place_eq_append {f : Files} {path : String} {place : Place}
    (hUp : ".." ∉ Path.components path) (h : f.place? path = some place) :
    place = f.start path ++ (Path.components path).filter (· != ".") := by
  have hSteps := Path.notMem_steps_of_notMem_components hUp
  rw [place?, Option.ite_none_right_eq_some] at h
  rw [eq_append_of_foldlM_step? hSteps h.2, Path.filter_components]

/-- Steps through a tree have names of at most the length that a name may have. -/
theorem utf8ByteSize_le_of_foldlM_step? {f : Files} {base place : Place} {steps : List String}
    (h : steps.foldlM f.step? base = some place) :
    ∀ step ∈ steps, step.utf8ByteSize ≤ Path.nameLimit := by
  induction steps generalizing base with
  | nil => exact List.forall_mem_nil _
  | cons step rest ih =>
      obtain ⟨next, hNext, hRest⟩ := Option.bind_eq_some_iff.1 h
      simp only [step?, Option.ite_none_right_eq_some, Bool.and_eq_true, decide_eq_true_eq] at hNext
      exact List.forall_mem_cons.2 ⟨hNext.1.2, ih hRest⟩

/-- Steps lead to where something stands, and nothing stops them on the way. -/
theorem foldlM_step?_of_find? {f : Files} {base : Place} {steps : List String} {last : String}
    {found : FileEntry} (hUp : ".." ∉ steps ++ [last]) (hLast : last ≠ ".")
    (hSizes : ∀ step ∈ steps ++ [last], step.utf8ByteSize ≤ Path.nameLimit)
    (hFound : f.root.find? (base ++ (steps.filter (· != ".") ++ [last])) = some found) :
    (steps ++ [last]).foldlM f.step? base = some (base ++ (steps.filter (· != ".") ++ [last])) := by
  induction steps generalizing base with
  | nil =>
      have hHere : f.isDirectoryAt base = true :=
        FileEntry.isDirectoryAt_of_find? hFound (List.cons_ne_nil _ _)
      have hNotUp : last ≠ ".." := fun h => hUp (h ▸ List.mem_singleton_self _)
      have hSize := hSizes last (List.mem_singleton_self _)
      simp [step?, hHere, hSize, beside, hLast, hNotUp]
  | cons step rest ih =>
      have hHere : f.isDirectoryAt base = true :=
        FileEntry.isDirectoryAt_of_find? hFound (by simp)
      rw [List.cons_append, List.mem_cons, not_or] at hUp
      obtain ⟨hSize, hRest⟩ := List.forall_mem_cons.1 hSizes
      rw [List.cons_append, List.foldlM_cons, step?, if_pos (by simp [hHere, hSize])]
      by_cases hDot : step = "."
      · subst hDot
        exact ih hUp.2 hRest hFound
      · have hNext : beside base step = base ++ [step] := by
          simp [beside, hDot, Ne.symm hUp.1]
        have hNames : base ++ ((step :: rest).filter (· != ".") ++ [last]) =
            base ++ [step] ++ (rest.filter (· != ".") ++ [last]) := by
          simp [hDot]
        rw [hNames] at hFound ⊢
        rw [hNext]
        exact ih hUp.2 hRest hFound

/-- A path that ends in a name holds something if its names lead there, unless it may not be looked
at or the path or a name is too long. -/
theorem holds_iff {f : Files} {path last : String} {steps : List String}
    (hUp : ".." ∉ Path.steps path) (hSlash : Path.endsInSlash path = false)
    (hSteps : Path.steps path = steps ++ [last]) (hLast : last ≠ ".") :
    f.holds path = true ↔ Path.isUsable path = true ∧
      (∀ step ∈ Path.steps path, step.utf8ByteSize ≤ Path.nameLimit) ∧
      ∃ e, f.root.find? (f.start path ++ (steps.filter (· != ".") ++ [last])) = some e ∧
        e.isHidden = false := by
  have hNames : (steps ++ [last]).filter (· != ".") = steps.filter (· != ".") ++ [last] := by
    simp [hLast]
  rw [hSteps] at hUp ⊢
  constructor
  · intro h
    obtain ⟨e, hFind⟩ := Option.isSome_iff_exists.1 h
    obtain ⟨hAt, hSeen⟩ := Option.filter_eq_some_iff.1 hFind
    obtain ⟨place, hPlace, hFound⟩ := Option.bind_eq_some_iff.1 hAt
    rw [place?, Option.ite_none_right_eq_some, hSteps] at hPlace
    obtain ⟨hUsable, hFold⟩ := hPlace
    have hEq := eq_append_of_foldlM_step? hUp hFold
    rw [hNames] at hEq
    refine ⟨hUsable, utf8ByteSize_le_of_foldlM_step? hFold, e, hEq ▸ hFound, ?_⟩
    simpa [hSlash] using hSeen
  · rintro ⟨hUsable, hSizes, e, hFound, hSeen⟩
    have hPlace : f.place? path =
        some (f.start path ++ (steps.filter (· != ".") ++ [last])) := by
      rw [place?, if_pos hUsable, hSteps, foldlM_step?_of_find? hUp hLast hSizes hFound]
    rw [holds, find?, hPlace, Option.bind_some, findAt?, hFound]
    simp [hSeen, hSlash]

/-- What a joined path names lies below what its first path names, unless the second one leads
up. -/
theorem exists_place?_of_join {f : Files} {base path : String} {place : Place} (hBase : base ≠ "")
    (hPath : Path.isAbsolute path = false) (hUp : ".." ∉ Path.steps path)
    (h : f.place? (Path.join base path) = some place) :
    ∃ above, f.place? base = some above ∧
      place = above ++ (Path.steps path).filter (· != ".") := by
  rw [place?, Option.ite_none_right_eq_some] at h
  obtain ⟨hUsable, hFold⟩ := h
  rw [Path.steps_join hBase hPath, List.foldlM_append, start, Path.isAbsolute_join hBase hPath]
    at hFold
  obtain ⟨above, hAbove, hRest⟩ := Option.bind_eq_some_iff.1 hFold
  refine ⟨above, ?_, eq_append_of_foldlM_step? hUp hRest⟩
  rw [place?, if_pos (Path.isUsable_of_join hBase hPath hUsable)]
  exact hAbove

end Files

end StoryTrace
