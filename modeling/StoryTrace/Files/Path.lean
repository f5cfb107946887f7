/-!
# Paths

A path is a text with slashes between its steps. A step is a name, a single dot, which stays, or
two dots, which lead up. Slashes next to each other count as one; joining keeps both texts as they
are.
-/

namespace StoryTrace.Path

def isAbsolute (path : String) : Bool := path.toList.head? == some '/'

/-- The second path below the first. An absolute path stands for itself. -/
def join (base path : String) : String :=
  if isAbsolute path || base.isEmpty then path
  else if base.toList.getLast? == some '/' then base ++ path
  else base ++ "/" ++ path

/-- The reversed path without the slashes and single dots at its end. -/
def trimReversed : List Char → List Char
  | '/' :: rest => if rest.isEmpty then ['/'] else trimReversed rest
  | '.' :: '/' :: rest => if rest.isEmpty then ['/'] else trimReversed rest
  | cs => cs

/-- The path of the directory that holds what a path names. -/
def parent? (path : String) : Option String :=
  match trimReversed path.toList.reverse with
  | [] => none
  | ['/'] => none
  | cs => some (String.ofList (trimReversed (cs.dropWhile (· != '/'))).reverse)

/-- Trimming removes from the end of a path only. -/
theorem trimReversed_suffix (cs : List Char) : trimReversed cs <:+ cs := by
  fun_induction trimReversed cs with
  | case1 rest h => simp [List.isEmpty_iff.1 h]
  | case2 rest h ih => exact ih.trans (List.suffix_cons ..)
  | case3 rest h => simp [List.isEmpty_iff.1 h]
  | case4 rest h ih => exact ih.trans ((List.suffix_cons ..).trans (List.suffix_cons ..))
  | case5 cs _ _ => exact List.suffix_refl cs

/-- A trimmed path ends in a slash only if there is nothing else in it. -/
theorem eq_nil_of_trimReversed {cs rest : List Char} (h : trimReversed cs = '/' :: rest) :
    rest = [] := by
  fun_induction trimReversed cs with
  | case1 | case3 => simpa using h.symm
  | case2 _ _ ih | case4 _ _ ih => exact ih h
  | case5 cs hslash _ => exact absurd h (hslash rest)

/-- A path with a directory above it ends in a name, once it is trimmed. -/
theorem exists_of_parent? {path above : String} (h : parent? path = some above) :
    ∃ c rest, c ≠ '/' ∧ trimReversed path.toList.reverse = c :: rest ∧
      above = String.ofList (trimReversed (rest.dropWhile (· != '/'))).reverse := by
  unfold parent? at h
  cases hcs : trimReversed path.toList.reverse with
  | nil => simp [hcs] at h
  | cons c rest =>
    have hc : c ≠ '/' := by
      rintro rfl
      simp [hcs, eq_nil_of_trimReversed hcs] at h
    refine ⟨c, rest, hc, rfl, ?_⟩
    simpa [hcs, hc] using h.symm

/-- The path of the directory above is shorter. -/
theorem length_lt_of_parent? {path above : String} (h : parent? path = some above) :
    above.length < path.length := by
  obtain ⟨c, rest, -, hcs, rfl⟩ := exists_of_parent? h
  have htrim := (trimReversed_suffix path.toList.reverse).length_le
  have habove := (trimReversed_suffix (rest.dropWhile (· != '/'))).length_le
  have hdrop := (List.dropWhile_suffix (l := rest) (· != '/')).length_le
  simp only [hcs, List.length_cons, List.length_reverse, String.length_toList] at htrim
  simp only [String.length_ofList, List.length_reverse]
  omega

/-- A path and the paths of the directories above it, the nearest first. -/
def upwards (path : String) : List String :=
  path :: match _h : parent? path with
    | none => []
    | some above => upwards above
termination_by path.length
decreasing_by exact length_lt_of_parent? _h

theorem mem_upwards {path other : String} :
    other ∈ upwards path ↔
      other = path ∨ ∃ above, parent? path = some above ∧ other ∈ upwards above := by
  rw [upwards, List.mem_cons]
  split <;> simp_all

/-- The parts of a path between its slashes. -/
def splitSlashes : List Char → List (List Char)
  | [] => [[]]
  | c :: rest =>
    match splitSlashes rest with
    | [] => []
    | part :: more => if c = '/' then [] :: part :: more else (c :: part) :: more

/-- The names and dots of a path. -/
def steps (path : String) : List String :=
  ((splitSlashes path.toList).map String.ofList).filter (· != "")

/-- The steps whose directories are made for a path. The name before a single dot at the end is not
among them. -/
def toMake (path : String) : List String :=
  let all := steps path
  if all.getLast? = some "." then ((parent? path).map steps).getD [] else all

/-- A path with a slash at its end names a directory. -/
def endsInSlash (path : String) : Bool := path.toList.getLast? == some '/'

/-- The path without single dots and slashes at its start, and without those at its end. -/
def trimmed (cs : List Char) : String :=
  let rec front : List Char → List Char
    | '/' :: rest => front rest
    | '.' :: '/' :: rest => front rest
    | ['.'] => []
    | cs => cs
  String.ofList (trimReversed (front cs).reverse).reverse

/-- A path as it is seen from a base. A path that does not lie below the base stays as it is. -/
def seenFrom (base path : String) : String :=
  if (base.toList ++ ['/']).isPrefixOf path.toList then
    trimmed (path.toList.drop (base.length + 1))
  else path

/-- The bytes that a whole path has to stay below. -/
def sizeLimit : Nat := 4096

/-- The most bytes of a single name. -/
def nameLimit : Nat := 255

/-- No path holds the character that marks the end of texts. -/
def holdsNul (path : String) : Bool := path.toList.any (·.toNat == 0)

/-- Whether a path may name something. -/
def isUsable (path : String) : Bool :=
  !path.isEmpty && decide (path.utf8ByteSize < sizeLimit) && !holdsNul path

/-- Whether a file name ends in a dot and the given text, after at least one other character. -/
def hasExtension (extension name : String) : Bool :=
  let suffix := '.' :: extension.toList
  suffix.isSuffixOf name.toList && suffix.length < name.toList.length

theorem join_of_isAbsolute {base path : String} (h : isAbsolute path = true) :
    join base path = path := by simp [join, h]

theorem splitSlashes_ne_nil (cs : List Char) : splitSlashes cs ≠ [] := by
  induction cs with
  | nil => simp [splitSlashes]
  | cons c rest ih =>
    simp only [splitSlashes]
    split
    · contradiction
    · split <;> simp

/-- A character other than a slash belongs to some part. -/
theorem exists_part_ne_nil {cs : List Char} {c : Char} (hc : c ∈ cs) (hs : c ≠ '/') :
    ∃ part ∈ splitSlashes cs, part ≠ [] := by
  induction cs with
  | nil => simp at hc
  | cons d rest ih =>
    obtain ⟨part, more, hp⟩ := List.exists_cons_of_ne_nil (splitSlashes_ne_nil rest)
    simp only [splitSlashes, hp]
    by_cases hd : d = '/'
    · have hm : c ∈ rest := by simpa [hd, hs] using hc
      obtain ⟨found, hf, hn⟩ := ih hm
      exact ⟨found, by simp [hd, ← hp, hf], hn⟩
    · exact ⟨d :: part, by simp [hd], by simp⟩

/-- A path that does not end in a slash has a step. -/
theorem steps_ne_nil {path : String} (hne : path.isEmpty = false)
    (hs : endsInSlash path = false) : steps path ≠ [] := by
  have hl : path.toList ≠ [] := by
    intro h
    have : path = "" := by simpa using h
    simp [this] at hne
  have hlast := List.getLast?_eq_some_getLast hl
  obtain ⟨part, hp, hn⟩ := exists_part_ne_nil (List.getLast_mem hl) (by
    simpa [endsInSlash, hlast] using hs)
  intro h
  have := List.filter_eq_nil_iff.1 h (String.ofList part) (List.mem_map_of_mem hp)
  simp at this
  exact hn (by simpa using this)

end StoryTrace.Path
