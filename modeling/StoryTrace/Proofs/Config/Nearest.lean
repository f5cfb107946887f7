import StoryTrace.Config.Program
import StoryTrace.Proofs.Files.Components

/-!
# The nearest settings

The search for settings goes upwards, from a path to shorter and shorter ones, and ends at the
first settings file. What that file gives is the answer, also if it cannot be used. The output of
the settings lies below their directory, unless its path is absolute.

The main statement is `nearest_settings_count`.
-/

namespace StoryTrace.ProgramConfig

/-- A directory upwards from a path that has a settings file, and below which no other such
directory lies. -/
structure IsNearest (f : Files) (start nearest : String) : Prop where
  upward : nearest ∈ Path.upwards start
  holds : f.holds (fileIn nearest) = true
  deepest : ∀ above ∈ Path.upwards start, f.holds (fileIn above) = true →
    Path.components above <+: Path.components nearest

/-- The output goes to an absolute path as it is given, and otherwise below the settings directory:
its path has the names of that directory and more names, and so has the place in the tree, unless
the given path leads up. -/
structure OutputBelow (f : Files) (c : ProgramConfig) (directory : Option String) : Prop where
  asGiven : Path.isAbsolute c.output.path = true → c.outputPath directory = c.output.path
  sameStart : Path.isAbsolute c.output.path = false →
    Path.isAbsolute (c.outputPath directory) = Path.isAbsolute (directory.getD directoryName)
  names : Path.isAbsolute c.output.path = false →
    Path.components (c.outputPath directory) =
      Path.components (directory.getD directoryName) ++
        (Path.steps c.output.path).filter (· != ".")
  inTree : Path.isAbsolute c.output.path = false → ".." ∉ Path.steps c.output.path →
    ∀ place, f.place? (c.outputPath directory) = some place →
      ∃ above, f.place? (directory.getD directoryName) = some above ∧ above <+: place

/-! ## Settings files -/

theorem directoryIn_ne_empty (path : String) : directoryIn path ≠ "" :=
  Path.join_ne_empty path (by decide)

theorem steps_directoryIn (path : String) :
    Path.steps (directoryIn path) = Path.steps path ++ [directoryName] := by
  by_cases hEmpty : path = ""
  · subst hEmpty
    decide
  · exact Path.steps_join hEmpty (by decide)

theorem isAbsolute_directoryIn (path : String) :
    Path.isAbsolute (directoryIn path) = Path.isAbsolute path := by
  by_cases hEmpty : path = ""
  · subst hEmpty
    decide
  · exact Path.isAbsolute_join hEmpty (by decide)

theorem steps_fileIn (path : String) :
    Path.steps (fileIn path) = (Path.steps path ++ [directoryName]) ++ [fileName] := by
  rw [fileIn, Path.steps_join (directoryIn_ne_empty path) (by decide), steps_directoryIn]
  rfl

theorem start_fileIn (f : Files) (path : String) : f.start (fileIn path) = f.start path := by
  rw [Files.start, Files.start, fileIn,
    Path.isAbsolute_join (directoryIn_ne_empty path) (by decide), isAbsolute_directoryIn]

/-- The names in the path of a settings file are short enough if those of its directory are. -/
theorem forall_steps_fileIn_iff (path : String) :
    (∀ step ∈ Path.steps (fileIn path), step.utf8ByteSize ≤ Path.nameLimit) ↔
      ∀ name ∈ Path.steps path, name.utf8ByteSize ≤ Path.nameLimit := by
  have hOwn : directoryName.utf8ByteSize ≤ Path.nameLimit ∧
      fileName.utf8ByteSize ≤ Path.nameLimit := by decide
  rw [steps_fileIn]
  simp only [List.forall_mem_append, List.forall_mem_singleton, hOwn, and_true]

/-- A directory has a settings file if something stands there under its name which may be looked at,
and neither the whole path nor a name in it is too long. -/
theorem holds_fileIn_iff {f : Files} {path : String} (hUp : ".." ∉ Path.components path) :
    f.holds (fileIn path) = true ↔ Path.isUsable (fileIn path) = true ∧
      (∀ name ∈ Path.steps path, name.utf8ByteSize ≤ Path.nameLimit) ∧
      ∃ e, f.root.find? (f.start path ++
          ((Path.components path).filter (· != ".") ++ [directoryName, fileName])) = some e ∧
        e.isHidden = false := by
  have hSlash : Path.endsInSlash (fileIn path) = false := by
    rw [fileIn, Path.endsInSlash_join (directoryIn_ne_empty path) (by decide) (by decide)]
    decide
  have hNotUp : ".." ∉ Path.steps (fileIn path) := by
    rw [steps_fileIn]
    simpa [directoryName, fileName] using Path.notMem_steps_of_notMem_components hUp
  have hNames : (Path.steps path ++ [directoryName]).filter (· != ".") ++ [fileName] =
      (Path.components path).filter (· != ".") ++ [directoryName, fileName] := by
    rw [Path.filter_components, List.filter_append, List.append_assoc]
    rfl
  rw [Files.holds_iff hNotUp hSlash (steps_fileIn path) (by decide), hNames,
    forall_steps_fileIn_iff, start_fileIn]

/-! ## The search -/

section Search

variable {f : Files} {start nearest : String}

/-- A path with a settings file is the nearest one upwards from itself. -/
theorem IsNearest.self (h : f.holds (fileIn start) = true) : IsNearest f start start where
  upward := Path.mem_upwards.2 (.inl rfl)
  holds := h
  deepest _ hAbove _ := Path.components_prefix_of_mem_upwards hAbove

/-- The nearest directory is the path itself if that has a settings file. -/
theorem IsNearest.eq_self (h : IsNearest f start nearest) (hHere : f.holds (fileIn start) = true) :
    nearest = start := by
  obtain hSame | ⟨above, hAbove, hMem⟩ := Path.mem_upwards.1 h.upward
  · exact hSame
  · -- the path would have to be shorter than the one above it
    obtain ⟨name, hName⟩ := Path.exists_components_of_parent? hAbove
    have hSelf := h.deepest start (Path.mem_upwards.2 (.inl rfl)) hHere
    have hLength := (hSelf.trans (Path.components_prefix_of_mem_upwards hMem)).length_le
    rw [hName, List.length_append, List.length_singleton] at hLength
    omega

/-- Without a settings file of its own, a path has the same nearest directory as the one above. -/
theorem isNearest_iff_of_parent? {above : String} (hHere : f.holds (fileIn start) = false)
    (hAbove : Path.parent? start = some above) :
    IsNearest f start nearest ↔ IsNearest f above nearest := by
  have hUpward (other : String) (hOther : f.holds (fileIn other) = true) :
      other ∈ Path.upwards start ↔ other ∈ Path.upwards above := by
    have hNe : other ≠ start := by
      rintro rfl
      simp [hHere] at hOther
    rw [Path.mem_upwards]
    simp [hNe, hAbove]
  constructor
  · intro h
    refine ⟨(hUpward nearest h.holds).1 h.upward, h.holds, fun other hMem hOther => ?_⟩
    exact h.deepest other ((hUpward other hOther).2 hMem) hOther
  · intro h
    refine ⟨(hUpward nearest h.holds).2 h.upward, h.holds, fun other hMem hOther => ?_⟩
    exact h.deepest other ((hUpward other hOther).1 hMem) hOther

/-- If there is a settings file upwards, one of them is the nearest. -/
theorem exists_isNearest (h : ∃ above ∈ Path.upwards start, f.holds (fileIn above) = true) :
    ∃ nearest, IsNearest f start nearest := by
  induction start using Path.upwards.induct with
  | case1 start ih =>
      cases hHere : f.holds (fileIn start) with
      | true => exact ⟨start, .self hHere⟩
      | false =>
          obtain ⟨other, hMem, hOther⟩ := h
          obtain rfl | ⟨above, hAbove, hMem⟩ := Path.mem_upwards.1 hMem
          · simp [hHere] at hOther
          · obtain ⟨nearest, hNearest⟩ := ih above hAbove ⟨other, hMem, hOther⟩
            exact ⟨nearest, (isNearest_iff_of_parent? hHere hAbove).2 hNearest⟩

/-- The search ends at the nearest settings file. -/
theorem discover_of_isNearest (h : IsNearest f start nearest) :
    discover f start = (load f (fileIn nearest)).map fun c => some (c, directoryIn nearest) := by
  fun_induction discover f start with
  | case1 start hHere => rw [h.eq_self hHere]
  | case2 start hHere hNone =>
      obtain rfl | ⟨above, hAbove, -⟩ := Path.mem_upwards.1 h.upward
      · exact absurd h.holds hHere
      · simp [hNone] at hAbove
  | case3 start hHere above hAbove ih =>
      apply ih
      exact (isNearest_iff_of_parent? (by simpa using hHere) hAbove).1 h

/-- The search finds nothing if there is no settings file upwards. -/
theorem discover_eq_none (h : ∀ above ∈ Path.upwards start, f.holds (fileIn above) = false) :
    discover f start = .ok none := by
  fun_induction discover f start with
  | case1 start hHere => simp [h start (Path.mem_upwards.2 (.inl rfl))] at hHere
  | case2 start hHere hNone => rfl
  | case3 start hHere above hAbove ih =>
      apply ih
      intro other hMem
      exact h other (Path.mem_upwards.2 (.inr ⟨above, hAbove, hMem⟩))

/-- The settings directory that the search finds has a name. -/
theorem directory_ne_empty_of_discover {c : ProgramConfig} {directory : String}
    (h : discover f start = .ok (some (c, directory))) : directory ≠ "" := by
  fun_induction discover f start with
  | case1 start hHere =>
      cases hLoad : load f (fileIn start) with
      | error e => simp [hLoad, Except.map] at h
      | ok loaded =>
          obtain ⟨-, rfl⟩ : loaded = c ∧ directoryIn start = directory := by
            simpa [hLoad, Except.map] using h
          exact directoryIn_ne_empty start
  | case2 start hHere hNone => simp at h
  | case3 start hHere above hAbove ih => exact ih h

end Search

/-- Settings in a directory, or without one, put their output below it. -/
theorem outputBelow (f : Files) (c : ProgramConfig) {directory : Option String}
    (h : directory.getD directoryName ≠ "") : OutputBelow f c directory where
  asGiven := outputPath_of_isAbsolute
  sameStart := Path.isAbsolute_join h
  names := Path.components_join h
  inTree hRelative hUp place hPlace := by
    obtain ⟨above, hAbove, rfl⟩ := Files.exists_place?_of_join h hRelative hUp hPlace
    exact ⟨above, hAbove, List.prefix_append ..⟩

/-! ## Which settings count -/

/-- The search for settings goes through the paths whose names are the first ones of the path it
starts from, the longest first; unless they lead up, these stand for the directories from there up
to the root of the tree, or up to the current directory if the path is relative. Such a directory
has a settings file if there is something under its name that may be looked at. If one of them has a
settings file, the nearest such file alone decides: it gives the settings, with its directory, or
the error that says why it does not. If none has one, nothing is found. The output of what is found
lies below the settings directory, and below `.fabula` if nothing is, unless its path is absolute or
leads up. -/
theorem nearest_settings_count (f : Files) (start : String) :
    (Path.upwards start).map Path.components = (Path.components start).inits.reverse ∧
    (∀ above ∈ Path.upwards start, Path.isAbsolute above = Path.isAbsolute start) ∧
    (".." ∉ Path.components start → ∀ above ∈ Path.upwards start,
      (∀ place, f.place? above = some place →
        place = f.start start ++ (Path.components above).filter (· != ".")) ∧
      (f.holds (fileIn above) = true ↔ Path.isUsable (fileIn above) = true ∧
        (∀ name ∈ Path.steps above, name.utf8ByteSize ≤ Path.nameLimit) ∧
        ∃ e, f.root.find? (f.start start ++
            ((Path.components above).filter (· != ".") ++ [".fabula", "config.toml"])) = some e ∧
          e.isHidden = false)) ∧
    ((∃ above ∈ Path.upwards start, f.holds (fileIn above) = true) →
      ∃ nearest, IsNearest f start nearest) ∧
    (∀ nearest, IsNearest f start nearest →
      (f.read? (fileIn nearest) = none →
        discover f start = .error (.unreadable (fileIn nearest))) ∧
      ∀ content, f.read? (fileIn nearest) = some content →
        (ofText? content = none → discover f start = .error (.malformed (fileIn nearest))) ∧
        ∀ c, ofText? content = some c → discover f start = .ok (some (c, directoryIn nearest))) ∧
    ((∀ above ∈ Path.upwards start, f.holds (fileIn above) = false) →
      discover f start = .ok none) ∧
    (∀ c directory, discover f start = .ok (some (c, directory)) →
      OutputBelow f c (some directory)) ∧
    ∀ c, OutputBelow f c none := by
  refine ⟨Path.map_components_upwards start, fun _ => Path.isAbsolute_of_mem_upwards, ?inTree,
    exists_isNearest, ?decided, discover_eq_none, ?below, ?default⟩
  case inTree =>
    intro hUp above hMem
    have hStart : f.start above = f.start start := by
      rw [Files.start, Files.start, Path.isAbsolute_of_mem_upwards hMem]
    have hNotUp : ".." ∉ Path.components above := fun hName =>
      hUp ((Path.components_prefix_of_mem_upwards hMem).subset hName)
    rw [← hStart]
    exact ⟨fun _ => Files.place_eq_append hNotUp, holds_fileIn_iff hNotUp⟩
  case decided =>
    intro nearest h
    rw [discover_of_isNearest h, load]
    constructor
    · intro hRead
      rw [hRead]
      rfl
    · intro content hRead
      rw [hRead]
      constructor
      · intro hNone
        simp [hNone, Except.map]
      · intro c hSome
        simp [hSome, Except.map]
  case below =>
    intro c directory h
    exact outputBelow f c (directory_ne_empty_of_discover h)
  case default =>
    intro c
    exact outputBelow f c (by decide)

/-- A tree with settings at its root, and a project in it whose settings file lacks a bracket. -/
def nestedProject : Files where
  root := .directory [
    (".fabula", .directory [("config.toml", .text "[output]\npath = \"log\"\n")]),
    ("notes", .directory []),
    ("project", .directory [
      (".fabula", .directory [("config.toml", .text "[output\n")]),
      ("src", .directory [])])]
  current := []

/-- The settings at the root count for the notes. For the sources, the broken file of the project
counts, and the settings at the root do not. -/
theorem nearest_settings_count_nestedProject :
    discover nestedProject "/notes" =
        .ok (some (⟨.default, { OutputConfig.default with path := "log" }⟩, "/.fabula")) ∧
      OutputBelow nestedProject ⟨.default, { OutputConfig.default with path := "log" }⟩
        (some "/.fabula") ∧
      discover nestedProject "/project/src" =
        .error (.malformed "/project/.fabula/config.toml") := by
  have hNotes : Path.upwards "/notes" = ["/notes", "/"] := by decide +kernel
  have hRoot : IsNearest nestedProject "/notes" "/" := by
    refine ⟨?_, by decide, ?_⟩ <;> rw [hNotes] <;> decide
  have hSources : Path.upwards "/project/src" = ["/project/src", "/project", "/"] := by
    decide +kernel
  have hProject : IsNearest nestedProject "/project/src" "/project" := by
    refine ⟨?_, by decide, ?_⟩ <;> rw [hSources] <;> decide
  obtain ⟨-, -, -, -, hFound, -, hBelow, -⟩ := nearest_settings_count nestedProject "/notes"
  obtain ⟨-, -, -, -, hBroken, -⟩ := nearest_settings_count nestedProject "/project/src"
  have hOk := ((hFound "/" hRoot).2 _ rfl).2
    ⟨.default, { OutputConfig.default with path := "log" }⟩ (by decide +kernel)
  have hError := ((hBroken "/project" hProject).2 _ rfl).1 (by decide +kernel)
  exact ⟨hOk, hBelow _ _ hOk, hError⟩

/-- A tree with settings at its root, whose output leads up, and a project in it whose settings file
is a link to where the program may not look. The program works in the project. -/
def guardedProject : Files where
  root := .directory [
    (".fabula", .directory [("config.toml", .text "[output]\npath = \"../log\"\n")]),
    ("project", .directory [(".fabula", .directory [("config.toml", .hidden)])])]
  current := ["project"]

/-- The settings file of the project is passed over for the one at the root, which a search from the
current directory by its relative path does not reach; and the output of these settings does not lie
in their directory. -/
theorem farther_settings_count_guardedProject :
    guardedProject.isDirectoryAt ["project", ".fabula"] = true ∧
      guardedProject.findAt? ["project", ".fabula", "config.toml"] = some .hidden ∧
      discover guardedProject "/project" =
        .ok (some (⟨.default, { OutputConfig.default with path := "../log" }⟩, "/.fabula")) ∧
      guardedProject.place? "." = some ["project"] ∧
      guardedProject.holds "../.fabula/config.toml" = true ∧
      discover guardedProject "." = .ok none ∧
      (⟨.default, { OutputConfig.default with path := "../log" }⟩ : ProgramConfig).outputPath
        (some "/.fabula") = "/.fabula/../log" ∧
      guardedProject.place? "/.fabula" = some [".fabula"] ∧
      guardedProject.place? "/.fabula/../log" = some ["log"] := by
  refine ⟨rfl, rfl, ?_⟩
  decide +kernel

end StoryTrace.ProgramConfig
