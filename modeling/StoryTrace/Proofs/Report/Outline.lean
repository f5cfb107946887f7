import StoryTrace.Report.Outline

/-!
# Outlines read back

Every line of an outline below the first tells its depth by the connectors before it, so the
nesting, the order and the texts can be read back. Only details are not told from children that
have nothing below them.
-/

namespace StoryTrace.Outline

/-! ## What a text tells -/

mutual

/-- The outline with a child in place of every detail, before the other children. -/
def plain : Outline → Outline
  | .node title details children =>
    .node title [] (details.map (fun d => .node d [] []) ++ plainAll children)

def plainAll : List Outline → List Outline
  | [] => []
  | o :: rest => o.plain :: plainAll rest

end

mutual

/-- The number of titles and details. -/
def size : Outline → Nat
  | .node _ details children => 1 + details.length + sizeAll children

def sizeAll : List Outline → Nat
  | [] => 0
  | o :: rest => o.size + sizeAll rest

end

mutual

/-- No title and no detail holds a newline. -/
def OneLined : Outline → Prop
  | .node title details children =>
    '\n' ∉ title.toList ∧ (∀ d ∈ details, '\n' ∉ d.toList) ∧ OneLinedAll children

def OneLinedAll : List Outline → Prop
  | [] => True
  | o :: rest => o.OneLined ∧ OneLinedAll rest

end

/-- How deep the text of a line is nested, and that text. The first connector ends the bars and
blanks before it, so whatever the text starts with is not mistaken for one of them. -/
def readLine : List Char → Nat × List Char
  | '├' :: '─' :: ' ' :: text => (1, text)
  | '└' :: '─' :: ' ' :: text => (1, text)
  | '│' :: ' ' :: ' ' :: rest => ((readLine rest).1 + 1, (readLine rest).2)
  | ' ' :: ' ' :: ' ' :: rest => ((readLine rest).1 + 1, (readLine rest).2)
  | text => (0, text)

/-- Puts a line before the outlines of the lines after it. Those that lie deeper, up to the first
that does not, are its children. -/
def nest (line : Nat × List Char) (later : List (Nat × Outline)) : List (Nat × Outline) :=
  let deeper := fun e : Nat × Outline => decide (line.1 < e.1)
  (line.1, .node (String.ofList line.2) [] ((later.takeWhile deeper).map (·.2))) ::
    later.dropWhile deeper

/-- The outline that lines tell. -/
def ofLines : List (List Char) → Outline
  | [] => default
  | title :: rest =>
    .node (String.ofList title) [] (((rest.map readLine).foldr nest []).map (·.2))

/-- The outline that a text tells. -/
def ofText (s : String) : Outline := ofLines (s.toList.splitOn '\n')

mutual

/-- The titles and details in the order of their lines, with their depths. -/
def entries (depth : Nat) : Outline → List (Nat × List Char)
  | .node title details children =>
    (depth, title.toList) ::
      (details.map (fun d => (depth + 1, d.toList)) ++ entriesAll (depth + 1) children)

def entriesAll (depth : Nat) : List Outline → List (Nat × List Char)
  | [] => []
  | o :: rest => entries depth o ++ entriesAll depth rest

end

/-! ## Nesting from depths -/

variable {depth : Nat} {later : List (Nat × Outline)}

theorem takeWhile_deeper (os : List Outline) (h : ∀ e ∈ later.head?, e.1 ≤ depth) :
    (os.map ((depth + 1, ·)) ++ later).takeWhile (fun e => decide (depth < e.1)) =
      os.map ((depth + 1, ·)) := by
  have hDeeper : ∀ e ∈ os.map ((depth + 1, ·)), decide (depth < e.1) = true := by simp
  have hLater : later.takeWhile (fun e => decide (depth < e.1)) = [] := by
    cases later with
    | nil => rfl
    | cons e later => simp [Nat.not_lt.2 (h e rfl)]
  rw [List.takeWhile_append_of_pos hDeeper, hLater, List.append_nil]

theorem dropWhile_deeper (os : List Outline) (h : ∀ e ∈ later.head?, e.1 ≤ depth) :
    (os.map ((depth + 1, ·)) ++ later).dropWhile (fun e => decide (depth < e.1)) = later := by
  have hDeeper : ∀ e ∈ os.map ((depth + 1, ·)), decide (depth < e.1) = true := by simp
  rw [List.dropWhile_append_of_pos hDeeper]
  cases later with
  | nil => rfl
  | cons e later => simp [Nat.not_lt.2 (h e rfl)]

theorem map_snd_map (depth : Nat) (os : List Outline) :
    (os.map ((depth, ·))).map (·.2) = os := by
  rw [List.map_map]
  exact List.map_id os

/-- A line takes what lies one step deeper for its children. -/
theorem nest_append (text : List Char) (os : List Outline)
    (h : ∀ e ∈ later.head?, e.1 ≤ depth) :
    nest (depth, text) (os.map ((depth + 1, ·)) ++ later) =
      (depth, .node (String.ofList text) [] os) :: later := by
  rw [nest]
  simp only [takeWhile_deeper os h, dropWhile_deeper os h, map_snd_map]

theorem head?_map_append_le (os : List Outline) (h : ∀ e ∈ later.head?, e.1 ≤ depth) :
    ∀ e ∈ (os.map ((depth, ·)) ++ later).head?, e.1 ≤ depth := by
  cases os with
  | nil => exact h
  | cons o os =>
      intro e he
      obtain rfl : (depth, o) = e := by simpa using he
      exact Nat.le_refl _

/-- Details have nothing below them. -/
theorem foldr_nest_details (details : List String) (h : ∀ e ∈ later.head?, e.1 ≤ depth) :
    (details.map (fun d => (depth, d.toList))).foldr nest later =
      (details.map (fun d => Outline.node d [] [])).map ((depth, ·)) ++ later := by
  induction details with
  | nil => rfl
  | cons d details ih =>
      have hHead := head?_map_append_le (details.map (fun d => Outline.node d [] [])) h
      have hNest := nest_append d.toList [] hHead
      rw [List.map_cons, List.foldr_cons, ih]
      simpa using hNest

mutual

/-- The depths of the lines tell an outline, with children in place of its details. -/
theorem foldr_nest_entries (o : Outline) {depth : Nat} {later : List (Nat × Outline)}
    (h : ∀ e ∈ later.head?, e.1 ≤ depth) :
    (entries depth o).foldr nest later = (depth, o.plain) :: later := by
  cases o with
  | node title details children =>
      have hDeeper : ∀ e ∈ later.head?, e.1 ≤ depth + 1 := fun e he => Nat.le_succ_of_le (h e he)
      have hChildren := foldr_nest_entriesAll children hDeeper
      have hDetails := foldr_nest_details details (head?_map_append_le (plainAll children) hDeeper)
      have hNest := nest_append title.toList
        (details.map (fun d => Outline.node d [] []) ++ plainAll children) h
      rw [List.map_append, List.append_assoc] at hNest
      rw [entries, List.foldr_cons, List.foldr_append, hChildren, hDetails, hNest,
        String.ofList_toList, plain]

theorem foldr_nest_entriesAll (os : List Outline) {depth : Nat} {later : List (Nat × Outline)}
    (h : ∀ e ∈ later.head?, e.1 ≤ depth) :
    (entriesAll depth os).foldr nest later = (plainAll os).map ((depth, ·)) ++ later := by
  cases os with
  | nil => rfl
  | cons o os =>
      have hRest := foldr_nest_entriesAll os h
      rw [entriesAll, List.foldr_append, hRest,
        foldr_nest_entries o (head?_map_append_le (plainAll os) h)]
      rfl

end

/-! ## Depths from connectors -/

/-- What lies below something lies one step deeper. -/
def deepen (e : Nat × List Char) : Nat × List Char := (e.1 + 1, e.2)

mutual

theorem map_deepen_entries (o : Outline) (depth : Nat) :
    (entries depth o).map deepen = entries (depth + 1) o := by
  cases o with
  | node title details children =>
      simp only [entries, List.map_cons, List.map_append, List.map_map,
        map_deepen_entriesAll children (depth + 1)]
      rfl

theorem map_deepen_entriesAll (os : List Outline) (depth : Nat) :
    (entriesAll depth os).map deepen = entriesAll (depth + 1) os := by
  cases os with
  | nil => rfl
  | cons o os =>
      rw [entriesAll, entriesAll, List.map_append, map_deepen_entries o,
        map_deepen_entriesAll os]

end

theorem map_readLine_hang_last (title : List Char) (body : List (List Char)) :
    (hang last (title :: body)).map readLine = (1, title) :: (body.map readLine).map deepen := by
  simp only [hang, List.map_cons, List.map_map]
  rfl

/-- Whether something follows a part makes no difference to how its lines are read. -/
theorem map_readLine_hang_followed (part : List (List Char)) :
    (hang followed part).map readLine = (hang last part).map readLine := by
  cases part with
  | nil => rfl
  | cons title body =>
      rw [map_readLine_hang_last]
      simp only [hang, List.map_cons, List.map_map]
      rfl

theorem map_readLine_attach (ps : List (List (List Char))) :
    (attach ps).map readLine = ps.flatMap fun part => (hang last part).map readLine := by
  induction ps with
  | nil => rfl
  | cons part ps ih =>
      cases ps with
      | nil => simp [attach]
      | cons next rest =>
          rw [attach, List.map_append, map_readLine_hang_followed, ih]
          rfl

theorem flatMap_readLine_details (details : List String) :
    (details.map (fun d => [d.toList])).flatMap (fun part => (hang last part).map readLine) =
      details.map (fun d => (1, d.toList)) := by
  induction details with
  | nil => rfl
  | cons d details ih =>
      rw [List.map_cons, List.flatMap_cons, ih, map_readLine_hang_last]
      rfl

mutual

/-- The lines of a part are read with the depths of its titles and details. -/
theorem map_readLine_hang_lines (o : Outline) :
    (hang last o.lines).map readLine = entries 1 o := by
  cases o with
  | node title details children =>
      rw [lines, map_readLine_hang_last, map_readLine_attach, List.flatMap_append,
        flatMap_readLine_details, flatMap_readLine_parts children, List.map_append,
        map_deepen_entriesAll, List.map_map, entries]
      rfl

theorem flatMap_readLine_parts (os : List Outline) :
    (parts os).flatMap (fun part => (hang last part).map readLine) = entriesAll 1 os := by
  cases os with
  | nil => rfl
  | cons o os =>
      rw [parts, List.flatMap_cons, map_readLine_hang_lines o, flatMap_readLine_parts os,
        entriesAll]

end

/-- The lines of an outline tell it, with children in place of its details. -/
theorem ofLines_lines (o : Outline) : ofLines o.lines = o.plain := by
  cases o with
  | node title details children =>
      have hNone : ∀ e ∈ ([] : List (Nat × Outline)).head?, e.1 ≤ 1 := by simp
      have hDetails := foldr_nest_details details (head?_map_append_le (plainAll children) hNone)
      rw [lines, ofLines, map_readLine_attach, List.flatMap_append, flatMap_readLine_details,
        flatMap_readLine_parts, List.foldr_append, foldr_nest_entriesAll children hNone, hDetails,
        List.append_nil, ← List.map_append, map_snd_map, String.ofList_toList, plain]

/-! ## Lines from the text -/

theorem parts_append (os others : List Outline) :
    parts (os ++ others) = parts os ++ parts others := by
  induction os with
  | nil => rfl
  | cons o os ih => rw [List.cons_append, parts, ih, parts, List.cons_append]

theorem parts_details (details : List String) :
    parts (details.map (fun d => .node d [] [])) = details.map (fun d => [d.toList]) := by
  induction details with
  | nil => rfl
  | cons d details ih =>
      rw [List.map_cons, parts, ih, List.map_cons]
      rfl

mutual

/-- A detail is drawn like a child. -/
theorem lines_plain (o : Outline) : o.plain.lines = o.lines := by
  cases o with
  | node title details children =>
      rw [plain, lines, lines, parts_append, parts_details, parts_plainAll children, List.map_nil,
        List.nil_append]

theorem parts_plainAll (os : List Outline) : parts (plainAll os) = parts os := by
  cases os with
  | nil => rfl
  | cons o os => rw [plainAll, parts, parts, lines_plain o, parts_plainAll os]

end

theorem render_plain (o : Outline) : o.plain.render = o.render := by
  rw [render, render, lines_plain]

theorem length_hang (connectors : List Char × List Char) (part : List (List Char)) :
    (hang connectors part).length = part.length := by
  cases part <;> simp [hang]

theorem length_attach (ps : List (List (List Char))) :
    (attach ps).length = ps.flatten.length := by
  induction ps with
  | nil => rfl
  | cons part ps ih =>
      rw [List.flatten_cons, List.length_append]
      cases ps with
      | nil => rw [attach, length_hang, List.flatten_nil, List.length_nil, Nat.add_zero]
      | cons next rest => rw [attach, List.length_append, length_hang, ih]

theorem length_flatten_details (details : List String) :
    (details.map (fun d => [d.toList])).flatten.length = details.length := by
  induction details with
  | nil => rfl
  | cons d details ih =>
      rw [List.map_cons, List.flatten_cons, List.length_append, ih, List.length_cons, Nat.add_comm]
      rfl

mutual

/-- Every title and every detail has a line. -/
theorem length_lines (o : Outline) : o.lines.length = o.size := by
  cases o with
  | node title details children =>
      rw [lines, size, List.length_cons, length_attach, List.flatten_append, List.length_append,
        length_flatten_details, length_flatten_parts children]
      omega

theorem length_flatten_parts (os : List Outline) : (parts os).flatten.length = sizeAll os := by
  cases os with
  | nil => rfl
  | cons o os =>
      rw [parts, List.flatten_cons, List.length_append, length_lines o, length_flatten_parts os,
        sizeAll]

end

/-- Connectors without a newline put none into the lines behind them. -/
theorem newline_not_mem_hang {connectors : List Char × List Char} {part : List (List Char)}
    (hFirst : '\n' ∉ connectors.1) (hRest : '\n' ∉ connectors.2) (h : ∀ l ∈ part, '\n' ∉ l) :
    ∀ l ∈ hang connectors part, '\n' ∉ l := by
  cases part with
  | nil => simp [hang]
  | cons title body =>
      intro l hl
      rcases List.mem_cons.1 hl with rfl | hBody
      · simpa [hFirst] using h title (List.mem_cons_self ..)
      · obtain ⟨line, hLine, rfl⟩ := List.mem_map.1 hBody
        simpa [hRest] using h line (List.mem_cons_of_mem _ hLine)

theorem newline_not_mem_attach {ps : List (List (List Char))}
    (h : ∀ part ∈ ps, ∀ l ∈ part, '\n' ∉ l) : ∀ l ∈ attach ps, '\n' ∉ l := by
  induction ps with
  | nil => simp [attach]
  | cons part ps ih =>
      obtain ⟨hPart, hRest⟩ := List.forall_mem_cons.1 h
      cases ps with
      | nil => exact newline_not_mem_hang (by decide) (by decide) hPart
      | cons next rest =>
          intro l hl
          rcases List.mem_append.1 hl with hHere | hThere
          · exact newline_not_mem_hang (by decide) (by decide) hPart l hHere
          · exact ih hRest l hThere

mutual

theorem newline_not_mem_lines {o : Outline} (h : o.OneLined) : ∀ l ∈ o.lines, '\n' ∉ l := by
  cases o with
  | node title details children =>
      obtain ⟨hTitle, hDetails, hChildren⟩ := h
      rw [lines, List.forall_mem_cons]
      refine ⟨hTitle, newline_not_mem_attach fun part hPart => ?_⟩
      rcases List.mem_append.1 hPart with hDetail | hChild
      · obtain ⟨d, hd, rfl⟩ := List.mem_map.1 hDetail
        simpa using hDetails d hd
      · exact newline_not_mem_parts hChildren part hChild

theorem newline_not_mem_parts {os : List Outline} (h : OneLinedAll os) :
    ∀ part ∈ parts os, ∀ l ∈ part, '\n' ∉ l := by
  cases os with
  | nil => simp [parts]
  | cons o os =>
      obtain ⟨hHere, hRest⟩ := h
      rw [parts, List.forall_mem_cons]
      exact ⟨newline_not_mem_lines hHere, newline_not_mem_parts hRest⟩

end

theorem splitOn_render {o : Outline} (h : o.OneLined) :
    o.render.toList.splitOn '\n' = o.lines := by
  have hSome : o.lines ≠ [] := by cases o; simp [lines]
  rw [render, String.toList_ofList]
  exact List.splitOn_intercalate '\n' (newline_not_mem_lines h) hSome

/-- The text of an outline has a line for every title and every detail, and it tells the outline up
to the difference between details and children: two outlines have the same text exactly if they are
the same once every detail is a child. -/
theorem text_tells_outline {o : Outline} (h : o.OneLined) :
    (o.render.toList.splitOn '\n').length = o.size ∧ ofText o.render = o.plain ∧
      ∀ other : Outline, other.OneLined → (o.render = other.render ↔ o.plain = other.plain) := by
  have hTold {o : Outline} (h : o.OneLined) : ofText o.render = o.plain := by
    rw [ofText, splitOn_render h, ofLines_lines]
  refine ⟨?lines, hTold h, fun other hOther => ⟨fun hSame => ?told, fun hSame => ?drawn⟩⟩
  case lines => rw [splitOn_render h, length_lines]
  case told => rw [← hTold h, hSame, hTold hOther]
  case drawn => rw [← render_plain o, hSame, render_plain other]

/-- An outline whose texts start like its connectors. -/
def boxed : Outline :=
  .node "├─ story" ["└─ open"] [.node "│  ├─ beat" [] [.node "   tone" [] []], .node "" ["│"] []]

/-- The detail of the last part of `boxed` as a child, and its nested title one step higher. -/
def boxedOtherwise : Outline :=
  .node "├─ story" ["└─ open"] [.node "│  ├─ beat" [] [], .node "   tone" [] [],
    .node "" [] [.node "│" [] []]]

theorem text_tells_outline_boxed :
    (boxed.render.toList.splitOn '\n').length = 6 ∧ ofText boxed.render = boxed.plain ∧
      boxed.render ≠ boxedOtherwise.render := by
  have hBoxed : boxed.OneLined := by simp [boxed, OneLined, OneLinedAll]
  have hOtherwise : boxedOtherwise.OneLined := by simp [boxedOtherwise, OneLined, OneLinedAll]
  obtain ⟨hLines, hTold, hSame⟩ := text_tells_outline hBoxed
  refine ⟨hLines, hTold, fun hText => ?_⟩
  simpa [boxed, boxedOtherwise, plain, plainAll] using (hSame boxedOtherwise hOtherwise).1 hText

end StoryTrace.Outline
