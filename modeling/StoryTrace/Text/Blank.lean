/-!
# Blank characters and lines

White space in the sense of the Unicode property `White_Space`, and the two cuts that depend on
single characters of a text: trimming it and dividing it into lines.
-/

namespace StoryTrace.Text

/-- The characters with the Unicode property `White_Space`. -/
def isBlank (c : Char) : Bool :=
  let n := c.toNat
  (0x09 ≤ n && n ≤ 0x0D) || n == 0x20 || n == 0x85 || n == 0xA0 || n == 0x1680 ||
    (0x2000 ≤ n && n ≤ 0x200A) || n == 0x2028 || n == 0x2029 || n == 0x202F || n == 0x205F ||
    n == 0x3000

/-- A text is blank when it holds no character that is not white space. -/
def blank (s : String) : Bool := s.toList.all isBlank

def trimStart (cs : List Char) : List Char := cs.dropWhile isBlank

def trimEnd (cs : List Char) : List Char := (cs.reverse.dropWhile isBlank).reverse

/-- The text without the white space around it. -/
def trim (s : String) : String := String.ofList (trimEnd (trimStart s.toList))

/-- The lines of a text. A line ends at a newline, which may follow a carriage return, or at the
end of the text; no empty line follows a final newline. -/
def linesOf : List Char → List (List Char)
  | [] => []
  | '\r' :: '\n' :: rest => [] :: linesOf rest
  | '\n' :: rest => [] :: linesOf rest
  | c :: rest =>
    match linesOf rest with
    | [] => [[c]]
    | line :: more => (c :: line) :: more

def lines (s : String) : List String := (linesOf s.toList).map String.ofList

/-- The texts one under the other, without a newline after the last. -/
def joinLines (parts : List String) : String := String.intercalate "\n" parts

@[simp] theorem linesOf_nil : linesOf [] = [] := rfl

@[simp] theorem linesOf_newline (rest : List Char) :
    linesOf ('\n' :: rest) = [] :: linesOf rest := by
  rw [linesOf]

end StoryTrace.Text
