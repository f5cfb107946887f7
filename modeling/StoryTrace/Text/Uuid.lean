import StoryTrace.Text.Hex

/-!
# Identifiers

The text of an identifier with 122 free bits: groups of 8, 4, 4, 4 and 12 hexadecimal digits. The
third group starts with the version, four, and the fourth with the two bits of the variant.
-/

namespace StoryTrace.Text.Uuid

/-- The digits of the five groups. -/
def groups (bits : Nat) : List (List Char) := [
  Hex.digits 8 (bits >>> 90),
  Hex.digits 4 (bits >>> 74),
  Hex.digits 4 (0x4000 + bits >>> 62 % 0x1000),
  Hex.digits 4 (0x8000 + bits >>> 48 % 0x4000),
  Hex.digits 12 bits]

def ofBits (bits : Nat) : String :=
  String.intercalate "-" ((groups bits).map String.ofList)

end StoryTrace.Text.Uuid
