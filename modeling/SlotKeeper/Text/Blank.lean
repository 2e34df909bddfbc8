/-!
# Blank characters

The characters of the Unicode `White_Space` property, and trimming by them. Environment
values and timestamps are trimmed by this class, so a zero-width space (which is not in it) is
kept, while an ideographic space (which is) is dropped.
-/

namespace SlotKeeper.Text

/-- The code point ranges of `White_Space`, each closed at both ends. -/
def blankRanges : List (Nat × Nat) :=
  [(0x09, 0x0D), (0x20, 0x20), (0x85, 0x85), (0xA0, 0xA0), (0x1680, 0x1680),
   (0x2000, 0x200A), (0x2028, 0x2029), (0x202F, 0x202F), (0x205F, 0x205F),
   (0x3000, 0x3000)]

/-- A character is blank when its code point lies in one of `blankRanges`. -/
def isBlank (c : Char) : Bool :=
  blankRanges.any fun r => r.1 ≤ c.toNat && c.toNat ≤ r.2

example : isBlank ' ' = true := by decide

example : isBlank (Char.ofNat 0x200B) = false := by decide

/-- Drops the blank characters at the front of a character list. -/
def dropBlank : List Char → List Char
  | [] => []
  | c :: rest => if isBlank c then dropBlank rest else c :: rest

/-- A text without the blank characters at either end. -/
def trimBlank (s : String) : String :=
  String.ofList (dropBlank (dropBlank s.toList).reverse).reverse

/-- A text without the blank characters at its front. -/
def trimBlankStart (s : String) : String :=
  String.ofList (dropBlank s.toList)

end SlotKeeper.Text
