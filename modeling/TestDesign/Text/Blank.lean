import TestDesign.Text.Table

/-!
# TestDesign.Text.Blank

Blank characters, and texts without the blanks at their ends. Blank are the space, the control
characters from tab to carriage return, the next-line and no-break characters and the spaces and
separators of the general punctuation block.
-/

namespace TestDesign.Text

def blankTable : Array (Nat × Nat) := #[
  (0x09, 0x0d), (0x20, 0x20), (0x85, 0x85), (0xa0, 0xa0), (0x1680, 0x1680), (0x2000, 0x200a),
  (0x2028, 0x2029), (0x202f, 0x202f), (0x205f, 0x205f), (0x3000, 0x3000)]

def isBlank (c : Char) : Bool := inTable blankTable c

theorem isBlank_space : isBlank ' ' = true := by simp [isBlank, inTable, blankTable]

/-- The visible characters of ASCII are no blanks. -/
theorem not_isBlank_of_visible {c : Char} (hlo : 32 < c.toNat) (hhi : c.toNat < 127) :
    isBlank c = false := by
  simp [isBlank, inTable, blankTable]
  omega

def trimStart (cs : List Char) : List Char := cs.dropWhile isBlank

def trimEnd (cs : List Char) : List Char := (cs.reverse.dropWhile isBlank).reverse

def trimChars (cs : List Char) : List Char := trimEnd (trimStart cs)

/-- The text without the blanks at its ends. -/
def trim (s : String) : String := String.ofList (trimChars s.toList)

end TestDesign.Text
