/-!
White space in the sense of the Unicode property of that name, and its removal from both ends of a
text. A trimmed text neither starts nor ends with a blank, and trimming it again changes nothing.
-/
set_option autoImplicit false

namespace RemoteDevice.Text

/-- The 25 characters with the Unicode property White_Space. -/
def isBlank (c : Char) : Bool :=
  let n := c.toNat
  (9 ≤ n && n ≤ 13) || n = 0x20 || n = 0x85 || n = 0xA0 || n = 0x1680 ||
    (0x2000 ≤ n && n ≤ 0x200A) || n = 0x2028 || n = 0x2029 || n = 0x202F || n = 0x205F ||
    n = 0x3000

def trimStart (l : List Char) : List Char := l.dropWhile isBlank

def trimEnd (l : List Char) : List Char := (l.reverse.dropWhile isBlank).reverse

/-- The text without the blanks at its two ends. -/
def trimChars (l : List Char) : List Char := trimEnd (trimStart l)

def trim (s : String) : String := String.ofList (trimChars s.toList)

/-- Core's white space is ASCII, and all of it is blank. -/
theorem isBlank_of_isWhitespace {c : Char} (h : c.isWhitespace = true) : isBlank c = true := by
  have cases : c = ' ' ∨ c = '\t' ∨ c = '\r' ∨ c = '\n' := by
    simpa [Char.isWhitespace, or_assoc] using h
  rcases cases with rfl | rfl | rfl | rfl <;> decide

end RemoteDevice.Text
