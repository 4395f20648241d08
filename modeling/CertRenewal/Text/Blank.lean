/-!
# Blank characters and trimming

Text is handled as a list of characters, so that trimming and cutting are ordinary list functions.
A character is blank when Unicode gives it the property `White_Space`; `trim` removes the blank
characters at both ends of a text and leaves the inner ones alone.
-/

namespace CertRenewal.Text

/-- The characters with the Unicode property `White_Space`. -/
def isBlank (c : Char) : Bool :=
  let n := c.toNat
  (0x9 ≤ n && n ≤ 0xD) || n == 0x20 || n == 0x85 || n == 0xA0 || n == 0x1680 ||
  (0x2000 ≤ n && n ≤ 0x200A) || n == 0x2028 || n == 0x2029 || n == 0x202F || n == 0x205F ||
  n == 0x3000

/-- Removes from the end of a list the elements that satisfy `p`, up to the last one that does
not. -/
def dropEndWhile (p : α → Bool) (s : List α) : List α :=
  (s.reverse.dropWhile p).reverse

def trimStart (s : List Char) : List Char := s.dropWhile isBlank

def trimEnd (s : List Char) : List Char := dropEndWhile isBlank s

def trim (s : List Char) : List Char := trimEnd (trimStart s)

end CertRenewal.Text
