/-!
# Blank characters and trimming

A character is blank when Unicode gives it the property White_Space. Trimming drops blank
characters from the ends of a text and a text is blank when nothing is left of it.
-/

namespace Concierge.Text

/-- The characters with the property White_Space. -/
def isBlank (c : Char) : Bool :=
  let n := c.toNat
  (0x09 ≤ n && n ≤ 0x0D) || n = 0x20 || n = 0x85 || n = 0xA0 || n = 0x1680 ||
    (0x2000 ≤ n && n ≤ 0x200A) || n = 0x2028 || n = 0x2029 || n = 0x202F || n = 0x205F || n = 0x3000

def dropWhileEnd (p : Char → Bool) (cs : List Char) : List Char :=
  (cs.reverse.dropWhile p).reverse

def trimStart (cs : List Char) : List Char := cs.dropWhile isBlank

def trimEnd (cs : List Char) : List Char := dropWhileEnd isBlank cs

def trimChars (cs : List Char) : List Char := trimEnd (trimStart cs)

def trim (s : String) : String := String.ofList (trimChars s.toList)

def blank (s : String) : Bool := s.toList.all isBlank

end Concierge.Text
