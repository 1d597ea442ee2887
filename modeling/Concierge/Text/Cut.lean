/-!
# Cutting a text to a number of bytes

The length of a text is counted in bytes of UTF-8. A cut never splits a character: it keeps the
characters that fit and stops at the first one that does not.
-/

namespace Concierge.Text

def byteLength : List Char → Nat
  | [] => 0
  | c :: cs => c.utf8Size + byteLength cs

def takeBytes : Nat → List Char → List Char
  | _, [] => []
  | budget, c :: cs =>
    if c.utf8Size ≤ budget then c :: takeBytes (budget - c.utf8Size) cs else []

/-- The longest part from the front of at most `max` bytes that ends with a whole character. -/
def cut (s : String) (max : Nat) : String := String.ofList (takeBytes max s.toList)

/-- The text itself if it has at most `max` bytes, else its cut followed by three dots. -/
def abridge (s : String) (max : Nat) : String :=
  if s.utf8ByteSize ≤ max then s else cut s max ++ "..."

end Concierge.Text
