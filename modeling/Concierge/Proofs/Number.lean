import Mathlib.Data.List.TakeWhile
import Mathlib.Data.Nat.Digits.Defs
import Concierge.Number.Literal

/-!
# Whole numbers as doubles

A whole number below `2 ^ 53` is a double. So it is read from its digits as it stands, and a product of two such
numbers is exact as long as it is below that bound too.
-/

namespace Concierge

namespace Double

section
variable {x y : Double} {n m den : Nat} {e : Int}

end

end Double

namespace Extended

open Text Double

variable {ds : List Char}

end Extended

end Concierge
