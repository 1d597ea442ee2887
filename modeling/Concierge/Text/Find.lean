/-!
# Finding a piece of text

`splitFirst? hit n cs` splits before the first place where `hit` holds of what follows and drops
the next `n` characters. `splitOn` splits at every character of a class.
-/

namespace Concierge.Text

/-- The lower case of `A` to `Z`; every other character is kept. -/
def lower (c : Char) : Char := c.toLower

def startsWith (word cs : List Char) : Bool := word.isPrefixOf cs

/-- `cs` begins with `word`, the case of `A` to `Z` apart. -/
def startsWithNoCase (word cs : List Char) : Bool :=
  (word.map lower).isPrefixOf ((cs.take word.length).map lower)

/-- What precedes the first place where `hit` holds, and what follows the `n` characters there. -/
def splitFirst? (hit : List Char → Bool) (n : Nat) : List Char → Option (List Char × List Char)
  | [] => if hit [] then some ([], []) else none
  | c :: cs =>
    if hit (c :: cs) then some ([], (c :: cs).drop n)
    else (splitFirst? hit n cs).map fun (before, after) => (c :: before, after)

def contains (word cs : List Char) : Bool := (splitFirst? (startsWith word) 0 cs).isSome

def splitOn (p : Char → Bool) (cs : List Char) : List (List Char) :=
  let (piece, pieces) := cs.foldr
    (fun c (piece, pieces) => if p c then ([], piece :: pieces) else (c :: piece, pieces)) ([], [])
  piece :: pieces

/-- The pieces between the non-overlapping occurrences of two equal characters `c`, taken from
the left. -/
def piecesAtPair (c : Char) : List Char → List (List Char)
  | [] => [[]]
  | [a] => [[a]]
  | a :: b :: cs =>
    if a = c ∧ b = c then [] :: piecesAtPair c cs
    else match piecesAtPair c (b :: cs) with
      | [] => [[a]]
      | p :: ps => (a :: p) :: ps

/-- The lines of a text, each with its line feed. -/
def lines : List Char → List (List Char)
  | [] => []
  | c :: cs =>
    if c = '\n' then [c] :: lines cs
    else match lines cs with
      | [] => [[c]]
      | l :: ls => (c :: l) :: ls

theorem flatten_lines (cs : List Char) : (lines cs).flatten = cs := by
  induction cs with
  | nil => rfl
  | cons c cs ih =>
    unfold lines
    split
    · simp [ih]
    · split <;> rename_i h <;> rw [h] at ih <;> simp at ih <;> simp [← ih]

end Concierge.Text
