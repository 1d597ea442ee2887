import Concierge.Number.Power
import Concierge.Text.Digits
import Concierge.Unicode.Spans

/-!
# Letters of all scripts in ASCII

A text is written as its ASCII characters, a hyphen if there are any, and a number for each of its
other characters in the order of their code points. A number tells how many steps lie between an
insertion and the one before it, where a step goes to the next place in the text and, behind the last
place, to the first place with the next code point. Numbers are written in 36 digits, the least
significant first; a digit below its threshold is the last one. The thresholds adapt to the numbers
seen so far.
-/

namespace Concierge.Domain.Punycode

open Unicode

def firstCode : Nat := 0x80

def firstBias : Nat := 72

/-- The threshold of the digit with `k` digits before it. -/
def threshold (bias k : Nat) : Nat := max 1 (min 26 (36 * (k + 1) - bias))

/-- Divide by 35 until 455 is not exceeded, with the number of divisions. -/
def scale (n : Nat) : Nat × Nat :=
  if 455 < n then ((scale (n / 35)).1, (scale (n / 35)).2 + 1) else (n, 0)

/-- The bias after a number, by which the text has come to `size` characters. -/
def nextBias (n size : Nat) (isFirst : Bool) : Nat :=
  let n := if isFirst then n / 700 else n / 2
  let (n, divisions) := scale (n + n / size)
  36 * divisions + 36 * n / (n + 38)

def digitChar (d : Nat) : Char := if d < 26 then Char.ofNat (97 + d) else Char.ofNat (22 + d)

def digitValue? (c : Char) : Option Nat :=
  if 'a' ≤ c ∧ c ≤ 'z' then some (c.toNat - 97)
  else if Text.isDigit c then some (c.toNat - 22)
  else none

/-! ## Reading -/

/-- Read a number, behind `k` digits that came to `value`, with the weight of the next digit.
Numbers stay below two to the power of 32. -/
def readNumber? (bias : Nat) : (k weight value : Nat) → List Char → Option (Nat × List Char)
  | _, _, _, [] => none
  | k, weight, value, c :: cs =>
    match digitValue? c with
    | none => none
    | some d =>
      let t := threshold bias k
      let value := value + d * weight
      if twoTo 32 ≤ value then none
      else if d < t then some (value, cs)
      else if twoTo 32 ≤ weight * (36 - t) then none
      else readNumber? bias (k + 1) (weight * (36 - t)) value cs

theorem length_readNumber? {bias k weight value n : Nat} {cs rest : List Char}
    (h : readNumber? bias k weight value cs = some (n, rest)) : rest.length < cs.length := by
  induction cs generalizing k weight value with
  | nil => simp [readNumber?] at h
  | cons c cs ih =>
    simp only [readNumber?] at h
    split at h
    · simp at h
    · split at h
      · simp at h
      · split at h
        · simp at h; simp [h.2]
        · split at h
          · simp at h
          · have := ih h; simp; omega

/-- Insert the characters that the numbers stand for into a text. -/
def insertAll (bias code place : Nat) (isFirst : Bool) (text cs : List Char) : Option (List Char) :=
  match cs with
  | [] => some text
  | c :: cs =>
    match h : readNumber? bias 0 1 0 (c :: cs) with
    | none => none
    | some (n, rest) =>
      let size := text.length + 1
      let code := code + (place + n) / size
      let place := (place + n) % size
      if code.isValidChar then
        insertAll (nextBias n size isFirst) code (place + 1) false
          (text.insertIdx place (Char.ofNat code)) rest
      else none
termination_by cs.length
decreasing_by simpa using length_readNumber? h

def splitLastHyphen (cs : List Char) : List Char × List Char :=
  let after := (cs.reverse.takeWhile (· ≠ '-')).reverse
  let before := cs.take (cs.length - after.length - 1)
  if before.isEmpty then ([], cs) else (before, after)

def decode? (cs : List Char) : Option (List Char) :=
  let (text, numbers) := splitLastHyphen cs
  insertAll firstBias firstCode 0 true text numbers

/-! ## Writing -/

theorem threshold_pos (bias k : Nat) : 1 ≤ threshold bias k := by
  unfold threshold
  omega

def writeNumber (bias k n : Nat) : List Char :=
  let t := threshold bias k
  if n < t then [digitChar n]
  else digitChar (t + (n - t) % (36 - t)) :: writeNumber bias (k + 1) ((n - t) / (36 - t))
termination_by n
decreasing_by
  have := threshold_pos bias k
  have := Nat.div_le_self (n - threshold bias k) (36 - threshold bias k)
  omega

/-- What is known while a text is written: how many characters are in place, the bias, the steps since
the last insertion and the numbers so far. -/
structure Progress where
  size : Nat
  bias : Nat := firstBias
  isFirst : Bool := true
  steps : Nat := 0
  numbers : List Char := []

def Progress.pass (code : Nat) (p : Progress) (c : Char) : Progress :=
  if c.toNat < code then { p with steps := p.steps + 1 }
  else if c.toNat = code then
    { size := p.size + 1
      bias := nextBias p.steps (p.size + 1) p.isFirst
      isFirst := false
      steps := 0
      numbers := p.numbers ++ writeNumber p.bias 0 p.steps }
  else p

def Progress.insert (text : List Char) (p : Progress) (code : Nat) : List Nat → Progress
  | [] => p
  | c :: cs =>
    let p := { p with steps := p.steps + (c - code) * (p.size + 1) }
    let p := text.foldl (pass c) p
    insert text { p with steps := p.steps + 1 } (c + 1) cs

def insertCode (n : Nat) : List Nat → List Nat
  | [] => [n]
  | m :: ms => if n < m then n :: m :: ms else if n = m then m :: ms else m :: insertCode n ms

def codesToInsert (text : List Char) : List Nat :=
  ((text.filter (!isAscii ·)).map Char.toNat).foldr insertCode []

def encode (text : List Char) : List Char :=
  let plain := text.filter isAscii
  plain ++ (if plain.isEmpty then [] else ['-']) ++
    (Progress.insert text { size := plain.length } firstCode (codesToInsert text)).numbers

end Concierge.Domain.Punycode
