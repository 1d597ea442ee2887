import Concierge.Json.Reader
import Concierge.Json.Writer
import Mathlib.Data.List.TakeWhile
import Mathlib.Tactic.IntervalCases

/-!
# What is written is read back

Data that is written on one line is read from that line again (`read?_compact`), provided that its numbers are
read from their digits, as whole numbers of 64 bits are (`legible_int`), that lists and records nest no deeper than
the reader follows them, and that nothing in it is unreadable. The reader takes from the front of a text what was
written there and leaves the rest; only behind a number the rest must not go on with it.
-/

namespace Concierge.Json

open Text

/-! ## Strings -/

theorem length_escape_pos (c : Char) : 0 < (escape c).length := by
  unfold escape
  split <;> (try split) <;> simp

theorem hexFour?_hexByte {n : Nat} (h : n < 32) (cs : List Char) :
    hexFour? ('0' :: '0' :: hexByte n ++ cs) = some (n, cs) := by
  have value : valueInBase? 16 ['0', '0', Nat.digitChar (n / 16), Nat.digitChar (n % 16)] = some n := by
    interval_cases n <;> decide
  simp [hexFour?, hexByte, value]

theorem units?_escape (c : Char) (fuel : Nat) (cs : List Char) :
    units? (fuel + 1) (escape c ++ cs) = (units? fuel cs).map fun p => (.char c :: p.1, p.2) := by
  unfold escape
  split
  · rfl
  · rfl
  · rfl
  · rfl
  · rfl
  · rfl
  · rfl
  · rename_i quote backslash _ _ _ _ _
    split
    · rename_i low
      have char : Unit16.ofCode c.toNat = .char c := by
        unfold Unit16.ofCode
        rw [if_neg (by omega), if_neg (by omega), Char.ofNat_toNat]
      show ((hexFour? ('0' :: '0' :: hexByte c.toNat ++ cs)).bind _) = _
      rw [hexFour?_hexByte low]
      simp [char]
    · rename_i high
      have plain : ¬(c = '\\' ∨ c.toNat < 0x20) := not_or.mpr ⟨backslash, high⟩
      simp only [List.singleton_append]
      rw [units?]
      · rw [if_neg plain]
      · exact quote
      · intro c cs same
        exact fun h => backslash same

theorem units?_escaped (s cs : List Char) {fuel : Nat} (h : s.length < fuel) :
    units? fuel (s.flatMap escape ++ '"' :: cs) = some (s.map .char, cs) := by
  induction s generalizing fuel with
  | nil =>
    obtain ⟨fuel, rfl⟩ := Nat.exists_eq_succ_of_ne_zero (Nat.ne_zero_of_lt h)
    rfl
  | cons c s ih =>
    obtain ⟨fuel, rfl⟩ := Nat.exists_eq_succ_of_ne_zero (Nat.ne_zero_of_lt h)
    rw [List.flatMap_cons, List.append_assoc, units?_escape, ih (Nat.lt_of_succ_lt_succ h)]
    rfl

theorem pairUp?_chars (s : List Char) : pairUp? (s.map .char) = some s := by
  induction s with
  | nil => rfl
  | cons c s ih => simp [pairUp?, ih]

theorem length_le_escaped (s : List Char) : s.length ≤ (s.flatMap escape).length := by
  induction s with
  | nil => exact Nat.le_refl _
  | cons c s ih =>
    have := length_escape_pos c
    simp only [List.flatMap_cons, List.length_append, List.length_cons]
    omega

theorem string?_escaped (s : String) (cs : List Char) :
    string? (s.toList.flatMap escape ++ '"' :: cs) = some (some s, cs) := by
  have short := length_le_escaped s.toList
  unfold string?
  rw [units?_escaped]
  · simp [pairUp?_chars]
  · simp only [List.length_append, List.length_cons]
    omega

/-! ## Numbers -/

/-- What stands behind a number does not go on with it. -/
def parted : List Char → Bool
  | [] => true
  | c :: _ => !(isDigit c || c = '.' || c = 'e' || c = 'E')

section

variable {cs rest more : List Char}

theorem parted_cons {c : Char} (h : parted (c :: cs) = true) :
    isDigit c = false ∧ c ≠ '.' ∧ ¬(c = 'e' ∨ c = 'E') := by
  simpa [parted, and_assoc] using h

theorem takeWhile_isDigit_append (apart : parted more = true) :
    (cs ++ more).takeWhile isDigit = cs.takeWhile isDigit := by
  induction cs with
  | nil =>
    cases more with
    | nil => rfl
    | cons c more => simp [(parted_cons apart).1]
  | cons c cs ih => simp only [List.cons_append, List.takeWhile_cons, ih]

theorem dropWhile_isDigit_append (apart : parted more = true) :
    (cs ++ more).dropWhile isDigit = cs.dropWhile isDigit ++ more := by
  induction cs with
  | nil =>
    cases more with
    | nil => rfl
    | cons c more => simp [(parted_cons apart).1]
  | cons c cs ih =>
    simp only [List.cons_append, List.dropWhile_cons, ih]
    split <;> rfl

theorem digits?_append {ds : List Char} (apart : parted more = true) (h : digits? cs = some (ds, rest)) :
    digits? (cs ++ more) = some (ds, rest ++ more) := by
  unfold digits? at h ⊢
  rw [takeWhile_isDigit_append apart, dropWhile_isDigit_append apart]
  split at h
  · cases h
  · cases h
    rfl

theorem map_digits?_append {α : Type} {a : α} (f : List Char → α) (apart : parted more = true)
    (h : (digits? cs).map (fun p => (f p.1, p.2)) = some (a, rest)) :
    (digits? (cs ++ more)).map (fun p => (f p.1, p.2)) = some (a, rest ++ more) := by
  obtain ⟨p, read, same⟩ := Option.map_eq_some_iff.mp h
  cases same
  rw [digits?_append apart read]
  rfl

theorem fraction?_of_ne {c : Char} (h : c ≠ '.') : fraction? (c :: cs) = some (none, c :: cs) := by
  unfold fraction?
  split
  · rename_i same
    cases same
    exact absurd rfl h
  · rfl

theorem fraction?_append {f : Option (List Char)} (apart : parted more = true) (h : fraction? cs = some (f, rest)) :
    fraction? (cs ++ more) = some (f, rest ++ more) := by
  cases cs with
  | nil =>
    cases h
    cases more with
    | nil => rfl
    | cons c more => exact fraction?_of_ne (parted_cons apart).2.1
  | cons c cs =>
    by_cases point : c = '.'
    · subst point
      exact map_digits?_append some apart h
    · rw [fraction?_of_ne point] at h
      cases h
      exact fraction?_of_ne point

theorem exponent?_of_not {c : Char} (h : ¬(c = 'e' ∨ c = 'E')) : exponent? (c :: cs) = some (none, c :: cs) := by
  simp only [exponent?, if_neg h]

theorem exponent?_minus {c : Char} (power : c = 'e' ∨ c = 'E') :
    exponent? (c :: '-' :: cs) = (digits? cs).map fun p => (some (true, p.1), p.2) := by
  simp only [exponent?, if_pos power]

theorem exponent?_plus {c : Char} (power : c = 'e' ∨ c = 'E') :
    exponent? (c :: '+' :: cs) = (digits? cs).map fun p => (some (false, p.1), p.2) := by
  simp only [exponent?, if_pos power]

theorem exponent?_of_ne {c sign : Char} (power : c = 'e' ∨ c = 'E') (minus : sign ≠ '-') (plus : sign ≠ '+') :
    exponent? (c :: sign :: cs) = (digits? (sign :: cs)).map fun p => (some (false, p.1), p.2) := by
  simp only [exponent?, if_pos power]
  split
  · rename_i same
    cases same
    exact absurd rfl minus
  · rename_i same
    cases same
    exact absurd rfl plus
  · rfl

theorem exponent?_append {e : Option (Bool × List Char)} (apart : parted more = true)
    (h : exponent? cs = some (e, rest)) : exponent? (cs ++ more) = some (e, rest ++ more) := by
  cases cs with
  | nil =>
    cases h
    cases more with
    | nil => rfl
    | cons c more => exact exponent?_of_not (parted_cons apart).2.2
  | cons c cs =>
    by_cases power : c = 'e' ∨ c = 'E'
    · cases cs with
      | nil =>
        simp only [exponent?, if_pos power] at h
        cases h
      | cons sign cs =>
        by_cases minus : sign = '-'
        · subst minus
          rw [exponent?_minus power] at h
          rw [List.cons_append, List.cons_append, exponent?_minus power]
          exact map_digits?_append (fun ds => some (true, ds)) apart h
        by_cases plus : sign = '+'
        · subst plus
          rw [exponent?_plus power] at h
          rw [List.cons_append, List.cons_append, exponent?_plus power]
          exact map_digits?_append (fun ds => some (false, ds)) apart h
        rw [exponent?_of_ne power minus plus] at h
        rw [List.cons_append, List.cons_append, exponent?_of_ne power minus plus]
        exact map_digits?_append (fun ds => some (false, ds)) apart h
    · rw [exponent?_of_not power] at h
      cases h
      exact exponent?_of_not power

def unsigned? (negative : Bool) (cs : List Char) : Option (Numeral × List Char) := do
  let (whole, cs) ← digits? cs
  if whole.head? = some '0' ∧ 1 < whole.length then none
  let (fraction, cs) ← fraction? cs
  let (exponent, cs) ← exponent? cs
  return (⟨negative, whole, fraction, exponent⟩, cs)

theorem numeral?_of_ne {c : Char} (h : c ≠ '-') : numeral? (c :: cs) = unsigned? false (c :: cs) := by
  unfold numeral?
  split
  rename_i same
  split at same
  · rename_i minus
    cases minus
    exact absurd rfl h
  · cases same
    rfl

theorem unsigned?_append {negative : Bool} {m : Numeral} (apart : parted more = true)
    (h : unsigned? negative cs = some (m, rest)) : unsigned? negative (cs ++ more) = some (m, rest ++ more) := by
  unfold unsigned? at h ⊢
  simp only [Option.bind_eq_bind, Option.bind_eq_some_iff] at h
  obtain ⟨w, whole, h⟩ := h
  rw [digits?_append apart whole]
  split at h
  · cases h
  rename_i leading
  simp only [Option.bind_eq_bind, Option.bind_some, if_neg leading, Option.bind_eq_some_iff] at h ⊢
  obtain ⟨f, fraction, e, exponent, same⟩ := h
  refine ⟨_, fraction?_append apart fraction, _, exponent?_append apart exponent, ?_⟩
  cases same
  rfl

theorem numeral?_append {m : Numeral} (apart : parted more = true) (h : numeral? cs = some (m, rest)) :
    numeral? (cs ++ more) = some (m, rest ++ more) := by
  cases cs with
  | nil => cases h
  | cons sign cs =>
    by_cases minus : sign = '-'
    · subst minus
      exact unsigned?_append apart h
    · rw [numeral?_of_ne minus] at h
      exact (numeral?_of_ne minus).trans (unsigned?_append apart h)

end

theorem isDigit_of_mem_toDigits {n : Nat} {c : Char} (h : c ∈ Nat.toDigits 10 n) : isDigit c = true :=
  Nat.isDigit_of_mem_toDigits (by decide) (by decide) h

theorem digits?_toDigits (n : Nat) : digits? (Nat.toDigits 10 n) = some (Nat.toDigits 10 n, []) := by
  have all : (Nat.toDigits 10 n).takeWhile isDigit = Nat.toDigits 10 n :=
    List.takeWhile_eq_self_iff.mpr fun c hc => isDigit_of_mem_toDigits hc
  have none : (Nat.toDigits 10 n).dropWhile isDigit = [] :=
    List.dropWhile_eq_nil_iff.mpr fun c hc => isDigit_of_mem_toDigits hc
  unfold digits?
  rw [all, none]
  split
  · rename_i empty
    exact absurd empty Nat.toDigits_ne_nil
  · rfl

theorem digitsValue_toDigits (n : Nat) : digitsValue (Nat.toDigits 10 n) = n := Nat.ofDigitChars_ten_toDigits

theorem head_toDigits {n : Nat} (h : 0 < n) : (Nat.toDigits 10 n).head? ≠ some '0' := by
  induction n using Nat.strongRecOn with
  | ind n ih =>
    by_cases small : n < 10
    · rw [Nat.toDigits_of_lt_base small]
      interval_cases n <;> decide
    · have first := ih (n / 10) (by omega) (by omega)
      rw [Nat.toDigits_of_base_le (by decide) (Nat.le_of_not_lt small)]
      cases front : Nat.toDigits 10 (n / 10) with
      | nil => exact absurd front Nat.toDigits_ne_nil
      | cons c cs =>
        rw [front] at first
        exact first

theorem no_leading_zero (n : Nat) : ¬((Nat.toDigits 10 n).head? = some '0' ∧ 1 < (Nat.toDigits 10 n).length) := by
  rintro ⟨zero, long⟩
  rcases Nat.eq_zero_or_pos n with rfl | positive
  · exact absurd long (by decide)
  · exact head_toDigits positive zero

theorem unsigned?_toDigits (negative : Bool) (n : Nat) :
    unsigned? negative (Nat.toDigits 10 n) = some (⟨negative, Nat.toDigits 10 n, none, none⟩, []) := by
  unfold unsigned?
  rw [digits?_toDigits]
  simp only [Option.bind_eq_bind, Option.bind_some, if_neg (no_leading_zero n)]
  rfl

def Legible (n : Number) : Prop := ∃ m, numeral? (number n) = some (m, []) ∧ m.number? = some n

theorem number_ofNat (n : Nat) : number (.int n) = Nat.toDigits 10 n :=
  String.toList_ofList

theorem number_negSucc (n : Nat) : number (.int (.negSucc n)) = '-' :: Nat.toDigits 10 (n + 1) := by
  show ("-" ++ (n + 1).repr).toList = _
  rw [String.toList_append]
  exact congrArg ('-' :: ·) String.toList_ofList

theorem numeral?_toDigits (n : Nat) :
    numeral? (Nat.toDigits 10 n) = some (⟨false, Nat.toDigits 10 n, none, none⟩, []) := by
  rw [← unsigned?_toDigits]
  cases digits : Nat.toDigits 10 n with
  | nil => exact absurd digits Nat.toDigits_ne_nil
  | cons c cs =>
    refine numeral?_of_ne fun minus => ?_
    have digit : isDigit c = true := isDigit_of_mem_toDigits (digits ▸ List.mem_cons_self)
    rw [minus] at digit
    cases digit

theorem legible_int {n : Int} (low : -(twoTo 63 : Int) ≤ n) (high : n < twoTo 64) : Legible (.int n) := by
  cases n with
  | ofNat n =>
    refine ⟨_, (congrArg numeral? (number_ofNat n)).trans (numeral?_toDigits n), ?_⟩
    have fits : n < twoTo 64 := Int.ofNat_lt.mp high
    simp [Numeral.number?, digitsValue_toDigits, fits]
  | negSucc n =>
    refine ⟨_, (congrArg numeral? (number_negSucc n)).trans (unsigned?_toDigits true (n + 1)), ?_⟩
    have fits : n + 1 ≤ twoTo 63 := by omega
    have value : -1 + -(n : Int) = .negSucc n := by omega
    simp [Numeral.number?, digitsValue_toDigits, fits, value]

/-! ## Data -/

def opens (c : Char) : Bool := isDigit c || ['-', '"', '[', '{', 'n', 't', 'f'].contains c

theorem skipBlanks_of_opens {c : Char} {cs : List Char} (h : opens c = true) : skipBlanks (c :: cs) = c :: cs := by
  have written : ¬(c = ' ' ∨ c = '\n' ∨ c = '\t' ∨ c = '\r') := by
    rintro (rfl | rfl | rfl | rfl) <;> cases h
  simp only [not_or] at written
  simp [skipBlanks, written]

theorem front_numeral {c : Char} {cs rest : List Char} {m : Numeral} (h : numeral? (c :: cs) = some (m, rest)) :
    c = '-' ∨ isDigit c = true := by
  by_contra other
  simp only [not_or, Bool.not_eq_true] at other
  have nothing : digits? (c :: cs) = none := by simp [digits?, other.2]
  rw [numeral?_of_ne other.1, unsigned?, nothing] at h
  cases h

theorem opens_numeral {c : Char} {cs rest : List Char} {m : Numeral} (h : numeral? (c :: cs) = some (m, rest)) :
    opens c = true := by
  rcases front_numeral h with rfl | digit
  · rfl
  · simp [opens, digit]

theorem value?_numeral {cs rest : List Char} {m : Numeral} (fuel depth : Nat) (h : numeral? cs = some (m, rest)) :
    value? (fuel + 1) depth cs = some (m.data, rest) := by
  cases cs with
  | nil => cases h
  | cons c cs =>
    have front := front_numeral h
    unfold value?
    rw [skipBlanks_of_opens (opens_numeral h)]
    -- a letter, a quotation mark or a bracket is neither a sign nor a digit
    split
    case h_7 => simp [h]
    all_goals
      rename_i same
      cases same
      exact absurd front (by decide)

mutual

/-- The data is read from its compact text: its numbers are, nothing in it is unreadable, and lists and records
do not nest too deep. -/
def Readable (depth : Nat) : Data → Prop
  | .null | .bool _ | .str _ => True
  | .num n => Legible n
  | .list xs => depth < maxDepth ∧ ReadableItems (depth + 1) xs
  | .record ms => depth < maxDepth ∧ ReadableMembers (depth + 1) ms
  | .unreadable => False

def ReadableItems (depth : Nat) : List Data → Prop
  | [] => True
  | x :: xs => Readable depth x ∧ ReadableItems depth xs

def ReadableMembers (depth : Nat) : List (String × Data) → Prop
  | [] => True
  | (_, v) :: ms => Readable depth v ∧ ReadableMembers depth ms

end

theorem opens_compact {depth : Nat} {d : Data} (h : Readable depth d) :
    ∃ c cs, compactChars d = c :: cs ∧ opens c = true := by
  cases d with
  | null => exact ⟨_, _, rfl, rfl⟩
  | bool b => cases b <;> exact ⟨_, _, rfl, rfl⟩
  | str s => exact ⟨_, _, rfl, rfl⟩
  | list xs => exact ⟨_, _, by rw [compactChars], rfl⟩
  | record ms => exact ⟨_, _, by rw [compactChars], rfl⟩
  | unreadable => cases h
  | num n =>
    rw [Readable] at h
    obtain ⟨m, text, -⟩ := h
    cases digits : number n with
    | nil =>
      rw [digits] at text
      cases text
    | cons c cs =>
      rw [digits] at text
      exact ⟨c, cs, digits, opens_numeral text⟩

theorem recordOf_members (ms : List (String × Data)) : recordOf (ms.map fun m => (some m.1, m.2)) = .record ms := by
  have named : (ms.map fun m => (some m.1, m.2)).mapM (fun m : Option String × Data => m.1.map fun k => (k, m.2)) =
      some ms := by
    induction ms with
    | nil => rfl
    | cons m ms ih => simp [List.mapM_cons, ih]
  unfold recordOf
  split
  · rename_i ns read
    rw [Option.some_inj.mp (read.symm.trans named)]
  · rename_i read
    cases read.symm.trans named

section

variable {c : Char} {cs rest : List Char} {fuel depth : Nat}

theorem value?_items {xs : List Data} {text : List Char} (front : skipBlanks text = c :: cs) (first : opens c = true)
    (h : items? fuel (depth + 1) (c :: cs) = some (xs, rest)) :
    value? (fuel + 1) depth ('[' :: text) = some (if depth < maxDepth then .list xs else .unreadable, rest) := by
  have bracket : skipBlanks ('[' :: text) = '[' :: text := skipBlanks_of_opens rfl
  unfold value?
  simp only [bracket, front]
  split
  · rename_i same
    cases same
    cases first
  · simp [h]

theorem value?_members {ms : List (String × Data)} {text : List Char} (front : skipBlanks text = '"' :: cs)
    (h : members? fuel (depth + 1) ('"' :: cs) = some (ms.map fun m => (some m.1, m.2), rest)) :
    value? (fuel + 1) depth ('{' :: text) = some (if depth < maxDepth then .record ms else .unreadable, rest) := by
  have brace : skipBlanks ('{' :: text) = '{' :: text := skipBlanks_of_opens rfl
  unfold value?
  simp [brace, front, h, recordOf_members]

theorem items?_last {x : Data} {tail : List Char} (h : value? fuel depth cs = some (x, tail))
    (ends : skipBlanks tail = ']' :: rest) : items? (fuel + 1) depth cs = some ([x], rest) := by
  simp [items?, h, ends]

theorem items?_more {x : Data} {xs : List Data} {tail : List Char} (h : value? fuel depth cs = some (x, ',' :: tail))
    (others : items? fuel depth tail = some (xs, rest)) : items? (fuel + 1) depth cs = some (x :: xs, rest) := by
  simp [items?, h, skipBlanks, others]

theorem members?_last {k : String} {v : Data} {tail : List Char} (h : value? fuel depth cs = some (v, tail))
    (ends : skipBlanks tail = '}' :: rest) :
    members? (fuel + 1) depth (quoted k ++ ':' :: cs) = some ([(some k, v)], rest) := by
  have quote (cs : List Char) : skipBlanks ('"' :: cs) = '"' :: cs := skipBlanks_of_opens rfl
  have colon : skipBlanks (':' :: cs) = ':' :: cs := rfl
  simp [members?, quoted, expect?, string?_escaped, quote, colon, h, ends]

theorem members?_more {k : String} {v : Data} {ms : List (Option String × Data)} {tail : List Char}
    (h : value? fuel depth cs = some (v, ',' :: tail)) (others : members? fuel depth tail = some (ms, rest)) :
    members? (fuel + 1) depth (quoted k ++ ':' :: cs) = some ((some k, v) :: ms, rest) := by
  simp [members?, quoted, expect?, string?_escaped, h, skipBlanks, others]

end

theorem value?_quoted (s : String) (fuel depth : Nat) (rest : List Char) :
    value? (fuel + 1) depth (quoted s ++ rest) = some (.str s, rest) := by
  simp [value?, quoted, skipBlanks, string?_escaped]

theorem compactChars_length {depth : Nat} {d : Data} (h : Readable depth d) : 0 < (compactChars d).length := by
  obtain ⟨c, cs, text, -⟩ := opens_compact h
  simp [text]

theorem compactItems_more (x y : Data) (xs : List Data) :
    compactItems (x :: y :: xs) = compactChars x ++ ',' :: compactItems (y :: xs) := by
  simp [compactItems]

theorem compactMembers_last (k : String) (v : Data) :
    compactMembers [(k, v)] = quoted k ++ ':' :: (compactChars v ++ ['}']) := by
  simp [compactMembers]

theorem compactMembers_more (k : String) (v : Data) (m : String × Data) (ms : List (String × Data)) :
    compactMembers ((k, v) :: m :: ms) = quoted k ++ ':' :: (compactChars v ++ ',' :: compactMembers (m :: ms)) := by
  simp [compactMembers]

theorem opens_items {depth : Nat} {x : Data} {xs : List Data} (h : Readable depth x) :
    ∃ c cs, compactItems (x :: xs) = c :: cs ∧ opens c = true := by
  obtain ⟨c, cs, text, first⟩ := opens_compact h
  cases xs with
  | nil => exact ⟨c, cs ++ [']'], by rw [compactItems, text, List.cons_append], first⟩
  | cons y ys =>
    exact ⟨c, cs ++ ',' :: compactItems (y :: ys), by rw [compactItems_more, text, List.cons_append], first⟩

theorem quote_members (m : String × Data) (ms : List (String × Data)) :
    ∃ cs, compactMembers (m :: ms) = '"' :: cs := by
  cases ms with
  | nil => exact ⟨_, compactMembers_last m.1 m.2⟩
  | cons n ns => exact ⟨_, compactMembers_more m.1 m.2 n ns⟩

mutual

theorem value?_compact {d : Data} {fuel depth : Nat} {rest : List Char} (h : Readable depth d)
    (apart : parted rest = true) (enough : 2 * (compactChars d).length ≤ fuel) :
    value? fuel depth (compactChars d ++ rest) = some (d, rest) := by
  have front := compactChars_length h
  obtain ⟨fuel, rfl⟩ : ∃ n, fuel = n + 1 := ⟨fuel - 1, by omega⟩
  match d with
  | .null | .bool true | .bool false => rfl
  | .unreadable => simp [Readable] at h
  | .num n =>
    rw [Readable] at h
    obtain ⟨m, text, value⟩ := h
    have data : m.data = .num n := by simp [Numeral.data, value]
    rw [compactChars, value?_numeral fuel depth (numeral?_append apart text), data]
    rfl
  | .str s => exact value?_quoted s fuel depth rest
  | .list [] =>
    simp only [Readable] at h
    simp [compactChars, compactItems, value?, skipBlanks, h]
  | .list (x :: xs) =>
    simp only [Readable] at h
    rw [compactChars, List.length_cons] at enough
    have items : items? fuel (depth + 1) (compactItems (x :: xs) ++ rest) = some (x :: xs, rest) :=
      items?_compact (List.cons_ne_nil x xs) h.2 (by omega)
    obtain ⟨c, cs, text, first⟩ := opens_items h.2.1
    rw [compactChars, List.cons_append]
    rw [text, List.cons_append] at items ⊢
    rw [value?_items (skipBlanks_of_opens first) first items, if_pos h.1]
  | .record [] =>
    simp only [Readable] at h
    simp [compactChars, compactMembers, value?, skipBlanks, h, recordOf]
  | .record (m :: ms) =>
    simp only [Readable] at h
    rw [compactChars, List.length_cons] at enough
    have members : members? fuel (depth + 1) (compactMembers (m :: ms) ++ rest) = some (_, rest) :=
      members?_compact (List.cons_ne_nil m ms) h.2 (by omega)
    obtain ⟨cs, text⟩ := quote_members m ms
    rw [compactChars, List.cons_append]
    rw [text, List.cons_append] at members ⊢
    rw [value?_members (skipBlanks_of_opens rfl) members, if_pos h.1]

theorem items?_compact {xs : List Data} {fuel depth : Nat} {rest : List Char} (filled : xs ≠ [])
    (h : ReadableItems depth xs) (enough : 2 * (compactItems xs).length ≤ fuel) :
    items? fuel depth (compactItems xs ++ rest) = some (xs, rest) := by
  match xs with
  | [] => exact absurd rfl filled
  | [x] =>
    rw [ReadableItems] at h
    have front := compactChars_length h.1
    rw [compactItems, List.length_append, List.length_singleton] at enough
    obtain ⟨fuel, rfl⟩ : ∃ n, fuel = n + 1 := ⟨fuel - 1, by omega⟩
    have item : value? fuel depth (compactChars x ++ ']' :: rest) = some (x, ']' :: rest) :=
      value?_compact h.1 rfl (by omega)
    rw [compactItems, List.append_assoc]
    exact items?_last item rfl
  | x :: y :: xs =>
    rw [ReadableItems] at h
    have front := compactChars_length h.1
    rw [compactItems_more, List.length_append, List.length_cons] at enough
    obtain ⟨fuel, rfl⟩ : ∃ n, fuel = n + 1 := ⟨fuel - 1, by omega⟩
    have item : value? fuel depth (compactChars x ++ ',' :: (compactItems (y :: xs) ++ rest)) = some (x, _) :=
      value?_compact h.1 rfl (by omega)
    have items : items? fuel depth (compactItems (y :: xs) ++ rest) = some (y :: xs, rest) :=
      items?_compact (List.cons_ne_nil y xs) h.2 (by omega)
    rw [compactItems_more, List.append_assoc]
    exact items?_more item items

theorem members?_compact {ms : List (String × Data)} {fuel depth : Nat} {rest : List Char} (filled : ms ≠ [])
    (h : ReadableMembers depth ms) (enough : 2 * (compactMembers ms).length ≤ fuel) :
    members? fuel depth (compactMembers ms ++ rest) = some (ms.map fun m => (some m.1, m.2), rest) := by
  match ms with
  | [] => exact absurd rfl filled
  | [(k, v)] =>
    rw [ReadableMembers] at h
    rw [compactMembers_last] at enough ⊢
    simp only [List.length_append, List.length_cons] at enough
    obtain ⟨fuel, rfl⟩ : ∃ n, fuel = n + 1 := ⟨fuel - 1, by omega⟩
    have value : value? fuel depth (compactChars v ++ '}' :: rest) = some (v, '}' :: rest) :=
      value?_compact h.1 rfl (by omega)
    rw [List.append_assoc, List.cons_append, List.append_assoc]
    exact members?_last value rfl
  | (k, v) :: m :: ms =>
    rw [ReadableMembers] at h
    rw [compactMembers_more] at enough ⊢
    simp only [List.length_append, List.length_cons] at enough
    obtain ⟨fuel, rfl⟩ : ∃ n, fuel = n + 1 := ⟨fuel - 1, by omega⟩
    have value : value? fuel depth (compactChars v ++ ',' :: (compactMembers (m :: ms) ++ rest)) = some (v, _) :=
      value?_compact h.1 rfl (by omega)
    have others : members? fuel depth (compactMembers (m :: ms) ++ rest) = some (_, rest) :=
      members?_compact (List.cons_ne_nil m ms) h.2 (by omega)
    rw [List.append_assoc, List.cons_append, List.append_assoc]
    exact members?_more value others

end

/-- **What is written in one line is read back.** -/
theorem read?_compact {d : Data} (h : Readable 0 d) : read? (compact d) = some d := by
  have read : value? (2 * (compactChars d).length + 2) 0 (compactChars d ++ []) = some (d, []) :=
    value?_compact h rfl (by omega)
  rw [List.append_nil] at read
  have chars : (compact d).toList = compactChars d := String.toList_ofList
  simp only [read?, chars, read, Option.bind_eq_bind, Option.bind_some]
  rfl

end Concierge.Json
