import Concierge.Proofs.Json

/-!
# What is written over lines is read again

Every text that is written is read, whatever it was written from (`read?_pretty`). What is read there is what was
written (`asRead`), but for numbers, which come to what their digits say, and for lists and records that nest
deeper than the reader follows them, which are lost.
-/

namespace Concierge.Json

open Text

/-! ## The text of a number -/

def Digits (ds : List Char) : Prop := ds ≠ [] ∧ ∀ c ∈ ds, isDigit c = true

section

variable {ds fs es cs : List Char}

theorem digits?_front (h : Digits ds) (stops : ∀ c ∈ cs.head?, isDigit c = false) :
    digits? (ds ++ cs) = some (ds, cs) := by
  have taken : (ds ++ cs).takeWhile isDigit = ds := by
    rw [List.takeWhile_append_of_pos h.2]
    cases cs with
    | nil => simp
    | cons c cs => simp [stops c rfl]
  have left : (ds ++ cs).dropWhile isDigit = cs := by
    rw [List.dropWhile_append_of_pos h.2]
    cases cs with
    | nil => rfl
    | cons c cs => simp [stops c rfl]
  unfold digits?
  rw [taken, left]
  split
  · exact absurd rfl h.1
  · rfl

theorem digits_toDigits (n : Nat) : Digits (Nat.toDigits 10 n) :=
  ⟨Nat.toDigits_ne_nil, fun _ hc => isDigit_of_mem_toDigits hc⟩

/-- The whole text is a numeral, with or without a sign. -/
def Unsigned (cs : List Char) : Prop := ∀ negative, ∃ m, unsigned? negative cs = some (m, [])

theorem unsigned_of_parts {f : Option (List Char)} {e : Option (Bool × List Char)} {tail power : List Char}
    (whole : Digits ds) (leading : ¬(ds.head? = some '0' ∧ 1 < ds.length)) (fraction : fraction? tail = some (f, power))
    (exponent : exponent? power = some (e, [])) (stops : ∀ c ∈ tail.head?, isDigit c = false) :
    Unsigned (ds ++ tail) := by
  refine fun negative => ⟨⟨negative, ds, f, e⟩, ?_⟩
  unfold unsigned?
  rw [digits?_front whole stops]
  simp only [Option.bind_eq_bind, Option.bind_some, if_neg leading, fraction, exponent]
  rfl

theorem Unsigned.signed (h : Unsigned cs) (negative : Bool) :
    ∃ m, numeral? ((if negative then ['-'] else []) ++ cs) = some (m, []) := by
  obtain ⟨m, read⟩ := h negative
  refine ⟨m, ?_⟩
  cases negative with
  | true => exact read
  | false =>
    cases cs with
    | nil => cases read
    | cons c cs =>
      refine (numeral?_of_ne ?_).trans read
      rintro rfl
      cases read

theorem fraction?_point (h : Digits fs) (stops : ∀ c ∈ cs.head?, isDigit c = false) :
    fraction? ('.' :: (fs ++ cs)) = some (some fs, cs) := by
  show (digits? (fs ++ cs)).map _ = _
  rw [digits?_front h stops]
  rfl

theorem unsigned_scientific {c : Char} (h : Digits (c :: cs)) (power : Digits es) (up : Prop) [Decidable up] :
    Unsigned (c :: (if cs.isEmpty then [] else '.' :: cs) ++ ((if up then ['e', '+'] else ['e', '-']) ++ es)) := by
  have whole : Digits [c] := ⟨nofun, fun d hd => h.2 d (List.mem_cons.mpr (.inl (List.mem_singleton.mp hd)))⟩
  have single : ¬([c].head? = some '0' ∧ 1 < [c].length) := fun long => Nat.lt_irrefl 1 long.2
  have all : digits? es = some (es, []) := by
    have front : digits? (es ++ []) = some (es, []) := digits?_front power nofun
    rwa [List.append_nil] at front
  obtain ⟨sign, e, text, exponent⟩ : ∃ sign e,
      (if up then ['e', '+'] else ['e', '-']) ++ es = 'e' :: sign :: es ∧
        exponent? ('e' :: sign :: es) = some (e, []) := by
    by_cases plus : up
    · refine ⟨'+', some (false, es), by rw [if_pos plus]; rfl, ?_⟩
      rw [exponent?_plus (.inl rfl), all]
      rfl
    · refine ⟨'-', some (true, es), by rw [if_neg plus]; rfl, ?_⟩
      rw [exponent?_minus (.inl rfl), all]
      rfl
  rw [text]
  have stops : ∀ d ∈ ('e' :: sign :: es).head?, isDigit d = false := by simp; rfl
  cases cs with
  | nil => exact unsigned_of_parts whole single (fraction?_of_ne (by decide)) exponent stops
  | cons d cs =>
    have places : Digits (d :: cs) := ⟨nofun, fun d' hd => h.2 d' (List.mem_cons_of_mem c hd)⟩
    show Unsigned ([c] ++ '.' :: (d :: cs ++ 'e' :: sign :: es))
    exact unsigned_of_parts whole single (fraction?_point places stops) exponent (by simp; rfl)

end

theorem digits_stripZeros {n : Nat} {c : Char} {cs : List Char}
    (h : (Double.stripZeros (Nat.toDigits 10 n)).1 = c :: cs) : Digits (c :: cs) ∧ c ≠ '0' := by
  have front : c :: cs <+: Nat.toDigits 10 n := by
    rw [← h]
    unfold Double.stripZeros
    rw [← List.reverse_suffix, List.reverse_reverse]
    exact List.dropWhile_suffix _
  refine ⟨⟨List.cons_ne_nil c cs, fun d hd => isDigit_of_mem_toDigits (front.subset hd)⟩, ?_⟩
  rintro rfl
  rcases Nat.eq_zero_or_pos n with rfl | positive
  · cases h
  · obtain ⟨more, same⟩ := front
    exact head_toDigits positive (by rw [← same]; rfl)

theorem Digits.append {ds es : List Char} (h : Digits ds) (more : ∀ c ∈ es, isDigit c = true) : Digits (ds ++ es) :=
  ⟨List.append_ne_nil_of_left_ne_nil h.1 es, fun c hc => (List.mem_append.mp hc).elim (h.2 c) (more c)⟩

/-- The text of a double is a numeral in all its forms. -/
theorem numeral_layout (l : Double.Layout) (x : Double) : ∃ m, numeral? (x.layout l).toList = some (m, []) := by
  have signed {body : List Char} (h : Unsigned body) :
      ∃ m, numeral? ((if x.negative then "-" else "") ++ String.ofList body).toList = some (m, []) := by
    have text : (if x.negative then "-" else "").toList = if x.negative then ['-'] else [] := by split <;> rfl
    rw [String.toList_append, String.toList_ofList, text]
    exact h.signed x.negative
  have zero : Digits ['0'] := ⟨nofun, List.forall_mem_singleton.mpr rfl⟩
  have padding (n : Nat) : ∀ c ∈ List.replicate n '0', isDigit c = true := fun c hc => by
    rw [List.eq_of_mem_replicate hc]
    rfl
  have point {ds fs : List Char} (whole : Digits ds) (leading : ¬(ds.head? = some '0' ∧ 1 < ds.length))
      (fraction : Digits fs) : Unsigned (ds ++ '.' :: fs) := by
    have read : fraction? ('.' :: (fs ++ [])) = some (some fs, []) := fraction?_point fraction nofun
    rw [List.append_nil] at read
    exact unsigned_of_parts whole leading read rfl (by simp; rfl)
  unfold Double.layout
  dsimp only
  generalize (Double.stripZeros (Nat.toDigits 10 x.shortest.digits)).2 = zeros
  cases kept : (Double.stripZeros (Nat.toDigits 10 x.shortest.digits)).1 with
  | nil => exact signed (point zero (by decide) zero)
  | cons c cs =>
    obtain ⟨digits, leads⟩ := digits_stripZeros kept
    have first {ds : List Char} : ¬((c :: ds).head? = some '0' ∧ 1 < (c :: ds).length) :=
      fun h => leads (Option.some.inj h.1)
    refine signed ?_
    split
    · split
      · exact point (digits.append (padding _)) first zero
      · split
        · rename_i places whole
          refine point ⟨by simp, fun d hd => digits.2 d (List.mem_of_mem_take hd)⟩ first
            ⟨?_, fun d hd => digits.2 d (List.mem_of_mem_drop hd)⟩
          rw [Ne, List.drop_eq_nil_iff, List.length_cons]
          omega
        · exact point zero (by decide) ⟨List.append_ne_nil_of_right_ne_nil _ digits.1,
            fun d hd => (List.mem_append.mp hd).elim (padding _ d) (digits.2 d)⟩
    · exact unsigned_scientific digits (digits_toDigits _) _

theorem numeral_number (n : Number) : ∃ m, numeral? (number n) = some (m, []) := by
  cases n with
  | double x => exact numeral_layout numberLayout x
  | int n =>
    cases n with
    | ofNat n => exact ⟨_, (congrArg numeral? (number_ofNat n)).trans (numeral?_toDigits n)⟩
    | negSucc n => exact ⟨_, (congrArg numeral? (number_negSucc n)).trans (unsigned?_toDigits true (n + 1))⟩

/-! ## What is read -/

mutual

/-- What is read where this was written, within lists and records of this depth. -/
def asRead (depth : Nat) : Data → Data
  | .null | .unreadable => .null
  | .bool b => .bool b
  | .num n => ((numeral? (number n)).map fun m => m.1.data).getD .unreadable
  | .str s => .str s
  | .list xs => if depth < maxDepth then .list (asReadItems (depth + 1) xs) else .unreadable
  | .record ms => if depth < maxDepth then .record (asReadMembers (depth + 1) ms) else .unreadable

def asReadItems (depth : Nat) : List Data → List Data
  | [] => []
  | x :: xs => asRead depth x :: asReadItems depth xs

def asReadMembers (depth : Nat) : List (String × Data) → List (String × Data)
  | [] => []
  | (k, v) :: ms => (k, asRead depth v) :: asReadMembers depth ms

end

theorem skipBlanks_newLine (level : Nat) (cs : List Char) : skipBlanks (newLine level ++ cs) = skipBlanks cs := by
  unfold newLine
  rw [List.cons_append]
  show skipBlanks (List.replicate (2 * level) ' ' ++ cs) = skipBlanks cs
  unfold skipBlanks
  rw [List.dropWhile_append_of_pos fun c hc => ?_]
  rw [List.eq_of_mem_replicate hc]
  rfl

theorem parted_newLine (level : Nat) (cs : List Char) : parted (newLine level ++ cs) = true := rfl

theorem opens_pretty (level : Nat) (d : Data) : ∃ c cs, prettyChars level d = c :: cs ∧ opens c = true := by
  cases d with
  | null => exact ⟨_, _, rfl, rfl⟩
  | unreadable => exact ⟨_, _, rfl, rfl⟩
  | bool b => cases b <;> exact ⟨_, _, rfl, rfl⟩
  | str s => exact ⟨_, _, rfl, rfl⟩
  | list xs =>
    refine ⟨'[', (prettyChars level (.list xs)).tail, ?_, rfl⟩
    cases xs <;> rw [prettyChars] <;> rfl
  | record ms =>
    refine ⟨'{', (prettyChars level (.record ms)).tail, ?_, rfl⟩
    cases ms <;> rw [prettyChars] <;> rfl
  | num n =>
    obtain ⟨m, text⟩ := numeral_number n
    cases digits : number n with
    | nil =>
      rw [digits] at text
      cases text
    | cons c cs =>
      rw [digits] at text
      exact ⟨c, cs, digits, opens_numeral text⟩

section

variable {fuel depth : Nat} {cs cs' : List Char}

theorem value?_skip (h : skipBlanks cs = skipBlanks cs') : value? fuel depth cs = value? fuel depth cs' := by
  cases fuel with
  | zero => rfl
  | succ fuel => simp only [value?, h]

theorem items?_skip (h : skipBlanks cs = skipBlanks cs') : items? fuel depth cs = items? fuel depth cs' := by
  cases fuel with
  | zero => rfl
  | succ fuel => simp only [items?, value?_skip h]

theorem members?_skip (h : skipBlanks cs = skipBlanks cs') : members? fuel depth cs = members? fuel depth cs' := by
  cases fuel with
  | zero => rfl
  | succ fuel => simp only [members?, h]

end

theorem skipBlanks_close (level : Nat) {c : Char} (cs : List Char) (blank : skipBlanks (c :: cs) = c :: cs) :
    skipBlanks (newLine level ++ c :: cs) = c :: cs := (skipBlanks_newLine level _).trans blank

mutual

theorem value?_pretty {d : Data} {fuel depth level : Nat} {rest : List Char} (apart : parted rest = true)
    (enough : 2 * (prettyChars level d).length ≤ fuel) :
    value? fuel depth (prettyChars level d ++ rest) = some (asRead depth d, rest) := by
  obtain ⟨c, cs, text, -⟩ := opens_pretty level d
  have front : 0 < (prettyChars level d).length := by simp [text]
  obtain ⟨fuel, rfl⟩ : ∃ n, fuel = n + 1 := ⟨fuel - 1, by omega⟩
  clear text
  match d with
  | .null | .bool true | .bool false | .unreadable => rfl
  | .num n =>
    obtain ⟨m, text⟩ := numeral_number n
    rw [prettyChars, value?_numeral fuel depth (numeral?_append apart text), asRead, text]
    rfl
  | .str s => exact value?_quoted s fuel depth rest
  | .list [] =>
    simp [prettyChars, value?, skipBlanks, asRead, asReadItems]
  | .list (x :: xs) =>
    obtain ⟨c, cs, text, first⟩ := opens_pretty (level + 1) x
    simp only [prettyChars, List.length_append, List.length_cons, List.length_nil] at enough
    have items : items? fuel (depth + 1) (prettyChars (level + 1) x ++ (prettyItems (level + 1) xs ++
        (newLine level ++ ']' :: rest))) = some (_, rest) := items?_pretty (by omega)
    have start (more : List Char) : prettyChars (level + 1) x ++ more = c :: (cs ++ more) := by
      rw [text, List.cons_append]
    have skipped (more : List Char) : skipBlanks (newLine (level + 1) ++ (prettyChars (level + 1) x ++ more)) =
        c :: (cs ++ more) := by
      rw [skipBlanks_newLine, start, skipBlanks_of_opens first]
    rw [start] at items
    simpa [prettyChars, asRead, asReadItems] using value?_items (skipped _) first items
  | .record [] =>
    simp [prettyChars, value?, skipBlanks, asRead, asReadMembers, recordOf]
  | .record ((k, v) :: ms) =>
    simp only [prettyChars, List.length_append, List.length_cons, List.length_nil] at enough
    have members : members? fuel (depth + 1) (quoted k ++ ':' :: ' ' :: (prettyChars (level + 1) v ++
        (prettyMembers (level + 1) ms ++ (newLine level ++ '}' :: rest)))) = some (_, rest) :=
      members?_pretty (by omega)
    have skipped (more : List Char) : skipBlanks (newLine (level + 1) ++ (quoted k ++ more)) = quoted k ++ more :=
      skipBlanks_newLine _ _
    simpa [prettyChars, asRead, asReadMembers] using value?_members (skipped _) members
termination_by fuel

theorem items?_pretty {x : Data} {xs : List Data} {fuel depth level outer : Nat} {rest : List Char}
    (enough : 2 * ((prettyChars level x).length + (prettyItems level xs).length + 1) ≤ fuel) :
    items? fuel depth (prettyChars level x ++ (prettyItems level xs ++ (newLine outer ++ ']' :: rest))) =
      some (asRead depth x :: asReadItems depth xs, rest) := by
  obtain ⟨fuel, rfl⟩ : ∃ n, fuel = n + 1 := ⟨fuel - 1, by omega⟩
  match xs with
  | [] =>
    have item : value? fuel depth (prettyChars level x ++ (newLine outer ++ ']' :: rest)) = some (_, _) :=
      value?_pretty (parted_newLine _ _) (by omega)
    exact items?_last item (skipBlanks_close _ _ rfl)
  | y :: ys =>
    simp only [prettyItems, List.length_cons, List.length_append] at enough
    have item : value? fuel depth (prettyChars level x ++ ',' :: (newLine level ++ (prettyChars level y ++
        (prettyItems level ys ++ (newLine outer ++ ']' :: rest))))) = some (_, _) :=
      value?_pretty rfl (by omega)
    have others : items? fuel depth (prettyChars level y ++ (prettyItems level ys ++ (newLine outer ++ ']' :: rest))) =
        some (_, rest) := items?_pretty (by omega)
    have tail := (items?_skip (skipBlanks_newLine level _)).trans others
    simpa [prettyItems, asReadItems] using items?_more item tail
termination_by fuel

theorem members?_pretty {k : String} {v : Data} {ms : List (String × Data)} {fuel depth level outer : Nat}
    {rest : List Char}
    (enough : 2 * ((quoted k).length + (prettyChars level v).length + (prettyMembers level ms).length + 1) ≤ fuel) :
    members? fuel depth (quoted k ++ ':' :: ' ' :: (prettyChars level v ++
      (prettyMembers level ms ++ (newLine outer ++ '}' :: rest)))) =
      some (((k, asRead depth v) :: asReadMembers depth ms).map fun m => (some m.1, m.2), rest) := by
  obtain ⟨fuel, rfl⟩ : ∃ n, fuel = n + 1 := ⟨fuel - 1, by omega⟩
  have blank (cs : List Char) : value? fuel depth (' ' :: cs) = value? fuel depth cs := value?_skip rfl
  match ms with
  | [] =>
    have value : value? fuel depth (prettyChars level v ++ (newLine outer ++ '}' :: rest)) = some (_, _) :=
      value?_pretty (parted_newLine _ _) (by omega)
    exact members?_last ((blank _).trans value) (skipBlanks_close _ _ rfl)
  | (k', v') :: ms =>
    simp only [prettyMembers, List.length_cons, List.length_append] at enough
    have value : value? fuel depth (prettyChars level v ++ ',' :: (newLine level ++ (quoted k' ++ ':' :: ' ' ::
        (prettyChars level v' ++ (prettyMembers level ms ++ (newLine outer ++ '}' :: rest)))))) = some (_, _) :=
      value?_pretty rfl (by omega)
    have others : members? fuel depth (quoted k' ++ ':' :: ' ' :: (prettyChars level v' ++
        (prettyMembers level ms ++ (newLine outer ++ '}' :: rest)))) = some (_, rest) := members?_pretty (by omega)
    have tail := (members?_skip (skipBlanks_newLine level _)).trans others
    simpa [prettyMembers, asReadMembers] using members?_more ((blank _).trans value) tail
termination_by fuel

end

/-- **What is written is read**, and this is what is read. -/
theorem read?_pretty (d : Data) : read? (pretty d) = some (asRead 0 d) := by
  have read : value? (2 * (prettyChars 0 d).length + 2) 0 (prettyChars 0 d ++ []) = some (asRead 0 d, []) :=
    value?_pretty rfl (by omega)
  rw [List.append_nil] at read
  have chars : (pretty d).toList = prettyChars 0 d := String.toList_ofList
  simp only [read?, chars, read, Option.bind_eq_bind, Option.bind_some]
  rfl

end Concierge.Json
