import Concierge.Proofs.Text.Found
import Concierge.Text.Cut

/-!
# Texts by the offsets of their bytes

`cutAt?` takes a text apart behind a number of bytes; it gives nothing where a character would be split. A word is
searched for among the bytes, where no offset is known to fall between two characters: `find?_eq` says that it does.
-/

namespace Concierge.Text

@[simp] theorem byteLength_nil : byteLength [] = 0 := rfl

@[simp] theorem byteLength_cons (c : Char) (cs : List Char) : byteLength (c :: cs) = c.utf8Size + byteLength cs := rfl

@[simp] theorem byteLength_append (cs ds : List Char) : byteLength (cs ++ ds) = byteLength cs + byteLength ds := by
  induction cs with
  | nil => simp
  | cons c cs ih => simp [ih, Nat.add_assoc]

theorem utf8ByteSize_ofList (cs : List Char) : (String.ofList cs).utf8ByteSize = byteLength cs := by
  induction cs with
  | nil => rfl
  | cons c cs ih => rw [String.ofList_cons, String.utf8ByteSize_append, String.utf8ByteSize_singleton, ih, byteLength_cons]

theorem utf8Size_lower (c : Char) : (lower c).utf8Size = c.utf8Size := by
  unfold lower Char.toLower
  split
  case isTrue upper =>
    have low : 65 ≤ c.val.toNat := UInt32.le_iff_toNat_le.mp upper.1
    have high : c.val.toNat ≤ 90 := UInt32.le_iff_toNat_le.mp upper.2
    -- only `A` to `Z` change, and both cases take one byte
    have one : c.utf8Size = 1 := by
      rw [Char.utf8Size_eq_one_iff, UInt32.le_iff_toNat_le]
      exact Nat.le_trans high (by decide)
    rw [one, Char.utf8Size_eq_one_iff, UInt32.le_iff_toNat_le]
    show (c.val + 32).toNat ≤ 127
    rw [UInt32.toNat_add]
    have : (32 : UInt32).toNat = 32 := rfl
    omega
  case isFalse => rfl

@[simp] theorem byteLength_map_lower (cs : List Char) : byteLength (cs.map lower) = byteLength cs := by
  induction cs with
  | nil => rfl
  | cons c cs ih => rw [List.map_cons, byteLength_cons, byteLength_cons, ih, utf8Size_lower]

theorem Spells.byteLength_eq {word cs : List Char} (h : Spells word cs) : byteLength cs = byteLength word := by
  rw [← byteLength_map_lower cs, h, byteLength_map_lower]

/-! ## Cutting at an offset -/

/-- The first `n` bytes and what follows them, if no character stands on both sides. -/
def cutAt? : Nat → List Char → Option (List Char × List Char)
  | 0, cs => some ([], cs)
  | _ + 1, [] => none
  | n + 1, c :: cs =>
    if c.utf8Size ≤ n + 1 then (cutAt? (n + 1 - c.utf8Size) cs).map fun (before, after) => (c :: before, after) else none

def upTo? (n : Nat) (cs : List Char) : Option (List Char) := (cutAt? n cs).map (·.1)

def from? (n : Nat) (cs : List Char) : Option (List Char) := (cutAt? n cs).map (·.2)

def between? (n m : Nat) (cs : List Char) : Option (List Char) := do from? n (← upTo? m cs)

theorem cutAt?_append (before after : List Char) :
    cutAt? (byteLength before) (before ++ after) = some (before, after) := by
  induction before with
  | nil => simp [cutAt?]
  | cons c before ih =>
    obtain ⟨n, hn⟩ : ∃ n, byteLength (c :: before) = n + 1 :=
      Nat.exists_eq_succ_of_ne_zero (Nat.ne_of_gt (Nat.lt_of_lt_of_le c.utf8Size_pos (Nat.le_add_right _ _)))
    have fits : c.utf8Size ≤ n + 1 := hn ▸ Nat.le_add_right _ _
    have rest : n + 1 - c.utf8Size = byteLength before := by rw [← hn, byteLength_cons, Nat.add_sub_cancel_left]
    rw [hn, List.cons_append, cutAt?, if_pos fits, rest, ih]
    rfl

theorem cutAt?_eq_some {n : Nat} {cs before after : List Char} (h : cutAt? n cs = some (before, after)) :
    cs = before ++ after ∧ n = byteLength before := by
  induction cs generalizing n before with
  | nil => cases n with
    | zero => cases h; exact ⟨rfl, rfl⟩
    | succ n => cases h
  | cons c cs ih => cases n with
    | zero => cases h; exact ⟨rfl, rfl⟩
    | succ n =>
      rw [cutAt?] at h
      split at h
      case isTrue fits =>
        obtain ⟨⟨b, a⟩, hcut, hb⟩ := Option.map_eq_some_iff.mp h
        cases hb
        obtain ⟨rfl, hn⟩ := ih hcut
        exact ⟨rfl, by rw [byteLength_cons, ← hn]; omega⟩
      case isFalse => cases h

theorem isSome_cutAt? (n : Nat) (s : String) : (cutAt? n s.toList).isSome = true ↔ String.Pos.Raw.IsValid s ⟨n⟩ := by
  rw [String.Pos.Raw.isValid_iff_exists_take_toList, Option.isSome_iff_exists]
  constructor
  · rintro ⟨⟨before, after⟩, h⟩
    obtain ⟨split, rfl⟩ := cutAt?_eq_some h
    exact ⟨before.length, by rw [split, List.take_left, utf8ByteSize_ofList]⟩
  · rintro ⟨i, h⟩
    rw [utf8ByteSize_ofList] at h
    have cut := cutAt?_append (s.toList.take i) (s.toList.drop i)
    rw [List.take_append_drop] at cut
    exact ⟨_, (show n = _ from h) ▸ cut⟩

theorem upTo?_append (before after : List Char) : upTo? (byteLength before) (before ++ after) = some before := by
  rw [upTo?, cutAt?_append]
  rfl

theorem from?_append (before after : List Char) : from? (byteLength before) (before ++ after) = some after := by
  rw [from?, cutAt?_append]
  rfl

theorem between?_append (before inside after : List Char) :
    between? (byteLength before) (byteLength before + byteLength inside) (before ++ inside ++ after) = some inside := by
  rw [between?, ← byteLength_append, upTo?_append]
  exact from?_append before inside

/-! ## Searching among the bytes -/

def utf8 (cs : List Char) : List UInt8 := cs.flatMap String.utf8EncodeChar

def findBytes? (word : List UInt8) : List UInt8 → Option Nat
  | [] => if word.isPrefixOf [] then some 0 else none
  | b :: bs => if word.isPrefixOf (b :: bs) then some 0 else (findBytes? word bs).map (· + 1)

def find? (word cs : List Char) : Option Nat := findBytes? (utf8 word) (utf8 cs)

theorem utf8_append (cs ds : List Char) : utf8 (cs ++ ds) = utf8 cs ++ utf8 ds := List.flatMap_append

theorem utf8_isPrefixOf (word cs : List Char) : (utf8 word).isPrefixOf (utf8 cs) = startsWith word cs := by
  rw [Bool.eq_iff_iff, startsWith, List.isPrefixOf_iff_prefix, List.isPrefixOf_iff_prefix]
  constructor
  · rintro ⟨rest, h⟩
    refine List.isPrefix_of_utf8Encode_append_eq_utf8Encode rest.toByteArray ?_
    have := congrArg List.toByteArray h
    simpa [List.utf8Encode, utf8] using this
  · rintro ⟨rest, rfl⟩
    exact ⟨utf8 rest, (utf8_append word rest).symm⟩

theorem findBytes?_append (word skip bs : List UInt8) (h : ∀ i < skip.length, ¬ word <+: (skip ++ bs).drop i) :
    findBytes? word (skip ++ bs) = (findBytes? word bs).map (· + skip.length) := by
  induction skip with
  | nil => simp
  | cons b skip ih =>
    have here : ¬ word.isPrefixOf (b :: (skip ++ bs)) = true := by
      rw [List.isPrefixOf_iff_prefix]
      exact h 0 (Nat.succ_pos _)
    rw [List.cons_append, findBytes?, if_neg here, ih fun i hi => h (i + 1) (Nat.succ_lt_succ hi), Option.map_map]
    congr 1

/-- A word does not begin inside a character. -/
theorem not_prefix_drop_utf8EncodeChar {word : List Char} (nonempty : word ≠ []) (c : Char) (bs : List UInt8) {i : Nat}
    (inside : 0 < i) (hi : i < c.utf8Size) : ¬ utf8 word <+: (String.utf8EncodeChar c ++ bs).drop i := by
  obtain ⟨w, word, rfl⟩ := List.exists_cons_of_ne_nil nonempty
  have bound : i < (String.utf8EncodeChar c).length := by rwa [String.length_utf8EncodeChar]
  have start : 0 < (String.utf8EncodeChar w).length := by
    rw [String.length_utf8EncodeChar]
    exact w.utf8Size_pos
  intro h
  have first : (String.utf8EncodeChar w)[0] = (String.utf8EncodeChar c)[i] := by
    have same := h.getElem (i := 0) (by rw [utf8, List.flatMap_cons, List.length_append]; omega)
    simp only [utf8, List.flatMap_cons, List.getElem_drop, Nat.add_zero] at same
    rwa [List.getElem_append_left start, List.getElem_append_left bound] at same
  -- only the first byte of a character can be the first one of a word
  have leads : ((String.utf8EncodeChar w)[0]).IsUTF8FirstByte := UInt8.isUTF8FirstByte_getElem_utf8EncodeChar.mpr rfl
  rw [first, UInt8.isUTF8FirstByte_getElem_utf8EncodeChar] at leads
  omega

theorem find?_eq {word : List Char} (nonempty : word ≠ []) (n : Nat) (cs : List Char) :
    find? word cs = (splitFirst? (startsWith word) n cs).map (byteLength ·.1) := by
  induction cs with
  | nil =>
    have miss : ¬ startsWith word [] = true := by
      cases word with
      | nil => exact absurd rfl nonempty
      | cons w word => simp [startsWith]
    rw [splitFirst?, if_neg miss, find?, show utf8 [] = [] from rfl, findBytes?, if_neg]
    · rfl
    · exact utf8_isPrefixOf word [] ▸ miss
  | cons c cs ih =>
    by_cases hit : startsWith word (c :: cs) = true
    · obtain ⟨b, bs, hbs⟩ := List.exists_cons_of_ne_nil
        (show utf8 (c :: cs) ≠ [] by simp [utf8])
      rw [splitFirst?, if_pos hit, find?, hbs, findBytes?, if_pos]
      · rfl
      · rw [← hbs, utf8_isPrefixOf, hit]
    · have bytes : utf8 (c :: cs) = String.utf8EncodeChar c ++ utf8 cs := List.flatMap_cons
      -- the bytes of `c` are passed over together, so that the search goes on where a character begins
      have pass : ∀ i < (String.utf8EncodeChar c).length, ¬ utf8 word <+: (String.utf8EncodeChar c ++ utf8 cs).drop i := by
        intro i hi
        rw [String.length_utf8EncodeChar] at hi
        rcases Nat.eq_zero_or_pos i with rfl | inside
        · rw [List.drop_zero, ← bytes, ← List.isPrefixOf_iff_prefix, utf8_isPrefixOf]
          exact hit
        · exact not_prefix_drop_utf8EncodeChar nonempty c _ inside hi
      rw [splitFirst?, if_neg hit, find?, bytes, findBytes?_append _ _ _ pass, ← find?, ih, Option.map_map,
        Option.map_map, String.length_utf8EncodeChar]
      congr 1
      funext p
      exact Nat.add_comm _ _

/-! ## Searching in the lower-case copy -/

theorem splitFirst?_map (f : Char → Char) (hit : List Char → Bool) (n : Nat) (cs : List Char) :
    splitFirst? hit n (cs.map f) =
      (splitFirst? (fun ds => hit (ds.map f)) n cs).map fun (before, after) => (before.map f, after.map f) := by
  induction cs with
  | nil =>
    by_cases h : hit [] = true
    · simp [splitFirst?, h]
    · simp [splitFirst?, h]
  | cons c cs ih =>
    rw [List.map_cons, splitFirst?, splitFirst?, List.map_cons]
    by_cases h : hit (f c :: cs.map f) = true
    · rw [if_pos h, if_pos h, Option.map_some, ← List.map_cons, ← List.map_drop]
      rfl
    · rw [if_neg h, if_neg h, ih, Option.map_map, Option.map_map]
      rfl

theorem startsWith_map_lower {word : List Char} (low : word.map lower = word) (cs : List Char) :
    startsWith word (cs.map lower) = startsWithNoCase word cs := by
  rw [Bool.eq_iff_iff, startsWith, startsWithNoCase, List.isPrefixOf_iff_prefix, List.isPrefixOf_iff_prefix, low,
    List.map_take]
  exact ⟨fun h => List.prefix_take_iff.mpr ⟨h, Nat.le_refl _⟩, fun h => h.trans (List.take_prefix _ _)⟩

theorem find?_map_lower {word : List Char} (nonempty : word ≠ []) (low : word.map lower = word) (cs : List Char) :
    find? word (cs.map lower) = (splitFirst? (startsWithNoCase word) word.length cs).map (byteLength ·.1) := by
  rw [find?_eq nonempty word.length, splitFirst?_map, Option.map_map]
  simp only [startsWith_map_lower low, Function.comp_def, byteLength_map_lower]

end Concierge.Text
