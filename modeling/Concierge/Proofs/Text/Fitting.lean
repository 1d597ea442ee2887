import Concierge.Proofs.Text.Bytes

/-!
# A cut text is the longest that fits

A cut keeps the characters that fit one after the other. The same text is found from the other end: from the last
byte that fits the search goes back to a place between two characters, and the text is sliced there. Such a place is
never more than three bytes away, and the slice never fails (`cut_longest_fitting`).
-/

namespace Concierge.Text

/-! ## Searching for a boundary -/

/-- A character begins at this byte, or the text ends there. -/
def atBoundary (s : String) (n : Nat) : Bool :=
  if h : n < s.utf8ByteSize then decide (s.getUTF8Byte ⟨n⟩ h).IsUTF8FirstByte else n = s.utf8ByteSize

def boundaryUpTo (s : String) : Nat → Nat
  | 0 => 0
  | n + 1 => if atBoundary s (n + 1) then n + 1 else boundaryUpTo s n

def floorBoundary (s : String) (n : Nat) : Nat := if s.utf8ByteSize ≤ n then s.utf8ByteSize else boundaryUpTo s n

/-- The first `n` bytes; none if that splits a character or exceeds the text. -/
def slice? (s : String) (n : Nat) : Option String := (upTo? n s.toList).map String.ofList

def cutByOffset? (s : String) (max : Nat) : Option String :=
  if s.utf8ByteSize ≤ max then some s else slice? s (floorBoundary s max)

def abridgeByOffset? (s : String) (max : Nat) : Option String :=
  if s.utf8ByteSize ≤ max then some s else (cutByOffset? s max).map (· ++ "...")

theorem atBoundary_iff (s : String) (n : Nat) : atBoundary s n = true ↔ String.Pos.Raw.IsValid s ⟨n⟩ := by
  rw [String.Pos.Raw.isValid_iff_isUTF8FirstByte]
  unfold atBoundary
  by_cases inside : n < s.utf8ByteSize
  · have notEnd : (⟨n⟩ : String.Pos.Raw) ≠ s.rawEndPos := fun h => Nat.ne_of_lt inside (congrArg String.Pos.Raw.byteIdx h)
    rw [dif_pos inside, decide_eq_true_eq]
    exact ⟨fun first => Or.inr ⟨inside, first⟩, fun either => (either.resolve_left notEnd).2⟩
  · rw [dif_neg inside, decide_eq_true_eq]
    constructor
    · rintro rfl
      exact Or.inl rfl
    · rintro (h | ⟨h, -⟩)
      · exact congrArg String.Pos.Raw.byteIdx h
      · exact absurd h inside

theorem isValid_iff_front (s : String) (n : Nat) :
    String.Pos.Raw.IsValid s ⟨n⟩ ↔ ∃ before, before <+: s.toList ∧ byteLength before = n := by
  rw [← isSome_cutAt?, Option.isSome_iff_exists]
  constructor
  · rintro ⟨⟨before, after⟩, h⟩
    obtain ⟨split, rfl⟩ := cutAt?_eq_some h
    exact ⟨before, ⟨after, split.symm⟩, rfl⟩
  · rintro ⟨before, ⟨after, split⟩, rfl⟩
    exact ⟨_, split ▸ cutAt?_append before after⟩

/-! ## Taking what fits -/

theorem takeBytes_front (n : Nat) (cs : List Char) : takeBytes n cs <+: cs := by
  induction cs generalizing n with
  | nil => exact List.prefix_rfl
  | cons c cs ih =>
    rw [takeBytes]
    split
    · exact List.cons_prefix_cons.mpr ⟨rfl, ih _⟩
    · exact List.nil_prefix

theorem byteLength_takeBytes_le (n : Nat) (cs : List Char) : byteLength (takeBytes n cs) ≤ n := by
  induction cs generalizing n with
  | nil => exact Nat.zero_le _
  | cons c cs ih =>
    rw [takeBytes]
    split
    case isTrue fits =>
      have rest := ih (n - c.utf8Size)
      rw [byteLength_cons]
      omega
    case isFalse => exact Nat.zero_le _

theorem prefix_takeBytes {n : Nat} {before cs : List Char} (h : before <+: cs) (fits : byteLength before ≤ n) :
    before <+: takeBytes n cs := by
  induction cs generalizing n before with
  | nil => exact h
  | cons c cs ih =>
    cases before with
    | nil => exact List.nil_prefix
    | cons b before =>
      obtain ⟨rfl, tail⟩ := List.cons_prefix_cons.mp h
      rw [byteLength_cons] at fits
      rw [takeBytes, if_pos (Nat.le_trans (Nat.le_add_right _ _) fits)]
      exact List.cons_prefix_cons.mpr ⟨rfl, ih tail (by omega)⟩

theorem takeBytes_of_le {n : Nat} {cs : List Char} (fits : byteLength cs ≤ n) : takeBytes n cs = cs :=
  (takeBytes_front n cs).eq_of_length_le (prefix_takeBytes List.prefix_rfl fits).length_le

theorem byteLength_le_of_front {before cs : List Char} (h : before <+: cs) : byteLength before ≤ byteLength cs := by
  obtain ⟨after, rfl⟩ := h
  rw [byteLength_append]
  exact Nat.le_add_right _ _

/-- No character has more than four bytes, so fewer than four are left over. -/
theorem lt_byteLength_takeBytes {n : Nat} {cs : List Char} (long : n < byteLength cs) :
    n < byteLength (takeBytes n cs) + 4 := by
  induction cs generalizing n with
  | nil => exact absurd long (Nat.not_lt_zero n)
  | cons c cs ih =>
    rw [takeBytes]
    rw [byteLength_cons] at long
    have four := c.utf8Size_le_four
    split
    case isTrue fits =>
      have rest := ih (n := n - c.utf8Size) (by omega)
      rw [byteLength_cons]
      omega
    case isFalse small =>
      rw [byteLength_nil]
      omega

/-! ## The two ways meet -/

theorem boundaryUpTo_eq (s : String) (n : Nat) : boundaryUpTo s n = byteLength (takeBytes n s.toList) := by
  induction n with
  | zero => exact (Nat.le_zero.mp (byteLength_takeBytes_le 0 s.toList)).symm
  | succ n ih =>
    have atMost := byteLength_takeBytes_le (n + 1) s.toList
    rw [boundaryUpTo]
    split
    case isTrue here =>
      obtain ⟨before, front, size⟩ := (isValid_iff_front s _).mp ((atBoundary_iff s _).mp here)
      have atLeast := byteLength_le_of_front (prefix_takeBytes front (Nat.le_of_eq size))
      omega
    case isFalse split =>
      -- what fits into one byte more ends elsewhere, so it fits without that byte
      have elsewhere : byteLength (takeBytes (n + 1) s.toList) ≠ n + 1 := fun size =>
        split ((atBoundary_iff s _).mpr ((isValid_iff_front s _).mpr ⟨_, takeBytes_front _ _, size⟩))
      have less : byteLength (takeBytes (n + 1) s.toList) ≤ n := by omega
      have atMost' := byteLength_le_of_front (prefix_takeBytes (takeBytes_front _ _) less)
      have fits : byteLength (takeBytes n s.toList) ≤ n + 1 := Nat.le_succ_of_le (byteLength_takeBytes_le n s.toList)
      have atLeast := byteLength_le_of_front (prefix_takeBytes (takeBytes_front _ _) fits)
      omega

theorem slice?_takeBytes (s : String) (n : Nat) : slice? s (byteLength (takeBytes n s.toList)) = some (cut s n) := by
  obtain ⟨after, split⟩ := takeBytes_front n s.toList
  have sliced := upTo?_append (takeBytes n s.toList) after
  rw [split] at sliced
  rw [slice?, sliced]
  rfl

theorem utf8ByteSize_cut (s : String) (max : Nat) : (cut s max).utf8ByteSize = byteLength (takeBytes max s.toList) :=
  utf8ByteSize_ofList _

theorem byteLength_toList (s : String) : byteLength s.toList = s.utf8ByteSize := by
  rw [← utf8ByteSize_ofList, String.ofList_toList]

theorem cutByOffset?_eq (s : String) (max : Nat) : cutByOffset? s max = some (cut s max) := by
  unfold cutByOffset? floorBoundary
  by_cases short : s.utf8ByteSize ≤ max
  · rw [if_pos short, cut, takeBytes_of_le (byteLength_toList s ▸ short), String.ofList_toList]
  · rw [if_neg short, if_neg short, boundaryUpTo_eq, slice?_takeBytes]

theorem abridgeByOffset?_eq (s : String) (max : Nat) : abridgeByOffset? s max = some (abridge s max) := by
  unfold abridgeByOffset? abridge
  rw [cutByOffset?_eq]
  split <;> rfl

/-- `t` is the longest front of `s` of at most `max` bytes that does not end inside a character. -/
structure LongestFitting (s : String) (max : Nat) (t : String) : Prop where
  front : ∃ rest, s = t ++ rest
  whole : String.Pos.Raw.IsValid s ⟨t.utf8ByteSize⟩
  fits : t.utf8ByteSize ≤ max
  longest : ∀ n, n ≤ max → String.Pos.Raw.IsValid s ⟨n⟩ → n ≤ t.utf8ByteSize

theorem longestFitting_cut (s : String) (max : Nat) : LongestFitting s max (cut s max) := by
  obtain ⟨after, split⟩ := takeBytes_front max s.toList
  refine ⟨⟨String.ofList after, ?_⟩, ?_, ?_, fun n fits valid => ?_⟩
  · rw [cut, ← String.ofList_append, split, String.ofList_toList]
  · rw [utf8ByteSize_cut]
    exact (isValid_iff_front s _).mpr ⟨_, takeBytes_front _ _, rfl⟩
  · rw [utf8ByteSize_cut]
    exact byteLength_takeBytes_le _ _
  · obtain ⟨before, front, rfl⟩ := (isValid_iff_front s n).mp valid
    rw [utf8ByteSize_cut]
    exact byteLength_le_of_front (prefix_takeBytes front fits)

theorem cut_eq_self_iff (s : String) (max : Nat) : cut s max = s ↔ s.utf8ByteSize ≤ max := by
  constructor
  · intro same
    rw [← same]
    exact (longestFitting_cut s max).fits
  · intro short
    rw [cut, takeBytes_of_le (byteLength_toList s ▸ short), String.ofList_toList]

/-- **A cut is the longest front that fits.** It is the text itself just when that fits, and otherwise leaves at most
three of the bytes unused. The search from the last byte that fits stops where the cut ends, so the slice there does
not fail, and an abridged text is the text itself or its cut with three dots. -/
theorem cut_longest_fitting (s : String) (max : Nat) :
    LongestFitting s max (cut s max) ∧ (cut s max = s ↔ s.utf8ByteSize ≤ max) ∧
      (max < s.utf8ByteSize → max ≤ (cut s max).utf8ByteSize + 3) ∧
      floorBoundary s max = (cut s max).utf8ByteSize ∧ cutByOffset? s max = some (cut s max) ∧
      abridge s max = (if s.utf8ByteSize ≤ max then s else cut s max ++ "...") ∧
      abridgeByOffset? s max = some (abridge s max) := by
  refine ⟨longestFitting_cut s max, cut_eq_self_iff s max, fun long => ?_, ?_, cutByOffset?_eq s max, rfl,
    abridgeByOffset?_eq s max⟩
  · rw [← byteLength_toList] at long
    rw [utf8ByteSize_cut]
    exact Nat.lt_succ_iff.mp (lt_byteLength_takeBytes long)
  · unfold floorBoundary
    split
    case isTrue short => rw [(cut_eq_self_iff s max).mpr short]
    case isFalse => rw [boundaryUpTo_eq, utf8ByteSize_cut]

example : cut "a😀b" 4 = "a" ∧ abridge "a😀b" 5 = "a😀..." := by decide

end Concierge.Text
