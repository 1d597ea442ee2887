import Mathlib.Data.List.DropRight
import Concierge.Text.Blank
import Concierge.Text.Find

/-!
# Where a piece of text is found

`First P cs before found after` says that what `P` holds of is first found behind `before`; `splitFirst?` splits
there. `Trims` and `Pieces` say in the same way what trimming and splitting give.
-/

namespace Concierge.Text

/-! ## First occurrences -/

structure First (P : List Char → Prop) (cs before found after : List Char) : Prop where
  split : cs = before ++ found ++ after
  found : P found
  first : ∀ b f a, cs = b ++ f ++ a → P f → before.length ≤ b.length

def Absent (P : List Char → Prop) (cs : List Char) : Prop := ∀ b f a, cs = b ++ f ++ a → ¬ P f

section
variable {P : List Char → Prop} {c : Char} {cs before found after : List Char}

theorem first_nil (split : cs = found ++ after) (h : P found) : First P cs [] found after :=
  ⟨split, h, fun _ _ _ _ _ => Nat.zero_le _⟩

theorem First.cons (h : First P cs before found after) (later : ∀ f a, c :: cs = f ++ a → ¬ P f) :
    First P (c :: cs) (c :: before) found after := by
  refine ⟨by rw [h.split]; rfl, h.found, fun b f a split hf => ?_⟩
  cases b with
  | nil => exact absurd hf (later f a split)
  | cons c' b =>
    simp only [List.cons_append, List.cons.injEq] at split
    exact Nat.succ_le_succ (h.first b f a split.2 hf)

theorem Absent.cons (h : Absent P cs) (later : ∀ f a, c :: cs = f ++ a → ¬ P f) : Absent P (c :: cs) := by
  intro b f a split
  cases b with
  | nil => exact later f a split
  | cons c' b =>
    simp only [List.cons_append, List.cons.injEq] at split
    exact h b f a split.2

theorem First.not_absent (h : First P cs before found after) : ¬ Absent P cs :=
  fun absent => absent _ _ _ h.split h.found

variable {n : Nat} (sized : ∀ f, P f → f.length = n)
include sized

theorem First.unique {before' found' after' : List Char} (h : First P cs before found after)
    (h' : First P cs before' found' after') : before = before' ∧ after = after' := by
  have same : before.length = before'.length :=
    Nat.le_antisymm (h.first _ _ _ h'.split h'.found) (h'.first _ _ _ h.split h.found)
  have both := h.split.symm.trans h'.split
  rw [List.append_assoc, List.append_assoc] at both
  obtain ⟨rfl, rest⟩ := List.append_inj both same
  exact ⟨rfl, (List.append_inj rest ((sized _ h.found).trans (sized _ h'.found).symm)).2⟩

variable {hit : List Char → Bool} (hits : ∀ cs, hit cs = true ↔ ∃ f a, cs = f ++ a ∧ P f)
include hits

theorem splitFirst?_cases (cs : List Char) :
    (∃ before found after, splitFirst? hit n cs = some (before, after) ∧ First P cs before found after) ∨
      splitFirst? hit n cs = none ∧ Absent P cs := by
  have later {cs : List Char} (miss : ¬ hit cs = true) : ∀ f a, cs = f ++ a → ¬ P f :=
    fun f a split hf => miss ((hits cs).mpr ⟨f, a, split, hf⟩)
  induction cs with
  | nil =>
    by_cases h : hit [] = true
    · obtain ⟨f, a, split, hf⟩ := (hits []).mp h
      obtain ⟨rfl, rfl⟩ := List.append_eq_nil_iff.mp split.symm
      exact Or.inl ⟨[], [], [], by simp [splitFirst?, h], first_nil rfl hf⟩
    · refine Or.inr ⟨by simp [splitFirst?, h], fun b f a split => ?_⟩
      obtain ⟨hbf, -⟩ := List.append_eq_nil_iff.mp split.symm
      obtain ⟨rfl, rfl⟩ := List.append_eq_nil_iff.mp hbf
      exact later h [] [] rfl
  | cons c cs ih =>
    by_cases h : hit (c :: cs) = true
    · obtain ⟨f, a, split, hf⟩ := (hits (c :: cs)).mp h
      refine Or.inl ⟨[], f, a, ?_, first_nil split hf⟩
      rw [splitFirst?, if_pos h, split, ← sized f hf, List.drop_left]
    · rcases ih with ⟨before, found, after, split, first⟩ | ⟨split, absent⟩
      · refine Or.inl ⟨c :: before, found, after, ?_, first.cons (later h)⟩
        rw [splitFirst?, if_neg h, split]
        rfl
      · refine Or.inr ⟨?_, absent.cons (later h)⟩
        rw [splitFirst?, if_neg h, split]
        rfl

end

/-! ## Words, the case of letters apart -/

theorem lower_eq_self {c : Char} (h : c.toNat < 65 ∨ 90 < c.toNat) : lower c = c := by
  unfold lower Char.toLower
  split
  case isTrue upper =>
    have low : 65 ≤ c.toNat := UInt32.le_iff_toNat_le.mp upper.1
    have high : c.toNat ≤ 90 := UInt32.le_iff_toNat_le.mp upper.2
    omega
  case isFalse => rfl

theorem lower_of_isBlank {c : Char} (h : isBlank c = true) : lower c = c := by
  apply lower_eq_self
  simp only [isBlank, Bool.or_eq_true, Bool.and_eq_true, decide_eq_true_eq] at h
  omega

/-- The word, the case of `A` to `Z` apart. -/
def Spells (word cs : List Char) : Prop := cs.map lower = word.map lower

theorem Spells.length_eq {word : List Char} : ∀ cs, Spells word cs → cs.length = word.length := by
  intro cs h
  have := congrArg List.length h
  simpa using this

theorem startsWithNoCase_iff (word cs : List Char) :
    startsWithNoCase word cs = true ↔ ∃ f a, cs = f ++ a ∧ Spells word f := by
  unfold startsWithNoCase
  rw [List.isPrefixOf_iff_prefix]
  constructor
  · intro h
    refine ⟨cs.take word.length, cs.drop word.length, (List.take_append_drop _ _).symm, ?_⟩
    refine (h.eq_of_length_le ?_).symm
    simp only [List.length_map, List.length_take]
    exact Nat.min_le_left _ _
  · rintro ⟨f, a, rfl, h⟩
    rw [← Spells.length_eq f h, List.take_left]
    exact ⟨[], (List.append_nil _).trans (Eq.symm h)⟩

/-! ## Trimming -/

theorem dropWhile_of_head? {p : Char → Bool} {cs : List Char} (h : ∀ c, cs.head? = some c → p c = false) :
    cs.dropWhile p = cs := by
  cases cs with
  | nil => rfl
  | cons c cs => simp [h c rfl]

theorem dropWhile_append_of_head? {p : Char → Bool} {front t : List Char} (h : ∀ c, t.head? = some c → p c = false) :
    (front ++ t).dropWhile p = front.dropWhile p ++ t := by
  rw [List.dropWhile_append]
  split
  case isTrue empty => rw [List.isEmpty_iff.mp empty, dropWhile_of_head? h, List.nil_append]
  case isFalse => rfl

structure Trims (cs t : List Char) : Prop where
  split : ∃ front back, cs = front ++ t ++ back ∧ (∀ c ∈ front, isBlank c = true) ∧ ∀ c ∈ back, isBlank c = true
  begins : ∀ c, t.head? = some c → isBlank c = false
  ends : ∀ c, t.getLast? = some c → isBlank c = false

theorem Trims.trimChars_eq {cs t : List Char} (h : Trims cs t) : trimChars cs = t := by
  obtain ⟨⟨front, back, rfl, hfront, hback⟩, begins, ends⟩ := h
  unfold trimChars trimEnd trimStart dropWhileEnd
  rw [List.append_assoc, List.dropWhile_append_of_pos hfront]
  cases t with
  | nil =>
    have all : back.dropWhile isBlank = [] := by simpa using hback
    simp [all]
  | cons c t =>
    have start : ((c :: t) ++ back).dropWhile isBlank = (c :: t) ++ back :=
      dropWhile_of_head? fun d hd => begins d (by simpa using hd)
    rw [start, List.reverse_append, List.dropWhile_append_of_pos (by simpa using hback), dropWhile_of_head?]
    · exact List.reverse_reverse _
    · intro d hd
      rw [List.head?_reverse] at hd
      exact ends d hd

theorem trims_trimChars (cs : List Char) : Trims cs (trimChars cs) := by
  have first (t : List Char) : ∃ front, t = front ++ t.dropWhile isBlank ∧ (∀ c ∈ front, isBlank c = true) ∧
      ∀ c, (t.dropWhile isBlank).head? = some c → isBlank c = false := by
    refine ⟨t.takeWhile isBlank, List.takeWhile_append_dropWhile.symm, fun c => List.mem_takeWhile_imp, fun c hc => ?_⟩
    have := List.head?_dropWhile_not isBlank t
    rw [hc] at this
    simpa using this
  obtain ⟨front, hfront, blankFront, begins⟩ := first cs
  -- the end is trimmed as the start of the reverse
  obtain ⟨back, hback, blankBack, ends⟩ := first (cs.dropWhile isBlank).reverse
  have rest : cs.dropWhile isBlank = trimChars cs ++ back.reverse := by
    have := congrArg List.reverse hback
    simpa [trimChars, trimEnd, trimStart, dropWhileEnd] using this
  refine ⟨⟨front, back.reverse, ?_, blankFront, by simpa using blankBack⟩, fun c hc => ?_, fun c hc => ?_⟩
  · rw [List.append_assoc, ← rest]
    exact hfront
  · refine begins c ?_
    rw [rest, List.head?_append, hc]
    rfl
  · refine ends c ?_
    simpa [trimChars, trimEnd, trimStart, dropWhileEnd] using hc

theorem trimChars_eq_iff {cs t : List Char} : trimChars cs = t ↔ Trims cs t :=
  ⟨fun h => h ▸ trims_trimChars cs, Trims.trimChars_eq⟩

theorem trimChars_eq_nil_iff {cs : List Char} : trimChars cs = [] ↔ ∀ c ∈ cs, isBlank c = true := by
  constructor
  · intro h
    obtain ⟨⟨front, back, split, hfront, hback⟩, -, -⟩ := h ▸ trims_trimChars cs
    rw [split]
    intro c hc
    simp only [List.append_nil, List.mem_append] at hc
    exact hc.elim (hfront c) (hback c)
  · intro h
    exact Trims.trimChars_eq ⟨⟨cs, [], by simp, h, by simp⟩, by simp, by simp⟩

theorem trim_eq_empty_iff (s : String) : trim s = "" ↔ blank s = true := by
  rw [trim, String.ofList_eq_empty_iff, trimChars_eq_nil_iff, blank, List.all_eq_true]

/-! ## Pieces -/

/-- What stands between the places where `P` holds, each the first one behind the place before. -/
inductive Pieces (P : List Char → Prop) : List Char → List (List Char) → Prop
  | last {cs} (absent : Absent P cs) : Pieces P cs [cs]
  | more {cs before found after ps} (first : First P cs before found after) (rest : Pieces P after ps) :
      Pieces P cs (before :: ps)

theorem Pieces.unique {P : List Char → Prop} {n : Nat} (sized : ∀ f, P f → f.length = n) {cs : List Char}
    {ps ps' : List (List Char)} (h : Pieces P cs ps) (h' : Pieces P cs ps') : ps = ps' := by
  induction h generalizing ps' with
  | last absent =>
    cases h' with
    | last _ => rfl
    | more first _ => exact absurd absent first.not_absent
  | more first _ ih =>
    cases h' with
    | last absent => exact absurd absent first.not_absent
    | more first' rest' =>
      obtain ⟨rfl, rfl⟩ := first.unique sized first'
      rw [ih rest']

theorem pieces_piecesAtPair (c : Char) (cs : List Char) : Pieces (· = [c, c]) cs (piecesAtPair c cs) := by
  have short {cs : List Char} (h : cs.length < 2) : Absent (· = [c, c]) cs := by
    rintro b f a rfl rfl
    simp only [List.length_append, List.length_cons, List.length_nil] at h
    omega
  fun_induction piecesAtPair c cs with
  | case1 => exact .last (short (by simp))
  | case2 a => exact .last (short (by simp))
  | case3 a b cs both ih =>
    obtain ⟨rfl, rfl⟩ := both
    exact .more (first_nil (show _ = [_, _] ++ cs from rfl) rfl) ih
  | case4 a b cs other none ih =>
    rw [none] at ih
    cases ih
  | case5 a b cs other p ps found ih =>
    have later : ∀ f a', a :: b :: cs = f ++ a' → ¬ f = [c, c] := by
      rintro f a' split rfl
      simp only [List.cons_append, List.nil_append, List.cons.injEq] at split
      exact other ⟨split.1, split.2.1⟩
    rw [found] at ih
    cases ih with
    | last absent => exact .last (absent.cons later)
    | more first rest => exact .more (first.cons later) rest

end Concierge.Text
