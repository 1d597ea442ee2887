import Concierge.Memory.FileStore
import Mathlib.Algebra.Group.Nat.Defs
import Mathlib.Algebra.Group.Basic
import Mathlib.Tactic.IntervalCases

/-!
# Chat ids and their texts

A chat id can be read back from its text, so two chats never share a text. The files that are kept for a
chat are therefore its own.
-/

namespace Concierge

theorem Text.hexValue?_digitChar {d : Nat} (h : d < 16) : hexValue? (Nat.digitChar d) = some d := by
  interval_cases d <;> decide

namespace ChatId

open Text

/-- The first `k` digits write what is left of the number without the others. -/
theorem valueInBase?_digits (c : ChatId) {k : Nat} (hk : k ≤ 32) :
    valueInBase? 16 ((List.range k).map c.digit) = some (c.bits.toNat / 2 ^ (4 * (32 - k))) := by
  induction k with
  | zero =>
    have small : c.bits.toNat < 2 ^ (4 * 32) := c.bits.isLt
    rw [Nat.sub_zero, Nat.div_eq_of_lt small]
    rfl
  | succ k ih =>
    have before := ih (by omega)
    unfold valueInBase? at before ⊢
    rw [List.range_succ, List.map_append, List.foldlM_append, before]
    have digit_lt : c.bits.toNat / 2 ^ (4 * (31 - k)) % 16 < 16 := Nat.mod_lt _ (by decide)
    have exponent : 4 * (32 - k) = 4 * (31 - k) + 4 := by omega
    have left : 32 - (k + 1) = 31 - k := by omega
    have value : 16 * (c.bits.toNat / 2 ^ (4 * (32 - k))) + c.bits.toNat / 2 ^ (4 * (31 - k)) % 16 =
        c.bits.toNat / 2 ^ (4 * (31 - k)) := by
      rw [exponent, pow_add, ← Nat.div_div_eq_div_mul]
      exact Nat.div_add_mod _ _
    simp [digit, hexValue?_digitChar digit_lt, digit_lt, left, value]

theorem ofText?_text (c : ChatId) : ofText? c.text = some c := by
  have digits : ofDigits? ((List.range 32).map c.digit) = some c := by
    unfold ofDigits?
    rw [valueInBase?_digits c (Nat.le_refl 32)]
    simp
  unfold text ofText?
  rw [String.toList_ofList]
  exact digits

theorem text_injective {c c' : ChatId} (h : c.text = c'.text) : c = c' := by
  have same := congrArg ofText? h
  rw [ofText?_text, ofText?_text] at same
  exact Option.some.inj same

end ChatId

namespace Memory.FileStore

variable {c c' : ChatId}

theorem recordName_injective (h : recordName c = recordName c') : c = c' :=
  ChatId.text_injective (String.append_left_inj _ |>.mp h)

theorem draftName_injective (h : draftName c = draftName c') : c = c' :=
  ChatId.text_injective (String.append_left_inj _ |>.mp h)

theorem recordName_ne_draftName (c c' : ChatId) : recordName c ≠ draftName c' := by
  intro h
  have lasts := congrArg (fun s => s.toList.getLast?) h
  simp [recordName, draftName] at lasts

end Memory.FileStore

end Concierge
