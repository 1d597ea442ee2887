import Concierge.Table
import Mathlib.Data.List.Basic
import Mathlib.Data.List.Induction
import Mathlib.Data.List.Nodup

/-!
# Items put one after the other

The table that comes of putting each item of a list under its key: every key has the last item of it, and the
keys stand in the order in which they first occur.
-/

namespace Concierge.Table

/-! ## The last item under a key -/

section
variable {κ α : Type} {key : α → κ} {k : κ} {x : α}

def LastUnder (key : α → κ) (xs : List α) (k : κ) (x : α) : Prop :=
  ∃ before after, xs = before ++ x :: after ∧ key x = k ∧ ∀ y ∈ after, key y ≠ k

theorem split_concat {xs before after : List α} {y : α} (whole : xs ++ [y] = before ++ x :: after) :
    (after = [] ∧ x = y) ∨ ∃ after', after = after' ++ [y] ∧ xs = before ++ x :: after' := by
  rcases List.eq_nil_or_concat after with rfl | ⟨after, z, rfl⟩
  · obtain ⟨-, last⟩ := List.append_inj' whole rfl
    exact .inl ⟨rfl, (List.head_eq_of_cons_eq last).symm⟩
  · rw [List.concat_eq_append, ← List.cons_append, ← List.append_assoc] at whole
    obtain ⟨front, last⟩ := List.append_inj' whole rfl
    rw [List.concat_eq_append, List.head_eq_of_cons_eq last]
    exact .inr ⟨after, rfl, front⟩

theorem lastUnder_concat_self (xs : List α) (y : α) : LastUnder key (xs ++ [y]) (key y) x ↔ y = x := by
  constructor
  · rintro ⟨before, after, whole, -, others⟩
    rcases split_concat whole with ⟨-, same⟩ | ⟨after', rfl, -⟩
    · exact same.symm
    · exact absurd rfl (others y (by simp))
  · rintro rfl
    exact ⟨xs, [], rfl, rfl, by simp⟩

theorem lastUnder_concat_of_ne {y : α} (xs : List α) (other : key y ≠ k) :
    LastUnder key (xs ++ [y]) k x ↔ LastUnder key xs k x := by
  constructor
  · rintro ⟨before, after, whole, here, others⟩
    rcases split_concat whole with ⟨-, rfl⟩ | ⟨after', rfl, front⟩
    · exact absurd here other
    · exact ⟨before, after', front, here, fun z hz => others z (List.mem_append_left _ hz)⟩
  · rintro ⟨before, after, rfl, here, others⟩
    refine ⟨before, after ++ [y], by simp, here, fun z hz => ?_⟩
    rcases List.mem_append.mp hz with hz | hz
    · exact others z hz
    · rw [List.mem_singleton.mp hz]
      exact other

end

variable {κ α : Type} [DecidableEq κ] {j k : κ} {u v : α} {t : Table κ α}

/-! ## Putting an entry -/

theorem put_head {e : κ × α} (here : e.1 = k) : put k v (e :: t) = (k, v) :: t := if_pos here

theorem put_tail {e : κ × α} (other : e.1 ≠ k) : put k v (e :: t) = e :: t.put k v := if_neg other

theorem put_of_get?_eq_none (h : t.get? k = none) : t.put k v = t ++ [(k, v)] := by
  induction t with
  | nil => rfl
  | cons e t ih =>
    unfold get? at h
    split at h
    · cases h
    · rename_i other
      rw [put_tail other, ih h, List.cons_append]

theorem put_of_get?_eq_some (h : t.get? k = some v) : t.put k v = t := by
  induction t with
  | nil => cases h
  | cons e t ih =>
    unfold get? at h
    split at h
    · rename_i here
      cases h
      rw [put_head here, ← here]
    · rename_i other
      rw [put_tail other, ih h]

theorem nodup_put (once : t.keys.Nodup) (k : κ) (v : α) : (t.put k v).keys.Nodup := by
  by_cases here : k ∈ t.keys
  · rw [keys_put_of_mem here]
    exact once
  · rw [keys_put_of_not_mem here]
    refine List.nodup_append.mpr ⟨once, List.pairwise_singleton _ _, fun j hj j' hj' => ?_⟩
    rw [List.mem_singleton.mp hj']
    exact ne_of_mem_of_not_mem hj here

theorem mem_put {e : κ × α} (h : e ∈ t.put k v) : e = (k, v) ∨ e ∈ t := by
  induction t with
  | nil => exact .inl (List.mem_singleton.mp h)
  | cons e' t ih =>
    unfold put at h
    split at h
    · rcases List.mem_cons.mp h with h | h
      · exact .inl h
      · exact .inr (List.mem_cons_of_mem _ h)
    · rcases List.mem_cons.mp h with h | h
      · exact .inr (h ▸ List.mem_cons_self)
      · exact (ih h).imp_right (List.mem_cons_of_mem _)

theorem mem_keys_put : j ∈ (t.put k v).keys ↔ j ∈ t.keys ∨ j = k := by
  by_cases known : k ∈ t.keys
  · rw [keys_put_of_mem known]
    refine ⟨.inl, fun h => h.elim id fun same => ?_⟩
    rw [same]
    exact known
  · rw [keys_put_of_not_mem known, List.mem_append, List.mem_singleton]

theorem get?_eq_none_iff : t.get? k = none ↔ k ∉ t.keys := by
  induction t with
  | nil => simp [get?, keys]
  | cons e t ih =>
    unfold get? keys
    rw [List.map_cons, List.mem_cons, not_or]
    by_cases here : e.1 = k
    · simp [here]
    · rw [if_neg here, ih]
      exact ⟨fun absent => ⟨Ne.symm here, absent⟩, And.right⟩

theorem has_iff : t.has k = true ↔ k ∈ t.keys := by
  unfold has
  rw [← Option.not_isNone, Bool.not_eq_true', ← Bool.not_eq_true, Option.isNone_iff_eq_none, get?_eq_none_iff,
    not_not]

theorem get?_of_mem (once : t.keys.Nodup) (h : (k, v) ∈ t) : t.get? k = some v := by
  induction t with
  | nil => cases h
  | cons e t ih =>
    obtain ⟨absent, rest⟩ := List.nodup_cons.mp once
    unfold get?
    rcases List.mem_cons.mp h with rfl | h
    · rw [if_pos rfl]
    · have other : e.1 ≠ k := by
        rintro rfl
        exact absent (List.mem_map_of_mem (f := (·.1)) h)
      rw [if_neg other]
      exact ih rest h

theorem put_put (k : κ) (u v : α) (t : Table κ α) : (t.put k u).put k v = t.put k v := by
  induction t with
  | nil => simp [put]
  | cons e t ih => by_cases here : e.1 = k <;> simp [put, here, ih]

/-- A key that is there keeps its place, whenever its entry is replaced. -/
theorem put_comm (other : j ≠ k) (known : k ∈ t.keys) : (t.put k v).put j u = (t.put j u).put k v := by
  induction t with
  | nil => cases known
  | cons e t ih =>
    by_cases here : e.1 = k
    · have elsewhere : e.1 ≠ j := by
        rw [here]
        exact other.symm
      simp [put, here, other.symm]
    · have inside : k ∈ keys t := (List.mem_cons.mp known).resolve_left (Ne.symm here)
      by_cases there : e.1 = j
      · simp [put, there, other]
      · simp [put, here, there, ih inside]

theorem put_eq_set {place : Nat} (once : t.keys.Nodup) (there : t[place]? = some (k, u)) :
    t.put k v = t.set place (k, v) := by
  induction t generalizing place with
  | nil => cases there
  | cons e t ih =>
    obtain ⟨absent, rest⟩ := List.nodup_cons.mp once
    cases place with
    | zero =>
      cases there
      exact put_head rfl
    | succ place =>
      have there' : t[place]? = some (k, u) := there
      have other : e.1 ≠ k := by
        rintro rfl
        exact absent (List.mem_map_of_mem (f := (·.1)) (List.mem_of_getElem? there'))
      rw [put_tail other, ih rest there']
      rfl

/-! ## Putting items under their keys -/

variable (key : α → κ)

def putAll (t : Table κ α) (xs : List α) : Table κ α := xs.foldl (fun t x => t.put (key x) x) t

def collect (xs : List α) : Table κ α := putAll key [] xs

variable {key} {x : α} {xs : List α}

theorem putAll_concat : putAll key t (xs ++ [x]) = (putAll key t xs).put (key x) x := by
  unfold putAll
  rw [List.foldl_append]
  rfl

theorem collect_concat : collect key (xs ++ [x]) = (collect key xs).put (key x) x := putAll_concat

theorem collect_append (xs ys : List α) : collect key (xs ++ ys) = putAll key (collect key xs) ys := by
  unfold collect putAll
  rw [List.foldl_append]

theorem get?_collect (xs : List α) (k : κ) : (collect key xs).get? k = (xs.filter (key · = k)).getLast? := by
  induction xs using List.reverseRecOn with
  | nil => rfl
  | append_singleton xs x ih =>
    rw [collect_concat, get?_put, List.filter_append]
    by_cases same : k = key x
    · simp [same]
    · simp [ih, same, Ne.symm same]

theorem get?_collect_eq_some (xs : List α) : (collect key xs).get? k = some x ↔ LastUnder key xs k x := by
  induction xs using List.reverseRecOn with
  | nil =>
    constructor
    · intro h
      cases h
    · rintro ⟨before, after, whole, -⟩
      simp at whole
  | append_singleton xs y ih =>
    rw [collect_concat, get?_put]
    by_cases same : k = key y
    · subst same
      rw [if_pos rfl, Option.some.injEq, lastUnder_concat_self]
    · rw [if_neg same, ih, lastUnder_concat_of_ne xs (Ne.symm same)]

theorem key_of_mem_collect (xs : List α) : ∀ e ∈ collect key xs, key e.2 = e.1 := by
  induction xs using List.reverseRecOn with
  | nil =>
    intro e h
    cases h
  | append_singleton xs x ih =>
    intro e h
    rw [collect_concat] at h
    rcases mem_put h with rfl | old
    · rfl
    · exact ih e old

theorem mem_keys_collect : k ∈ (collect key xs).keys ↔ k ∈ xs.map key := by
  induction xs using List.reverseRecOn with
  | nil => rfl
  | append_singleton xs x ih =>
    rw [collect_concat, mem_keys_put, List.map_append, List.mem_append, ih, List.map_singleton, List.mem_singleton]

theorem nodup_keys_collect (xs : List α) : (collect key xs).keys.Nodup := by
  induction xs using List.reverseRecOn with
  | nil => exact .nil
  | append_singleton xs x ih =>
    rw [collect_concat]
    exact nodup_put ih _ _

theorem ordered_collect (xs : List α) :
    (collect key xs).keys.Pairwise fun a b => (xs.map key).idxOf a < (xs.map key).idxOf b := by
  -- An item that comes last moves no key that is known before it.
  induction xs using List.reverseRecOn with
  | nil => exact .nil
  | append_singleton xs x ih =>
    have later : (collect key xs).keys.Pairwise fun a b =>
        ((xs ++ [x]).map key).idxOf a < ((xs ++ [x]).map key).idxOf b := by
      refine ih.imp_of_mem fun {a b} ha hb before => ?_
      rw [List.map_append, List.idxOf_append_of_mem (mem_keys_collect.mp ha),
        List.idxOf_append_of_mem (mem_keys_collect.mp hb)]
      exact before
    rw [collect_concat]
    by_cases known : key x ∈ (collect key xs).keys
    · rw [keys_put_of_mem known]
      exact later
    · rw [keys_put_of_not_mem known, List.pairwise_append]
      refine ⟨later, List.pairwise_singleton _ _, fun a ha b hb => ?_⟩
      have old := mem_keys_collect.mp ha
      rw [List.mem_singleton.mp hb, List.map_append, List.idxOf_append_of_mem old,
        List.idxOf_append_of_notMem fun h => known (mem_keys_collect.mpr h)]
      exact Nat.lt_of_lt_of_le (List.idxOf_lt_length_of_mem old) (Nat.le_add_right _ _)

theorem collect_of_nodup (once : (xs.map key).Nodup) : collect key xs = xs.map fun x => (key x, x) := by
  induction xs using List.reverseRecOn with
  | nil => rfl
  | append_singleton xs x ih =>
    rw [List.map_append, List.nodup_append] at once
    obtain ⟨first, -, apart⟩ := once
    have new : (collect key xs).get? (key x) = none := by
      rw [get?_eq_none_iff, mem_keys_collect]
      intro old
      exact apart _ old _ (List.mem_singleton_self _) rfl
    rw [collect_concat, put_of_get?_eq_none new, ih first, List.map_append, List.map_singleton]

/-! ## What is already collected -/

theorem putAll_put (known : k ∈ t.keys) (others : ∀ y ∈ xs, key y ≠ k) :
    (putAll key t xs).put k v = putAll key (t.put k v) xs := by
  induction xs generalizing t with
  | nil => rfl
  | cons y xs ih =>
    have other := others y List.mem_cons_self
    have still : k ∈ (t.put (key y) y).keys := mem_keys_put.mpr (.inl known)
    show (putAll key (t.put (key y) y) xs).put k v = putAll key ((t.put k v).put (key y) y) xs
    rw [ih still fun z hz => others z (List.mem_cons_of_mem _ hz), put_comm other known]

theorem putAll_values_put {c : Table κ α} (keyed : ∀ e ∈ c, key e.2 = e.1) (once : c.keys.Nodup)
    (known : key x ∈ c.keys) :
    putAll key t ((c.put (key x) x).map (·.2)) = (putAll key t (c.map (·.2))).put (key x) x := by
  induction c generalizing t with
  | nil => cases known
  | cons e c ih =>
    obtain ⟨absent, rest⟩ := List.nodup_cons.mp once
    obtain ⟨here, below⟩ := List.forall_mem_cons.mp keyed
    by_cases same : e.1 = key x
    · have others : ∀ y ∈ c.map (·.2), key y ≠ key x := by
        intro y hy
        obtain ⟨e', he', rfl⟩ := List.mem_map.mp hy
        rw [below e' he', ← same]
        intro h
        have inside : e'.1 ∈ c.map (·.1) := List.mem_map_of_mem he'
        rw [h] at inside
        exact absent inside
      have there : key x ∈ (t.put (key e.2) e.2).keys := mem_keys_put.mpr (.inr (by rw [here, same]))
      show putAll key t ((put (key x) x (e :: c)).map (·.2)) =
        (putAll key (t.put (key e.2) e.2) (c.map (·.2))).put (key x) x
      rw [putAll_put there others, here, same, put_put, put_head same]
      rfl
    · have inside : key x ∈ keys c := (List.mem_cons.mp known).resolve_left (Ne.symm same)
      show putAll key t ((put (key x) x (e :: c)).map (·.2)) =
        (putAll key (t.put (key e.2) e.2) (c.map (·.2))).put (key x) x
      rw [← ih below rest inside, put_tail same]
      rfl

/-- It is the same to put all items, or only what is left of them when they are collected. -/
theorem putAll_collect (t : Table κ α) (xs : List α) :
    putAll key t ((collect key xs).map (·.2)) = putAll key t xs := by
  induction xs using List.reverseRecOn with
  | nil => rfl
  | append_singleton xs x ih =>
    rw [collect_concat, putAll_concat, ← ih]
    by_cases known : key x ∈ (collect key xs).keys
    · exact putAll_values_put (key_of_mem_collect xs) (nodup_keys_collect xs) known
    · rw [put_of_get?_eq_none (get?_eq_none_iff.mpr known), List.map_append]
      exact putAll_concat

theorem putAll_of_get? (present : ∀ x ∈ xs, t.get? (key x) = some x) : putAll key t xs = t := by
  induction xs with
  | nil => rfl
  | cons x xs ih =>
    obtain ⟨here, below⟩ := List.forall_mem_cons.mp present
    show putAll key (t.put (key x) x) xs = t
    rw [put_of_get?_eq_some here]
    exact ih below

end Concierge.Table
