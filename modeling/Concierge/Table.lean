/-!
# Tables in order of first entry

A table is a list of keys with their entries. Putting an entry under a key that is there replaces it
in place; a new key goes to the end.
-/

namespace Concierge

abbrev Table (κ α : Type) := List (κ × α)

namespace Table

variable {κ α : Type} [DecidableEq κ]

def keys (t : Table κ α) : List κ := t.map (·.1)

def get? (k : κ) : Table κ α → Option α
  | [] => none
  | e :: t => if e.1 = k then some e.2 else get? k t

def put (k : κ) (v : α) : Table κ α → Table κ α
  | [] => [(k, v)]
  | e :: t => if e.1 = k then (k, v) :: t else e :: put k v t

def erase (k : κ) (t : Table κ α) : Table κ α := t.filter (·.1 ≠ k)

def has (k : κ) (t : Table κ α) : Bool := (get? k t).isSome

theorem get?_put (j k : κ) (v : α) (t : Table κ α) :
    get? j (put k v t) = if j = k then some v else get? j t := by
  induction t with
  | nil => simp [put, get?, eq_comm]
  | cons e t ih =>
    simp only [put]
    by_cases h : e.1 = k
    · simp only [h, ↓reduceIte, get?]
      by_cases hj : k = j
      · simp [hj]
      · simp [hj, Ne.symm hj]
    · simp only [h, ↓reduceIte, get?, ih]
      by_cases hj : e.1 = j
      · simp [hj, show j ≠ k from fun e' => h (hj.trans e')]
      · simp [hj]

theorem get?_erase (j k : κ) (t : Table κ α) :
    get? j (erase k t) = if j = k then none else get? j t := by
  induction t with
  | nil => simp [erase, get?]
  | cons e t ih =>
    unfold erase at ih ⊢
    rw [List.filter_cons]
    by_cases h : e.1 = k
    · simp only [h, ne_eq, not_true_eq_false, decide_false, Bool.false_eq_true, ↓reduceIte, ih, get?]
      by_cases hj : j = k
      · simp [hj]
      · simp [hj, Ne.symm hj]
    · simp only [h, ne_eq, not_false_eq_true, decide_true, ↓reduceIte, get?, ih]
      by_cases hj : e.1 = j
      · simp [hj, show j ≠ k from fun e' => h (hj.trans e')]
      · simp [hj]

theorem mem_of_get? {k : κ} {v : α} {t : Table κ α} (h : get? k t = some v) : (k, v) ∈ t := by
  induction t with
  | nil => cases h
  | cons e t ih =>
    unfold get? at h
    split at h
    · rename_i same
      cases h
      subst same
      exact List.mem_cons_self
    · exact List.mem_cons_of_mem _ (ih h)

theorem keys_put_of_mem {k : κ} {v : α} {t : Table κ α} (h : k ∈ keys t) :
    keys (put k v t) = keys t := by
  induction t with
  | nil => simp [keys] at h
  | cons e t ih =>
    simp only [put]
    by_cases hk : e.1 = k
    · simp [hk, keys]
    · simp only [hk, ↓reduceIte]
      simp only [keys, List.map_cons, List.mem_cons] at h ⊢
      rw [show (put k v t).map (·.1) = t.map (·.1) from
        ih (h.resolve_left fun e' => hk e'.symm)]

theorem keys_put_of_not_mem {k : κ} {v : α} {t : Table κ α} (h : k ∉ keys t) :
    keys (put k v t) = keys t ++ [k] := by
  induction t with
  | nil => rfl
  | cons e t ih =>
    simp only [keys, List.map_cons, List.mem_cons, not_or] at h
    simp only [put, show e.1 ≠ k from fun e' => h.1 e'.symm, ↓reduceIte]
    simp only [keys, List.map_cons, List.cons_append]
    rw [show (put k v t).map (·.1) = t.map (·.1) ++ [k] from ih h.2]

end Table

end Concierge
