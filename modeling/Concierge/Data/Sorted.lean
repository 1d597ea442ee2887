/-!
# Tables sorted by name

A list of named entries whose names ascend strictly by code point. `insertSorted` puts an entry
into its place and replaces one of the same name.
-/

namespace Concierge

/-- Names that ascend strictly by code point. -/
def ascending : List String → Bool
  | a :: b :: ks => decide (a < b) && ascending (b :: ks)
  | _ => true

def insertSorted {α : Type} (k : String) (v : α) : List (String × α) → List (String × α)
  | [] => [(k, v)]
  | m :: ms =>
    if k < m.1 then (k, v) :: m :: ms
    else if k = m.1 then (k, v) :: ms
    else m :: insertSorted k v ms

def lookupName {α : Type} (k : String) : List (String × α) → Option α
  | [] => none
  | m :: ms => if k = m.1 then some m.2 else lookupName k ms

theorem ascending_cons {a : String} {ks : List String} :
    ascending (a :: ks) = true ↔ (∀ b, ks.head? = some b → a < b) ∧ ascending ks = true := by
  cases ks <;> simp [ascending]

theorem head?_insertSorted {α : Type} (k : String) (v : α) (ms : List (String × α)) (b : String)
    (h : ((insertSorted k v ms).map (·.1)).head? = some b) :
    b = k ∨ (ms.map (·.1)).head? = some b := by
  cases ms with
  | nil => simp [insertSorted] at h; exact .inl h.symm
  | cons m ms =>
    simp only [insertSorted] at h
    split at h
    · simp at h; exact .inl h.symm
    · split at h
      · simp at h; exact .inl h.symm
      · simp at h; simp [h]

theorem ascending_insertSorted {α : Type} (k : String) (v : α) (ms : List (String × α))
    (h : ascending (ms.map (·.1)) = true) :
    ascending ((insertSorted k v ms).map (·.1)) = true := by
  induction ms with
  | nil => rfl
  | cons m ms ih =>
    rw [List.map_cons, ascending_cons] at h
    simp only [insertSorted]
    split
    · rename_i hlt
      rw [List.map_cons, ascending_cons, List.map_cons, ascending_cons]
      exact ⟨by simpa using hlt, h⟩
    · split
      · rename_i heq
        subst heq
        rw [List.map_cons, ascending_cons]
        exact h
      · rename_i hnlt hne
        rw [List.map_cons, ascending_cons]
        refine ⟨fun b hb => ?_, ih h.2⟩
        rcases head?_insertSorted k v ms b hb with rfl | hb
        · exact Std.lt_of_le_of_ne (Std.not_lt.mp hnlt) (Ne.symm hne)
        · exact h.1 b hb

theorem lookupName_insertSorted {α : Type} (k j : String) (v : α) (ms : List (String × α)) :
    lookupName j (insertSorted k v ms) = if j = k then some v else lookupName j ms := by
  induction ms with
  | nil => simp [insertSorted, lookupName]
  | cons m ms ih =>
    simp only [insertSorted]
    split
    · simp [lookupName]
    · split
      · rename_i heq
        subst heq
        simp only [lookupName]
        split <;> rfl
      · rename_i hne
        simp only [lookupName, ih]
        by_cases hj : j = k
        · subst hj; simp [hne]
        · simp [hj]

theorem lookupName_eq_none {α : Type} {k : String} {ms : List (String × α)} :
    lookupName k ms = none ↔ k ∉ ms.map (·.1) := by
  induction ms with
  | nil => simp [lookupName]
  | cons m ms ih =>
    rw [lookupName, List.map_cons, List.mem_cons, not_or]
    by_cases h : k = m.1
    · simp [h]
    · simp only [h, ↓reduceIte, not_false_eq_true, true_and]
      exact ih

theorem lookupName_eq_some {α : Type} {k : String} {ms : List (String × α)}
    (h : k ∈ ms.map (·.1)) : ∃ v, lookupName k ms = some v := by
  cases hv : lookupName k ms with
  | none => exact absurd h (lookupName_eq_none.mp hv)
  | some v => exact ⟨v, rfl⟩

theorem mem_names_of_lookupName {α : Type} {k : String} {v : α} {ms : List (String × α)}
    (h : lookupName k ms = some v) : k ∈ ms.map (·.1) := by
  by_cases hk : k ∈ ms.map (·.1)
  · exact hk
  · rw [lookupName_eq_none.mpr hk] at h
    cases h

theorem mem_names_insertSorted {α : Type} {j k : String} {v : α} {ms : List (String × α)} :
    j ∈ (insertSorted k v ms).map (·.1) ↔ j = k ∨ j ∈ ms.map (·.1) := by
  induction ms with
  | nil => simp [insertSorted]
  | cons m ms ih =>
    simp only [insertSorted]
    split
    · simp
    · split
      · rename_i h
        simp [h]
      · simp only [List.map_cons, List.mem_cons, ih]
        constructor
        · rintro (h | h | h) <;> simp [h]
        · rintro (h | h | h) <;> simp [h]

theorem mem_entries_insertSorted {α : Type} {k : String} {v x : α} {ms : List (String × α)}
    (h : x ∈ (insertSorted k v ms).map (·.2)) : x = v ∨ x ∈ ms.map (·.2) := by
  induction ms with
  | nil =>
    rw [insertSorted, List.map_singleton, List.mem_singleton] at h
    exact Or.inl h
  | cons m ms ih =>
    unfold insertSorted at h
    split at h
    · exact (List.mem_cons.mp h)
    · split at h
      · rcases List.mem_cons.mp h with here | there
        · exact Or.inl here
        · exact Or.inr (List.mem_cons_of_mem _ there)
      · rcases List.mem_cons.mp h with here | there
        · exact Or.inr (here ▸ List.mem_cons_self)
        · exact (ih there).imp_right (List.mem_cons_of_mem _)

end Concierge
