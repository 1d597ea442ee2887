import Concierge.Data.Basic

/-!
# Values

A `Value` is data in canonical form: the names of every record ascend by code point, so two values
are the same exactly when they are written the same.
-/

namespace Concierge.Data

/-! ## The canonical form is canonical -/

theorem canonicalMembers_insertSorted (k : String) (v : Data) (ms : List (String × Data))
    (hv : v.canonical = true) (h : canonicalMembers ms = true) :
    canonicalMembers (insertSorted k v ms) = true := by
  induction ms with
  | nil => simp [insertSorted, canonicalMembers, hv]
  | cons m ms ih =>
    obtain ⟨n, w⟩ := m
    simp only [canonicalMembers, Bool.and_eq_true] at h
    simp only [insertSorted]
    split
    · simp [canonicalMembers, hv, h]
    · split <;> simp [canonicalMembers, hv, h, ih]

theorem canonical_sortMembers (ms : List (String × Data)) (h : canonicalMembers ms = true) :
    (record (sortMembers ms)).canonical = true := by
  suffices ∀ ms sorted : List (String × Data), canonicalMembers ms = true →
      ascending (sorted.map (·.1)) = true → canonicalMembers sorted = true →
      (record (ms.foldl (fun sorted m => insertSorted m.1 m.2 sorted) sorted)).canonical = true from
    this ms [] h rfl rfl
  intro ms
  induction ms with
  | nil => intro sorted _ ha hc; simp [canonical, ha, hc]
  | cons m ms ih =>
    intro sorted h ha hc
    obtain ⟨k, v⟩ := m
    simp only [canonicalMembers, Bool.and_eq_true] at h
    exact ih _ h.2 (ascending_insertSorted k v sorted ha)
      (canonicalMembers_insertSorted k v sorted h.1 hc)

mutual

theorem canonical_canonicalize {d e : Data} (h : d.canonicalize? = some e) :
    e.canonical = true := by
  match d with
  | .list xs =>
    simp only [canonicalize?, Option.map_eq_some_iff] at h
    obtain ⟨ys, hys, rfl⟩ := h
    simpa [canonical] using canonicalItems_canonicalize hys
  | .record ms =>
    simp only [canonicalize?, Option.map_eq_some_iff] at h
    obtain ⟨ns, hns, rfl⟩ := h
    exact canonical_sortMembers ns (canonicalMembers_canonicalize hns)
  | .unreadable => simp [canonicalize?] at h
  | .null | .bool _ | .num _ | .str _ =>
    simp only [canonicalize?, Option.some.injEq] at h
    subst h
    rfl

theorem canonicalItems_canonicalize {xs ys : List Data} (h : canonicalizeItems? xs = some ys) :
    canonicalItems ys = true := by
  match xs with
  | [] => simp [canonicalizeItems?] at h; subst h; rfl
  | x :: xs =>
    simp only [canonicalizeItems?, Option.bind_eq_bind, Option.bind_eq_some_iff] at h
    obtain ⟨y, hy, zs, hzs, h⟩ := h
    cases h
    simp [canonicalItems, canonical_canonicalize hy, canonicalItems_canonicalize hzs]

theorem canonicalMembers_canonicalize {ms ns : List (String × Data)}
    (h : canonicalizeMembers? ms = some ns) : canonicalMembers ns = true := by
  match ms with
  | [] => simp [canonicalizeMembers?] at h; subst h; rfl
  | (k, v) :: ms =>
    simp only [canonicalizeMembers?, Option.bind_eq_bind, Option.bind_eq_some_iff] at h
    obtain ⟨w, hw, os, hos, h⟩ := h
    cases h
    simp [canonicalMembers, canonical_canonicalize hw, canonicalMembers_canonicalize hos]

end

end Concierge.Data

namespace Concierge

structure Value where
  data : Data
  canonical : data.canonical = true

namespace Value

def ofData? (d : Data) : Option Value :=
  match h : d.canonicalize? with
  | some e => some ⟨e, Data.canonical_canonicalize h⟩
  | none => none

def null : Value := ⟨.null, rfl⟩

def str (s : String) : Value := ⟨.str s, rfl⟩

def bool (b : Bool) : Value := ⟨.bool b, rfl⟩

def nat (n : Nat) : Value := ⟨.num (.int n), rfl⟩

instance : Inhabited Value := ⟨null⟩

def ofData (d : Data) : Value := (ofData? d).getD null

def ofMembers (ms : List (String × Value)) : Value :=
  ofData (.record (ms.map fun (k, v) => (k, v.data)))

def emptyRecord : Value := ⟨.record [], rfl⟩

def isNull (v : Value) : Bool := v.data.isNull

def text? (v : Value) : Option String := v.data.text?

def member? (name : String) (v : Value) : Option Value := (v.data.member? name).bind ofData?

end Value

end Concierge
