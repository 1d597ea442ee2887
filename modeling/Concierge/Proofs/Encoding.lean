import Concierge.Dialogue.Request
import Concierge.Handoff.Specialist
import Concierge.Proofs.Json
import Concierge.Tool.Output
import Mathlib.Data.List.Chain
import Mathlib.Data.List.Induction
import Mathlib.Logic.Function.Defs

/-!
# Encodings and what is decoded from them

What goes over the wire is encoded as data: a choice by a record of its name, a signal by a record that
names its kind beside its fields, everything else by a record of its fields, of which some may be missing.
Each is decoded from its encoding to what it was, whether the record keeps the order of its members or has
them by name (`encodings_round_trip`).
-/

namespace Concierge

theorem pairwise_of_ascending {ks : List String} (h : ascending ks = true) : ks.Pairwise (· < ·) := by
  rw [← List.isChain_iff_pairwise]
  induction ks with
  | nil => exact .nil
  | cons a ks ih =>
    rw [ascending_cons] at h
    cases ks with
    | nil => exact .singleton a
    | cons b ks => exact .cons_cons (h.1 b rfl) (ih h.2)

theorem insertSorted_concat {α : Type} {k : String} {v : α} {ms : List (String × α)}
    (after : ∀ m ∈ ms, m.1 < k) : insertSorted k v ms = ms ++ [(k, v)] := by
  induction ms with
  | nil => rfl
  | cons m ms ih =>
    have first : m.1 < k := after m List.mem_cons_self
    have rest : insertSorted k v ms = ms ++ [(k, v)] := ih fun m' hm => after m' (List.mem_cons_of_mem _ hm)
    simp only [insertSorted, if_neg (Std.not_lt.mpr (Std.le_of_lt first)), if_neg (Std.ne_of_lt first).symm, rest,
      List.cons_append]

theorem foldl_insertSorted {α : Type} {ms : List (String × α)} (h : ascending (ms.map (·.1)) = true) :
    ms.foldl (fun sorted m => insertSorted m.1 m.2 sorted) [] = ms := by
  have ordered : (ms.map (·.1)).Pairwise (· < ·) := pairwise_of_ascending h
  clear h
  induction ms using List.reverseRecOn with
  | nil => rfl
  | append_singleton ms m ih =>
    rw [List.map_append, List.pairwise_append] at ordered
    obtain ⟨before, -, behind⟩ := ordered
    rw [List.foldl_append, ih before]
    exact insertSorted_concat fun m' hm => behind _ (List.mem_map_of_mem hm) _ (by simp)

namespace Data

/-! ## The order of the members -/

theorem perm_insertSorted {α : Type} {k : String} {v : α} {ms : List (String × α)} (fresh : k ∉ ms.map (·.1)) :
    (insertSorted k v ms).Perm ((k, v) :: ms) := by
  induction ms with
  | nil => exact .refl _
  | cons m ms ih =>
    rw [List.map_cons, List.mem_cons, not_or] at fresh
    unfold insertSorted
    rw [if_neg fresh.1]
    split
    · exact .refl _
    · exact ((ih fresh.2).cons m).trans (.swap _ _ _)

theorem perm_sortMembers {ms : List (String × Data)} (distinct : (ms.map (·.1)).Nodup) : (sortMembers ms).Perm ms := by
  unfold sortMembers
  induction ms using List.reverseRecOn with
  | nil => exact .refl _
  | append_singleton ms m ih =>
    rw [List.map_append, List.nodup_append] at distinct
    obtain ⟨before, -, apart⟩ := distinct
    have sorted := ih before
    rw [List.foldl_append]
    refine (perm_insertSorted fun old => ?_).trans ((sorted.cons m).trans (List.perm_append_singleton m ms).symm)
    exact apart _ ((sorted.map (·.1)).mem_iff.mp old) _ List.mem_cons_self rfl

theorem named?_perm {ms ns : List (String × Data)} (h : ms.Perm ns) (name : String) :
    named? ms name = named? ns name := by
  have found := h.filter (·.1 = name)
  unfold named?
  generalize ms.filter (·.1 = name) = here at *
  generalize ns.filter (·.1 = name) = there at *
  match here, there, found.length_eq with
  | [], [], _ => rfl
  | [m], [n], _ => rw [List.singleton_perm_singleton.mp found]
  | _ :: _ :: _, _ :: _ :: _, _ => rfl

theorem fields?_sortMembers {ms : List (String × Data)} (distinct : (ms.map (·.1)).Nodup) (slots : List Slot) :
    (record (sortMembers ms)).fields? slots = (record ms).fields? slots := by
  have same : named? (sortMembers ms) = named? ms := funext (named?_perm (perm_sortMembers distinct))
  simp only [fields?, same]

/-! ## Canonical data stays as it is -/

theorem sortMembers_of_ascending {ms : List (String × Data)} (h : ascending (ms.map (·.1)) = true) :
    sortMembers ms = ms := foldl_insertSorted h

mutual

theorem canonicalize?_of_canonical {d : Data} (h : d.canonical = true) : d.canonicalize? = some d := by
  match d with
  | .list xs =>
    have items : canonicalizeItems? xs = some xs := canonicalizeItems?_of_canonical (by simpa [canonical] using h)
    simp [canonicalize?, items]
  | .record ms =>
    simp only [canonical, Bool.and_eq_true] at h
    simp [canonicalize?, canonicalizeMembers?_of_canonical h.2, sortMembers_of_ascending h.1]
  | .unreadable => cases h
  | .null | .bool _ | .num _ | .str _ => rfl

theorem canonicalizeItems?_of_canonical {xs : List Data} (h : canonicalItems xs = true) :
    canonicalizeItems? xs = some xs := by
  match xs with
  | [] => rfl
  | x :: xs =>
    simp only [canonicalItems, Bool.and_eq_true] at h
    simp [canonicalizeItems?, canonicalize?_of_canonical h.1, canonicalizeItems?_of_canonical h.2]

theorem canonicalizeMembers?_of_canonical {ms : List (String × Data)} (h : canonicalMembers ms = true) :
    canonicalizeMembers? ms = some ms := by
  match ms with
  | [] => rfl
  | (k, v) :: ms =>
    simp only [canonicalMembers, Bool.and_eq_true] at h
    simp [canonicalizeMembers?, canonicalize?_of_canonical h.1, canonicalizeMembers?_of_canonical h.2]

end

theorem canonicalize?_record {ms ns : List (String × Data)} (h : canonicalizeMembers? ms = some ns) :
    (record ms).canonicalize? = some (record (sortMembers ns)) := by
  simp [canonicalize?, h]

end Data

@[simp] theorem Value.ofData?_data (v : Value) : Value.ofData? v.data = some v := by
  have same := Data.canonicalize?_of_canonical v.canonical
  unfold ofData?
  split
  · rename_i e he
    rw [same] at he
    cases he
    rfl
  · rename_i none
    rw [same] at none
    cases none

namespace Data

@[simp] theorem text?_str (s : String) : (str s).text? = some s := rfl
@[simp] theorem flag?_bool (b : Bool) : (bool b).flag? = some b := rfl

@[simp] theorem listOf?_map {α : Type} {read : Data → Option α} {encode : α → Data}
    (h : ∀ a, read (encode a) = some a) (as : List α) : listOf? read (list (as.map encode)) = some as := by
  unfold listOf?
  induction as with
  | nil => rfl
  | cons a as ih =>
    simp only [List.map_cons, List.mapM_cons, h, Option.bind_eq_bind, Option.bind_some] at ih ⊢
    rw [ih]
    rfl

end Data

/-! ## Encodings as they are -/

section

open Data

theorem Role.decode?_encode (r : Role) : Role.decode? r.encode = some r := by cases r <;> rfl

theorem Message.decode?_encode (m : Message) : Message.decode? m.encode = some m := by
  simp [encode, decode?, fields?, named?, required, Role.decode?_encode]

theorem FunctionCall.decode?_encode (c : FunctionCall) : FunctionCall.decode? c.encode = some c := by
  simp [encode, decode?, fields?, named?, required, orElse]

theorem FunctionResult.decode?_encode (r : FunctionResult) : FunctionResult.decode? r.encode = some r := by
  simp [encode, decode?, fields?, named?, required]

theorem Part.decode?_encode (p : Part) : Part.decode? p.encode = some p := by
  cases p with
  | text s => simp [encode, decode?, choiceOf?]
  | call c => simp [encode, decode?, choiceOf?, FunctionCall.decode?_encode]
  | result r => simp [encode, decode?, choiceOf?, FunctionResult.decode?_encode]

theorem Content.decode?_encode (c : Content) : Content.decode? c.encode = some c := by
  simp [encode, decode?, fields?, named?, required, Role.decode?_encode, listOf?_map Part.decode?_encode]

theorem ToolDefinition.decode?_encode (t : ToolDefinition) : ToolDefinition.decode? t.encode = some t := by
  simp [encode, decode?, fields?, named?, required]

theorem ToolOffer.decode?_encode (t : ToolOffer) : ToolOffer.decode? t.encode = some t := by
  cases t with
  | functions ts => simp [encode, decode?, choiceOf?, listOf?_map ToolDefinition.decode?_encode]
  | search => simp [encode, decode?, choiceOf?, fields?]

theorem Handback.decode?_encode (h : Handback) : Handback.decode? h.encode = some h := by
  obtain ⟨status, result, last, _ | message⟩ := h <;>
    simp [encode, members, decode?, fields?, named?, required, Data.optional]

theorem Signal.canonicalMembers_members (s : Signal) : canonicalMembers s.members = true := by
  cases s with
  | request role context => rfl
  | handback h =>
    obtain ⟨status, result, last, _ | message⟩ := h <;>
      simp [members, Handback.members, canonicalMembers, canonical, result.canonical]
  | malformed error args => simp [members, canonicalMembers, canonical, args.canonical]

theorem Signal.canonicalMembers_kind (s : Signal) :
    canonicalMembers (("_signal_type", .str s.kind) :: s.members) = true := by
  simp [canonicalMembers, canonical, s.canonicalMembers_members]

theorem Signal.named?_kind (s : Signal) :
    named? (("_signal_type", .str s.kind) :: s.members) "_signal_type" = some (some (.str s.kind)) := by
  cases s with
  | request role context => simp [members, named?]
  | handback h => obtain ⟨status, result, last, _ | message⟩ := h <;> simp [members, Handback.members, named?]
  | malformed error args => simp [members, named?]

theorem Handback.decode?_kind (kind : Data) (ms : List (String × Data)) :
    decode? (.record (("_signal_type", kind) :: ms)) = decode? (.record ms) := by
  simp [decode?, fields?, named?]

theorem Signal.decode?_encode (s : Signal) : Signal.decode? s.encode = some s := by
  have readable := canonicalize?_record (canonicalizeMembers?_of_canonical s.canonicalMembers_kind)
  unfold decode? encode
  rw [readable]
  simp only [s.named?_kind, Option.bind_some, Option.bind_eq_bind, text?_str]
  cases s with
  | request role context =>
    simp [members, kind, ofKind?, fields?, named?, required]
  | handback h =>
    have read : Handback.decode? (.record h.members) = some h := h.decode?_encode
    simp [members, kind, ofKind?, Handback.decode?_kind, read]
  | malformed error args =>
    simp [members, kind, ofKind?, fields?, named?, required]

theorem Specialist.decode?_encode (s : Specialist) : Specialist.decode? s.encode = some s := by
  obtain ⟨role, objective, context, _ | model, search⟩ := s <;>
    simp [encode, decode?, slots, ofFields?, fields?, named?, required, Data.optional, orElse]

theorem ToolOutput.decode?_encode (o : ToolOutput) : ToolOutput.decode? o.encode = some o := by
  obtain ⟨content, isError, _ | signal⟩ := o
  · simp [encode, decode?, fields?, named?, required, Data.optional]
  · have read : Data.optional Signal.decode? (some signal.encode) = some (some signal) :=
      congrArg (Option.map some) signal.decode?_encode
    simp [encode, decode?, fields?, named?, required, read]

end

/-! ## Encodings in canonical form -/

/-- The canonical form of the data is decoded to this. -/
def Data.Settles {α : Type} (decode? : Data → Option α) (d : Data) (a : α) : Prop :=
  ∃ e, d.canonicalize? = some e ∧ decode? e = some a

section

open Data

variable {α : Type} {encode : α → Data} {decode? : Data → Option α} {a : α}

theorem settles_record {ms : List (String × Data)} (canonical : canonicalMembers ms = true)
    (ordered : decode? (.record (sortMembers ms)) = decode? (.record ms)) (decoded : decode? (.record ms) = some a) :
    (record ms).Settles decode? a :=
  ⟨_, canonicalize?_record (canonicalizeMembers?_of_canonical canonical), ordered.trans decoded⟩

theorem settles_choice {β : Type} {name : String} {d : Data} {b : β} {read : Data → Option β} (h : d.Settles read b)
    (choose : ∀ e, read e = some b → decode? (.record [(name, e)]) = some a) :
    (record [(name, d)]).Settles decode? a := by
  obtain ⟨e, form, reads⟩ := h
  refine ⟨.record [(name, e)], ?_, choose e reads⟩
  have members : canonicalizeMembers? [(name, d)] = some [(name, e)] := by simp [canonicalizeMembers?, form]
  exact canonicalize?_record members

theorem settles_list (h : ∀ a, (encode a).Settles decode? a) (as : List α) :
    (list (as.map encode)).Settles (listOf? decode?) as := by
  induction as with
  | nil => exact ⟨.list [], rfl, rfl⟩
  | cons a as ih =>
    obtain ⟨x, form, read⟩ := h a
    obtain ⟨e, forms, reads⟩ := ih
    simp only [canonicalize?, Option.map_eq_some_iff] at forms
    obtain ⟨xs, forms, rfl⟩ := forms
    simp only [listOf?] at reads
    refine ⟨.list (x :: xs), ?_, ?_⟩
    · simp [canonicalize?, canonicalizeItems?, form, forms]
    · simp [listOf?, List.mapM_cons, read, reads]

theorem Role.settles (r : Role) : r.encode.Settles Role.decode? r := ⟨_, rfl, r.decode?_encode⟩

theorem Message.settles (m : Message) : m.encode.Settles Message.decode? m := by
  refine settles_record rfl ?_ m.decode?_encode
  unfold decode?
  rw [fields?_sortMembers (by simp)]

theorem FunctionCall.settles (c : FunctionCall) : c.encode.Settles FunctionCall.decode? c := by
  refine settles_record ?_ ?_ c.decode?_encode
  · simp [canonicalMembers, canonical, c.args.canonical]
  · unfold decode?
    rw [fields?_sortMembers (by simp)]

theorem FunctionResult.settles (r : FunctionResult) : r.encode.Settles FunctionResult.decode? r := by
  refine settles_record ?_ ?_ r.decode?_encode
  · simp [canonicalMembers, canonical, r.response.canonical]
  · unfold decode?
    rw [fields?_sortMembers (by simp)]

theorem Part.settles (p : Part) : p.encode.Settles Part.decode? p := by
  cases p with
  | text s => exact ⟨_, rfl, (text s).decode?_encode⟩
  | call c => exact settles_choice c.settles fun e read => by simp [decode?, choiceOf?, read]
  | result r => exact settles_choice r.settles fun e read => by simp [decode?, choiceOf?, read]

theorem Content.settles (c : Content) : c.encode.Settles Content.decode? c := by
  obtain ⟨e, form, read⟩ := settles_list Part.settles c.parts
  have members : canonicalizeMembers? [("role", c.role.encode), ("parts", .list (c.parts.map Part.encode))] =
      some [("role", c.role.encode), ("parts", e)] := by
    simp only [canonicalizeMembers?, form]
    rfl
  refine ⟨_, canonicalize?_record members, ?_⟩
  unfold decode?
  rw [fields?_sortMembers (by simp)]
  simp [fields?, named?, required, Role.decode?_encode, read]

theorem ToolDefinition.settles (t : ToolDefinition) : t.encode.Settles ToolDefinition.decode? t := by
  refine settles_record ?_ ?_ t.decode?_encode
  · simp [canonicalMembers, canonical, t.parameters.canonical]
  · unfold decode?
    rw [fields?_sortMembers (by simp)]

theorem ToolOffer.settles (t : ToolOffer) : t.encode.Settles ToolOffer.decode? t := by
  cases t with
  | search => exact ⟨_, rfl, search.decode?_encode⟩
  | functions ts =>
    exact settles_choice (settles_list ToolDefinition.settles ts) fun e read => by simp [decode?, choiceOf?, read]

theorem Handback.names_distinct (h : Handback) : (h.members.map (·.1)).Nodup := by
  obtain ⟨status, result, last, _ | message⟩ := h <;> simp [members]

theorem Handback.settles (h : Handback) : h.encode.Settles Handback.decode? h := by
  refine settles_record (Signal.handback h).canonicalMembers_members ?_ h.decode?_encode
  unfold decode?
  rw [fields?_sortMembers h.names_distinct]

theorem Signal.names_distinct (s : Signal) : ((("_signal_type", Data.str s.kind) :: s.members).map (·.1)).Nodup := by
  cases s with
  | request role context => simp [members]
  | handback h => obtain ⟨status, result, last, _ | message⟩ := h <;> simp [members, Handback.members]
  | malformed error args => simp [members]

theorem Signal.settles (s : Signal) : s.encode.Settles Signal.decode? s := by
  refine settles_record s.canonicalMembers_kind ?_ s.decode?_encode
  have form := canonicalize?_record (canonicalizeMembers?_of_canonical s.canonicalMembers_kind)
  have still := canonicalize?_of_canonical (canonical_canonicalize form)
  have kind : named? (sortMembers (("_signal_type", .str s.kind) :: s.members)) "_signal_type" = _ :=
    named?_perm (perm_sortMembers s.names_distinct) "_signal_type"
  unfold decode?
  rw [form, still]
  simp only [kind, ofKind?, Handback.decode?, fields?_sortMembers s.names_distinct]

theorem ToolOutput.settles (o : ToolOutput) : o.encode.Settles ToolOutput.decode? o := by
  obtain ⟨content, isError, _ | signal⟩ := o
  · refine settles_record rfl ?_ (decode?_encode ⟨content, isError, none⟩)
    unfold decode?
    rw [fields?_sortMembers (by simp)]
  · obtain ⟨e, form, read⟩ := signal.settles
    have given : Data.optional Signal.decode? (some e) = some (some signal) := by
      cases e with
      | null => cases read
      | _ => exact congrArg (Option.map some) read
    have members : canonicalizeMembers?
        [("content", .str content), ("is_error", .bool isError), ("signal", signal.encode)] =
          some [("content", .str content), ("is_error", .bool isError), ("signal", e)] := by
      simp only [canonicalizeMembers?, form]
      rfl
    refine ⟨_, canonicalize?_record members, ?_⟩
    unfold decode?
    rw [fields?_sortMembers (by simp)]
    simp [fields?, named?, required, given]

theorem Specialist.settles (s : Specialist) : s.encode.Settles Specialist.decode? s := by
  refine settles_record ?_ ?_ s.decode?_encode
  · obtain ⟨role, objective, context, _ | model, search⟩ := s <;> rfl
  · unfold decode?
    rw [fields?_sortMembers (by simp)]

end

/-! ## Encodings as text -/

namespace Data

def ReadsBack (d : Data) : Prop := Json.read? (Json.compact d) = some d

end Data

section

variable {α : Type} {encode : α → Data} {decode? : Data → Option α}

/-- What an encoding has to do. A value is decoded from its own encoding, so different values have different
ones, and what was decoded from other data is the same once it has been encoded and decoded again. Nothing is
lost if the names are put in order, nor in the text of an encoding that reads back. -/
structure RoundTrips (encode : α → Data) (decode? : Data → Option α) : Prop where
  decoded : ∀ a, decode? (encode a) = some a
  injective : Function.Injective encode
  again : ∀ d, ((decode? d).map encode).bind decode? = decode? d
  ordered : ∀ a, (encode a).Settles decode? a
  forms : ∀ a b, (encode a).canonicalize? = (encode b).canonicalize? → a = b
  read : ∀ a, (encode a).ReadsBack → (Json.read? (Json.compact (encode a))).bind decode? = some a
  texts : ∀ a b, (encode a).ReadsBack → (encode b).ReadsBack →
    Json.compact (encode a) = Json.compact (encode b) → a = b

theorem roundTrips (decoded : ∀ a, decode? (encode a) = some a) (ordered : ∀ a, (encode a).Settles decode? a) :
    RoundTrips encode decode? := by
  have read (a : α) (back : (encode a).ReadsBack) : (Json.read? (Json.compact (encode a))).bind decode? = some a := by
    rw [back, Option.bind_some, decoded]
  refine ⟨decoded, fun a b same => ?_, fun d => ?_, ordered, fun a b same => ?_, read, fun a b backA backB same => ?_⟩
  · rw [← Option.some_inj, ← decoded a, same, decoded]
  · cases decode? d with
    | none => rfl
    | some a => exact decoded a
  · obtain ⟨d, form, decodes⟩ := ordered a
    obtain ⟨e, form', decodes'⟩ := ordered b
    have alike : d = e := by
      rw [← Option.some_inj, ← form, ← form', same]
    rw [← Option.some_inj, ← decodes, ← decodes', alike]
  · rw [← Option.some_inj, ← read a backA, same, read b backB]

end

/-- **Encodings are decoded to what was encoded.** The content of an answer with a signal is the text of the
signal, from which it is decoded. -/
theorem encodings_round_trip :
    RoundTrips Role.encode Role.decode? ∧ RoundTrips Message.encode Message.decode? ∧
    RoundTrips Content.encode Content.decode? ∧ RoundTrips Part.encode Part.decode? ∧
    RoundTrips FunctionCall.encode FunctionCall.decode? ∧ RoundTrips FunctionResult.encode FunctionResult.decode? ∧
    RoundTrips ToolDefinition.encode ToolDefinition.decode? ∧ RoundTrips ToolOffer.encode ToolOffer.decode? ∧
    RoundTrips Signal.encode Signal.decode? ∧ RoundTrips Handback.encode Handback.decode? ∧
    RoundTrips ToolOutput.encode ToolOutput.decode? ∧ RoundTrips Specialist.encode Specialist.decode? ∧
    ∀ s : Signal, (ToolOutput.ofSignal s).content = Json.compact s.encode ∧
      (s.encode.ReadsBack → (Json.read? (ToolOutput.ofSignal s).content).bind Signal.decode? = some s) := by
  refine ⟨roundTrips Role.decode?_encode Role.settles, roundTrips Message.decode?_encode Message.settles,
    roundTrips Content.decode?_encode Content.settles, roundTrips Part.decode?_encode Part.settles,
    roundTrips FunctionCall.decode?_encode FunctionCall.settles,
    roundTrips FunctionResult.decode?_encode FunctionResult.settles,
    roundTrips ToolDefinition.decode?_encode ToolDefinition.settles,
    roundTrips ToolOffer.decode?_encode ToolOffer.settles, roundTrips Signal.decode?_encode Signal.settles,
    roundTrips Handback.decode?_encode Handback.settles, roundTrips ToolOutput.decode?_encode ToolOutput.settles,
    roundTrips Specialist.decode?_encode Specialist.settles, fun s => ⟨rfl, ?_⟩⟩
  exact (roundTrips Signal.decode?_encode Signal.settles).read s

/-- A specialist hands back a record that holds null, and names no message. -/
def refund : Signal := .handback ⟨"completed", ⟨.record [("refund", .null)], rfl⟩, "Thanks!", none⟩

theorem encodings_round_trip_refund :
    refund.encode.ReadsBack ∧
      (Json.read? (ToolOutput.ofSignal refund).content).bind Signal.decode? = some refund := by
  have readable : Json.Readable 0 refund.encode := by
    simp [Signal.encode, Signal.members, Handback.members, refund, Json.Readable, Json.ReadableMembers, Json.maxDepth]
  have back : refund.encode.ReadsBack := Json.read?_compact readable
  obtain ⟨-, -, -, -, -, -, -, -, -, -, -, -, signals⟩ := encodings_round_trip
  exact ⟨back, (signals refund).2 back⟩

end Concierge
