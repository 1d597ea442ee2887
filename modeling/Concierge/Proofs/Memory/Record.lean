import Concierge.Proofs.Json.Indented
import Concierge.Proofs.Memory.Facts

/-!
# What is read of a written record

The transcript of a record is read as it was written, whatever else the record holds. Its facts come in order; they
are those that were written if their values last (`Value.Lasts`), which may fail for numbers and for deep nests.
-/

namespace Concierge

open Json

theorem Json.asReadItems_map {α : Type} {depth : Nat} {encode : α → Data}
    (same : ∀ a, asRead depth (encode a) = encode a) (as : List α) :
    asReadItems depth (as.map encode) = as.map encode := by
  induction as with
  | nil => rfl
  | cons a as ih => rw [List.map_cons, asReadItems, same, ih]

theorem Message.asRead_encode (m : Message) : asRead 2 m.encode = m.encode := by
  obtain ⟨role, content⟩ := m
  cases role <;> rfl

theorem Summary.asRead_encode (s : Summary) : asRead 2 s.encode = s.encode := rfl

/-- Written into a record of a chat, the value is read as it was. -/
def Value.Lasts (v : Value) : Prop := asRead 2 v.data = v.data

namespace Facts

theorem decode?_data {fs : Facts} (ordered : ascending (fs.map (·.1)) = true) : decode? fs.data = some fs := by
  have members : (fs.map fun f => (f.1, f.2.data)).mapM (fun m => (Value.ofData? m.2).map fun v => (m.1, v)) =
      some fs := by
    clear ordered
    induction fs with
    | nil => rfl
    | cons f fs ih => simp [List.mapM_cons, ih]
  have sorted := congrArg some (foldl_insertSorted ordered)
  exact (congrArg (Option.bind · _) members).trans sorted

end Facts

namespace ChatRecord

variable {r r' : ChatRecord}

theorem asRead_encode (r : ChatRecord) :
    asRead 0 r.encode = .record [("messages", .list (r.messages.map Message.encode)),
      ("facts", asRead 1 r.facts.data), ("summaries", .list (r.summaries.map Summary.encode))] := by
  simp [encode, asRead, asReadMembers, maxDepth, asReadItems_map Message.asRead_encode,
    asReadItems_map Summary.asRead_encode]

theorem read?_write (r : ChatRecord) : read? r.write = do
    let facts ← Facts.decode? (asRead 1 r.facts.data)
    let summaries ← Data.listOf? Summary.decode? (.list (r.summaries.map Summary.encode))
    return ⟨r.messages, facts, summaries⟩ := by
  unfold read? write
  rw [read?_pretty, asRead_encode, Option.bind_some]
  unfold decode?
  simp [Data.fields?, Data.named?, Data.orElse, Data.listOf?_map Message.decode?_encode]

/-- Its facts are in order, and their values last. -/
structure Fit (r : ChatRecord) : Prop where
  ordered : ascending (r.facts.map (·.1)) = true
  lasts : ∀ v ∈ r.facts.map (·.2), v.Lasts

theorem fit_empty : Fit {} := ⟨rfl, nofun⟩

theorem Fit.asRead_facts (h : r.Fit) : asRead 1 r.facts.data = r.facts.data := by
  have lasts := h.lasts
  unfold Facts.data
  rw [asRead, if_pos (by decide)]
  congr 1
  generalize r.facts = fs at lasts
  induction fs with
  | nil => rfl
  | cons f fs ih =>
    obtain ⟨first, rest⟩ := List.forall_mem_cons.mp lasts
    rw [List.map_cons, asReadMembers, ih rest, show asRead 2 f.2.data = f.2.data from first]

/-- **A transcript is read as it was written.** So are facts that last. -/
theorem of_read (h : read? r.write = some r') : r'.messages = r.messages ∧ (r.Fit → r'.facts = r.facts) := by
  rw [read?_write] at h
  obtain ⟨facts, decoded, h⟩ := Option.bind_eq_some_iff.mp h
  obtain ⟨summaries, -, h⟩ := Option.bind_eq_some_iff.mp h
  cases h
  refine ⟨rfl, fun fit => ?_⟩
  rw [fit.asRead_facts, Facts.decode?_data fit.ordered] at decoded
  exact (Option.some.inj decoded).symm

theorem Fit.of_read (fit : r.Fit) (h : read? r.write = some r') : r'.Fit := by
  have same := (ChatRecord.of_read h).2 fit
  refine ⟨?_, ?_⟩
  · rw [same]
    exact fit.ordered
  · rw [same]
    exact fit.lasts

end ChatRecord

end Concierge
