import Concierge.Proofs.Memory.Reference
import Concierge.Proofs.Memory.Files

/-!
# The latest summary and the list of summaries

The latest summary is the one that was added last of those with the greatest time; the list begins with the
one that was added first of them. So the two agree as long as no two summaries with different texts share
the greatest time, and only then.
-/

namespace Concierge

open Memory

namespace Instant

theorem le_antisymm {a b : Instant} (h : a.le b = true) (h' : b.le a = true) : a = b := by
  obtain ⟨s, n⟩ := a
  obtain ⟨s', n'⟩ := b
  simp only [le, Bool.or_eq_true, Bool.and_eq_true, decide_eq_true_eq] at h h'
  rw [Instant.mk.injEq]
  omega

end Instant

namespace Memory

def newest (ss : List Summary) : List Summary := ss.filter fun s => ss.all fun x => x.time.le s.time

theorem Latest.getLast?_newest {ss : List Summary} {s : Summary} (h : Latest ss s) :
    (newest ss).getLast? = some s := by
  obtain ⟨before, after, rfl, older, later⟩ := h
  have greatest : ((before ++ s :: after).all fun x => x.time.le s.time) = true := by
    simp only [List.all_append, List.all_cons, Bool.and_eq_true, List.all_eq_true]
    exact ⟨older, Instant.le_refl _, fun x hx => Instant.le_of_not_le (later x hx)⟩
  have overtaken : (after.filter fun x => (before ++ s :: after).all fun y => y.time.le x.time) = [] := by
    refine List.filter_eq_nil_iff.mpr fun x hx all => later x hx ?_
    exact List.all_eq_true.mp all s (by simp)
  have last : newest (before ++ s :: after) =
      before.filter (fun x => (before ++ s :: after).all fun y => y.time.le x.time) ++ [s] := by
    unfold newest
    rw [List.filter_append, List.filter_cons, overtaken, if_pos greatest]
  rw [last]
  exact List.getLast?_concat

theorem NewestFirst.head?_eq {ss sorted : List Summary} (h : NewestFirst ss sorted) :
    sorted.head? = (newest ss).head? := by
  cases sorted with
  | nil =>
    rw [← h.perm.nil_eq]
    rfl
  | cons b rest =>
    have greatest (x : Summary) (hx : x ∈ ss) : x.time.le b.time = true := by
      rcases List.mem_cons.mp (h.perm.mem_iff.mpr hx) with rfl | hx
      · exact Instant.le_refl _
      · exact (List.pairwise_cons.mp h.descending).1 x hx
    have newest_eq : newest ss = ss.filter (·.time = b.time) := by
      refine List.filter_congr fun x hx => ?_
      rw [Bool.eq_iff_iff, List.all_eq_true, decide_eq_true_eq]
      constructor
      · intro all
        exact Instant.le_antisymm (greatest x hx) (all b (h.perm.mem_iff.mp List.mem_cons_self))
      · intro same y hy
        rw [same]
        exact greatest y hy
    rw [newest_eq, ← h.stable, List.filter_cons_of_pos (by simp)]
    rfl

/-- What the two readings make of the same summaries. They agree if the first and the last of the newest ones
have the same text. -/
structure Told (ss : List Summary) (latest : Option String) (listed : List Summary) : Prop where
  last : latest = (newest ss).getLast?.map Summary.content
  first : listed.head? = (newest ss).head?
  empty : latest = none ↔ listed = []
  agree : latest = listed.head?.map Summary.content ↔
    (newest ss).getLast?.map Summary.content = (newest ss).head?.map Summary.content

theorem told_record (r : ChatRecord) {limit : Option Nat} (asked : limit ≠ some 0) :
    Told r.summaries (r.latest?.map Summary.content) (r.newestFirst limit) := by
  have sorted := newestFirst_mergeSort r.summaries
  have first : (r.newestFirst limit).head? = (newest r.summaries).head? := by
    rw [← sorted.head?_eq]
    unfold ChatRecord.newestFirst
    rcases limit with _ | _ | n
    · rfl
    · exact absurd rfl asked
    · dsimp only
      rw [List.head?_take, if_neg (Nat.succ_ne_zero n)]
  have latest : r.latest? = (newest r.summaries).getLast? := by
    rcases latest?_eq r with ⟨none, empty⟩ | ⟨s, found, latest⟩
    · rw [none, empty]
      rfl
    · rw [found, latest.getLast?_newest]
  refine ⟨by rw [latest], first, ?_, by rw [latest, first]⟩
  rw [latest, Option.map_eq_none_iff, List.getLast?_eq_none_iff, ← List.head?_eq_none_iff, ← first,
    List.head?_eq_none_iff]

namespace FileStore

theorem finds (s : FileStore) (f : Folder) (chat : ChatId) :
    (∃ e, ∀ {α : Type} (op : Operation α), (s.perform f chat op).1 = .error e) ∨
      ∃ r, f.HasRecord chat r ∧ ∀ {α : Type} (op : Operation α), op.writes = false →
        (s.perform f chat op).1 = .ok (op.apply r).1 := by
  rcases readied : s.ensureReady f with ⟨e | _, s₁, f₁⟩
  · refine .inl ⟨e, fun op => ?_⟩
    unfold perform
    simp only [readied]
  · rcases loaded : load chat f₁ with ⟨e | r, f₂⟩
    · refine .inl ⟨e, fun op => ?_⟩
      unfold perform
      simp only [readied, loaded]
    · refine .inr ⟨r, (hasRecord_of_load loaded).congr (nodes_of_ready readied).symm, fun op reads => ?_⟩
      unfold perform
      simp [readied, loaded, reads]

end FileStore

/-- **The latest summary is the last of the newest, the list begins with the first of them.** So it is in either
store, in whatever state, and for any limit but zero. -/
theorem latest_summary_is_last_of_newest (chat : ChatId) {limit : Option Nat} (asked : limit ≠ some 0) :
    (∀ s : InMemory, (s.perform chat .latest?).1 = .error .closed ∧ (s.perform chat (.summaries limit)).1 = .error .closed ∨
      ∃ latest listed, (s.perform chat .latest?).1 = .ok latest ∧ (s.perform chat (.summaries limit)).1 = .ok listed ∧
        Told (s.record chat).summaries latest listed) ∧
    ∀ (s : FileStore) (f : Folder),
      (∃ e, (s.perform f chat .latest?).1 = .error e ∧ (s.perform f chat (.summaries limit)).1 = .error e) ∨
      ∃ r latest listed, f.HasRecord chat r ∧ (s.perform f chat .latest?).1 = .ok latest ∧
        (s.perform f chat (.summaries limit)).1 = .ok listed ∧ Told r.summaries latest listed := by
  refine ⟨fun s => ?_, fun s f => ?_⟩
  · unfold InMemory.perform
    cases s.closed with
    | true => exact .inl ⟨rfl, rfl⟩
    | false => exact .inr ⟨_, _, rfl, rfl, told_record _ asked⟩
  · rcases s.finds f chat with ⟨e, fails⟩ | ⟨r, has, reads⟩
    · exact .inl ⟨e, fails _, fails _⟩
    · exact .inr ⟨r, _, _, has, reads _ rfl, reads _ rfl, told_record r asked⟩

/-- Two summaries of one chat for the same time. -/
def tied : InMemory :=
  let s := (({} : InMemory).perform ⟨7⟩ (.addSummary ⟨"We met.", ⟨0, 0⟩⟩)).2
  (s.perform ⟨7⟩ (.addSummary ⟨"We spoke.", ⟨0, 0⟩⟩)).2

theorem latest_summary_is_last_of_tied :
    Told (tied.record ⟨7⟩).summaries (some "We spoke.") ((tied.record ⟨7⟩).newestFirst none) := by
  have told := (latest_summary_is_last_of_newest ⟨7⟩ (show none ≠ some 0 by decide)).1 tied
  rcases told with ⟨closed, -⟩ | ⟨latest, listed, answered, answered', told⟩
  · cases closed
  · cases answered
    cases answered'
    exact told

theorem latest_summary_not_first_of_list :
    (tied.perform ⟨7⟩ .latest?).1 = .ok (some "We spoke.") ∧
      ∃ listed, (tied.perform ⟨7⟩ (.summaries none)).1 = .ok listed ∧
        listed.head?.map Summary.content = some "We met." := by
  refine ⟨by decide +kernel, _, rfl, ?_⟩
  have sorted : (tied.record ⟨7⟩).newestFirst none = [⟨"We met.", ⟨0, 0⟩⟩, ⟨"We spoke.", ⟨0, 0⟩⟩] :=
    List.mergeSort_of_pairwise (by decide +kernel)
  exact congrArg (fun listed => listed.head?.map Summary.content) sorted

end Memory

end Concierge
