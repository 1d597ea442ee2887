import Concierge.Agent.Turn
import Concierge.Proofs.Run
import Concierge.Proofs.Table
import Concierge.Tool.Definition

/-!
# A toolbox is a map that keeps the order of its names

The list of the tools and the index of their places are kept in step by every registration. So a toolbox is
the table of the tools that were registered, whether one by one or by another toolbox.
-/

namespace Concierge

variable {σ : Type}

theorem Table.get?_zipIdx_eq_some {ns : List String} (once : ns.Nodup) {n : String} {place : Nat} :
    Table.get? n ns.zipIdx = some place ↔ ns[place]? = some n := by
  have keys : Table.keys ns.zipIdx = ns := List.zipIdx_map_fst 0 ns
  constructor
  · intro found
    exact List.mem_zipIdx_iff_getElem?.mp (Table.mem_of_get? found)
  · intro there
    refine Table.get?_of_mem ?_ (List.mem_zipIdx_iff_getElem?.mpr there)
    rw [keys]
    exact once

namespace Toolbox

/-! ## The list and the index in step -/

structure Indexed (b : Toolbox) : Prop where
  index : b.index = b.names.zipIdx
  once : b.names.Nodup

def entries (b : Toolbox) : Table String Tool := b.tools.map fun t => (t.name, t)

variable {b b' other : Toolbox} {t : Tool} {n : String} {place : Nat}

theorem keys_entries (b : Toolbox) : b.entries.keys = b.names := by
  unfold entries names Table.keys
  rw [List.map_map]
  rfl

theorem values_entries (b : Toolbox) : b.entries.map (·.2) = b.tools := by
  unfold entries
  rw [List.map_map]
  exact List.map_id _

namespace Indexed

theorem empty : Toolbox.empty.Indexed := ⟨rfl, .nil⟩

theorem keys (h : b.Indexed) : b.index.keys = b.names := by
  rw [h.index]
  exact List.zipIdx_map_fst 0 b.names

theorem place_iff (h : b.Indexed) : b.index.get? n = some place ↔ ∃ t, b.tools[place]? = some t ∧ t.name = n := by
  rw [h.index, Table.get?_zipIdx_eq_some h.once]
  unfold names
  rw [List.getElem?_map, Option.map_eq_some_iff]

theorem no_place_iff (h : b.Indexed) : b.index.get? n = none ↔ n ∉ b.names := by
  rw [Table.get?_eq_none_iff, h.keys]

theorem get?_name (h : b.Indexed) (inside : t ∈ b.tools) : b.entries.get? t.name = some t := by
  refine Table.get?_of_mem ?_ (List.mem_map_of_mem inside)
  rw [keys_entries]
  exact h.once

theorem get?_eq (h : b.Indexed) (n : String) : b.get? n = b.entries.get? n := by
  unfold get?
  cases found : b.index.get? n with
  | none =>
    have absent := h.no_place_iff.mp found
    rw [← keys_entries] at absent
    exact (Table.get?_eq_none_iff.mpr absent).symm
  | some place =>
    obtain ⟨t, there, rfl⟩ := h.place_iff.mp found
    rw [Option.bind_some, there]
    exact (h.get?_name (List.mem_of_getElem? there)).symm

theorem ext (h : b.Indexed) (h' : b'.Indexed) (same : b.entries = b'.entries) : b = b' := by
  have tools : b.tools = b'.tools := by rw [← values_entries b, ← values_entries b', same]
  have index : b.index = b'.index := by
    rw [h.index, h'.index]
    unfold names
    rw [tools]
  cases b
  cases b'
  cases tools
  cases index
  rfl

/-! ## One registration -/

theorem register (h : b.Indexed) (t : Tool) :
    (b.register t).Indexed ∧ (b.register t).entries = b.entries.put t.name t := by
  unfold Toolbox.register
  cases found : b.index.get? t.name with
  | some place =>
    -- The tool takes the place of one that has its name, so that the names are as they were.
    obtain ⟨u, there, same⟩ := h.place_iff.mp found
    have named : b.names[place]? = some t.name := by
      unfold Toolbox.names
      rw [List.getElem?_map, there, Option.map_some, same]
    have names : (b.tools.set place t).map Tool.name = b.names := by
      obtain ⟨inside, this⟩ := List.getElem?_eq_some_iff.mp named
      rw [List.map_set, ← this]
      exact List.set_getElem_self inside
    have entry : b.entries[place]? = some (t.name, u) := by
      unfold entries
      rw [List.getElem?_map, there, Option.map_some, same]
    refine ⟨⟨?_, ?_⟩, ?_⟩
    · show b.index = List.zipIdx ((b.tools.set place t).map Tool.name)
      rw [names, h.index]
    · show ((b.tools.set place t).map Tool.name).Nodup
      rw [names]
      exact h.once
    · rw [Table.put_eq_set (by rw [keys_entries]; exact h.once) entry]
      exact List.map_set
  | none =>
    have absent := h.no_place_iff.mp found
    have names : (b.tools ++ [t]).map Tool.name = b.names ++ [t.name] := List.map_append
    refine ⟨⟨?_, ?_⟩, ?_⟩
    · show b.index.put t.name b.tools.length = List.zipIdx ((b.tools ++ [t]).map Tool.name)
      rw [names, Table.put_of_get?_eq_none found, h.index, List.zipIdx_append]
      unfold Toolbox.names
      rw [List.length_map, Nat.zero_add]
      rfl
    · show ((b.tools ++ [t]).map Tool.name).Nodup
      rw [names, List.nodup_append]
      refine ⟨h.once, List.pairwise_singleton _ _, fun m hm m' hm' => ?_⟩
      rw [List.mem_singleton.mp hm']
      exact ne_of_mem_of_not_mem hm absent
    · rw [← keys_entries] at absent
      rw [Table.put_of_get?_eq_none (Table.get?_eq_none_iff.mpr absent)]
      exact List.map_append

theorem foldl (h : b.Indexed) (ts : List Tool) :
    (ts.foldl Toolbox.register b).Indexed ∧
      (ts.foldl Toolbox.register b).entries = Table.putAll Tool.name b.entries ts := by
  induction ts generalizing b with
  | nil => exact ⟨h, rfl⟩
  | cons t ts ih =>
    obtain ⟨inStep, entry⟩ := h.register t
    obtain ⟨inStep', entries⟩ := ih inStep
    refine ⟨inStep', ?_⟩
    rw [List.foldl_cons, entries, entry]
    rfl

end Indexed

/-! ## Many registrations -/

/-- A toolbox in which these tools were registered one after the other, and those of other toolboxes, which may
be itself, in the order in which they stand there. -/
inductive Built : Toolbox → List Tool → Prop
  | empty : Built empty []
  | register {b : Toolbox} {log : List Tool} (h : Built b log) (t : Tool) : Built (b.register t) (log ++ [t])
  | extend {b other : Toolbox} {log log' : List Tool} (h : Built b log) (h' : Built other log') :
      Built (b.extend other) (log ++ other.tools)

variable {log log' : List Tool}

theorem Built.indexed (h : Built b log) : b.Indexed ∧ b.entries = Table.collect Tool.name log := by
  induction h with
  | empty => exact ⟨.empty, rfl⟩
  | register _ t ih =>
    obtain ⟨inStep, entries⟩ := ih
    obtain ⟨inStep', entry⟩ := inStep.register t
    refine ⟨inStep', ?_⟩
    rw [entry, entries, Table.collect_concat]
  | @extend b other log _ _ _ ih _ =>
    obtain ⟨inStep, entries⟩ := ih
    obtain ⟨inStep', entry⟩ := inStep.foldl other.tools
    refine ⟨inStep', ?_⟩
    unfold Toolbox.extend
    rw [entry, entries, Table.collect_append]

theorem Built.names_eq (h : Built b log) : b.names = (Table.collect Tool.name log).keys := by
  rw [← keys_entries, h.indexed.2]

theorem Built.get?_eq_some (h : Built b log) : b.get? n = some t ↔ Table.LastUnder Tool.name log n t := by
  obtain ⟨inStep, entries⟩ := h.indexed
  rw [inStep.get?_eq, entries, Table.get?_collect_eq_some]

theorem Built.get?_eq_none (h : Built b log) : b.get? n = none ↔ n ∉ log.map Tool.name := by
  obtain ⟨inStep, entries⟩ := h.indexed
  rw [inStep.get?_eq, entries, Table.get?_eq_none_iff, Table.mem_keys_collect]

theorem Built.foldl (h : Built b log) (ts : List Tool) : Built (ts.foldl Toolbox.register b) (log ++ ts) := by
  induction ts generalizing b log with
  | nil =>
    rw [List.append_nil]
    exact h
  | cons t ts ih =>
    rw [List.append_cons]
    exact ih (h.register t)

/-! ## Extending by another toolbox -/

/-- It does not matter what was replaced in the other toolbox: it is as if all that was ever registered there
were registered here. -/
theorem extend_eq_replay (h : Built b log) (h' : Built other log') : b.extend other = log'.foldl register b := by
  obtain ⟨inStep, -⟩ := h.indexed
  obtain ⟨extended, entries⟩ := inStep.foldl other.tools
  obtain ⟨replayed, entries'⟩ := inStep.foldl log'
  refine extended.ext replayed ?_
  rw [entries, entries', ← values_entries, h'.indexed.2, Table.putAll_collect]

theorem extend_self (h : Built b log) : b.extend b = b := by
  obtain ⟨inStep, -⟩ := h.indexed
  obtain ⟨extended, entries⟩ := inStep.foldl b.tools
  refine extended.ext inStep ?_
  rw [entries]
  exact Table.putAll_of_get? fun _ inside => inStep.get?_name inside

/-! ## The map from names to tools -/

theorem name_definition (roles : Directory → List String) (t : Tool) : (t.definition roles).name = t.name := by
  cases t <;> rfl

theorem execute_eq_unknown {use : Tool → Value → ToolContext → Run σ (Except ToolError ToolOutput)} {args : Value}
    {context : ToolContext} {deadline : Option Nat} {w : World σ} {m : String} :
    (b.execute use n args context deadline w).1 = some (.error (.unknown m)) ↔
      (b.get? n = none ∧ m = n) ∨
        ∃ t, b.get? n = some t ∧ (use t args context deadline w).1 = some (.error (.unknown m)) := by
  unfold execute
  cases b.get? n with
  | none =>
    constructor
    · intro h
      cases h
      exact .inl ⟨rfl, rfl⟩
    · rintro (⟨-, rfl⟩ | ⟨t, found, -⟩)
      · rfl
      · cases found
  | some t =>
    constructor
    · intro h
      exact .inr ⟨t, rfl, h⟩
    · rintro (⟨missing, -⟩ | ⟨t', found, h⟩)
      · cases missing
      · cases found
        exact h

structure Maps (b : Toolbox) (log : List Tool) : Prop where
  once : b.names.Nodup
  known : ∀ n, n ∈ b.names ↔ n ∈ log.map Tool.name
  ordered : b.names.Pairwise fun m n => (log.map Tool.name).idxOf m < (log.map Tool.name).idxOf n
  indexedOnce : b.index.keys.Nodup
  indexed : ∀ n place, (n, place) ∈ b.index ↔ ∃ t, b.tools[place]? = some t ∧ t.name = n
  inside : ∀ n place, b.index.get? n = some place → place < b.tools.length
  got : ∀ n t, b.get? n = some t ↔ Table.LastUnder Tool.name log n t
  missing : ∀ n, b.get? n = none ↔ n ∉ log.map Tool.name
  used : ∀ {σ : Type} (use : Tool → Value → ToolContext → Run σ (Except ToolError ToolOutput)) (n : String)
    (t : Tool) (args : Value) (context : ToolContext), Table.LastUnder Tool.name log n t →
      b.execute use n args context = use t args context
  /-- Nothing but a tool itself can say that there is no such tool when there is one. -/
  unknown : ∀ {σ : Type} (use : Tool → Value → ToolContext → Run σ (Except ToolError ToolOutput)) (n m : String)
    (args : Value) (context : ToolContext) (deadline : Option Nat) (w : World σ),
      (b.execute use n args context deadline w).1 = some (.error (.unknown m)) ↔
        (n ∉ log.map Tool.name ∧ m = n) ∨
          ∃ t, Table.LastUnder Tool.name log n t ∧ (use t args context deadline w).1 = some (.error (.unknown m))
  size : b.size = b.names.length
  isEmpty : b.isEmpty = true ↔ b.names = []
  has : ∀ n, b.has n = true ↔ n ∈ b.names
  definitions : ∀ roles, (b.definitions roles).map ToolDefinition.name = b.names ∧
    (b.definitions roles).map some = b.names.map fun n => (b.get? n).map (·.definition roles)

theorem Built.maps (h : Built b log) : b.Maps log := by
  obtain ⟨inStep, entries⟩ := h.indexed
  constructor
  case once => exact inStep.once
  case known =>
    intro n
    rw [h.names_eq, Table.mem_keys_collect]
  case ordered =>
    rw [h.names_eq]
    exact Table.ordered_collect log
  case indexedOnce =>
    rw [inStep.keys]
    exact inStep.once
  case indexed =>
    intro n place
    rw [← inStep.place_iff]
    refine ⟨Table.get?_of_mem ?_, Table.mem_of_get?⟩
    rw [inStep.keys]
    exact inStep.once
  case inside =>
    intro n place found
    obtain ⟨t, there, -⟩ := inStep.place_iff.mp found
    exact (List.getElem?_eq_some_iff.mp there).1
  case got => exact fun _ _ => h.get?_eq_some
  case missing => exact fun _ => h.get?_eq_none
  case used =>
    intro σ use n t args context last
    unfold execute
    rw [h.get?_eq_some.mpr last]
  case unknown =>
    intro σ use n m args context deadline w
    simp only [execute_eq_unknown, h.get?_eq_none, h.get?_eq_some]
  case size => exact (List.length_map _).symm
  case isEmpty =>
    unfold Toolbox.isEmpty names
    rw [List.isEmpty_iff, List.map_eq_nil_iff]
  case has =>
    intro n
    unfold has
    rw [Table.has_iff, inStep.keys]
  case definitions =>
    intro roles
    unfold Toolbox.definitions names
    rw [List.map_map, List.map_map, List.map_map]
    refine ⟨List.map_congr_left fun t _ => name_definition roles t, List.map_congr_left fun t ht => ?_⟩
    show some (t.definition roles) = (b.get? t.name).map (·.definition roles)
    rw [inStep.get?_eq, inStep.get?_name ht, Option.map_some]

/-- **A toolbox is a map that keeps the order of its names**, whatever was registered in it and in whatever way.
To extend it is to register the tools of the other toolbox one by one, and as well all that was ever registered
there; to extend it by itself changes nothing. -/
theorem toolbox_is_ordered_map (h : Built b log) :
    b.Maps log ∧ b.extend b = b ∧ ∀ other log', Built other log' →
      b.extend other = other.tools.foldl register b ∧ b.extend other = log'.foldl register b ∧
        (b.extend other).Maps (log ++ log') := by
  refine ⟨h.maps, extend_self h, fun other log' h' => ?_⟩
  have replay := extend_eq_replay h h'
  refine ⟨rfl, replay, ?_⟩
  rw [replay]
  exact (h.foldl log').maps

end Toolbox

namespace Rehearsal

def device (name : String) (key : Nat) : Tool := .outside key ⟨name, "", .ofMembers []⟩

end Rehearsal

open Rehearsal Toolbox in
theorem Toolbox.toolbox_is_ordered_map_shared :
    ∃ kit spare, Built kit [device "lamp" 1, device "door" 2, device "lamp" 3] ∧
      Built spare [device "door" 4, device "bell" 5, device "door" 6] ∧
      kit.names = ["lamp", "door"] ∧ (kit.extend spare).names = ["lamp", "door", "bell"] ∧
      kit.extend kit = kit ∧ (kit.extend spare).get? "lamp" = some (device "lamp" 3) ∧
      (kit.extend spare).get? "door" = some (device "door" 6) ∧ (kit.extend spare).get? "horn" = none := by
  have kit := ((Built.empty.register (device "lamp" 1)).register (device "door" 2)).register (device "lamp" 3)
  have spare := ((Built.empty.register (device "door" 4)).register (device "bell" 5)).register (device "door" 6)
  obtain ⟨-, self, extended⟩ := toolbox_is_ordered_map kit
  obtain ⟨-, -, maps⟩ := extended _ _ spare
  refine ⟨_, _, kit, spare, by decide +kernel, by decide +kernel, self, ?_, ?_, ?_⟩
  · exact (maps.got "lamp" _).mpr ⟨[device "lamp" 1, device "door" 2], _, rfl, rfl, by simp [device, Tool.name]⟩
  · exact (maps.got "door" _).mpr
      ⟨[device "lamp" 1, device "door" 2, device "lamp" 3, device "door" 4, device "bell" 5], [], rfl, rfl, by simp⟩
  · exact (maps.missing "horn").mpr (by simp [device, Tool.name])

end Concierge
