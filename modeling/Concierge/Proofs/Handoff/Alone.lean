import Concierge.Proofs.Lifecycle.Sessions
import Concierge.Proofs.Rounds

/-!
# A desk without handoffs

As long as no tool gives a signal, a desk does what one agent alone does that has the coordinator's setup
and the tool to ask for handoffs. `Reception.attend` serves one visit after the other; a desk and the agent
alone keep abreast in it, at every step (`Desk.acts_alone`).
-/

namespace Concierge

open Run

variable {σ : Type}

/-! ## Quiet turns -/

def Turn.Quiet (t : Turn) : Prop := ∀ e ∈ t.exchanges, e.output.bind ToolOutput.signal = none

instance (t : Turn) : Decidable t.Quiet := inferInstanceAs (Decidable (∀ _ ∈ _, _))

theorem Turn.Runs.signal_of_quiet {model : Request → Run σ (Except ModelError Response)}
    {tool : FunctionCall → Run σ ToolOutput} {deadline : Option Nat} {thinking : Bool} {calls : Nat} {r : Request}
    {w w₁ : World σ} {t : Turn} (h : Runs model tool deadline thinking calls r w (some t) w₁) (quiet : t.Quiet) :
    t.outcome.signal = none := by
  cases h with
  | spent => rfl
  | ended rounds left last =>
    cases last with
    | failed | answered => rfl
    | signalled _ _ signals =>
      have none := quiet _ (List.mem_append_right _ List.mem_cons_self)
      rw [Option.bind_some, signals] at none
      cases none

theorem Chat.signal_of_quiet {out : Outside σ} {c c' : Chat} {text : String} {deadline : Option Nat} {w w₁ : World σ}
    {t : Turn} (h : c.turn out text deadline w = (some (t, c'), w₁)) (quiet : t.Quiet) : t.outcome.signal = none := by
  unfold turn at h
  obtain ⟨t', w₂, ran, h⟩ := bind_eq_some.mp h
  obtain ⟨c'', w₃, -, same⟩ := bind_eq_some.mp h
  cases same
  have runs := c.agent.runTurn_runs out (Tool.use out []) c.contents [.text text] c.toolContext deadline w
  rw [ran] at runs
  exact runs.signal_of_quiet quiet

/-! ## Idle sessions -/

structure DeskSession.Idle (s : DeskSession) : Prop where
  speaker : s.speaker = .coordinator
  specialists : s.specialists = []
  pending : s.pending = none
  memory : s.coordinator.memory = s.memory

namespace DeskSession

section
variable {out : Outside σ} {s : DeskSession} {text : String} {deadline : Option Nat} {w w₁ : World σ} {t : Turn}
  {c : Chat}

theorem Idle.refresh (h : s.Idle) :
    s.refresh out deadline w = (some { s with generation := w.registry.generation }, w) := by
  unfold DeskSession.refresh
  rw [bind_of_some get_run]
  by_cases current : s.generation = w.registry.generation
  · rw [if_pos current, ← current]
    rfl
  · have same : { s with generation := w.registry.generation, specialists := [] } =
        { s with generation := w.registry.generation } := by rw [← h.specialists]
    rw [if_neg current, same]
    simp only [h.speaker]
    rfl

theorem Idle.ask_of_turn (h : s.Idle) (taken : s.coordinator.turn out text deadline w = (some (t, c), w₁)) :
    s.dispatch out text deadline w = (some (⟨.coordinator, text, none, t, none⟩, { s with coordinator := c }), w₁) := by
  obtain ⟨coordinator, speaker, specialists, pending, memory, generation⟩ := s
  obtain ⟨rfl, rfl, rfl, -⟩ := h
  exact bind_of_some taken _

theorem Idle.ask_of_cut (h : s.Idle) (cut : s.coordinator.turn out text deadline w = (none, w₁)) :
    s.dispatch out text deadline w = (none, w₁) := by
  obtain ⟨coordinator, speaker, specialists, pending, memory, generation⟩ := s
  obtain ⟨rfl, rfl, rfl, -⟩ := h
  exact bind_of_none cut _

theorem Idle.route_of_turn (h : s.Idle) (taken : s.coordinator.turn out text deadline w = (some (t, c), w₁))
    (plain : t.outcome.signal = none) (hops : Nat) :
    s.route out text (hops + 1) deadline w =
      (some (⟨[⟨.coordinator, text, none, t, none⟩], t.outcome.text⟩, { s with coordinator := c }), w₁) := by
  unfold route
  rw [bind_of_some (h.ask_of_turn taken)]
  unfold act
  simp only [plain]
  rfl

theorem Idle.route_of_cut (h : s.Idle) (cut : s.coordinator.turn out text deadline w = (none, w₁)) (hops : Nat) :
    s.route out text (hops + 1) deadline w = (none, w₁) := by
  unfold route
  exact bind_of_none (h.ask_of_cut cut) _

theorem Idle.turn (h : s.Idle) (taken : s.coordinator.turn out text deadline w = (some (t, c), w₁)) :
    DeskSession.Idle { s with coordinator := c } := by
  refine ⟨h.speaker, h.specialists, h.pending, ?_⟩
  rw [Chat.turn_chat taken]
  exact h.memory

end

end DeskSession

/-! ## The agent alone -/

namespace Desk

/-- The coordinator as an agent alone, with the tool to ask for handoffs. -/
def alone (d : Desk) : ChatManager where
  config := d.config
  provider := d.provider
  tools := d.tools.register (.requestHandoff .registry)
  registry := true
  memory := d.memory
  sessions := d.sessions.mapEntries DeskSession.coordinator

def Idle (d : Desk) : Prop := ∀ e ∈ d.sessions, e.2.Idle

section
variable {out : Outside σ} {d : Desk} {id text : String} {deadline : Option Nat} {w w₁ : World σ} {s : DeskSession}

theorem Idle.keep (h : d.Idle) (idle : s.Idle) (id : String) : (d.keep id s).Idle := by
  intro e he
  rcases Table.mem_put he with rfl | he
  · exact idle
  · exact h e he

theorem alone_keep (d : Desk) (id : String) (s : DeskSession) :
    (d.keep id s).alone = d.alone.setChat id s.coordinator := by
  unfold alone keep ChatManager.setChat
  dsimp only
  rw [Table.mapEntries_put]

theorem Idle.session (h : d.Idle) (out : Outside σ) (id : String) (deadline : Option Nat) (w : World σ) :
    ∃ s w₁, d.session out id deadline w = (some (s, d.keep id s), w₁) ∧ s.Idle ∧
      d.alone.chat out id deadline w = (some (s.coordinator, (d.keep id s).alone), w₁) := by
  have has : d.alone.sessions.get? id = (d.sessions.get? id).map DeskSession.coordinator := Table.get?_mapEntries _ _ _
  unfold Desk.session ChatManager.chat
  rw [has]
  cases found : d.sessions.get? id with
  | some s =>
    have kept : d.keep id s = d := by
      unfold Desk.keep
      rw [Table.put_of_get?_eq_some found]
    refine ⟨s, w, ?_, h _ (Table.mem_of_get? found), ?_⟩
    · rw [kept]
      rfl
    · rw [kept]
      rfl
  | none =>
    obtain ⟨c, w₁, built⟩ := Chat.answers_build out d.config d.provider (d.tools.register (.requestHandoff .registry))
      (d.memory.supply w).1 true deadline (d.memory.supply w).2
    have made : d.newSession out deadline w =
        (some { coordinator := c, memory := (d.memory.supply w).1, generation := w₁.registry.generation }, w₁) := by
      unfold newSession
      rw [bind_of_some d.memory.forNewSession_run, bind_of_some built]
      rfl
    refine ⟨_, w₁, bind_of_some made _, ⟨rfl, rfl, rfl, (Chat.build_new built).1⟩, ?_⟩
    rw [alone_keep]
    refine (bind_of_some d.memory.forNewSession_run _).trans ?_
    exact bind_of_some built _

theorem Idle.endSession (h : d.Idle) (out : Outside σ) (id : String) (deadline : Option Nat) (w : World σ) :
    ∃ there d' w₁, d'.Idle ∧ d.alone.endSession out id deadline w = (some (there, d'.alone), w₁) ∧
      d.endSession out id deadline w = (some (there, d'), w₁) := by
  have has : d.alone.sessions.get? id = (d.sessions.get? id).map DeskSession.coordinator := Table.get?_mapEntries _ _ _
  unfold Desk.endSession ChatManager.endSession
  rw [has]
  cases found : d.sessions.get? id with
  | none => exact ⟨false, d, w, h, rfl, rfl⟩
  | some s =>
    have memory : s.coordinator.memory = s.memory := (h _ (Table.mem_of_get? found)).memory
    refine ⟨true, { d with sessions := d.sessions.erase id }, World.closeEach out (d.memory.ofSession s.memory) w,
      fun e he => h e (List.mem_of_mem_filter he), ?_, bind_of_some (d.memory.closeSession_run s.memory) _⟩
    have erased : d.alone.sessions.erase id = (d.sessions.erase id).mapEntries DeskSession.coordinator :=
      (Table.mapEntries_erase _ _ _).symm
    dsimp only [Option.map_some]
    rw [memory, erased]
    exact bind_of_some (d.memory.closeSession_run s.memory) _

theorem Idle.shutdown (h : d.Idle) (out : Outside σ) (deadline : Option Nat) (w : World σ) :
    ∃ d' w₁, d'.Idle ∧ d.alone.shutdown out deadline w = (some d'.alone, w₁) ∧
      d.shutdown out deadline w = (some d', w₁) := by
  have memories : d.alone.sessions.map (·.2.memory) = d.sessions.map (·.2.memory) := by
    unfold alone Table.mapEntries
    rw [List.map_map]
    exact List.map_congr_left fun e he => (h e he).memory
  refine ⟨{ d with sessions := [] }, World.closeEach out (d.memory.ofAll (d.sessions.map (·.2.memory))) w,
    fun _ => nofun, ?_, bind_of_some (d.memory.close_run _) _⟩
  unfold ChatManager.shutdown
  rw [memories]
  exact bind_of_some (d.memory.close_run _) _

end

end Desk

/-! ## Visits -/

structure Heard where
  turns : List Turn
  reply : String

inductive Visit (σ : Type) where
  | message (id text : String)
  | leave (id : String)
  | close
  | meanwhile (change : World σ → World σ)

inductive Upshot where
  | heard (h : Heard)
  | left (there : Bool)
  | closed
  | passed

def Upshot.Quiet : Upshot → Prop
  | heard h => ∀ t ∈ h.turns, t.Quiet
  | left _ | closed | passed => True

instance : (u : Upshot) → Decidable u.Quiet
  | .heard _ => inferInstanceAs (Decidable (∀ _ ∈ _, _))
  | .left _ | .closed | .passed => .isTrue trivial

namespace Reception

def answer (out : Outside σ) (id text : String) : Reception → Run σ (Heard × Reception)
  | desk d => do
    let (r, d) ← d.route out id text
    return (⟨r.dispatches.map (·.turn), r.reply⟩, desk d)
  | single m => do
    let (c, m) ← m.chat out id
    let (t, c) ← c.turn out text
    return (⟨[t], t.outcome.text⟩, single (m.setChat id c))

/-- What is said to a message is the reply of its answer. -/
theorem process_eq_answer (out : Outside σ) (r : Reception) (id text : String) :
    r.process out id text = (fun heard => (heard.1.reply, heard.2)) <$> r.answer out id text := by
  cases r with
  | desk d => simp only [process, answer, Desk.process, bind_assoc, pure_bind, map_bind, map_pure]
  | single m => simp only [process, answer, ChatManager.process, bind_assoc, pure_bind, map_bind, map_pure]

def visit (out : Outside σ) (r : Reception) : Visit σ → Run σ (Upshot × Reception)
  | .message id text => do
    let (h, r) ← r.answer out id text
    return (.heard h, r)
  | .leave id => do
    let (there, r) ← r.endSession out id
    return (.left there, r)
  | .close => do return (.closed, ← r.shutdown out)
  | .meanwhile change => do
    Run.modify change
    return (.passed, r)

/-- Serve visits one after the other, each before its deadline, up to a message that is not answered. For each
visit there is what came of it, the reception and the world then; last, if there is such a message, comes the
world that it left. -/
def attend (out : Outside σ) (r : Reception) :
    List (Option Nat × Visit σ) → World σ → List (Upshot × Reception × World σ) × Option (World σ)
  | [], _ => ([], none)
  | (deadline, v) :: vs, w =>
    match r.visit out v deadline w with
    | (none, w) => ([], some w)
    | (some (u, r), w) =>
      let (steps, cut) := attend out r vs w
      ((u, r, w) :: steps, cut)

section
variable {out : Outside σ} {r r₁ : Reception} {v : Visit σ} {deadline : Option Nat} {w w₁ : World σ} {u : Upshot}

theorem attend_of_some (h : r.visit out v deadline w = (some (u, r₁), w₁)) (vs : List (Option Nat × Visit σ)) :
    r.attend out ((deadline, v) :: vs) w = ((u, r₁, w₁) :: (r₁.attend out vs w₁).1, (r₁.attend out vs w₁).2) := by
  rw [attend, h]

theorem attend_of_none (h : r.visit out v deadline w = (none, w₁)) (vs : List (Option Nat × Visit σ)) :
    r.attend out ((deadline, v) :: vs) w = ([], some w₁) := by
  rw [attend, h]

end

end Reception

namespace Desk

section
variable {out : Outside σ} {d : Desk} {id text : String} {deadline : Option Nat} {w w₁ : World σ}

theorem Idle.route (h : d.Idle) (out : Outside σ) (id text : String) (deadline : Option Nat) (w : World σ) :
    ∃ (c : Chat) (m : ChatManager) (w₁ : World σ), d.alone.chat out id deadline w = (some (c, m), w₁) ∧
      (∀ {t c' w₂}, c.turn out text deadline w₁ = (some (t, c'), w₂) → t.outcome.signal = none →
        ∃ d', d'.Idle ∧ d'.alone = m.setChat id c' ∧ d.route out id text deadline w =
          (some (⟨[⟨.coordinator, text, none, t, none⟩], t.outcome.text⟩, d'), w₂)) ∧
      ∀ {w₂}, c.turn out text deadline w₁ = (none, w₂) → d.route out id text deadline w = (none, w₂) := by
  obtain ⟨s, w₁, opened, idle, found⟩ := h.session out id deadline w
  have current : DeskSession.Idle { s with generation := w₁.registry.generation } :=
    ⟨idle.speaker, idle.specialists, idle.pending, idle.memory⟩
  refine ⟨s.coordinator, _, w₁, found, fun taken plain => ?_, fun cut => ?_⟩
  · refine ⟨_, (h.keep idle id).keep (current.turn taken) id, alone_keep _ _ _, ?_⟩
    have routed := current.route_of_turn taken plain 3
    unfold Desk.route
    rw [bind_of_some opened]
    dsimp only
    rw [bind_of_some idle.refresh]
    exact bind_of_some routed _
  · have routed := current.route_of_cut cut 3
    unfold Desk.route
    rw [bind_of_some opened]
    dsimp only
    rw [bind_of_some idle.refresh]
    exact bind_of_none routed _

theorem Idle.answer (h : d.Idle) (quiet : ∀ heard r w₁,
      (Reception.single d.alone).answer out id text deadline w = (some (heard, r), w₁) → ∀ t ∈ heard.turns, t.Quiet) :
    (∃ heard d' w₁, (Reception.single d.alone).answer out id text deadline w = (some (heard, .single d'.alone), w₁) ∧
      (Reception.desk d).answer out id text deadline w = (some (heard, .desk d'), w₁) ∧ d'.Idle) ∨
    ∃ w₁, (Reception.single d.alone).answer out id text deadline w = (none, w₁) ∧
      (Reception.desk d).answer out id text deadline w = (none, w₁) := by
  obtain ⟨c, m, w₁, found, goes, stops⟩ := h.route out id text deadline w
  rcases answers_or_not (c.turn out text) deadline w₁ with ⟨⟨t, c'⟩, w₂, taken⟩ | ⟨w₂, cut⟩
  · left
    have answered : (Reception.single d.alone).answer out id text deadline w =
        (some (⟨[t], t.outcome.text⟩, .single (m.setChat id c')), w₂) := by
      unfold Reception.answer
      dsimp only
      rw [bind_of_some found]
      exact bind_of_some taken _
    have plain := Chat.signal_of_quiet taken (quiet _ _ _ answered t List.mem_cons_self)
    obtain ⟨d', idle, same, routed⟩ := goes taken plain
    rw [← same] at answered
    exact ⟨_, d', w₂, answered, bind_of_some routed _, idle⟩
  · right
    refine ⟨w₂, ?_, bind_of_none (stops cut) _⟩
    unfold Reception.answer
    dsimp only
    rw [bind_of_some found]
    exact bind_of_none cut _

theorem Idle.visit (h : d.Idle) (v : Visit σ) (quiet : ∀ u r w₁,
      (Reception.single d.alone).visit out v deadline w = (some (u, r), w₁) → u.Quiet) :
    (∃ u d' w₁, (Reception.single d.alone).visit out v deadline w = (some (u, .single d'.alone), w₁) ∧
      (Reception.desk d).visit out v deadline w = (some (u, .desk d'), w₁) ∧ d'.Idle) ∨
    ∃ w₁, (Reception.single d.alone).visit out v deadline w = (none, w₁) ∧
      (Reception.desk d).visit out v deadline w = (none, w₁) := by
  cases v with
  | message id text =>
    rcases h.answer fun heard r w₁ answered => quiet _ r w₁ (bind_of_some answered _) with
      ⟨heard, d', w₁, answered, answered', idle⟩ | ⟨w₁, cut, cut'⟩
    · exact .inl ⟨_, d', w₁, bind_of_some answered _, bind_of_some answered' _, idle⟩
    · exact .inr ⟨w₁, bind_of_none cut _, bind_of_none cut' _⟩
  | leave id =>
    obtain ⟨there, d', w₁, idle, alone, desk⟩ := h.endSession out id deadline w
    have alone : (Reception.single d.alone).endSession out id deadline w = (some (there, .single d'.alone), w₁) :=
      bind_of_some alone _
    have desk : (Reception.desk d).endSession out id deadline w = (some (there, .desk d'), w₁) := bind_of_some desk _
    exact .inl ⟨_, d', w₁, bind_of_some alone _, bind_of_some desk _, idle⟩
  | close =>
    obtain ⟨d', w₁, idle, alone, desk⟩ := h.shutdown out deadline w
    have alone : (Reception.single d.alone).shutdown out deadline w = (some (.single d'.alone), w₁) :=
      bind_of_some alone _
    have desk : (Reception.desk d).shutdown out deadline w = (some (.desk d'), w₁) := bind_of_some desk _
    exact .inl ⟨_, d', w₁, bind_of_some alone _, bind_of_some desk _, idle⟩
  | meanwhile change => exact .inl ⟨_, d, change w, rfl, rfl, h⟩

end

theorem Idle.attend {d : Desk} (idle : d.Idle) (out : Outside σ) (vs : List (Option Nat × Visit σ)) (w : World σ)
    (quiet : ∀ step ∈ ((Reception.single d.alone).attend out vs w).1, step.1.Quiet) :
    ∃ (steps : List (Upshot × Desk × World σ)) (cut : Option (World σ)),
      (Reception.desk d).attend out vs w = (steps.map fun (u, d, w) => (u, .desk d, w), cut) ∧
      (Reception.single d.alone).attend out vs w = (steps.map fun (u, d, w) => (u, .single d.alone, w), cut) ∧
      ∀ step ∈ steps, step.2.1.Idle := by
  induction vs generalizing d w with
  | nil => exact ⟨[], none, rfl, rfl, List.forall_mem_nil _⟩
  | cons v vs ih =>
    obtain ⟨deadline, v⟩ := v
    have first (u : Upshot) (r : Reception) (w₁ : World σ)
        (visited : (Reception.single d.alone).visit out v deadline w = (some (u, r), w₁)) : u.Quiet := by
      rw [Reception.attend_of_some visited] at quiet
      exact quiet _ List.mem_cons_self
    rcases idle.visit v first with ⟨u, d', w₁, alone, desk, idle'⟩ | ⟨w₁, alone, desk⟩
    · rw [Reception.attend_of_some alone] at quiet ⊢
      rw [Reception.attend_of_some desk]
      obtain ⟨steps, cut, desk', alone', all⟩ := ih idle' w₁ fun step mem => quiet step (List.mem_cons_of_mem _ mem)
      rw [desk', alone']
      exact ⟨(u, d', w₁) :: steps, cut, rfl, rfl, List.forall_mem_cons.mpr ⟨idle', all⟩⟩
    · rw [Reception.attend_of_none alone, Reception.attend_of_none desk]
      exact ⟨[], some w₁, rfl, rfl, List.forall_mem_nil _⟩

/-- **Without signals a desk is an agent alone.** Visit after visit comes to the same: the same turns, with their
requests and what the tools gave, the same replies and the same world. The chats of the agent alone are the
coordinators of the desk, and its sessions stay idle. Neither answers a message that the other does not answer. -/
theorem acts_alone (out : Outside σ) {d : Desk} (idle : d.Idle) (vs : List (Option Nat × Visit σ)) (w : World σ)
    (quiet : ∀ step ∈ ((Reception.single d.alone).attend out vs w).1, step.1.Quiet) :
    (∀ (r : Reception) id text,
      r.process out id text = (fun heard => (heard.1.reply, heard.2)) <$> r.answer out id text) ∧
    ∃ (steps : List (Upshot × Desk × World σ)) (cut : Option (World σ)),
      (Reception.desk d).attend out vs w = (steps.map fun (u, d, w) => (u, .desk d, w), cut) ∧
      (Reception.single d.alone).attend out vs w = (steps.map fun (u, d, w) => (u, .single d.alone, w), cut) ∧
      ∀ step ∈ steps, step.2.1.Idle :=
  ⟨Reception.process_eq_answer out, idle.attend out vs w quiet⟩

end Desk

namespace Rehearsal

def lobby : Desk := { config := {}, provider := ⟨.outside, "main", 0⟩ }

/-- The registry is configured between two visitors, and one of them leaves twice. -/
def inquiries : List (Option Nat × Visit Stage) :=
  [(none, .message "a" "Will it rain?"),
    (none, .meanwhile fun w =>
      { w with registry := w.registry.configure [{ role := "math", objective := "Calculate" }] }),
    (some 5, .message "b" "And tomorrow?"), (none, .leave "a"), (none, .leave "a")]

end Rehearsal

open Rehearsal in
theorem Desk.acts_alone_inquiries :
    ((Reception.desk lobby).attend Stage.outside inquiries weather).1.length = 5 ∧
      ∃ (steps : List (Upshot × Desk × World Stage)) (cut : Option (World Stage)),
        (Reception.desk lobby).attend Stage.outside inquiries weather =
          (steps.map fun (u, d, w) => (u, .desk d, w), cut) ∧
        (Reception.single lobby.alone).attend Stage.outside inquiries weather =
          (steps.map fun (u, d, w) => (u, .single d.alone, w), cut) ∧
        ∀ step ∈ steps, step.2.1.Idle := by
  have idle : lobby.Idle := List.forall_mem_nil _
  exact ⟨by decide +kernel, (acts_alone Stage.outside idle inquiries weather (by decide +kernel)).2⟩

end Concierge
