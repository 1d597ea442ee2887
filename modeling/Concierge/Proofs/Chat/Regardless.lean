import Concierge.Chat.Act
import Concierge.Proofs.Twin
import Concierge.Rehearsal.Script

/-!
# Turns do not depend on memory

A chat with stores and one without are led through the same acts. Whatever the stores do, both ask for the
same, have the same turns and keep the same messages (`turns_regardless_of_memory`). What the stores do
goes unnoticed by everything but the acts that ask for facts and summaries, and those fall back on an
empty answer when a store fails.
-/

namespace Concierge

open Run Memory

variable {σ τ : Type}

inductive Asked where
  | model (p : Provider) (r : Request)
  | server (r : HttpRequest)

/-- A log of all that is asked of models, with what `note` makes of it. -/
structure Outside.Logs {ι : Type} (out : Outside σ) (note : Asked → List ι) (log : σ → List ι) : Prop where
  generate : ∀ p r s, log (out.generate p r s).2 = log s ++ note (.model p r)
  send : ∀ r s, log (out.send r s).2 = log s ++ note (.server r)
  createModel : ∀ model s, log (out.createModel model s).2 = log s
  callTool : ∀ key args c s, log (out.callTool key args c s).2 = log s
  jitter : ∀ s, log (out.jitter s).2 = log s
  drawChatId : ∀ s, log (out.drawChatId s).2 = log s
  now : ∀ s, log (out.now s).2 = log s
  access : ∀ {α : Type} key chat (op : Operation α) s, log (out.access key chat op s).2 = log s

/-- Models and tools behave the same in states that `B` relates. What comes of drawing a chat id, reading
the time and using a store on the right is lost on them. -/
structure Regardless (out : Outside σ) (out' : Outside τ) (B : σ → τ → Prop) : Prop where
  posted : ∀ {s s'}, B s s' → out.postedRoles s = out'.postedRoles s'
  createModel : ∀ model {s s'}, B s s' → (out.createModel model s).1 = (out'.createModel model s').1 ∧
    B (out.createModel model s).2 (out'.createModel model s').2
  generate : ∀ p r {s s'}, B s s' → (out.generate p r s).1 = (out'.generate p r s').1 ∧
    B (out.generate p r s).2 (out'.generate p r s').2
  callTool : ∀ key args role chat chat' {s s'}, B s s' →
    (out.callTool key args ⟨role, chat⟩ s).1 = (out'.callTool key args ⟨role, chat'⟩ s').1 ∧
      B (out.callTool key args ⟨role, chat⟩ s).2 (out'.callTool key args ⟨role, chat'⟩ s').2
  send : ∀ r {s s'}, B s s' → (out.send r s).1 = (out'.send r s').1 ∧ B (out.send r s).2 (out'.send r s').2
  jitter : ∀ {s s'}, B s s' → (out.jitter s).1 = (out'.jitter s').1 ∧ B (out.jitter s).2 (out'.jitter s').2
  drawChatId : ∀ {s s'}, B s s' → B s (out'.drawChatId s').2
  now : ∀ {s s'}, B s s' → B s (out'.now s').2
  access : ∀ {α : Type} key chat (op : Operation α) {s s'}, B s s' → B s (out'.access key chat op s').2

def Bond.regardless (B : σ → τ → Prop) (early late : Nat) : Bond σ τ where
  worlds w w' := B w.outside w'.outside ∧ w.registry = w'.registry ∧ w.clock + late = w'.clock + early
  early := early
  late := late
  texts := Eq
  providers := Eq
  contexts c c' := c.role = c'.role
  places _ _ := False
  busy l l' _ _ := l = l'

section
variable {out : Outside σ} {out' : Outside τ} {B : σ → τ → Prop} {early late : Nat}

theorem Timed.alike_refl {α : Type} {V : α → α → Prop} (refl : ∀ a, V a a) (t : Timed α) : t.Alike V t := by
  cases t with
  | after delay a => exact .after delay (refl a)
  | never => exact .never

variable (hB : Regardless out out' B)
include hB

theorem Bond.fair_regardless (early late : Nat) : (Bond.regardless B early late).Fair out out' where
  abreast h := h.2.2
  clock h abreast := ⟨h.1, h.2.1, abreast⟩
  same _ := rfl
  behind p _ _ h := congrArg (p ++ ·) h
  alone _ := rfl
  steady h := h.2.1 ▸ Registry.Steady.refl _
  backend h := ⟨congrArg _ h, congrArg _ h⟩
  posted h := hB.posted h.1
  generate hp hr := by
    obtain rfl := hr.eq fun _ _ => id
    subst hp
    refine twin_modifyGet fun _ _ h => ?_
    obtain ⟨same, kept⟩ := hB.generate _ _ h.1
    exact ⟨same, kept, h.2⟩
  callTool key args c c' hc := by
    obtain ⟨role, chat⟩ := c
    obtain ⟨role', chat'⟩ := c'
    obtain rfl : role = role' := hc
    refine twin_modifyGet fun w w' h => ?_
    obtain ⟨same, kept⟩ := hB.callTool key args role chat chat' h.1
    refine ⟨?_, kept, h.2⟩
    dsimp only
    rw [same]
    exact Timed.alike_refl (fun x call => ⟨_, _, rfl⟩) _
  send client url r r' hr := by
    obtain rfl := hr.eq fun _ _ => id
    refine twin_modifyGet fun _ _ h => ?_
    obtain ⟨same, kept⟩ := hB.send (client.httpRequest url r) h.1
    exact ⟨same, kept, h.2⟩
  jitter := twin_modifyGet fun _ _ h =>
    have ⟨same, kept⟩ := hB.jitter h.1
    ⟨same, kept, h.2⟩
  facts _ nowhere := nowhere.elim

theorem World.twin_provider (model : String) :
    (Bond.regardless B early late).Twin Eq (.modifyGet (World.provider out model))
      (.modifyGet (World.provider out' model)) := by
  refine twin_modifyGet fun w w' hw => ?_
  have same := hw.2.1
  have checked : (checkModel out model w).1 = (checkModel out' model w').1 ∧
      (Bond.regardless B early late).worlds (checkModel out model w).2 (checkModel out' model w').2 := by
    unfold checkModel
    rw [congrArg Registry.backend same]
    split
    · obtain ⟨answers, kept⟩ := hB.createModel model hw.1
      exact ⟨answers, kept, hw.2⟩
    · exact ⟨rfl, hw⟩
  unfold provider
  rw [same]
  split
  · exact ⟨rfl, hw⟩
  · generalize checkModel out model w = x at checked
    generalize checkModel out' model w' = y at checked
    obtain ⟨answer, w₁⟩ := x
    obtain ⟨answer', w₁'⟩ := y
    obtain ⟨answers, after⟩ := checked
    dsimp only at answers after
    subst answers
    cases answer with
    | error e => exact ⟨rfl, after⟩
    | ok _ =>
      obtain ⟨kept, registries, abreast⟩ := after
      dsimp only
      rw [registries]
      exact ⟨rfl, kept, rfl, abreast⟩

theorem World.twin_registeredAgent (role : String) :
    (Bond.regardless B early late).Twin Eq (.modifyGet (World.registeredAgent out role))
      (.modifyGet (World.registeredAgent out' role)) := by
  refine twin_modifyGet fun w w' hw => ?_
  have same := hw.2.1
  unfold registeredAgent
  rw [same]
  split
  · exact ⟨rfl, hw⟩
  · split
    · exact ⟨rfl, hw⟩
    · rename_i d _
      have made := twin_of_modifyGet (twin_provider hB (w'.registry.modelOf d)) hw
      generalize provider out (w'.registry.modelOf d) w = x at made
      generalize provider out' (w'.registry.modelOf d) w' = y at made
      obtain ⟨answer, w₁⟩ := x
      obtain ⟨answer', w₁'⟩ := y
      obtain ⟨answers, after⟩ := made
      dsimp only at answers after
      subst answers
      cases answer with
      | error e => exact ⟨rfl, after⟩
      | ok p =>
        obtain ⟨kept, registries, abreast⟩ := after
        dsimp only
        rw [registries]
        exact ⟨rfl, kept, rfl, abreast⟩

theorem Bond.staffed_regardless (early late : Nat) : (Bond.regardless B early late).Staffed out out' where
  toFair := fair_regardless hB early late
  idle _ := rfl
  finish h := (List.cons.inj h).2
  hire role l l' w w' hw busy := by
    subst busy
    obtain ⟨answers, after⟩ := twin_of_modifyGet (World.twin_registeredAgent hB role) hw
    generalize World.registeredAgent out role w = x at answers after
    generalize World.registeredAgent out' role w' = y at answers after
    obtain ⟨answer, w₁⟩ := x
    obtain ⟨answer', w₁'⟩ := y
    dsimp only at answers after
    subst answers
    cases answer with
    | error e => exact .nobody e after rfl
    | ok a =>
      have alike (role : String) := agents_alone (b := Bond.regardless B early late) (a := a.agent) role rfl rfl rfl rfl
        (fun _ => rfl) rfl
      refine .agents after rfl rfl alike Iff.rfl fun task => ?_
      obtain ⟨kept, registries, abreast⟩ := after
      refine ⟨⟨kept, ?_, abreast⟩, rfl⟩
      dsimp only
      rw [registries]

end

theorem Regardless.logged {ι : Type} {note : Asked → List ι} {log : σ → List ι} {log' : τ → List ι}
    (hB : Regardless out out' B) (logs : out.Logs note log) (logs' : out'.Logs note log') (old old' : List ι) :
    Regardless out out' fun s s' => B s s' ∧
      ∃ asked : List Asked, log s = old ++ asked.flatMap note ∧ log' s' = old' ++ asked.flatMap note where
  posted h := hB.posted h.1
  createModel model s s' h := by
    obtain ⟨same, kept⟩ := hB.createModel model h.1
    refine ⟨same, kept, ?_⟩
    rw [logs.createModel, logs'.createModel]
    exact h.2
  generate p r s s' h := by
    obtain ⟨same, kept⟩ := hB.generate p r h.1
    obtain ⟨-, asked, grown, grown'⟩ := h
    refine ⟨same, kept, asked ++ [.model p r], ?_, ?_⟩
    · simp [logs.generate, grown]
    · simp [logs'.generate, grown']
  callTool key args role chat chat' s s' h := by
    obtain ⟨same, kept⟩ := hB.callTool key args role chat chat' h.1
    refine ⟨same, kept, ?_⟩
    rw [logs.callTool, logs'.callTool]
    exact h.2
  send r s s' h := by
    obtain ⟨same, kept⟩ := hB.send r h.1
    obtain ⟨-, asked, grown, grown'⟩ := h
    refine ⟨same, kept, asked ++ [.server r], ?_, ?_⟩
    · simp [logs.send, grown]
    · simp [logs'.send, grown']
  jitter h := by
    obtain ⟨same, kept⟩ := hB.jitter h.1
    refine ⟨same, kept, ?_⟩
    rw [logs.jitter, logs'.jitter]
    exact h.2
  drawChatId h := by
    refine ⟨hB.drawChatId h.1, ?_⟩
    rw [logs'.drawChatId]
    exact h.2
  now h := by
    refine ⟨hB.now h.1, ?_⟩
    rw [logs'.now]
    exact h.2
  access key chat op s s' h := by
    refine ⟨hB.access key chat op h.1, ?_⟩
    rw [logs'.access]
    exact h.2

/-! ## What goes unnoticed -/

/-- The run answers at once, with what `P` allows, and no world on the left that goes with the one before
notices it. -/
def Bond.Unnoticed {α : Type} (b : Bond σ τ) (P : α → Prop) (y : Run τ α) : Prop :=
  ∀ d w', ∃ a w₁', y d w' = (some a, w₁') ∧ P a ∧ ∀ w, b.worlds w w' → b.worlds w w₁'

section
variable {b : Bond σ τ} {α β γ : Type} {P : α → Prop} {Q : β → Prop}

theorem unnoticed_pure {a : α} (h : P a) : b.Unnoticed P (Pure.pure a) :=
  fun _ w' => ⟨a, w', rfl, h, fun _ hw => hw⟩

theorem unnoticed_bind {y : Run τ α} {f : α → Run τ β} (hy : b.Unnoticed P y)
    (next : ∀ a, P a → b.Unnoticed Q (f a)) : b.Unnoticed Q (y >>= f) := by
  intro d w'
  obtain ⟨a, w₁', ran, ha, kept⟩ := hy d w'
  obtain ⟨c, w₂', ran', hc, kept'⟩ := next a ha d w₁'
  exact ⟨c, w₂', by rw [bind_of_some ran, ran'], hc, fun w hw => kept' w (kept w hw)⟩

theorem unnoticed_modifyGet {f : World τ → α × World τ} (h : ∀ w', P (f w').1)
    (kept : ∀ w w', b.worlds w w' → b.worlds w (f w').2) : b.Unnoticed P (modifyGet f) :=
  fun _ w' => ⟨(f w').1, (f w').2, rfl, h w', fun w hw => kept w w' hw⟩

theorem twin_of_unnoticed {V : γ → α → Prop} {c : γ} {y : Run τ α} (h : b.Unnoticed (V c) y) :
    b.Twin V (Pure.pure c) y := by
  intro d d' w w' _ hw
  obtain ⟨a, w₁', ran, ha, kept⟩ := h d' w'
  rw [ran]
  exact ⟨.some ha, kept w hw⟩

end

namespace Chat

/-! ## Falling back -/

def Act.onMemory : Act → Bool
  | setFact .. | fact _ | allFacts | addSummary _ | latestSummary | summaries _ => true
  | turn _ | clearHistory | resume _ => false

def Act.fallback : Act → Reply
  | fact _ => .fact none
  | allFacts => .facts []
  | latestSummary => .summary none
  | summaries _ => .summaries []
  | _ => .done false

def refusal? {α : Type} (out : Outside σ) (c : Chat) (place : Option StoreId) (op : Operation α) (w : World σ) :
    Option MemoryError :=
  match place, c.id with
  | some store, some id =>
    match (World.access out store id op w).1 with
    | .ok _ => none
    | .error e => some e
  | _, _ => none

def failure? (out : Outside σ) (c : Chat) (w : World σ) : Act → Option MemoryError
  | .setFact key v => c.refusal? out c.memory.facts (.setFact key v) w
  | .fact key => c.refusal? out c.memory.facts (.fact? key) w
  | .allFacts => c.refusal? out c.memory.facts .allFacts w
  | .addSummary content =>
    c.refusal? out c.memory.summaries (.addSummary ⟨content, (out.now w.outside).1⟩)
      { w with outside := (out.now w.outside).2 }
  | .latestSummary => c.refusal? out c.memory.summaries .latest? w
  | .summaries limit => c.refusal? out c.memory.summaries (.summaries limit) w
  | _ => none

section
variable (out : Outside σ) (c : Chat) (d : Option Nat) (w : World σ)

theorem attempt_run {α : Type} (place : Option StoreId) (op : Operation α) :
    ∃ answer w', c.attempt out place op d w = (some answer, w') ∧
      ((c.refusal? out place op w).isSome → answer = none) := by
  unfold attempt refusal?
  cases place with
  | none => exact ⟨none, w, rfl, fun _ => rfl⟩
  | some store =>
    cases c.id with
    | none => exact ⟨none, w, rfl, fun _ => rfl⟩
    | some id =>
      dsimp only
      obtain ⟨answer, w', ran⟩ := answers_modifyGet (World.access out store id op) d w
      rw [Run.access, bind_of_some ran]
      cases ran
      cases (World.access out store id op w).1 with
      | ok a => exact ⟨some a, _, rfl, nofun⟩
      | error e => exact ⟨none, _, rfl, fun _ => rfl⟩

theorem addSummary_run (content : String) :
    ∃ done w', c.addSummary out content d w = (some done, w') ∧
      ((c.failure? out w (.addSummary content)).isSome → done = false) := by
  unfold addSummary failure? refusal?
  cases c.memory.summaries with
  | none => exact ⟨false, w, rfl, fun _ => rfl⟩
  | some store =>
    cases c.id with
    | none => exact ⟨false, w, rfl, fun _ => rfl⟩
    | some id =>
      dsimp only
      have told : Run.ask out.now d w = (some (out.now w.outside).1, { w with outside := (out.now w.outside).2 }) := rfl
      rw [bind_of_some told]
      obtain ⟨answer, w', ran⟩ := answers_modifyGet
        (World.access out store id (.addSummary ⟨content, (out.now w.outside).1⟩)) d
        { w with outside := (out.now w.outside).2 }
      rw [Run.access, bind_of_some ran]
      cases ran
      cases (World.access out store id (.addSummary ⟨content, (out.now w.outside).1⟩)
        { w with outside := (out.now w.outside).2 }).1 with
      | ok a => exact ⟨true, _, rfl, nofun⟩
      | error e => exact ⟨false, _, rfl, fun _ => rfl⟩

theorem perform_onMemory {act : Act} (h : act.onMemory = true) :
    ∃ reply w', c.perform out act d w = (some (reply, c), w') ∧
      ((c.failure? out w act).isSome → reply = act.fallback) := by
  cases act with
  | turn | clearHistory | resume => cases h
  | addSummary content =>
    obtain ⟨done, w', ran, failed⟩ := c.addSummary_run out d w content
    refine ⟨.done done, w', bind_of_some ran _, fun failure => ?_⟩
    rw [failed failure]
    rfl
  | setFact key v =>
    obtain ⟨answer, w', ran, failed⟩ := c.attempt_run out d w c.memory.facts (.setFact key v)
    refine ⟨.done answer.isSome, w', ?_, fun failure => by rw [failed failure]; rfl⟩
    exact bind_of_some (bind_of_some ran _) _
  | fact key =>
    obtain ⟨answer, w', ran, failed⟩ := c.attempt_run out d w c.memory.facts (.fact? key)
    refine ⟨.fact answer.join, w', ?_, fun failure => by rw [failed failure]; rfl⟩
    exact bind_of_some (bind_of_some ran _) _
  | allFacts =>
    obtain ⟨answer, w', ran, failed⟩ := c.attempt_run out d w c.memory.facts .allFacts
    refine ⟨.facts (answer.getD []), w', ?_, fun failure => by rw [failed failure]; rfl⟩
    exact bind_of_some (bind_of_some ran _) _
  | latestSummary =>
    obtain ⟨answer, w', ran, failed⟩ := c.attempt_run out d w c.memory.summaries .latest?
    refine ⟨.summary answer.join, w', ?_, fun failure => by rw [failed failure]; rfl⟩
    exact bind_of_some (bind_of_some ran _) _
  | summaries limit =>
    obtain ⟨answer, w', ran, failed⟩ := c.attempt_run out d w c.memory.summaries (.summaries limit)
    refine ⟨.summaries (answer.getD []), w', ?_, fun failure => by rw [failed failure]; rfl⟩
    exact bind_of_some (bind_of_some ran _) _

end

/-! ## The same acts with stores and without -/

/-- The second chat is the first one with memory. -/
structure Beside (c c' : Chat) : Prop where
  memory : c.memory = {}
  id : c.id = none
  agent : c.agent = c'.agent
  history : c.history = c'.history
  plain : ∀ t ∈ c.agent.tools.tools, t.onFacts = false

def Reply.turn? : Reply → Option Turn
  | turn t => some t
  | _ => none

def Act.isResume : Act → Bool
  | resume _ => true
  | _ => false

section
variable {out : Outside σ} {out' : Outside τ} {B : σ → τ → Prop} {early late : Nat}
  (hB : Regardless out out' B) {c c' : Chat}
include hB

omit hB in
theorem recordAll_bare (h : c.memory = {}) (ms : List Message) :
    c.recordAll out ms = Pure.pure { c with history := c.history ++ ms } := by
  induction ms generalizing c with
  | nil => simp [recordAll]
  | cons m ms ih =>
    have first : c.record out m = Pure.pure { c with history := c.history ++ [m] } := by
      unfold record
      rw [h]
    have rest := ih (c := { c with history := c.history ++ [m] }) h
    rw [recordAll, first, pure_bind, rest]
    simp

theorem unnoticed_access {α : Type} (store : StoreId) (chat : ChatId) (op : Operation α) :
    (Bond.regardless B early late).Unnoticed (fun _ => True) (Run.access out' store chat op) := by
  refine unnoticed_modifyGet (fun _ => trivial) fun w w' hw => ?_
  unfold World.access
  split
  · exact hw
  · exact hw
  · exact ⟨hB.access _ _ _ hw.1, hw.2⟩
  · exact hw

theorem unnoticed_attempt {α : Type} (c : Chat) (place : Option StoreId) (op : Operation α) :
    (Bond.regardless B early late).Unnoticed (fun _ => True) (c.attempt out' place op) := by
  unfold attempt
  split
  · refine unnoticed_bind (unnoticed_access hB _ _ op) fun answer _ => ?_
    cases answer <;> exact unnoticed_pure trivial
  · exact unnoticed_pure trivial

theorem unnoticed_addSummary (c : Chat) (content : String) :
    (Bond.regardless B early late).Unnoticed (fun _ => True) (c.addSummary out' content) := by
  unfold addSummary
  split
  · have told : (Bond.regardless B early late).Unnoticed (fun _ => True) (Run.ask out'.now) :=
      unnoticed_modifyGet (fun _ => trivial) fun w w' hw => ⟨hB.now hw.1, hw.2⟩
    refine unnoticed_bind told fun time _ => unnoticed_bind (unnoticed_access hB _ _ _) fun answer _ => ?_
    cases answer <;> exact unnoticed_pure trivial
  · exact unnoticed_pure trivial

theorem unnoticed_recordAll (c : Chat) (ms : List Message) :
    (Bond.regardless B early late).Unnoticed (fun x => x = { c with history := c.history ++ ms })
      (c.recordAll out' ms) := by
  induction ms generalizing c with
  | nil => exact unnoticed_pure (by rw [List.append_nil])
  | cons m ms ih =>
    have first : (Bond.regardless B early late).Unnoticed (fun x => x = { c with history := c.history ++ [m] })
        (c.record out' m) := by
      unfold record
      split
      · exact unnoticed_bind (unnoticed_access hB _ _ _) fun _ _ => unnoticed_pure rfl
      · exact unnoticed_pure rfl
    refine unnoticed_bind first fun x hx => ?_
    subst hx
    have rest := ih { c with history := c.history ++ [m] }
    simpa using rest

omit hB in
theorem Beside.agents (h : Beside c c') : (Bond.regardless B early late).Agents c.toolContext c'.toolContext
    c.agent c'.agent where
  provider := congrArg _ h.agent
  limits := congrArg _ h.agent
  thinking := congrArg _ h.agent
  instructions := congrArg _ h.agent
  offer roles := congrArg _ h.agent
  tools name := by
    rw [← h.agent]
    cases found : c.agent.tools.get? name with
    | none => exact .none
    | some t => exact .some (.plain (h.plain t (Toolbox.mem_of_get? found)))

theorem twin_turn (h : Beside c c') (message : String) :
    (Bond.regardless B early late).Twin (fun x y => x.1 = y.1 ∧ Beside x.2 y.2)
      (c.turn out message) (c'.turn out' message) := by
  have hb := Bond.staffed_regardless hB early late
  have callers : (Bond.regardless B early late).contexts c.toolContext c'.toolContext := congrArg Agent.role h.agent
  unfold turn
  rw [show c'.contents = c.contents by rw [contents, contents, h.history]]
  refine twin_bind (Agent.twin_turn hb callers h.agents _ _) fun t t' turns => ?_
  obtain rfl := turns.eq fun _ _ same => same
  rw [recordAll_bare h.memory, pure_bind]
  refine twin_of_unnoticed (unnoticed_bind (unnoticed_recordAll hB c' _) fun x hx => unnoticed_pure ?_)
  subst hx
  refine ⟨rfl, h.memory, h.id, h.agent, ?_, h.plain⟩
  dsimp only
  rw [h.history]

omit hB in
theorem perform_bare {act : Act} (h : c.memory = {}) (onMemory : act.onMemory = true) :
    c.perform out act = Pure.pure (act.fallback, c) := by
  have none_kept {α : Type} (op : Operation α) : c.attempt out none op = Pure.pure none := rfl
  cases act with
  | turn | clearHistory | resume => cases onMemory
  | addSummary content =>
    have nothing : c.addSummary out content = Pure.pure false := by
      unfold addSummary
      rw [h]
    simp [perform, nothing, Act.fallback]
  | setFact | fact | allFacts | latestSummary | summaries =>
    simp [perform, setFact, fact?, allFacts, latestSummary?, Chat.summaries, h, none_kept, Act.fallback]

omit hB in
theorem clearHistory_bare (h : c.memory = {}) :
    c.clearHistory out = Pure.pure (false, { c with history := [] }) := by
  unfold clearHistory
  rw [h]
  rfl

theorem unnoticed_perform {act : Act} (onMemory : act.onMemory = true) :
    (Bond.regardless B early late).Unnoticed (fun x => x.1.turn? = none ∧ x.2 = c') (c'.perform out' act) := by
  have hA {α β : Type} (place : Option StoreId) (op : Operation α) (f : Option α → β) :
      (Bond.regardless B early late).Unnoticed (fun _ => True) (do return f (← c'.attempt out' place op)) :=
    unnoticed_bind (unnoticed_attempt hB c' place op) fun _ _ => unnoticed_pure trivial
  cases act with
  | turn | clearHistory | resume => cases onMemory
  | addSummary content => exact unnoticed_bind (unnoticed_addSummary hB c' content) fun _ _ => unnoticed_pure ⟨rfl, rfl⟩
  | setFact | fact | allFacts | latestSummary | summaries =>
    exact unnoticed_bind (hA _ _ _) fun _ _ => unnoticed_pure ⟨rfl, rfl⟩

theorem twin_perform (h : Beside c c') {act : Act} (notResume : act.isResume = false) :
    (Bond.regardless B early late).Twin (fun x y => x.1.turn? = y.1.turn? ∧ Beside x.2 y.2)
      (c.perform out act) (c'.perform out' act) := by
  by_cases onMemory : act.onMemory = true
  · rw [perform_bare h.memory onMemory]
    refine twin_of_unnoticed fun d w' => ?_
    have unseen : (Bond.regardless B early late).Unnoticed (fun x => x.1.turn? = none ∧ x.2 = c')
        (c'.perform out' act) := unnoticed_perform hB onMemory
    obtain ⟨⟨reply, x⟩, w₁', ran, ⟨noTurn, same⟩, kept⟩ := unseen d w'
    refine ⟨(reply, x), w₁', ran, ⟨?_, ?_⟩, kept⟩
    · rw [noTurn]
      cases act <;> rfl
    · rw [show x = c' from same]
      exact h
  · cases act with
    | resume => cases notResume
    | setFact | fact | allFacts | addSummary | latestSummary | summaries => exact absurd rfl onMemory
    | turn message =>
      refine twin_bind (twin_turn hB h message) fun x y both => twin_pure ⟨?_, both.2⟩
      exact congrArg some both.1
    | clearHistory =>
      have forgotten : (Bond.regardless B early late).Unnoticed
          (fun y => Beside { c with history := [] } y.2) (c'.clearHistory out') :=
        unnoticed_bind (unnoticed_attempt hB _ _ _) fun _ _ =>
          unnoticed_pure ⟨h.memory, h.id, h.agent, rfl, h.plain⟩
      unfold perform
      rw [clearHistory_bare h.memory, pure_bind]
      exact twin_of_unnoticed (unnoticed_bind forgotten fun y hy => unnoticed_pure ⟨rfl, hy⟩)

theorem twin_performAll (h : Beside c c') {acts : List Act} (notResume : ∀ act ∈ acts, act.isResume = false) :
    (Bond.regardless B early late).Twin
      (fun x y => x.1.map Reply.turn? = y.1.map Reply.turn? ∧ Beside x.2 y.2)
      (c.performAll out acts) (c'.performAll out' acts) := by
  induction acts generalizing c c' with
  | nil => exact twin_pure ⟨rfl, h⟩
  | cons act acts ih =>
    have first := notResume act List.mem_cons_self
    refine twin_bind (twin_perform hB h first) fun x y both => ?_
    obtain ⟨same, beside⟩ := both
    refine twin_bind (ih beside fun act later => notResume act (List.mem_cons_of_mem _ later)) fun xs ys rest => ?_
    obtain ⟨sames, besides⟩ := rest
    refine twin_pure ⟨?_, besides⟩
    rw [List.map_cons, List.map_cons, same, sames]

theorem twin_make {agent : Agent} (plain : ∀ t ∈ agent.tools.tools, t.onFacts = false) (memory : Adapters) :
    (Bond.regardless B early late).Twin Beside (make out agent {}) (make out' agent memory) := by
  have bare : make out agent {} = Pure.pure { agent := agent } := rfl
  rw [bare]
  refine twin_of_unnoticed ?_
  unfold make
  split
  · have drawn : (Bond.regardless B early late).Unnoticed (fun _ => True) (Run.ask out'.drawChatId) :=
      unnoticed_modifyGet (fun _ => trivial) fun w w' hw => ⟨hB.drawChatId hw.1, hw.2⟩
    exact unnoticed_bind drawn fun id _ => unnoticed_pure ⟨rfl, rfl, rfl, rfl, plain⟩
  · exact unnoticed_pure ⟨rfl, rfl, rfl, rfl, plain⟩

omit hB in
theorem Beside.withDelegation (h : Beside c c') (roles : List String) :
    Beside (c.withDelegation roles) (c'.withDelegation roles) := by
  unfold Chat.withDelegation
  split
  · exact h
  · refine ⟨h.memory, h.id, ?_, h.history, ?_⟩
    · unfold Chat.register
      rw [h.agent]
    · intro t ht
      rcases Toolbox.mem_register ht with rfl | ht
      · rfl
      · exact h.plain t ht

theorem twin_build {config : ChatConfig} (noMemoryTools : config.memoryTools = false) (provider : Provider)
    {tools : Toolbox} (plain : ∀ t ∈ tools.tools, t.onFacts = false) (memory : Adapters) (registry : Bool) :
    (Bond.regardless B early late).Twin Beside (build out config provider tools {} registry)
      (build out' config provider tools memory registry) := by
  unfold build
  refine twin_bind (twin_make hB plain memory) fun c c' h => twin_bind twin_get fun w w' hw => ?_
  have registries : w.registry = w'.registry := hw.2.1
  simp only [noMemoryTools, registries, Bool.false_eq_true, if_false]
  refine twin_pure ?_
  split
  · exact h.withDelegation _
  · exact h

/-! ## Every course of acts -/

def lead (out : Outside σ) (config : ChatConfig) (provider : Provider) (tools : Toolbox) (memory : Adapters)
    (registry : Bool) (acts : List Act) : Run σ (List Reply × Chat) := do
  let c ← build out config provider tools memory registry
  c.performAll out acts

theorem twin_lead {config : ChatConfig} (noMemoryTools : config.memoryTools = false) (provider : Provider)
    {tools : Toolbox} (plain : ∀ t ∈ tools.tools, t.onFacts = false) (memory : Adapters) (registry : Bool)
    {acts : List Act} (notResume : ∀ act ∈ acts, act.isResume = false) :
    (Bond.regardless B early late).Twin
      (fun x y => x.1.map Reply.turn? = y.1.map Reply.turn? ∧ x.2.history = y.2.history)
      (lead out config provider tools {} registry acts) (lead out' config provider tools memory registry acts) := by
  have built : (Bond.regardless B early late).Twin Beside (build out config provider tools {} registry)
      (build out' config provider tools memory registry) := twin_build hB noMemoryTools provider plain memory registry
  have led := twin_bind built fun c c' beside => twin_performAll hB beside notResume
  exact twin_mono led fun x y both => ⟨both.1, both.2.history⟩

end

/-- **Turns do not depend on memory.** Two chats that are set up alike, without tools for facts, are led
through the same acts, one without stores and one with any. Whatever the stores do, both are cut off or
neither is, both ask models for the same, and both have the same turns and the same messages in the end.
An act on facts or summaries always answers and leaves the chat alone; if its store fails it falls back. -/
theorem turns_regardless_of_memory {ι : Type} {out : Outside σ} {out' : Outside τ} {B : σ → τ → Prop}
    {note : Asked → List ι} {log : σ → List ι} {log' : τ → List ι} (hB : Regardless out out' B)
    (logs : out.Logs note log) (logs' : out'.Logs note log') {config : ChatConfig}
    (noMemoryTools : config.memoryTools = false) (provider : Provider) {tools : Toolbox}
    (plain : ∀ t ∈ tools.tools, t.onFacts = false) (memory : Adapters) (registry : Bool) {acts : List Act}
    (notResume : ∀ act ∈ acts, act.isResume = false) {w : World σ} {w' : World τ}
    (start : B w.outside w'.outside) (registries : w.registry = w'.registry) {d d' : Option Nat}
    (deadlines : d.map (· + w'.clock) = d'.map (· + w.clock)) :
    (∃ asked : List Asked,
      log (lead out config provider tools {} registry acts d w).2.outside =
          log w.outside ++ asked.flatMap note ∧
        log' (lead out' config provider tools memory registry acts d' w').2.outside =
          log' w'.outside ++ asked.flatMap note) ∧
      Option.Rel (fun x y => x.1.map Reply.turn? = y.1.map Reply.turn? ∧ x.2.history = y.2.history)
        (lead out config provider tools {} registry acts d w).1
        (lead out' config provider tools memory registry acts d' w').1 ∧
      ∀ (c : Chat) (act : Act) d w', act.onMemory = true → ∃ reply w'',
        c.perform out' act d w' = (some (reply, c), w'') ∧
          ((c.failure? out' w' act).isSome → reply = act.fallback) := by
  have logged := hB.logged logs logs' (log w.outside) (log' w'.outside)
  have twins : (Bond.regardless _ w.clock w'.clock).Twin
      (fun x y => x.1.map Reply.turn? = y.1.map Reply.turn? ∧ x.2.history = y.2.history)
      (lead out config provider tools {} registry acts) (lead out' config provider tools memory registry acts) :=
    twin_lead logged noMemoryTools provider plain memory registry notResume
  have abreast : Option.Rel (fun t t' => t + w'.clock = t' + w.clock) d d' := by
    cases d <;> cases d' <;> simp at deadlines
    · exact .none
    · exact .some deadlines
  have begun : ∃ asked : List Asked, log w.outside = log w.outside ++ asked.flatMap note ∧
      log' w'.outside = log' w'.outside ++ asked.flatMap note := ⟨[], by simp, by simp⟩
  obtain ⟨answers, ⟨-, asked⟩, -⟩ :=
    twins d d' w w' abreast ⟨⟨start, begun⟩, registries, Nat.add_comm _ _⟩
  exact ⟨asked, answers, fun c act d w' onMemory => perform_onMemory out' c d w' onMemory⟩

end Chat

namespace Rehearsal

/-- Stages on which the same play goes on, whatever chats were drawn and however often the time was read. -/
def SamePlay (s s' : Stage) : Prop := s' = { s with chatsDrawn := s'.chatsDrawn, clockRead := s'.clockRead }

theorem regardless_samePlay : Regardless Stage.outside Stage.outside SamePlay where
  posted h := by rw [h]; rfl
  createModel model s s' h := by
    rw [h]
    unfold Stage.outside Stage.createModel SamePlay
    dsimp only
    split <;> exact ⟨rfl, rfl⟩
  generate p r s s' h := by
    rw [h]
    unfold Stage.outside Stage.generate SamePlay
    dsimp only
    split <;> exact ⟨rfl, rfl⟩
  callTool key args role chat chat' s s' h := by
    rw [h]
    unfold Stage.outside Stage.callTool SamePlay
    dsimp only
    split
    · exact ⟨rfl, rfl⟩
    · split <;> exact ⟨rfl, rfl⟩
  send r s s' h := by
    rw [h]
    unfold Stage.outside Stage.send SamePlay
    dsimp only
    split <;> exact ⟨rfl, rfl⟩
  jitter h := ⟨rfl, h⟩
  drawChatId h := by
    unfold SamePlay at h ⊢
    rw [h]
    rfl
  now h := by
    unfold SamePlay at h ⊢
    rw [h]
    rfl
  access _ _ _ _ _ h := h

def noteRequest : Asked → List (String × Request)
  | .model p r => [(p.model, r)]
  | .server _ => []

theorem logs_requests : Stage.outside.Logs noteRequest Stage.requests where
  generate p r s := by
    unfold Stage.outside Stage.generate
    dsimp only
    split <;> rfl
  send r s := by
    unfold Stage.outside Stage.send
    dsimp only
    split <;> exact (List.append_nil _).symm
  createModel model s := by
    unfold Stage.outside Stage.createModel
    dsimp only
    split <;> rfl
  callTool key args c s := by
    unfold Stage.outside Stage.callTool
    dsimp only
    split
    · rfl
    · split <;> rfl
  jitter _ := rfl
  drawChatId _ := rfl
  now _ := rfl
  access _ _ _ _ := rfl

/-- Two messages are answered, and every store fails. -/
def fullDisk : World Stage where
  outside := { models := [("main", .cues [⟨.respond ⟨"Hello.", none⟩, 0⟩, ⟨.respond ⟨"Still here.", none⟩, 0⟩])] }
  stores := [.outside 0]

def fullDiary : Adapters := ⟨some ⟨0⟩, some ⟨0⟩, some ⟨0⟩⟩

def smallTalk : List Chat.Act := [.turn "Hi", .fact "name", .addSummary "We met", .turn "Are you there?"]

end Rehearsal

open Rehearsal in
theorem Chat.turns_regardless_of_memory_fullDisk :
    ∃ x w₁ y w₁', lead Stage.outside {} ⟨.outside, "main", 0⟩ {} {} false smallTalk none fullDisk = (some x, w₁) ∧
      lead Stage.outside {} ⟨.outside, "main", 0⟩ {} fullDiary false smallTalk none fullDisk = (some y, w₁') ∧
      x.1.map Reply.turn? = y.1.map Reply.turn? ∧ x.2.history = y.2.history ∧ y.2.history.length = 4 ∧
      w₁.outside.requests = w₁'.outside.requests ∧ w₁'.outside.requests.length = 2 := by
  obtain ⟨y, w₁', ran, seen⟩ := answer_of_seen
    (lead Stage.outside {} ⟨.outside, "main", 0⟩ {} fullDiary false smallTalk) none fullDisk
    (fun y w => (y.2.history.length, w.outside.requests.length)) (show _ = some (4, 2) by decide +kernel)
  have noMemoryTools : ({} : ChatConfig).memoryTools = false := rfl
  have plain : ∀ t ∈ ({} : Toolbox).tools, t.onFacts = false := by simp
  have notResume : ∀ act ∈ smallTalk, act.isResume = false := by decide
  have start : SamePlay fullDisk.outside fullDisk.outside := rfl
  have registries : fullDisk.registry = fullDisk.registry := rfl
  have deadlines : Option.map (· + fullDisk.clock) none = Option.map (· + fullDisk.clock) none := rfl
  obtain ⟨⟨asked, logged, logged'⟩, answers, -⟩ := turns_regardless_of_memory regardless_samePlay logs_requests
    logs_requests noMemoryTools ⟨.outside, "main", 0⟩ plain fullDiary false notResume start registries deadlines
  rw [ran] at answers logged'
  generalize without : lead Stage.outside {} ⟨.outside, "main", 0⟩ {} {} false smallTalk none fullDisk = r
    at answers logged
  obtain ⟨_ | x, w₁⟩ := r
  · cases answers
  · cases answers with
    | some both =>
      obtain ⟨length, requests⟩ := Prod.mk.inj seen
      exact ⟨x, w₁, y, w₁', rfl, ran, both.1, both.2, length, logged.trans logged'.symm, requests⟩

end Concierge
