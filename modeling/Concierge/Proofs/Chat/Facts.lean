import Concierge.Proofs.Chat.Filing
import Concierge.Proofs.Memory.Tools
import Concierge.Proofs.Toolbox

/-!
# The facts of a chat

A fact is set by the model, in a turn, or by whoever has the agent. Either way it is a fact of the chat, whichever
agent is in it: a model that looks it up, and an agent that is asked for it, find the value that was set last under
the id of the chat and that key (`Chat.facts_are_those_last_set`). The model's way goes through the text of the id.
-/

namespace Concierge

open Run Memory Handoff

variable {σ : Type}

theorem Tool.answers_rememberFact (out : Outside σ) (place : StoreId) (args : Value) (context : ToolContext) :
    Answers (rememberFact out place args context) := by
  unfold rememberFact
  split
  · exact answers_pure _
  · split
    · exact answers_pure _
    · split
      · exact answers_pure _
      · refine answers_bind (answers_modifyGet _) fun answer => ?_
        split <;> exact answers_pure _

theorem Agent.notes_of_cut {out : Outside σ} {store : StoreId} {fits : Value → Prop} {calm works : World σ → Prop}
    (hs : FactStore out store fits calm works) {a : Agent} {context : ToolContext} {call : FunctionCall}
    {deadline : Option Nat} {w w₁ : World σ}
    (h : a.callTool (Tool.use out []) context call deadline w = (none, w₁)) :
    World.Notes out store fits calm works [] w w₁ := by
  unfold callTool Toolbox.execute at h
  cases known : a.tools.get? call.name with
  | none =>
    simp only [known] at h
    rw [bind_of_some (within_pure _ _)] at h
    cases h
  | some t =>
    simp only [known] at h
    rcases answers_or_not (within a.limits.toolTimeout (Tool.use out [] t (callArgs call) context)) deadline w with
      ⟨result, w₂, ran⟩ | ⟨w₂, cut⟩
    · rw [bind_of_some ran] at h
      cases h
    · rw [bind_of_none cut] at h
      cases h
      have noted := Tool.notes_within hs cut
      cases t with
      | remember place =>
        -- To remember a fact takes no time.
        obtain ⟨_, _, ran⟩ := answers_within (Tool.answers_rememberFact out place (callArgs call) context)
          a.limits.toolTimeout deadline w
        rw [Tool.use_remember, ran] at cut
        cases cut
      | outside | requestHandoff | endHandoff | delegate | lookUp => exact noted

namespace Chat

/-! ## What is set in a chat -/

/-- What is set in the store if an agent in this chat does these things. -/
def memos (store : StoreId) (c : Chat) (ds : List Deed) : List Memo :=
  ds.filterMap (Deed.memo? store c.agent.tools c.toolContext)

theorem allFit_memos {fits : Value → Prop} {store : StoreId} {c : Chat} {ds ds' : List Deed} :
    Memo.AllFit fits (c.memos store (ds ++ ds')) ↔
      Memo.AllFit fits (c.memos store ds) ∧ Memo.AllFit fits (c.memos store ds') := by
  unfold memos
  rw [List.filterMap_append, Memo.allFit_append]

/-- What is set in the store by something that is done with the chat. -/
def noted (store : StoreId) (c : Chat) : Act → Reply → List Memo
  | .turn _, .turn t => c.memos store (t.exchanges.flatMap Exchange.deeds)
  | .setFact key v, _ =>
    match c.memory.facts, c.id with
    | some place, some id => if place = store then [⟨id, key, v⟩] else []
    | _, _ => []
  | _, _ => []

/-- The agent has the memory tools, and its facts are in the store. -/
structure Equipped (store : StoreId) (c : Chat) : Prop where
  facts : c.memory.facts = some store
  remember : c.agent.tools.get? Tool.rememberName = some (.remember store)
  lookUp : c.agent.tools.get? Tool.lookUpName = some (.lookUp store)

/-- Tools know the chat by the text of its id. -/
theorem chat?_toolContext (c : Chat) : Tool.chat? c.toolContext = c.id := by
  unfold Tool.chat? toolContext
  cases c.id with
  | none => rfl
  | some id => rw [Option.map_some, Option.bind_some, ChatId.ofText?_text]

section
variable {out : Outside σ} {store : StoreId} {fits : Value → Prop} {calm works : World σ → Prop} (hs : FactStore out store fits calm works)
  {deadline : Option Nat} {w w₁ : World σ}
include hs

theorem notes_recordAll (c : Chat) (ms : List Message) :
    Along (World.Notes out store fits calm works []) (c.recordAll out ms) := by
  have hR := hs.drift
  induction ms generalizing c with
  | nil => exact along_pure hR _
  | cons m ms ih =>
    refine along_bind hR ?_ ih
    unfold record
    split
    · exact along_bind hR (along_modifyGet (hs.others _ (.inr rfl))) fun _ => along_pure hR _
    · exact along_pure hR _

theorem notes_stalls {c : Chat} {r : Request}
    (h : Turn.Stalls (c.agent.askModel out) (c.agent.callTool (Tool.use out []) c.toolContext) deadline r w w₁) :
    World.Notes out store fits calm works [] w w₁ := by
  have asks := Agent.along_askModel hs.drift c.agent
  cases h with
  | model cut => exact (asks _).of_run cut
  | tool asked cut => exact hs.drift.trans ((asks _).of_run asked) (Agent.notes_of_cut hs cut)

/-- A turn, finished or not, sets what its deeds set. -/
theorem turn_does (c : Chat) (message : String) (deadline : Option Nat) (w : World σ) :
    ∃ ds w₁, c.agent.Does out (Tool.use out []) c.toolContext deadline w ds w₁ ∧
      World.Notes out store fits calm works [] w₁ (c.turn out message deadline w).2 ∧
      ∀ t c' w', c.turn out message deadline w = (some (t, c'), w') → ds = t.exchanges.flatMap Exchange.deeds := by
  have runs := c.agent.runTurn_runs out (Tool.use out []) c.contents [.text message] c.toolContext deadline w
  unfold turn
  rcases answers_or_not (c.agent.runTurn out (Tool.use out []) c.contents [.text message] c.toolContext) deadline w with
    ⟨t, w₁, ran⟩ | ⟨w₁, cut⟩
  · rw [ran] at runs
    obtain ⟨w₂, recorded⟩ := recordAll_run out deadline w₁ c (messagesOf message t.outcome)
    have kept := (notes_recordAll hs c _).of_run recorded
    rw [bind_of_some ran, bind_of_some recorded]
    refine ⟨_, w₁, Agent.does_runs runs, kept, fun t' c' w' same => ?_⟩
    cases same
    rfl
  · rw [cut] at runs
    rw [bind_of_none cut]
    cases runs with
    -- The rounds were done. What never came after them is the answer of a model or a tool, which sets nothing.
    | stalled rounds _ stalls => exact ⟨_, _, Agent.does_rounds rounds, notes_stalls hs stalls, fun _ _ _ => nofun⟩

theorem notes_attempt (c : Chat) (place : Option StoreId) {α : Type} {op : Operation α} (only : op.setsFact = false) :
    Along (World.Notes out store fits calm works []) (c.attempt out place op) :=
  along_attempt_of hs.drift c place fun _ _ => along_modifyGet (hs.others _ (.inr only))

theorem notes_setFact (c : Chat) (key : String) (v : Value) (reply : Reply) :
    Along (World.Notes out store fits calm works (c.noted store (.setFact key v) reply)) (c.setFact out key v) := by
  intro deadline w
  unfold setFact noted
  cases c.memory.facts with
  | none => exact World.Notes.refl w
  | some place =>
    cases known : c.id with
    | none =>
      unfold attempt
      rw [known]
      exact World.Notes.refl w
    | some id =>
      rw [bind_of_some (attempt_run_of_place known)]
      exact Tool.notes_setFact hs place id key v w

theorem notes_perform {c c' : Chat} {act : Act} {reply : Reply} {w' : World σ}
    (h : c.perform out act deadline w = (some (reply, c'), w')) :
    World.Notes out store fits calm works (c.noted store act reply) w w' := by
  have hR := hs.drift
  have aside {x : Run σ (Reply × Chat)} (along : Along (World.Notes out store fits calm works []) x)
      (ran : x deadline w = (some (reply, c'), w')) : World.Notes out store fits calm works [] w w' := along.of_run ran
  cases act with
  | turn message =>
    obtain ⟨⟨t, c₁⟩, w₂, turned, same⟩ := bind_eq_some.mp h
    cases same
    obtain ⟨ds, w₁, does, after, deeds⟩ := turn_does hs c message deadline w
    rw [turned] at after
    obtain rfl := deeds t c' w' turned
    have whole := (does.notes hs).trans after
    rw [List.append_nil] at whole
    exact whole
  | setFact key v =>
    obtain ⟨b, w₂, set, same⟩ := bind_eq_some.mp h
    cases same
    exact (notes_setFact hs c key v _).of_run set
  | clearHistory =>
    refine aside (along_bind hR (along_bind hR (notes_attempt hs _ _ rfl) fun _ => along_pure hR _) fun _ => ?_) h
    exact along_pure hR _
  | resume id =>
    refine aside (along_bind hR ?_ fun _ => along_pure hR _) h
    unfold resume
    split
    · dsimp only
      split
      · exact along_pure hR _
      · refine along_bind hR (along_modifyGet (hs.others _ (.inr rfl))) fun answer => ?_
        split <;> exact along_pure hR _
    · exact along_pure hR _
  | fact key => exact aside (along_then hR (along_then hR (notes_attempt hs c _ rfl))) h
  | allFacts => exact aside (along_then hR (along_then hR (notes_attempt hs c _ rfl))) h
  | latestSummary => exact aside (along_then hR (along_then hR (notes_attempt hs c _ rfl))) h
  | summaries limit => exact aside (along_then hR (along_then hR (notes_attempt hs c _ rfl))) h
  | addSummary content =>
    refine aside (along_then hR (along_addSummary_of hR c content (along_modifyGet hs.now) fun _ _ _ => ?_)) h
    exact along_modifyGet (hs.others _ (.inr rfl))

end

/-! ## Having the memory tools -/

section
variable {out : Outside σ} {store : StoreId} {deadline : Option Nat} {w w' : World σ} {c c' : Chat}

theorem withDelegation_indexed (inStep : c.agent.tools.Indexed) (roles : List String) :
    (c.withDelegation roles).agent.tools.Indexed ∧ (c.withDelegation roles).memory = c.memory := by
  unfold withDelegation
  split
  · exact ⟨inStep, rfl⟩
  · exact ⟨(inStep.register .delegate).1, rfl⟩

theorem equipped_withMemoryTools (inStep : c.agent.tools.Indexed) (facts : c.memory.facts = some store) :
    c.withMemoryTools.Equipped store := by
  have registered : c.withMemoryTools = (c.register (.remember store)).register (.lookUp store) := by
    unfold withMemoryTools
    rw [facts]
  have names : Tool.rememberName ≠ Tool.lookUpName := by decide
  obtain ⟨first, entries⟩ := inStep.register (.remember store)
  obtain ⟨second, entries'⟩ := first.register (.lookUp store)
  have found (name : String) := second.get?_eq name
  rw [entries', entries] at found
  rw [registered]
  refine ⟨facts, (found _).trans ?_, (found _).trans ?_⟩
  · rw [Table.get?_put, Table.get?_put]
    exact (if_neg names).trans (if_pos rfl)
  · rw [Table.get?_put]
    exact if_pos rfl

theorem equipped_build {config : ChatConfig} {p : Provider} {tools : Toolbox} {memory : Adapters} {registry : Bool}
    (inStep : tools.Indexed) (wanted : config.memoryTools = true) (facts : memory.facts = some store)
    (h : build out config p tools memory registry deadline w = (some c, w')) :
    c.Equipped store ∧ ∃ id, c.id = some id := by
  obtain ⟨-, -, drew⟩ := build_new h
  have persistent : memory.isPersistent = true := by simp [Adapters.isPersistent, facts]
  rw [if_pos persistent] at drew
  refine ⟨?_, _, drew.1⟩
  unfold build at h
  obtain ⟨c₀, w₀, made, h⟩ := bind_eq_some.mp h
  obtain ⟨_, _, got, h⟩ := bind_eq_some.mp h
  cases got
  unfold make at made
  rw [if_pos persistent] at made
  obtain ⟨id, w₁, -, same⟩ := bind_eq_some.mp made
  cases same
  rw [wanted, if_pos rfl] at h
  cases h
  refine equipped_withMemoryTools ?_ ?_
  · split
    · exact (withDelegation_indexed (by exact inStep) _).1
    · exact inStep
  · split
    · exact (congrArg Adapters.facts (withDelegation_indexed (by exact inStep) _).2).trans facts
    · exact facts

theorem resume_chat {b : Bool} {id : ChatId} (persistent : c.memory.isPersistent = true)
    (h : c.resume out id deadline w = (some (b, c'), w')) :
    ∃ history, c' = { c with id := some id, history := history } := by
  unfold resume at h
  rw [if_pos persistent] at h
  dsimp only at h
  cases place : c.memory.conversation with
  | none =>
    simp only [place] at h
    cases h
    exact ⟨_, rfl⟩
  | some other =>
    simp only [place] at h
    obtain ⟨answer, w₁, -, same⟩ := bind_eq_some.mp h
    cases answer <;> cases same <;> exact ⟨_, rfl⟩

/-- The chat id after something was done. -/
def idAfter (c : Chat) : Act → Option ChatId
  | .resume id => some id
  | _ => c.id

theorem equipped_perform {act : Act} {reply : Reply} (equipped : c.Equipped store)
    (h : c.perform out act deadline w = (some (reply, c'), w')) : c'.Equipped store ∧ c'.id = c.idAfter act := by
  have like {d : Chat} (agent : d.agent = c.agent) (memory : d.memory = c.memory) : d.Equipped store := by
    refine ⟨by rw [memory, equipped.facts], ?_, ?_⟩
    · rw [agent, equipped.remember]
    · rw [agent, equipped.lookUp]
  cases act with
  | turn message =>
    obtain ⟨⟨t, c₁⟩, w₂, turned, same⟩ := bind_eq_some.mp h
    cases same
    rw [turn_chat turned]
    exact ⟨like rfl rfl, rfl⟩
  | clearHistory =>
    obtain ⟨⟨b, c₁⟩, w₂, cleared, same⟩ := bind_eq_some.mp h
    cases same
    obtain ⟨_, _, -, same⟩ := bind_eq_some.mp cleared
    cases same
    exact ⟨like rfl rfl, rfl⟩
  | resume id =>
    obtain ⟨⟨b, c₁⟩, w₂, resumed, same⟩ := bind_eq_some.mp h
    cases same
    have persistent : c.memory.isPersistent = true := by simp [Adapters.isPersistent, equipped.facts]
    obtain ⟨history, rfl⟩ := resume_chat persistent resumed
    exact ⟨like rfl rfl, rfl⟩
  | setFact | fact | allFacts | addSummary | latestSummary | summaries =>
    obtain ⟨_, _, -, same⟩ := bind_eq_some.mp h
    cases same
    exact ⟨equipped, rfl⟩

end

end Chat

/-! ## Any number of agents -/

section
variable (out : Outside σ) (store : StoreId) (fits : Value → Prop) (calm works : World σ → Prop)

/-- From the first world these facts were set in the store, and this is the world now. Any agents in any chats have
acted, and done single things of turns that are not over; what happened elsewhere set no facts in this store. -/
inductive FactCourse (w₀ : World σ) : List Memo → World σ → Prop
  | begun : FactCourse w₀ [] w₀
  | acted {log w} {c c' : Chat} {act : Chat.Act} {reply : Chat.Reply} {deadline : Option Nat} {w' : World σ}
      (before : FactCourse w₀ log w) (h : c.perform out act deadline w = (some (reply, c'), w')) :
      FactCourse w₀ (log ++ c.noted store act reply) w'
  | did {log w} {c : Chat} {ds : List Deed} {deadline : Option Nat} {w' : World σ} (before : FactCourse w₀ log w)
      (h : c.agent.Does out (Tool.use out []) c.toolContext deadline w ds w') :
      FactCourse w₀ (log ++ c.memos store ds) w'
  | elsewhere {log w} {w' : World σ} (before : FactCourse w₀ log w) (kept : World.Notes out store fits calm works [] w w') :
      FactCourse w₀ log w'

/-- What an agent that has the memory tools finds in its chat from this world on. These are the facts of the chat,
and those that it has once more is set, for as long as the store works. -/
structure Chat.FindsFacts (c : Chat) (id : ChatId) (facts : List Memo → String → Option Value) (w : World σ) :
    Prop where
  fact : ∀ key deadline, ∃ w', c.fact? out key deadline w = (some (facts [] key), w')
  allFacts : ∀ deadline, ∃ fs w', c.allFacts out deadline w = (some fs, w') ∧ Facts.Lists fs (facts [])
  /-- A turn, finished or not, does some things, and sets no facts afterwards. -/
  turns : ∀ message deadline, ∃ ds w₁, c.agent.Does out (Tool.use out []) c.toolContext deadline w ds w₁ ∧
    World.Notes out store fits calm works [] w₁ (c.turn out message deadline w).2 ∧
    ∀ t c' w', c.turn out message deadline w = (some (t, c'), w') → ds = t.exchanges.flatMap Exchange.deeds
  recalls : ∀ before after {deadline args output w'}, c.agent.Does out (Tool.use out []) c.toolContext deadline w
    (before ++ .used Tool.lookUpName args output :: after) w' →
    Memo.AllFit fits (c.memos store (before ++ .used Tool.lookUpName args output :: after)) → works w' →
      Recalled (facts (c.memos store before)) args output
  remembers : ∀ before after {deadline args output w'}, c.agent.Does out (Tool.use out []) c.toolContext deadline w
    (before ++ .used Tool.rememberName args output :: after) w' →
    Memo.AllFit fits (c.memos store (before ++ .used Tool.rememberName args output :: after)) → works w' →
      Remembered id args output (Deed.memo? store c.agent.tools c.toolContext (.used Tool.rememberName args output))
  /-- Its tools answer whenever they are used. -/
  lookUp : ∀ args, ∃ output w', (∀ busy deadline, Tool.use out busy (.lookUp store) args c.toolContext deadline w =
    (some (.ok output), w')) ∧ Recalled (facts []) args output
  remember : ∀ {args key v}, HasText args "key" key → HasValue args "value" v →
    ∃ w', (∀ busy deadline, Tool.use out busy (.remember store) args c.toolContext deadline w =
      (some (.ok (.text ("Remembered '" ++ key ++ "'"))), w')) ∧ World.Notes out store fits calm works [⟨id, key, v⟩] w w'
  unnamed : ∀ {args} busy deadline, (∀ key, ¬ HasText args "key" key) →
    Tool.use out busy (.remember store) args c.toolContext deadline w = (some (.error (rememberRefusal "key")), w)
  empty : ∀ {args key} busy deadline, HasText args "key" key → (∀ v, ¬ HasValue args "value" v) →
    Tool.use out busy (.remember store) args c.toolContext deadline w = (some (.error (rememberRefusal "value")), w)

end

section
variable {out : Outside σ} {store : StoreId} {fits : Value → Prop} {calm works : World σ → Prop} {w₀ w w' : World σ} {log later : List Memo}

theorem FactCourse.notes (hs : FactStore out store fits calm works) (h : FactCourse out store fits calm works w₀ log w) :
    World.Notes out store fits calm works log w₀ w := by
  induction h with
  | begun => exact World.Notes.refl w₀
  | acted _ h ih => exact ih.trans (Chat.notes_perform hs h)
  | did _ h ih => exact ih.trans (h.notes hs)
  | elsewhere _ kept ih =>
    have whole := ih.trans kept
    rw [List.append_nil] at whole
    exact whole

theorem Chat.findsFacts (hs : FactStore out store fits calm works) {c : Chat} {id : ChatId} (equipped : c.Equipped store)
    (known : c.id = some id) (quiet : calm w) (ok : works w) {facts : List Memo → String → Option Value}
    (same : ∀ more key, facts more key = (Memo.last? more id key).or (w.fact? out store id key)) :
    c.FindsFacts out store fits calm works id facts w := by
  have kept : facts [] = w.fact? out store id := funext fun key => same [] key
  have caller : Tool.chat? c.toolContext = some id := c.chat?_toolContext.trans known
  constructor
  case fact =>
    intro key deadline
    unfold Chat.fact?
    rw [equipped.facts, bind_of_some (attempt_run_of_place known), hs.access_fact id key quiet ok, kept]
    exact ⟨_, rfl⟩
  case allFacts =>
    intro deadline
    obtain ⟨fs, answer, listed⟩ := hs.all id quiet ok
    unfold Chat.allFacts
    rw [equipped.facts, bind_of_some (attempt_run_of_place known), answer, kept]
    exact ⟨fs, _, rfl, listed⟩
  case turns => exact fun message deadline => turn_does hs c message deadline w
  case recalls =>
    -- The tool answers from the world that it is used in, so what the deeds before it set is there.
    intro before after deadline args output w' does fit ok'
    obtain ⟨fit, fit'⟩ := allFit_memos.mp fit
    obtain ⟨w₁, first, rest⟩ := does.split
    obtain ⟨quiet₁, set⟩ := first.notes hs fit quiet
    obtain ⟨ok₁, -⟩ := (rest.notes hs fit' quiet₁).2 ok'
    obtain ⟨-, set⟩ := set ok₁
    cases rest with
    | use proper given _ =>
      have recalled := given.recalls hs quiet₁ ok₁ caller equipped.lookUp proper
      have there : w₁.fact? out store id = facts (c.memos store before) := by
        funext key
        rw [same, set]
        rfl
      rwa [there] at recalled
  case remembers =>
    intro before after deadline args output w' does fit ok'
    obtain ⟨fit, fit'⟩ := allFit_memos.mp fit
    obtain ⟨w₁, first, rest⟩ := does.split
    obtain ⟨quiet₁, -⟩ := first.notes hs fit quiet
    obtain ⟨ok₁, -⟩ := (rest.notes hs fit' quiet₁).2 ok'
    cases rest with
    | use proper given _ => exact given.remembers hs quiet₁ ok₁ caller equipped.remember proper
  case lookUp =>
    intro args
    obtain ⟨output, w', ran, recalled⟩ := Tool.lookUp_recalls hs args quiet ok caller
    refine ⟨output, w', fun busy deadline => ?_, kept ▸ recalled⟩
    rw [Tool.use_lookUp]
    exact ran deadline
  case remember =>
    intro args key v named given
    refine ⟨_, fun busy deadline => ?_, hs.sets id key v w⟩
    rw [Tool.use_remember]
    exact Tool.rememberFact_set hs quiet ok caller named given
  case unnamed =>
    intro args busy deadline absent
    rw [Tool.use_remember]
    exact Tool.rememberFact_unnamed caller absent
  case empty =>
    intro args key busy deadline named absent
    rw [Tool.use_remember]
    exact Tool.rememberFact_empty caller named absent

/-- **The facts of a chat are those last set in it.** Whatever agents have done over a store of facts, as long as it
works an agent with the memory tools finds under a key the value last set for it in its chat, by a model or by a
program, or what was there before; so does its model in a turn, where what was set earlier in the turn counts. What
is set under other keys or in other chats makes no difference. An agent has the tools if it is made with them, and
keeps them in all that is done with it, also when it takes up another chat. -/
theorem Chat.facts_are_those_last_set (hs : FactStore out store fits calm works) (quiet : calm w₀)
    (course : FactCourse out store fits calm works w₀ log w) (fit : Memo.AllFit fits log) (ok : works w) :
    (∀ (c : Chat) (id : ChatId), c.Equipped store → c.id = some id → c.FindsFacts out store fits calm works id
      (fun more key => (Memo.last? (log ++ more) id key).or (w₀.fact? out store id key)) w) ∧
    (∀ later w', FactCourse out store fits calm works w later w' → Memo.AllFit fits later → works w' → ∀ (c : Chat) (id : ChatId) (key : String),
      c.Equipped store → c.id = some id → (∀ m ∈ later, ¬ (m.chat = id ∧ m.key = key)) →
        ∀ deadline, (c.fact? out key deadline w').1 = (c.fact? out key deadline w).1) ∧
    (∀ config p tools memory registry deadline c w', tools.Indexed → config.memoryTools = true →
      memory.facts = some store → Chat.build out config p tools memory registry deadline w = (some c, w') →
        (c.Equipped store ∧ ∃ id, c.id = some id) ∧ FactCourse out store fits calm works w₀ log w') ∧
    ∀ (c : Chat) act reply (c' : Chat) deadline w', c.Equipped store →
      c.perform out act deadline w = (some (reply, c'), w') → c'.Equipped store ∧ c'.id = c.idAfter act := by
  obtain ⟨quiet', kept⟩ := course.notes hs fit quiet
  obtain ⟨-, kept⟩ := kept ok
  have finds (c : Chat) (id : ChatId) (equipped : c.Equipped store) (known : c.id = some id) :
      c.FindsFacts out store fits calm works id
        (fun more key => (Memo.last? (log ++ more) id key).or (w₀.fact? out store id key)) w := by
    refine findsFacts hs equipped known quiet' ok fun more key => ?_
    rw [kept, Memo.last?_append, Option.or_assoc]
  refine ⟨finds, ?_, ?_, fun c act reply c' deadline w' equipped h => equipped_perform equipped h⟩
  · intro later w' on fit' ok' c id key equipped known others deadline
    obtain ⟨quiet'', kept'⟩ := on.notes hs fit' quiet'
    obtain ⟨-, kept'⟩ := kept' ok'
    obtain ⟨_, now⟩ := (finds c id equipped known).fact key deadline
    have found : c.FindsFacts out store fits calm works id
        (fun more key => (Memo.last? more id key).or (w'.fact? out store id key)) w' :=
      findsFacts hs equipped known quiet'' ok' fun _ _ => rfl
    obtain ⟨_, then'⟩ := found.fact key deadline
    rw [now, then']
    dsimp only
    rw [kept', Memo.last?_of_others others, kept, List.append_nil]
    rfl
  · intro config p tools memory registry deadline c w' inStep wanted facts built
    have still := (along_build hs.drift config p tools memory registry).of_run built
    exact ⟨equipped_build inStep wanted facts built, .elsewhere course still⟩

end

namespace Rehearsal

/-- A model remembers a city, and a model looks it up. -/
def journey : World Stage where
  outside := {
    models := [("main", .cues [
      ⟨.respond ⟨"", some ⟨"remember_fact", .ofMembers [("key", .str "city"), ("value", .str "Paris")]⟩⟩, 0⟩,
      ⟨.respond ⟨"Noted.", none⟩, 0⟩,
      ⟨.respond ⟨"", some ⟨"recall_fact", .ofMembers [("key", .str "city")]⟩⟩, 0⟩,
      ⟨.respond ⟨"You are in Paris.", none⟩, 0⟩])] }
  stores := [.memory {}]

def notebook : Adapters := { facts := some ⟨0⟩ }

def travelAgent : Run Stage Chat :=
  Chat.build Stage.outside { memoryTools := true } ⟨.outside, "main", 0⟩ {} notebook false

def arrival : Chat.Act := .turn "I am in Paris."

def nights : Chat.Act := .setFact "nights" (.nat 3)

/-- What became of each thing that was done. -/
structure Itinerary where
  first : Chat
  told : Chat.Reply × Chat
  booked : Chat.Reply × Chat
  second : Chat
  taken : Chat.Reply × Chat

/-- The first agent is told where the user is, and its program sets another fact. The second agent takes up the
chat. -/
def travel : Run Stage Itinerary := do
  let first ← travelAgent
  let told ← first.perform Stage.outside arrival
  let booked ← told.2.perform Stage.outside nights
  let second ← travelAgent
  let taken ← second.perform Stage.outside (.resume (booked.2.id.getD ⟨0⟩))
  return ⟨first, told, booked, second, taken⟩

def Itinerary.log (i : Itinerary) : List Memo :=
  i.first.noted ⟨0⟩ arrival i.told.1 ++ i.told.2.noted ⟨0⟩ nights i.booked.1

def Deed.told? : Deed → Option (String × String)
  | .asked _ _ => none
  | .used name _ output => some (name, output.content)

end Rehearsal

open Rehearsal in
theorem Chat.facts_are_those_last_set_journey :
    ∃ (log : List Memo) (b : Chat) (id : ChatId) (w : World Stage) (facts : List Memo → String → Option Value)
      (args : Value) (output : ToolOutput),
      FactCourse Stage.outside ⟨0⟩ (fun _ => True) (World.FactsInMemory ⟨0⟩) (fun _ => True) journey log w ∧
      log.map (fun m => (m.key, m.value.text?)) = [("city", some "Paris"), ("nights", none)] ∧
      b.FindsFacts Stage.outside ⟨0⟩ (fun _ => True) (World.FactsInMemory ⟨0⟩) (fun _ => True) id facts w ∧
      facts [] "city" = some (.str "Paris") ∧
      Recalled (facts []) args output ∧ output.content = "Paris" := by
  have hs : FactStore Stage.outside ⟨0⟩ (fun _ => True) (World.FactsInMemory ⟨0⟩) (fun _ => True) := factStore_inMemory _ _
  have quiet : World.FactsInMemory ⟨0⟩ journey := ⟨_, rfl, rfl, fun _ => rfl⟩
  have fit {log : List Memo} : Memo.AllFit (fun _ => True) log := fun _ _ => trivial
  obtain ⟨i, w, ran, seen⟩ := answer_of_seen travel none journey
    (fun i w => (i.log.map fun m => (m.key, m.value.text?),
      (Memo.last? i.log (i.booked.2.id.getD ⟨0⟩) "city").map Value.text?,
      ((i.taken.2.turn Stage.outside "Where am I?" none w).1.map fun z =>
        (z.1.exchanges.flatMap Exchange.deeds).map Deed.told?).getD []))
    (show _ = some ([("city", some "Paris"), ("nights", none)], some (some "Paris"),
      [none, some ("recall_fact", "Paris"), none]) by decide +kernel)
  obtain ⟨a, _, built, ran⟩ := bind_eq_some.mp ran
  obtain ⟨told, _, turned, ran⟩ := bind_eq_some.mp ran
  obtain ⟨booked, _, set, ran⟩ := bind_eq_some.mp ran
  obtain ⟨b, _, built', ran⟩ := bind_eq_some.mp ran
  obtain ⟨taken, _, resumed, same⟩ := bind_eq_some.mp ran
  cases same
  obtain ⟨-, -, makes, -⟩ := facts_are_those_last_set hs quiet .begun fit trivial
  obtain ⟨-, first⟩ := makes _ _ _ _ _ _ _ _ .empty rfl rfl built
  have second := first.acted turned |>.acted set
  obtain ⟨-, -, makes, -⟩ := facts_are_those_last_set hs quiet second fit trivial
  obtain ⟨⟨equipped, -⟩, third⟩ := makes _ _ _ _ _ _ _ _ .empty rfl rfl built'
  obtain ⟨-, -, -, keeps⟩ := facts_are_those_last_set hs quiet third fit trivial
  obtain ⟨equipped', known⟩ := keeps _ _ _ _ _ _ equipped resumed
  have course := third.acted resumed
  have nothing : b.noted ⟨0⟩ (.resume (booked.2.id.getD ⟨0⟩)) taken.1 = [] := rfl
  rw [nothing, List.append_nil, List.nil_append] at course
  obtain ⟨finds, -⟩ := facts_are_those_last_set hs quiet course fit trivial
  have found := finds _ _ equipped' known
  simp only [Prod.mk.injEq] at seen
  obtain ⟨log, last, said⟩ := seen
  obtain ⟨city, there, text⟩ := Option.map_eq_some_iff.mp last
  obtain rfl := Value.text?_eq_some.mp text
  -- In its turn the second agent asks its model, uses the tool and asks again.
  obtain ⟨ds, w₁, does, -, deeds⟩ := found.turns "Where am I?" none
  rcases answered : taken.2.turn Stage.outside "Where am I?" none w with ⟨_ | ⟨t, c'⟩, w'⟩
  · rw [answered] at said
    cases said
  · obtain rfl := deeds t c' w' answered
    rw [answered] at said
    obtain ⟨asked, rest, split, silent, said⟩ := List.map_eq_cons_iff.mp said
    obtain ⟨used, rest, rfl, said, -⟩ := List.map_eq_cons_iff.mp said
    rw [split] at does
    cases asked with
    | used => cases silent
    | asked r answer =>
      cases used with
      | asked => cases said
      | used name args output =>
        simp only [Deed.told?, Option.some.injEq, Prod.mk.injEq] at said
        obtain ⟨rfl, content⟩ := said
        refine ⟨_, taken.2, _, w, _, args, output, course, log, found, ?_, ?_, content⟩
        · rw [List.append_nil]
          exact congrArg (Option.or · _) there
        · exact found.recalls [.asked r answer] rest does fit trivial

end Concierge
