import Concierge.Chat.Act
import Concierge.Proofs.Registry
import Concierge.Proofs.Rounds
import Concierge.Proofs.Storage

/-!
# The transcript on file

A chat keeps its messages twice, in itself and in its store. Whatever is done with it, the two agree as
long as the store works (`transcript_on_file`), so whoever takes up the chat from the store sees what the
chat itself would see.
-/

namespace Concierge

open Run Memory

variable {σ : Type}

def Memory.Operation.keepsMessages {α : Type} : Memory.Operation α → Bool
  | append _ | clear => false
  | _ => true

theorem Memory.Operation.messages_apply_of_keeps {α : Type} {op : Operation α} (h : op.keepsMessages = true)
    (r : ChatRecord) : (op.apply r).2.messages = r.messages := by
  cases op <;> simp [keepsMessages] at h <;> rfl

/-- A store that works for everything that is done with a chat: what is cleared is gone, and nothing else
but new messages changes a transcript. -/
structure Archive (out : Outside σ) (store : StoreId) (calm works : World σ → Prop) : Prop
    extends Working out store calm works where
  clear : ∀ (other : StoreId) (chat : ChatId) (w : World σ), calm w →
    calm (World.access out other chat .clear w).2 ∧ (works (World.access out other chat .clear w).2 →
      works w ∧ ∀ k, (World.access out other chat .clear w).2.stored out store k =
        if other = store ∧ chat = k then some [] else w.stored out store k)
  keeps : ∀ {α : Type} (other : StoreId) (chat : ChatId) {op : Operation α}, op.keepsMessages = true →
    ∀ w, World.Adds out store calm works (fun _ => []) w (World.access out other chat op w).2
  now : ∀ w, World.Adds out store calm works (fun _ => []) w { w with outside := (out.now w.outside).2 }

namespace Chat

variable {out : Outside σ} {store : StoreId} {calm works : World σ → Prop} {deadline : Option Nat}
  {c c' : Chat} {w w' : World σ}

def Filed (out : Outside σ) (store : StoreId) (c : Chat) (w : World σ) : Prop :=
  c.memory.conversation = some store ∧ ∃ id, c.id = some id ∧ w.stored out store id = some c.history

/-! ## What is done with a chat -/

section
variable {R : World σ → World σ → Prop} (hR : Drift out R)
include hR

theorem along_then {α β : Type} {x : Run σ α} {f : α → β} (along : Along R x) : Along R (do return f (← x)) :=
  along_bind hR along fun _ => along_pure hR _

theorem along_attempt_of (c : Chat) (place : Option StoreId) {α : Type} {op : Operation α}
    (accesses : ∀ store id, Along R (Run.access out store id op)) : Along R (c.attempt out place op) := by
  unfold attempt
  split
  · refine along_bind hR (accesses _ _) fun answer => ?_
    split <;> exact along_pure hR _
  · exact along_pure hR _

theorem along_addSummary_of (c : Chat) (content : String) (now : Along R (Run.ask out.now))
    (adds : ∀ store id summary, Along R (Run.access out store id (.addSummary summary))) :
    Along R (c.addSummary out content) := by
  unfold addSummary
  split
  · refine along_bind hR now fun time => along_bind hR (adds _ _ _) fun answer => ?_
    split <;> exact along_pure hR _
  · exact along_pure hR _

end

section
variable (ha : Archive out store calm works)
include ha

theorem along_attempt (c : Chat) (place : Option StoreId) {α : Type} {op : Operation α}
    (keeps : op.keepsMessages = true) :
    Along (World.Adds out store calm works fun _ => []) (c.attempt out place op) :=
  along_attempt_of ha.drift c place fun _ _ => along_modifyGet (ha.keeps _ _ keeps)

theorem along_addSummary (c : Chat) (content : String) :
    Along (World.Adds out store calm works fun _ => []) (c.addSummary out content) :=
  along_addSummary_of ha.drift c content (along_modifyGet ha.now) fun _ _ _ => along_modifyGet (ha.keeps _ _ rfl)

omit ha in
theorem aside_adds {α : Type} {x : Run σ α} {f : α → Reply} {reply : Reply}
    (along : Along (World.Adds out store calm works fun _ => []) x)
    (h : (do return (f (← x), c) : Run σ (Reply × Chat)) deadline w = (some (reply, c'), w')) :
    c' = c ∧ World.Adds out store calm works (fun _ => []) w w' := by
  obtain ⟨a, w₁, ran, h⟩ := bind_eq_some.mp h
  cases h
  exact ⟨rfl, along.of_run ran⟩

omit ha in
theorem Filed.adds {added : ChatId → List Message} (filed : works w → c.Filed out store w)
    (adds : World.Adds out store calm works added w w') (quiet : calm w)
    (grown : ∀ id, c.id = some id → c' = { c with history := c.history ++ added id }) :
    calm w' ∧ (works w' → c'.Filed out store w') := by
  obtain ⟨quiet', kept⟩ := adds quiet
  refine ⟨quiet', fun ok => ?_⟩
  obtain ⟨before, gained⟩ := kept ok
  obtain ⟨place, id, known, held⟩ := filed before
  rw [grown id known]
  refine ⟨place, id, known, ?_⟩
  rw [gained id, held]
  rfl

theorem turn_filed {message : String} {t : Turn} (filed : works w → c.Filed out store w) (quiet : calm w)
    (at_ : c.memory.conversation = some store)
    (h : c.turn out message deadline w = (some (t, c'), w')) :
    calm w' ∧ (works w' → c'.Filed out store w') := by
  refine Filed.adds filed (turn_adds ha.toWorking h) quiet fun id known => ?_
  simp [filedUnder, at_, known, turn_chat h]

omit ha in
theorem attempt_run_of_place {α : Type} {op : Operation α} {place : StoreId} {id : ChatId} (known : c.id = some id) :
    c.attempt out (some place) op deadline w =
      (some (World.access out place id op w).1.toOption, (World.access out place id op w).2) := by
  unfold attempt
  rw [known]
  dsimp only
  rw [bind_access]
  generalize (World.access out place id op w).1 = answer
  cases answer <;> rfl

omit ha in
theorem attempt_world {α : Type} {op : Operation α} {place : StoreId} {id : ChatId} {a : Option (Option α)}
    (known : c.id = some id) (h : c.attempt out (some place) op deadline w = (a, w')) :
    w' = (World.access out place id op w).2 := by
  rw [attempt_run_of_place known] at h
  cases h
  rfl

theorem clearHistory_filed {b : Bool} (filed : works w → c.Filed out store w) (quiet : calm w)
    (at_ : c.memory.conversation = some store)
    (h : c.clearHistory out deadline w = (some (b, c'), w')) :
    calm w' ∧ (works w' → c'.Filed out store w') := by
  unfold clearHistory at h
  obtain ⟨answer, w₁, cleared, h⟩ := bind_eq_some.mp h
  cases h
  dsimp only at cleared
  rw [at_] at cleared
  cases known : c.id with
  | none =>
    unfold attempt at cleared
    simp only [known] at cleared
    cases cleared
    refine ⟨quiet, fun ok => ?_⟩
    obtain ⟨-, id, known', -⟩ := filed ok
    rw [known] at known'
    cases known'
  | some id =>
    have after := attempt_world (show ({ c with history := [] } : Chat).id = some id from known) cleared
    subst after
    obtain ⟨quiet', kept⟩ := ha.clear store id w quiet
    refine ⟨quiet', fun ok => ⟨at_, id, rfl, ?_⟩⟩
    obtain ⟨-, held⟩ := kept ok
    rw [held id]
    simp

omit ha in
theorem resume_memory {b : Bool} {id : ChatId} (h : c.resume out id deadline w = (some (b, c'), w')) :
    c'.memory = c.memory := by
  unfold resume at h
  by_cases persistent : c.memory.isPersistent = true
  · simp only [persistent, if_true] at h
    cases place : c.memory.conversation with
    | none =>
      simp only [place] at h
      cases h
      rfl
    | some other =>
      simp only [place] at h
      obtain ⟨answer, w₁, -, h⟩ := bind_eq_some.mp h
      cases answer <;> cases h <;> rfl
  · simp only [persistent] at h
    cases h
    rfl

theorem resume_filed {b : Bool} {id : ChatId} (quiet : calm w) (at_ : c.memory.conversation = some store)
    (h : c.resume out id deadline w = (some (b, c'), w')) :
    calm w' ∧ (works w' → works w ∧ b = true ∧ w.stored out store id = some c'.history ∧
      c' = { c with id := some id, history := c'.history } ∧ c'.Filed out store w') := by
  have persistent : c.memory.isPersistent = true := by simp [Adapters.isPersistent, at_]
  unfold resume at h
  simp only [persistent, if_true, at_] at h
  obtain ⟨answer, w₁, read, h⟩ := bind_eq_some.mp h
  have after : (World.access out store id .history w) = (answer, w₁) := by cases read; rfl
  have reads : Operation.history.keepsMessages = true := rfl
  obtain ⟨quiet', kept⟩ := ha.keeps store id reads w quiet
  rw [after] at quiet' kept
  have same : w₁ = w' := by cases answer <;> cases h <;> rfl
  subst same
  refine ⟨quiet', fun ok => ?_⟩
  obtain ⟨before, gained⟩ := kept ok
  obtain ⟨ms, found⟩ := ha.reads w id before
  have given : answer = .ok ms := by
    unfold World.stored at found
    rw [after] at found
    cases answer <;> simp [Except.toOption] at found ⊢
    exact found
  subst given
  cases h
  refine ⟨before, rfl, found, rfl, at_, id, rfl, ?_⟩
  rw [gained id, found]
  simp

theorem perform_filed {act : Act} {reply : Reply} (filed : works w → c.Filed out store w) (quiet : calm w)
    (at_ : c.memory.conversation = some store)
    (h : c.perform out act deadline w = (some (reply, c'), w')) :
    c'.memory = c.memory ∧ calm w' ∧ (works w' → c'.Filed out store w') := by
  have hR := ha.drift
  have beside (aside : c' = c ∧ World.Adds out store calm works (fun _ => []) w w') :
      c'.memory = c.memory ∧ calm w' ∧ (works w' → c'.Filed out store w') := by
    obtain ⟨rfl, adds⟩ := aside
    exact ⟨rfl, Filed.adds filed adds quiet fun _ _ => by simp⟩
  cases act with
  | turn message =>
    obtain ⟨⟨t, c₁⟩, w₁, turned, h⟩ := bind_eq_some.mp h
    cases h
    refine ⟨?_, turn_filed ha filed quiet at_ turned⟩
    rw [turn_chat turned]
  | clearHistory =>
    obtain ⟨⟨b, c₁⟩, w₁, cleared, h⟩ := bind_eq_some.mp h
    cases h
    refine ⟨?_, clearHistory_filed ha filed quiet at_ cleared⟩
    obtain ⟨_, _, _, kept⟩ := bind_eq_some.mp cleared
    cases kept
    rfl
  | resume id =>
    obtain ⟨⟨b, c₁⟩, w₁, resumed, h⟩ := bind_eq_some.mp h
    cases h
    obtain ⟨quiet', held⟩ := resume_filed ha quiet at_ resumed
    exact ⟨resume_memory resumed, quiet', fun ok => (held ok).2.2.2.2⟩
  | setFact key v => exact beside (aside_adds (along_then hR (along_attempt ha c _ rfl)) h)
  | fact key => exact beside (aside_adds (along_then hR (along_attempt ha c _ rfl)) h)
  | allFacts => exact beside (aside_adds (along_then hR (along_attempt ha c _ rfl)) h)
  | addSummary content => exact beside (aside_adds (along_addSummary ha c content) h)
  | latestSummary => exact beside (aside_adds (along_then hR (along_attempt ha c _ rfl)) h)
  | summaries limit => exact beside (aside_adds (along_then hR (along_attempt ha c _ rfl)) h)

end

/-! ## The life of a chat -/

section
variable (out store calm works)

/-- What becomes of a chat that keeps its messages in the store. Nothing was stored under its id before
it was drawn, and what happens elsewhere leaves the transcript under its id as it is. -/
inductive Lives : Chat → World σ → Prop
  | made {agent : Agent} {memory : Adapters} {deadline : Option Nat} {c : Chat} {w w' : World σ} (quiet : calm w)
      (at_ : memory.conversation = some store)
      (h : make out agent memory deadline w = (some c, w'))
      (unused : ∀ id, c.id = some id → works w → w.stored out store id = some []) : Lives c w'
  | altered {c : Chat} {w : World σ} (before : Lives c w) (agent : Agent) : Lives { c with agent := agent } w
  | acted {act : Act} {reply : Reply} {deadline : Option Nat} {c c' : Chat} {w w' : World σ} (before : Lives c w)
      (h : c.perform out act deadline w = (some (reply, c'), w')) : Lives c' w'
  | elsewhere {c : Chat} {w w' : World σ} (before : Lives c w) (quiet : calm w')
      (kept : works w' → works w ∧ ∀ id, c.id = some id → w'.stored out store id = w.stored out store id) :
      Lives c w'

end

theorem make_filed {agent : Agent} {memory : Adapters} (ha : Archive out store calm works) (quiet : calm w)
    (at_ : memory.conversation = some store) (h : make out agent memory deadline w = (some c, w'))
    (unused : ∀ id, c.id = some id → works w → w.stored out store id = some []) :
    c.memory = memory ∧ calm w' ∧ (works w' → c.Filed out store w') := by
  have persistent : memory.isPersistent = true := by simp [Adapters.isPersistent, at_]
  unfold make at h
  simp only [persistent, if_true] at h
  obtain ⟨id, w₁, drawn, h⟩ := bind_eq_some.mp h
  cases h
  obtain ⟨quiet', kept⟩ := (along_ask ha.drift fun _ => .drawChatId).of_run drawn quiet
  refine ⟨rfl, quiet', fun ok => ⟨at_, id, rfl, ?_⟩⟩
  obtain ⟨before, gained⟩ := kept ok
  rw [gained id, unused id rfl before]
  rfl

theorem Lives.filed (ha : Archive out store calm works) (lives : Lives out store calm works c w) :
    c.memory.conversation = some store ∧ calm w ∧ (works w → c.Filed out store w) := by
  induction lives with
  | made quiet at_ h unused =>
    obtain ⟨same, made⟩ := make_filed ha quiet at_ h unused
    exact ⟨by rw [same, at_], made⟩
  | altered _ _ ih => exact ih
  | acted _ h ih =>
    obtain ⟨at_, quiet, filed⟩ := ih
    obtain ⟨same, done⟩ := perform_filed ha filed quiet at_ h
    exact ⟨by rw [same, at_], done⟩
  | elsewhere _ quiet kept ih =>
    obtain ⟨at_, -, filed⟩ := ih
    refine ⟨at_, quiet, fun ok => ?_⟩
    obtain ⟨before, same⟩ := kept ok
    obtain ⟨-, id, known, held⟩ := filed before
    exact ⟨at_, id, known, (same id known).trans held⟩

/-! ## The next request -/

def firstRequest (out : Outside σ) (w : World σ) (c : Chat) (message : String) : Request :=
  c.agent.firstRequest out w c.contents [.text message]

theorem first_of_turn {message : String} {t : Turn} (h : c.turn out message deadline w = (some (t, c'), w')) :
    t.exchanges.head?.map Exchange.request = some (c.firstRequest out w message) := by
  obtain ⟨t', w₁, spoken, h⟩ := bind_eq_some.mp h
  obtain ⟨c₁, w₂, -, h⟩ := bind_eq_some.mp h
  cases h
  have runs := c.agent.runTurn_runs out (Tool.use out []) c.contents [.text message] c.toolContext deadline w
  rw [spoken] at runs
  have asked : t.exchanges ≠ [] := by
    cases runs with
    | ended => simp
    | spent _ all =>
      rintro rfl
      have some_call : 1 ≤ c.agent.limits.calls := Nat.le_max_left _ _
      simp at all
      omega
  obtain ⟨e, es, exchanges⟩ := List.exists_cons_of_ne_nil asked
  obtain ⟨w₃, rounds, -⟩ := runs.take (k := 0) (e := e) (by rw [exchanges]; rfl)
  rw [exchanges]
  rw [List.take_zero] at rounds
  generalize asked : e.request = r at rounds
  cases rounds
  simp [asked, firstRequest]

theorem firstRequest_congr {other : Chat} (same : other.agent.instructions = c.agent.instructions)
    (offers : ∀ roles, other.agent.offer roles = c.agent.offer roles) (w : World σ) (message : String) :
    { other with id := c.id, history := c.history }.firstRequest out w message =
      c.firstRequest out w message := by
  simp [firstRequest, Agent.firstRequest, contents, same, offers]

end Chat

/-- **A store in memory takes everything that is done with a chat** as long as it is open. -/
theorem archive_inMemory (out : Outside σ) (store : StoreId) :
    Archive out store (fun _ => True) (World.OpenInMemory store) where
  toWorking := working_inMemory out store
  clear other chat w _ := by
    refine ⟨trivial, ?_⟩
    by_cases here : other = store
    · subst here
      intro isOpen
      obtain ⟨before, s, -, kept⟩ := World.stored_access isOpen
      refine ⟨before, fun k => ?_⟩
      rw [(kept k).1, (kept k).2]
      by_cases same : k = chat
      · simp [same, Operation.apply]
      · simp [same, Ne.symm same]
    · intro isOpen
      obtain ⟨-, adds⟩ := World.adds_of_place out (World.access_elsewhere here chat Operation.clear) trivial
      obtain ⟨before, same⟩ := adds isOpen
      exact ⟨before, fun k => by simpa [here] using same k⟩
  keeps other chat op keeps w := by
    by_cases here : other = store
    · subst here
      refine fun _ => ⟨trivial, fun isOpen => ?_⟩
      obtain ⟨before, s, -, kept⟩ := World.stored_access isOpen
      refine ⟨before, fun k => ?_⟩
      rw [(kept k).1, (kept k).2]
      by_cases same : k = chat <;> simp [same, Operation.messages_apply_of_keeps keeps]
    · exact World.adds_of_place out (World.access_elsewhere here chat op)
  now w := World.adds_of_place out rfl

namespace Chat

/-- **The transcript on file is the transcript.** Whatever has been done with a chat whose store works,
the store gives its messages back under its id. Another chat with the same instructions and tools that
takes up this id has the same messages, and begins every turn with the request that this chat would
begin it with. -/
theorem transcript_on_file {out : Outside σ} {store : StoreId} {calm works : World σ → Prop} {c : Chat}
    {w : World σ} (ha : Archive out store calm works) (lives : Lives out store calm works c w) (ok : works w) :
    ∃ id, c.id = some id ∧ (World.access out store id .history w).1 = .ok c.history ∧
      ∀ (other : Chat) (deadline : Option Nat), other.memory.conversation = some store →
        other.agent.instructions = c.agent.instructions →
        (∀ roles, other.agent.offer roles = c.agent.offer roles) →
        ∃ other' w', other.resume out id deadline w = (some (true, other'), w') ∧ other'.id = c.id ∧
          other'.history = c.history ∧
          ∀ message, other'.firstRequest out w' message = c.firstRequest out w' message ∧
            ∀ (x : Chat), x = c ∨ x = other' → ∀ deadline t x' w'',
              x.turn out message deadline w' = (some (t, x'), w'') →
                t.exchanges.head?.map Exchange.request = some (c.firstRequest out w' message) := by
  obtain ⟨-, -, filed⟩ := lives.filed ha
  obtain ⟨-, id, known, held⟩ := filed ok
  have answer : (World.access out store id .history w).1 = .ok c.history := by
    unfold World.stored at held
    cases given : (World.access out store id .history w).1 with
    | error e => simp [given, Except.toOption] at held
    | ok ms => simpa [given, Except.toOption] using held
  refine ⟨id, known, answer, fun other deadline at_ instructions offers => ?_⟩
  have persistent : other.memory.isPersistent = true := by simp [Adapters.isPersistent, at_]
  have resumed : other.resume out id deadline w =
      (some (true, { other with id := some id, history := c.history }),
        (World.access out store id .history w).2) := by
    unfold resume
    simp only [persistent, if_true, at_]
    rw [bind_run, Run.access, modifyGet_run, answer]
    rfl
  have alike (message : String) :
      { other with id := c.id, history := c.history }.firstRequest out (World.access out store id .history w).2 message =
        c.firstRequest out (World.access out store id .history w).2 message :=
    firstRequest_congr instructions offers _ message
  rw [known] at alike
  refine ⟨_, _, resumed, known.symm, rfl, fun message => ⟨alike message, ?_⟩⟩
  rintro x (rfl | rfl) deadline t x' w'' turned
  · exact first_of_turn turned
  · rw [← alike message]
    exact first_of_turn turned

end Chat

namespace Rehearsal

/-- Two messages are answered; there is a store in memory. -/
def greeting : World Stage where
  outside := { models := [("main", .cues [⟨.respond ⟨"Hello.", none⟩, 0⟩, ⟨.respond ⟨"Still here.", none⟩, 0⟩])] }
  stores := [.memory {}]

def diary : Adapters := { conversation := some ⟨0⟩ }

end Rehearsal

open Rehearsal in
theorem Chat.transcript_on_file_greeting :
    ∃ (c : Chat) (w : World Stage) (id : ChatId) (other : Chat) (w' : World Stage),
      c.id = some id ∧ c.history.length = 2 ∧
      (World.access Stage.outside ⟨0⟩ id .history w).1 = .ok c.history ∧
      ({ agent := clerk, memory := diary } : Chat).resume Stage.outside id none w = (some (true, other), w') ∧
      other.history = c.history ∧ ∀ message,
        other.firstRequest Stage.outside w' message = c.firstRequest Stage.outside w' message := by
  obtain ⟨c₀, w₀, made, agent⟩ : ∃ c₀ w₀,
      Chat.make Stage.outside clerk diary none greeting = (some c₀, w₀) ∧ c₀.agent = clerk := ⟨_, _, rfl, rfl⟩
  obtain ⟨⟨t, c⟩, w, turned, seen⟩ := answer_of_seen
    (do let c ← Chat.make Stage.outside clerk diary; c.turn Stage.outside "Hi") none greeting
    (fun y w => (y.2.history.length, decide (w.OpenInMemory ⟨0⟩)))
    (show _ = some (2, true) by decide +kernel)
  rw [bind_of_some made] at turned
  simp only [Prod.mk.injEq, decide_eq_true_eq] at seen
  obtain ⟨length, isOpen⟩ := seen
  have performed : c₀.perform Stage.outside (.turn "Hi") none w₀ = (some (.turn t, c), w) := bind_of_some turned _
  have lives : Lives Stage.outside ⟨0⟩ (fun _ => True) (World.OpenInMemory ⟨0⟩) c w :=
    .acted (.made trivial rfl made fun id _ _ => rfl) performed
  obtain ⟨id, known, kept, taken⟩ := transcript_on_file (archive_inMemory _ _) lives isOpen
  have same : c.agent = clerk := by rw [turn_chat turned]; exact agent
  obtain ⟨other, w', resumed, -, history, alike⟩ := taken { agent := clerk, memory := diary } none rfl
    (by rw [same]) fun _ => by rw [same]
  exact ⟨c, w, id, other, w', known, length, kept, resumed, history, fun message => (alike message).1⟩

end Concierge
