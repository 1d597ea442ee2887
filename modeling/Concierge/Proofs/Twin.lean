import Mathlib.Data.List.Forall2
import Mathlib.Data.Option.Basic
import Concierge.Proofs.Registry

/-!
# Runs side by side

Two worlds may differ in much that an agent cannot see. A `Bond` says which worlds look the same to it,
and two runs are twins if they answer alike, or are cut off together, in such worlds and leave such worlds
behind. If models, tools and stores keep to the bond, and the registries find agents alike, then so do all
turns (`Agent.twin_turn`), however deep agents run within each other.
-/

namespace Concierge

variable {σ τ : Type} {α α' β β' : Type}

inductive Timed.Alike (V : α → α' → Prop) : Timed α → Timed α' → Prop
  | after (delay : Nat) {a a'} (h : V a a') : Alike V (.after delay a) (.after delay a')
  | never : Alike V .never .never

abbrev Likeness := String → String → Prop

structure Bond (σ τ : Type) where
  worlds : World σ → World τ → Prop
  /-- How far the clocks are ahead, each of the other. -/
  early : Nat
  late : Nat
  /-- Texts that a model does not tell apart. -/
  texts : Likeness
  /-- Providers of the same model. -/
  providers : Provider → Provider → Prop
  /-- Callers that a tool does not tell apart. -/
  contexts : ToolContext → ToolContext → Prop
  /-- Stores with the chats whose facts are the same there. -/
  places : StoreId × ChatId → StoreId × ChatId → Prop
  /-- The serials of the agents that are running, with the registries that have these agents. -/
  busy : List Nat → List Nat → Registry → Registry → Prop

namespace Bond

variable (b : Bond σ τ)

def Abreast (t t' : Nat) : Prop := t + b.late = t' + b.early

def Twin (V : α → α' → Prop) (x : Run σ α) (y : Run τ α') : Prop :=
  ∀ d d' w w', Option.Rel b.Abreast d d' → b.worlds w w' →
    Option.Rel V (x d w).1 (y d' w').1 ∧ b.worlds (x d w).2 (y d' w').2

structure Paced : Prop where
  abreast : ∀ {w w'}, b.worlds w w' → b.Abreast w.clock w'.clock
  clock : ∀ {w w' c c'}, b.worlds w w' → b.Abreast c c' → b.worlds { w with clock := c } { w' with clock := c' }

end Bond

open Run

section
variable {b : Bond σ τ} {V : α → α' → Prop} {U : β → β' → Prop}

/-! ## How twins are put together -/

theorem twin_pure {a : α} {a' : α'} (h : V a a') : b.Twin V (Pure.pure a) (Pure.pure a') :=
  fun _ _ _ _ _ hw => ⟨.some h, hw⟩

theorem twin_get : b.Twin b.worlds Run.get Run.get := fun _ _ _ _ _ hw => ⟨.some hw, hw⟩

theorem twin_modifyGet {f : World σ → α × World σ} {g : World τ → α' × World τ}
    (h : ∀ w w', b.worlds w w' → V (f w).1 (g w').1 ∧ b.worlds (f w).2 (g w').2) :
    b.Twin V (modifyGet f) (modifyGet g) := by
  intro d d' w w' _ hw
  obtain ⟨answers, after⟩ := h w w' hw
  exact ⟨.some answers, after⟩

theorem twin_of_modifyGet {f : World σ → α × World σ} {g : World τ → α' × World τ}
    (h : b.Twin V (modifyGet f) (modifyGet g)) {w : World σ} {w' : World τ} (hw : b.worlds w w') :
    V (f w).1 (g w').1 ∧ b.worlds (f w).2 (g w').2 := by
  obtain ⟨answers, after⟩ := h none none w w' .none hw
  rw [modifyGet_run, modifyGet_run] at answers after
  rcases answers with answers | _
  exact ⟨answers, after⟩

theorem twin_mono {V' : α → α' → Prop} {x : Run σ α} {y : Run τ α'} (h : b.Twin V x y)
    (weaker : ∀ a a', V a a' → V' a a') : b.Twin V' x y := by
  intro d d' w w' hd hw
  obtain ⟨answers, after⟩ := h d d' w w' hd hw
  refine ⟨?_, after⟩
  generalize (x d w).1 = a at answers
  generalize (y d' w').1 = a' at answers
  cases answers with
  | some answers => exact .some (weaker _ _ answers)
  | none => exact .none

theorem twin_bind {x : Run σ α} {y : Run τ α'} {f : α → Run σ β} {g : α' → Run τ β'} (h : b.Twin V x y)
    (next : ∀ a a', V a a' → b.Twin U (f a) (g a')) : b.Twin U (x >>= f) (y >>= g) := by
  intro d d' w w' hd hw
  obtain ⟨answers, after⟩ := h d d' w w' hd hw
  rcases hx : x d w with ⟨_ | a, w₁⟩ <;> rcases hy : y d' w' with ⟨_ | a', w₁'⟩ <;>
    rw [hx, hy] at answers after
  · rw [bind_of_none hx, bind_of_none hy]
    exact ⟨.none, after⟩
  · cases answers
  · cases answers
  · rw [bind_of_some hx, bind_of_some hy]
    cases answers with
    | some answers => exact next a a' answers d d' w₁ w₁' hd after

section
variable (hb : b.Paced)
include hb

theorem twin_expire {d d' : Option Nat} {w : World σ} {w' : World τ} (hd : Option.Rel b.Abreast d d')
    (hw : b.worlds w w') : b.worlds (expire d w) (expire d' w') := by
  refine hb.clock hw ?_
  cases hd with
  | some hd => exact hd
  | none => exact hb.abreast hw

theorem twin_stall : b.Twin V (stall : Run σ α) (stall : Run τ α') :=
  fun _ _ _ _ hd hw => ⟨.none, twin_expire hb hd hw⟩

theorem sooner_eq {d d' : Option Nat} {w : World σ} {w' : World τ} (hd : Option.Rel b.Abreast d d')
    (hw : b.worlds w w') (delay : Nat) : sooner d (w.clock + delay) = sooner d' (w'.clock + delay) := by
  have abreast := hb.abreast hw
  cases hd with
  | none => rfl
  | @some d d' hd =>
    have same : d < w.clock + delay ↔ d' < w'.clock + delay := by
      unfold Bond.Abreast at abreast hd
      omega
    simp only [sooner, same]

theorem abreast_later {w : World σ} {w' : World τ} (hw : b.worlds w w') (delay : Nat) :
    b.Abreast (w.clock + delay) (w'.clock + delay) := by
  have abreast := hb.abreast hw
  unfold Bond.Abreast at abreast ⊢
  omega

theorem twin_sleep (delay : Nat) : b.Twin (fun _ _ => True) (sleep delay : Run σ Unit) (sleep delay : Run τ Unit) := by
  intro d d' w w' hd hw
  rw [sleep_run, sleep_run, sooner_eq hb hd hw delay]
  by_cases late : sooner d' (w'.clock + delay) = true
  · rw [if_pos late, if_pos late]
    exact ⟨.none, twin_expire hb hd hw⟩
  · rw [if_neg late, if_neg late]
    exact ⟨.some trivial, hb.clock hw (abreast_later hb hw delay)⟩

theorem twin_await {t : Timed α} {t' : Timed α'} (h : t.Alike V t') : b.Twin V (await t) (await t') := by
  cases h with
  | after delay h => exact twin_bind (twin_sleep hb delay) fun _ _ _ => twin_pure h
  | never => exact twin_stall hb

theorem twin_within (limit : Option Nat) {x : Run σ α} {y : Run τ α'} (h : b.Twin V x y) :
    b.Twin (Option.Rel V) (within limit x) (within limit y) := by
  intro d d' w w' hd hw
  cases limit with
  | none =>
    have both := h d d' w w' hd hw
    unfold within
    dsimp only
    generalize x d w = r at both
    generalize y d' w' = r' at both
    obtain ⟨answers, after⟩ := both
    rcases r with ⟨_ | a, w₁⟩ <;> rcases r' with ⟨_ | a', w₁'⟩ <;> cases answers
    · exact ⟨.none, after⟩
    · exact ⟨.some (.some ‹_›), after⟩
  | some ms =>
    rw [within_some, within_some, ← sooner_eq hb hd hw ms]
    generalize sooner d (w.clock + ms) = early
    have deadline : Option.Rel b.Abreast (if early then d else some (w.clock + ms))
        (if early then d' else some (w'.clock + ms)) := by
      cases early with
      | true => exact hd
      | false => exact .some (abreast_later hb hw ms)
    have both := h _ _ w w' deadline hw
    generalize x (if early then d else some (w.clock + ms)) w = r at both
    generalize y (if early then d' else some (w'.clock + ms)) w' = r' at both
    obtain ⟨answers, after⟩ := both
    rcases r with ⟨_ | a, w₁⟩ <;> rcases r' with ⟨_ | a', w₁'⟩ <;> cases answers
    · cases early with
      | true => exact ⟨.none, after⟩
      | false => exact ⟨.some .none, after⟩
    · exact ⟨.some (.some ‹_›), after⟩

end

end

/-! ## What a model and its caller see -/

def Tool.onFacts : Tool → Bool
  | remember _ | lookUp _ => true
  | _ => false

namespace Likeness

variable (like : Likeness)

inductive Outputs : ToolOutput → ToolOutput → Prop
  | mk {s s'} (isError : Bool) (signal : Option Signal) (h : like s s') :
      Outputs ⟨s, isError, signal⟩ ⟨s', isError, signal⟩

def Results (x y : Except ToolError ToolOutput) : Prop :=
  ∀ call, like.Outputs (Agent.shown call x) (Agent.shown call y)

inductive Contents : Content → Content → Prop
  | same (c : Content) : Contents c c
  | result (call : FunctionCall) {s s'} (h : like s s') :
      Contents (Turn.resultContent call s) (Turn.resultContent call s')

inductive Requests : Request → Request → Prop
  | mk (context : Option String) {history history'} (prompt : List Part) (tools : Option (List ToolOffer))
      (h : List.Forall₂ like.Contents history history') :
      Requests ⟨context, history, prompt, tools⟩ ⟨context, history', prompt, tools⟩

inductive Exchanges : Exchange → Exchange → Prop
  | mk {r r'} (answer : Except ModelError Response) {o o'} (asked : like.Requests r r')
      (shown : Option.Rel like.Outputs o o') : Exchanges ⟨r, answer, o⟩ ⟨r', answer, o'⟩

inductive Turns : Turn → Turn → Prop
  | mk {es es'} (outcome : TurnOutcome) (h : List.Forall₂ like.Exchanges es es') :
      Turns ⟨es, outcome⟩ ⟨es', outcome⟩

inductive Answers {α : Type} : Except MemoryError α → Except MemoryError α → Prop
  | ok (a : α) : Answers (.ok a) (.ok a)
  | error {e e' : MemoryError} (h : like e.message e'.message) : Answers (.error e) (.error e')

end Likeness

inductive Tool.Alike (places : StoreId × ChatId → StoreId × ChatId → Prop) (c c' : ToolContext) : Tool → Tool → Prop
  | plain {t} (h : t.onFacts = false) : Alike places c c' t t
  | remember {store store'} (h : Option.Rel (fun id id' => places (store, id) (store', id'))
      (Tool.chat? c) (Tool.chat? c')) : Alike places c c' (.remember store) (.remember store')
  | lookUp {store store'} (h : Option.Rel (fun id id' => places (store, id) (store', id'))
      (Tool.chat? c) (Tool.chat? c')) : Alike places c c' (.lookUp store) (.lookUp store')

structure Agent.Alike (providers : Provider → Provider → Prop) (tools : Tool → Tool → Prop) (a a' : Agent) : Prop where
  provider : providers a.provider a'.provider
  limits : a.limits = a'.limits
  thinking : a.thinking = a'.thinking
  instructions : a.instructions = a'.instructions
  offer : ∀ roles, a.offer roles = a'.offer roles
  tools : ∀ name, Option.Rel tools (a.tools.get? name) (a'.tools.get? name)

namespace Bond

variable (b : Bond σ τ)

def Tools (c c' : ToolContext) : Tool → Tool → Prop := Tool.Alike b.places c c'

def Agents (c c' : ToolContext) : Agent → Agent → Prop := Agent.Alike b.providers (b.Tools c c')

structure Fair (out : Outside σ) (out' : Outside τ) : Prop extends b.Paced where
  same : ∀ s, b.texts s s
  behind : ∀ p {s s'}, b.texts s s' → b.texts (p ++ s) (p ++ s')
  alone : ∀ role, b.contexts ⟨role, none⟩ ⟨role, none⟩
  steady : ∀ {w w'}, b.worlds w w' → w.registry.Steady w'.registry
  backend : ∀ {p p'}, b.providers p p' → p.backend = p'.backend ∧ p.model = p'.model
  posted : ∀ {w w'}, b.worlds w w' → out.postedRoles w.outside = out'.postedRoles w'.outside
  generate : ∀ {p p' r r'}, b.providers p p' → b.texts.Requests r r' →
    b.Twin Eq (Run.ask (out.generate p r)) (Run.ask (out'.generate p' r'))
  callTool : ∀ key args {c c'}, b.contexts c c' →
    b.Twin (Timed.Alike b.texts.Results) (Run.ask (out.callTool key args c)) (Run.ask (out'.callTool key args c'))
  send : ∀ (client : Gemini.Client) url {r r'}, b.texts.Requests r r' →
    b.Twin Eq (Run.ask (out.send (client.httpRequest url r))) (Run.ask (out'.send (client.httpRequest url r')))
  jitter : b.Twin Eq (Run.ask out.jitter) (Run.ask out'.jitter)
  facts : ∀ {α : Type} {store store' chat chat'} {op : Memory.Operation α}, op.onFacts = true →
    b.places (store, chat) (store', chat') →
      b.Twin b.texts.Answers (Run.access out store chat op) (Run.access out' store' chat' op)

/-- The agents of a role are found, or not, while others are running. -/
inductive Hired (l l' : List Nat) : Except RegistryError Registered × World σ →
    Except RegistryError Registered × World τ → Prop
  | nobody (e : RegistryError) {w w'} (worlds : b.worlds w w') (still : b.busy l l' w.registry w'.registry) :
      Hired l l' (.error e, w) (.error e, w')
  | agents {a a' : Registered} {w w'} (worlds : b.worlds w w') (still : b.busy l l' w.registry w'.registry)
      (role : a.agent.role = a'.agent.role) (alike : ∀ role, b.Agents ⟨role, none⟩ ⟨role, none⟩ a.agent a'.agent)
      (running : a.serial ∈ l ↔ a'.serial ∈ l')
      (begun : ∀ task, b.worlds { w with registry := w.registry.setTask a.agent.role a.serial task }
          { w' with registry := w'.registry.setTask a'.agent.role a'.serial task } ∧
        b.busy (a.serial :: l) (a'.serial :: l') (w.registry.setTask a.agent.role a.serial task)
          (w'.registry.setTask a'.agent.role a'.serial task)) : Hired l l' (.ok a, w) (.ok a', w')

structure Staffed (out : Outside σ) (out' : Outside τ) : Prop extends b.Fair out out' where
  idle : ∀ {w w'}, b.worlds w w' → b.busy [] [] w.registry w'.registry
  finish : ∀ {n n' l l' r r'}, b.busy (n :: l) (n' :: l') r r' → b.busy l l' r r'
  hire : ∀ role {l l' w w'}, b.worlds w w' → b.busy l l' w.registry w'.registry →
    b.Hired l l' (World.registeredAgent out role w) (World.registeredAgent out' role w')

/-- The bond as long as these agents are running. -/
def While (l l' : List Nat) : Bond σ τ :=
  { b with worlds := fun w w' => b.worlds w w' ∧ b.busy l l' w.registry w'.registry }

end Bond

section
variable {b : Bond σ τ} {out : Outside σ} {out' : Outside τ}

theorem twin_while {V : α → α' → Prop} {f : World σ → α × World σ} {g : World τ → α' × World τ} {l l' : List Nat}
    (h : b.Twin V (modifyGet f) (modifyGet g)) (kept : ∀ w, (f w).2.registry = w.registry)
    (kept' : ∀ w, (g w).2.registry = w.registry) : (b.While l l').Twin V (modifyGet f) (modifyGet g) := by
  refine twin_modifyGet fun w w' hw => ?_
  obtain ⟨answers, after⟩ := twin_of_modifyGet h hw.1
  refine ⟨answers, after, ?_⟩
  rw [kept, kept']
  exact hw.2

theorem twin_of_while {V : α → α' → Prop} {x : Run σ α} {y : Run τ α'} {l l' : List Nat}
    (h : (b.While l l').Twin V x y) {d d' : Option Nat} {w : World σ} {w' : World τ}
    (hd : Option.Rel b.Abreast d d') (hw : b.worlds w w') (busy : b.busy l l' w.registry w'.registry) :
    Option.Rel V (x d w).1 (y d' w').1 ∧ b.worlds (x d w).2 (y d' w').2 ∧
      b.busy l l' (x d w).2.registry (y d' w').2.registry := h d d' w w' hd ⟨hw, busy⟩

theorem Bond.Fair.while (hb : b.Fair out out') (l l' : List Nat) : (b.While l l').Fair out out' where
  abreast h := hb.abreast h.1
  clock h abreast := ⟨hb.clock h.1 abreast, h.2⟩
  same := hb.same
  behind := hb.behind
  alone := hb.alone
  steady h := hb.steady h.1
  backend := hb.backend
  posted h := hb.posted h.1
  generate hp hr := twin_while (hb.generate hp hr) (fun _ => rfl) fun _ => rfl
  callTool key args _ _ hc := twin_while (hb.callTool key args hc) (fun _ => rfl) fun _ => rfl
  send client url _ _ hr := twin_while (hb.send client url hr) (fun _ => rfl) fun _ => rfl
  jitter := twin_while hb.jitter (fun _ => rfl) fun _ => rfl
  facts onFacts same := twin_while (hb.facts onFacts same) (World.access_registry out _ _ _)
    (World.access_registry out' _ _ _)

end

section
variable {b : Bond σ τ} {out : Outside σ} {out' : Outside τ} (hb : b.Fair out out')
include hb

theorem outputs_refl (o : ToolOutput) : b.texts.Outputs o o := ⟨_, _, hb.same _⟩

theorem results_refl (x : Except ToolError ToolOutput) : b.texts.Results x x := fun _ => outputs_refl hb _

theorem results_failed {e e' : MemoryError} (h : b.texts e.message e'.message) :
    b.texts.Results (.error (Tool.storeError e)) (.error (Tool.storeError e')) :=
  fun _ => ⟨true, none, hb.behind _ (hb.behind _ h)⟩

omit hb in
theorem contents_refl (cs : List Content) : List.Forall₂ b.texts.Contents cs cs := by
  induction cs with
  | nil => exact .nil
  | cons c cs ih => exact .cons (.same c) ih

theorem twin_eq_await {α : Type} {x : Run σ (Timed α)} {y : Run τ (Timed α)} (h : b.Twin Eq x y) :
    b.Twin Eq (do Run.await (← x)) (do Run.await (← y)) := by
  refine twin_bind h fun t t' same => ?_
  subst same
  cases t with
  | after delay a => exact twin_await hb.toPaced (.after delay rfl)
  | never => exact twin_await hb.toPaced .never

/-! ## Asking a model -/

section
variable {r r' : Request} (h : b.texts.Requests r r')
include h

theorem Gemini.Client.twin_attempt (c : Gemini.Client) (url : Option Url) :
    b.Twin Eq (c.attempt out url r) (c.attempt out' url r') := by
  unfold Gemini.Client.attempt
  cases url with
  | none => exact twin_pure rfl
  | some url =>
    refine twin_bind (twin_within hb.toPaced _ (twin_eq_await hb (hb.send c url h))) fun reply reply' same => ?_
    cases same with
    | none => exact twin_pure rfl
    | @some reply _ same =>
      subst same
      cases reply <;> exact twin_pure rfl

theorem Gemini.Client.twin_attempts (c : Gemini.Client) (url : Option Url) (left done : Nat) :
    b.Twin Eq (c.attempts out url r left done) (c.attempts out' url r' left done) := by
  induction left generalizing done with
  | zero =>
    unfold Gemini.Client.attempts
    refine twin_bind (twin_attempt hb h c url) fun answer _ same => ?_
    subst same
    cases answer <;> exact twin_pure rfl
  | succ left ih =>
    unfold Gemini.Client.attempts
    refine twin_bind (twin_attempt hb h c url) fun answer _ same => ?_
    subst same
    cases answer with
    | ok response => exact twin_pure rfl
    | error e =>
      by_cases transient : e.isTransient = true
      · simp only [transient, if_true]
        refine twin_bind hb.jitter fun jitter _ same => ?_
        subst same
        exact twin_bind (twin_sleep hb.toPaced _) fun _ _ _ => ih _
      · simp only [transient]
        exact twin_pure rfl

theorem Agent.twin_askModel {a a' : Agent} (provider : b.providers a.provider a'.provider)
    (limits : a.limits = a'.limits) : b.Twin Eq (a.askModel out r) (a'.askModel out' r') := by
  unfold Agent.askModel
  obtain ⟨backend, model⟩ := hb.backend provider
  rw [limits]
  refine twin_bind (V := Option.Rel Eq) (twin_within hb.toPaced _ ?answers) fun answer answer' same => ?_
  case answers =>
    rw [backend, model]
    cases a'.provider.backend with
    | outside => exact twin_eq_await hb (hb.generate provider h)
    | gemini client =>
      dsimp only
      unfold Gemini.Client.generate
      split
      · exact Gemini.Client.twin_attempts hb h client _ _ _
      · exact twin_pure rfl
  cases same with
  | none => exact twin_pure rfl
  | some same => exact twin_pure (by rw [same])

end

/-! ## Turns with a given use of tools -/

theorem Agent.listedRoles_eq {w : World σ} {w' : World τ} (hw : b.worlds w w') :
    listedRoles out w = listedRoles out' w' := by
  funext directory
  cases directory with
  | registry => exact (hb.steady hw).roles.symm
  | listed roles => rfl
  | posted => exact hb.posted hw

omit hb in
theorem Turn.requests_next {r r' : Request} (h : b.texts.Requests r r') (text : String) (call : FunctionCall)
    {o o' : ToolOutput} (shown : b.texts.Outputs o o') :
    b.texts.Requests (nextRequest r text call o.content) (nextRequest r' text call o'.content) := by
  obtain ⟨context, prompt, tools, histories⟩ := h
  obtain ⟨isError, signal, texts⟩ := shown
  refine ⟨context, [], tools, ?_⟩
  refine List.rel_append (List.rel_append ?_ (contents_refl _)) (.cons (.result call texts) .nil)
  unfold Request.contents
  dsimp only
  split
  · exact histories
  · exact List.rel_append histories (contents_refl _)

omit hb in
theorem Turn.twin_loop {model : Request → Run σ (Except ModelError Response)}
    {model' : Request → Run τ (Except ModelError Response)} {tool : FunctionCall → Run σ ToolOutput}
    {tool' : FunctionCall → Run τ ToolOutput}
    (hm : ∀ r r', b.texts.Requests r r' → b.Twin Eq (model r) (model' r'))
    (ht : ∀ call, b.Twin b.texts.Outputs (tool call) (tool' call)) (thinking : Bool) (calls : Nat) {r r' : Request}
    (h : b.texts.Requests r r') :
    b.Twin b.texts.Turns (loop model tool thinking calls r) (loop model' tool' thinking calls r') := by
  induction calls generalizing r r' with
  | zero => exact twin_pure ⟨_, .nil⟩
  | succ calls ih =>
    unfold loop
    refine twin_bind (hm r r' h) fun answer _ same => ?_
    subst same
    rcases answer with e | ⟨text, _ | call⟩
    · exact twin_pure ⟨_, .cons ⟨_, h, .none⟩ .nil⟩
    · exact twin_pure ⟨_, .cons ⟨_, h, .none⟩ .nil⟩
    · refine twin_bind (ht call) fun o o' shown => ?_
      have next := requests_next h text call shown
      have seen : Option.Rel b.texts.Outputs (some o) (some o') := .some shown
      obtain ⟨isError, signal, texts⟩ := shown
      cases signal with
      | some signal => exact twin_pure ⟨_, .cons ⟨_, h, seen⟩ .nil⟩
      | none =>
        refine twin_bind (ih next) fun t t' rest => ?_
        obtain ⟨outcome, rest⟩ := rest
        exact twin_pure ⟨_, .cons ⟨_, h, seen⟩ rest⟩

section
variable {use : Tool → Value → ToolContext → Run σ (Except ToolError ToolOutput)}
  {use' : Tool → Value → ToolContext → Run τ (Except ToolError ToolOutput)}
  (hu : ∀ t t' args c c', b.contexts c c' → b.Tools c c' t t' → b.Twin b.texts.Results (use t args c) (use' t' args c'))
  {a a' : Agent} {c c' : ToolContext}
include hu

theorem Agent.twin_callTool (hc : b.contexts c c') (h : b.Agents c c' a a') (call : FunctionCall) :
    b.Twin b.texts.Outputs (a.callTool use c call) (a'.callTool use' c' call) := by
  unfold Agent.callTool Toolbox.execute
  rw [h.limits]
  refine twin_bind (twin_within hb.toPaced _ (V := b.texts.Results) ?_) fun result result' same => ?_
  · have tools := h.tools call.name
    generalize a.tools.get? call.name = t at tools
    generalize a'.tools.get? call.name = t' at tools
    cases tools with
    | none => exact twin_pure (results_refl hb _)
    | some same => exact hu _ _ _ _ _ hc same
  · cases same with
    | none => exact twin_pure (outputs_refl hb _)
    | some same => exact twin_pure (same call)

theorem Agent.twin_runTurn (hc : b.contexts c c') (h : b.Agents c c' a a') (history : List Content)
    (prompt : List Part) :
    b.Twin b.texts.Turns (a.runTurn out use history prompt c) (a'.runTurn out' use' history prompt c') := by
  unfold Agent.runTurn
  refine twin_bind twin_get fun w w' hw => ?_
  have listed := listedRoles_eq hb hw
  have first : b.texts.Requests (a.firstRequest out w history prompt) (a'.firstRequest out' w' history prompt) := by
    unfold Agent.firstRequest
    rw [h.instructions, listed, h.offer]
    exact ⟨_, _, _, contents_refl _⟩
  rw [h.thinking, h.limits]
  exact Turn.twin_loop (fun r r' hr => twin_askModel hb hr h.provider h.limits)
    (twin_callTool hb hu hc h) _ _ first

end

/-! ## Tools -/

section
variable {c c' : ToolContext} {store store' : StoreId}
  (h : Option.Rel (fun id id' => b.places (store, id) (store', id')) (Tool.chat? c) (Tool.chat? c'))
include h

theorem Tool.twin_rememberFact (args : Value) :
    b.Twin b.texts.Results (rememberFact out store args c) (rememberFact out' store' args c') := by
  unfold rememberFact
  generalize chat? c = chat at h
  generalize chat? c' = chat' at h
  cases h with
  | none => exact twin_pure (results_refl hb _)
  | some same =>
    dsimp only
    split
    · exact twin_pure (results_refl hb _)
    · split
      · exact twin_pure (results_refl hb _)
      · refine twin_bind (hb.facts rfl same) fun answer answer' answers => ?_
        cases answers with
        | ok _ => exact twin_pure (results_refl hb _)
        | error h => exact twin_pure (results_failed hb h)

theorem Tool.twin_lookUpFact (args : Value) :
    b.Twin b.texts.Results (lookUpFact out store args c) (lookUpFact out' store' args c') := by
  unfold lookUpFact
  generalize chat? c = chat at h
  generalize chat? c' = chat' at h
  cases h with
  | none => exact twin_pure (results_refl hb _)
  | some same =>
    dsimp only
    split
    · refine twin_bind (hb.facts rfl same) fun answer answer' answers => ?_
      cases answers with
      | ok found => cases found <;> exact twin_pure (results_refl hb _)
      | error h => exact twin_pure (results_failed hb h)
    · refine twin_bind (hb.facts rfl same) fun answer answer' answers => ?_
      cases answers with
      | ok _ => exact twin_pure (results_refl hb _)
      | error h => exact twin_pure (results_failed hb h)

end

theorem Tool.twin_useWith {carryOut : Registered → String → Run σ Turn}
    {carryOut' : Registered → String → Run τ Turn}
    (delegates : ∀ args, b.Twin b.texts.Results (delegateTask out carryOut args) (delegateTask out' carryOut' args))
    {t t' : Tool} (args : Value) {c c' : ToolContext} (callers : b.contexts c c') (h : b.Tools c c' t t') :
    b.Twin b.texts.Results (useWith out carryOut t args c) (useWith out' carryOut' t' args c') := by
  cases h with
  | plain plain =>
    cases t with
    | outside key _ =>
      exact twin_bind (hb.callTool key args callers) fun _ _ h => twin_await hb.toPaced h
    | requestHandoff directory =>
      refine twin_bind twin_get fun w w' hw => twin_pure ?_
      rw [Agent.listedRoles_eq hb hw]
      exact results_refl hb _
    | endHandoff => exact twin_pure (results_refl hb _)
    | delegate => exact delegates args
    | remember store => cases plain
    | lookUp store => cases plain
  | remember h => exact twin_rememberFact hb h args
  | lookUp h => exact twin_lookUpFact hb h args

omit hb in
theorem tools_alone (role : String) (t : Tool) : b.Tools ⟨role, none⟩ ⟨role, none⟩ t t := by
  cases t with
  | remember store => exact .remember .none
  | lookUp store => exact .lookUp .none
  | outside | requestHandoff | endHandoff | delegate => exact .plain rfl

omit hb in
theorem agents_alone (role : String) {a a' : Agent} (provider : b.providers a.provider a'.provider)
    (limits : a.limits = a'.limits) (thinking : a.thinking = a'.thinking) (instructions : a.instructions = a'.instructions)
    (offer : ∀ roles, a.offer roles = a'.offer roles) (tools : a.tools = a'.tools) :
    b.Agents ⟨role, none⟩ ⟨role, none⟩ a a' := by
  refine ⟨provider, limits, thinking, instructions, offer, fun name => ?_⟩
  rw [tools]
  cases a'.tools.get? name with
  | none => exact .none
  | some t => exact .some (tools_alone role t)

end

/-! ## Agents within agents -/

section
variable {b : Bond σ τ} {out : Outside σ} {out' : Outside τ} (hb : b.Staffed out out')
include hb

theorem Tool.twin_delegateTask {carryOut : Registered → String → Run σ Turn}
    {carryOut' : Registered → String → Run τ Turn} {l l' : List Nat}
    (hc : ∀ {a a' w w'}, b.Hired l l' (.ok a, w) (.ok a', w') → ∀ task d d', Option.Rel b.Abreast d d' →
      Option.Rel b.texts.Turns (carryOut a task d w).1 (carryOut' a' task d' w').1 ∧
        (b.While l l').worlds (carryOut a task d w).2 (carryOut' a' task d' w').2) (args : Value) :
    (b.While l l').Twin b.texts.Results (delegateTask out carryOut args) (delegateTask out' carryOut' args) := by
  have fair := hb.toFair.while l l'
  unfold delegateTask
  split
  · exact twin_pure (results_refl fair _)
  · rename_i role _
    split
    · exact twin_pure (results_refl fair _)
    · rename_i task _
      intro d d' w w' hd hw
      have hired := hb.hire role hw.1 hw.2
      rw [bind_run, bind_run, modifyGet_run, modifyGet_run]
      generalize World.registeredAgent out role w = x at hired
      generalize World.registeredAgent out' role w' = y at hired
      cases hired with
      | nobody e worlds still => exact ⟨.some (results_refl fair _), worlds, still⟩
      | @agents a a' w₁ w₁' worlds still same alike running begun =>
        obtain ⟨turns, after⟩ := hc (.agents worlds still same alike running begun) task d d' hd
        dsimp only
        rw [bind_run, bind_run]
        generalize carryOut a task d w₁ = x at turns after
        generalize carryOut' a' task d' w₁' = y at turns after
        obtain ⟨t, w₂⟩ := x
        obtain ⟨t', w₂'⟩ := y
        dsimp only at turns after
        cases turns with
        | none => exact ⟨.none, after⟩
        | some turns =>
          cases turns
          exact ⟨.some (results_refl fair _), after⟩

theorem Tool.twin_useAt (depth : Nat) {busy busy' : List Nat} {t t' : Tool} (args : Value) {c c' : ToolContext}
    (callers : b.contexts c c') (h : b.Tools c c' t t') :
    (b.While busy busy').Twin b.texts.Results (useAt out depth busy t args c) (useAt out' depth busy' t' args c') := by
  -- On how many more agents may start to run within each other. Each runs while those are running that it
  -- runs within, so the bond has to be kept for any that are busy.
  induction depth generalizing busy busy' t t' args c c' with
  | zero =>
    have fair := hb.toFair.while busy busy'
    unfold useAt
    refine twin_useWith fair (fun args => twin_delegateTask hb (fun hired task d d' hd => ?_) args) args callers h
    cases hired with
    | agents worlds still => exact twin_stall fair.toPaced d d' _ _ hd ⟨worlds, still⟩
  | succ depth ih =>
    have fair := hb.toFair.while busy busy'
    unfold useAt
    refine twin_useWith fair (fun args => twin_delegateTask hb (fun {a a' w w'} hired task d d' hd => ?_) args)
      args callers h
    cases hired with
    | agents worlds still role alike running begun =>
      by_cases runs : a.serial ∈ busy
      · rw [if_pos runs, if_pos (running.mp runs)]
        exact twin_stall fair.toPaced d d' _ _ hd ⟨worlds, still⟩
      · rw [if_neg runs, if_neg fun runs' => runs (running.mpr runs')]
        have nested := hb.toFair.while (a.serial :: busy) (a'.serial :: busy')
        have caller : b.contexts ⟨a.agent.role, none⟩ ⟨a'.agent.role, none⟩ := role ▸ hb.alone _
        have agents : b.Agents ⟨a.agent.role, none⟩ ⟨a'.agent.role, none⟩ a.agent a'.agent := role ▸ alike _
        have turns := Agent.twin_runTurn nested (fun _ _ args _ _ hc ht => ih args hc ht) caller agents [] [.text task]
        obtain ⟨answers, after, left⟩ := twin_of_while turns hd (begun task).1 (begun task).2
        exact ⟨answers, after, hb.finish left⟩

theorem Tool.twin_use {t t' : Tool} (args : Value) {c c' : ToolContext} (callers : b.contexts c c')
    (h : b.Tools c c' t t') : b.Twin b.texts.Results (use out [] t args c) (use out' [] t' args c') := by
  refine twin_bind twin_get fun w₀ w₀' hw₀ => ?_
  rw [(hb.steady hw₀).definitions]
  intro d d' w w' hd hw
  obtain ⟨answers, after, -⟩ := twin_of_while (twin_useAt hb _ args callers h) hd hw (hb.idle hw)
  exact ⟨answers, after⟩

/-- **Turns see no more than the bond tells.** -/
theorem Agent.twin_turn {a a' : Agent} {c c' : ToolContext} (callers : b.contexts c c')
    (h : b.Agents c c' a a') (history : List Content) (prompt : List Part) :
    b.Twin b.texts.Turns (a.runTurn out (Tool.use out []) history prompt c)
      (a'.runTurn out' (Tool.use out' []) history prompt c') :=
  twin_runTurn hb.toFair (fun _ _ args _ _ hc ht => Tool.twin_use hb args hc ht) callers h history prompt

end

/-! ## Telling all texts apart -/

section
variable {like : Likeness} (apart : ∀ s s', like s s' → s = s')
include apart

theorem Likeness.Requests.eq {r r' : Request} (h : like.Requests r r') : r = r' := by
  obtain ⟨context, prompt, tools, histories⟩ := h
  congr
  induction histories with
  | nil => rfl
  | cons same _ ih =>
    refine congrArg₂ List.cons ?_ ih
    cases same with
    | same c => rfl
    | result call texts => rw [apart _ _ texts]

theorem Likeness.Exchanges.eq {e e' : Exchange} (h : like.Exchanges e e') : e = e' := by
  obtain ⟨answer, asked, shown⟩ := h
  rw [asked.eq apart]
  cases shown with
  | none => rfl
  | some shown =>
    obtain ⟨isError, signal, texts⟩ := shown
    rw [apart _ _ texts]

theorem Likeness.Turns.eq {t t' : Turn} (h : like.Turns t t') : t = t' := by
  obtain ⟨outcome, exchanges⟩ := h
  congr
  induction exchanges with
  | nil => rfl
  | cons same _ ih => rw [same.eq apart, ih]

end

end Concierge
