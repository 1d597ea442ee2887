import Concierge.Proofs.Chat.Filing
import Concierge.Proofs.Chat.Regardless
import Concierge.Proofs.Isolation.Sessions

/-!
# Sessions are isolated

A message of a session leaves the other sessions and what they have stored alone, and so does its end. What
becomes of a message depends on nothing but its own session and what is shared on purpose: wherever that is
the same, up to the names of chats and stores, models are asked for the same, the reply is the same and so is
the session that is left (`Reception.sessions_isolated`).
-/

namespace Concierge

open Run Memory

variable {σ τ ι β : Type}

/-! ## The same requests -/

namespace Likeness

variable {like like' : Likeness} (more : ∀ {s s'}, like s s' → like' s s')
include more

theorem Contents.mono {c c' : Content} (h : like.Contents c c') : like'.Contents c c' := by
  cases h with
  | same => exact .same _
  | result call texts => exact .result call (more texts)

theorem Requests.mono {r r' : Request} (h : like.Requests r r') : like'.Requests r r' := by
  cases h with
  | mk context prompt tools histories => exact .mk context prompt tools (histories.imp fun _ _ same => same.mono more)

end Likeness

inductive Asked.Renamed (n : Naming) : Asked → Asked → Prop
  | model {p p' r r'} (provider : Provider.Same p p') (h : n.Texts.Requests r r') :
      Renamed n (.model p r) (.model p' r')
  | server (client : Gemini.Client) (url : Url) {r r'} (h : n.Texts.Requests r r') :
      Renamed n (.server (client.httpRequest url r)) (.server (client.httpRequest url r'))

/-- Since the old logs the same was asked on both sides. -/
def Noted (note : Asked → List ι) (old old' : List ι) (n : Naming) (l l' : List ι) : Prop :=
  ∃ asked asked', List.Forall₂ (Asked.Renamed n) asked asked' ∧ l = old ++ asked.flatMap note ∧
    l' = old' ++ asked'.flatMap note

namespace Noted

variable {note : Asked → List ι} {old old' l l' : List ι} {n n' : Naming}

theorem mono (h : Noted note old old' n l l') (more : ∀ {k k'}, n k k' → n' k k') : Noted note old old' n' l l' := by
  obtain ⟨asked, asked', same, grown, grown'⟩ := h
  refine ⟨asked, asked', same.imp fun e e' both => ?_, grown, grown'⟩
  cases both with
  | model provider texts => exact .model provider (texts.mono (Naming.Texts.mono more))
  | server client url texts => exact .server client url (texts.mono (Naming.Texts.mono more))

theorem still (h : Noted note old old' n l l') {m m' : List ι} (same : m = l) (same' : m' = l') :
    Noted note old old' n m m' := by
  rw [same, same']
  exact h

theorem ask (h : Noted note old old' n l l') {e e' : Asked} (same : e.Renamed n e') {m m' : List ι}
    (written : m = l ++ note e) (written' : m' = l' ++ note e') : Noted note old old' n m m' := by
  obtain ⟨asked, asked', before, grown, grown'⟩ := h
  refine ⟨asked ++ [e], asked' ++ [e'], List.rel_append before (.cons same .nil), ?_, ?_⟩
  · rw [written, grown]
    simp
  · rw [written', grown']
    simp

end Noted

namespace Comparison

variable (C : Comparison σ τ) (note : Asked → List ι) (log : σ → List ι) (log' : τ → List ι) (old old' : List ι)

def noting : Comparison σ τ :=
  { C with same := fun n s s' => C.same n s s' ∧ Noted note old old' n (log s) (log' s') }

variable {C note log log' old old'} {n : Names} {w : World σ} {w' : World τ}

theorem Impartial.noting (hC : C.Impartial) (logs : C.out.Logs note log) (logs' : C.out'.Logs note log') :
    (C.noting note log log' old old').Impartial where
  draws := hC.draws
  draws' := hC.draws'
  posted h := hC.posted h.1
  createModel model _ _ _ h := by
    obtain ⟨same, after⟩ := hC.createModel model h.1
    exact ⟨same, after, h.2.still (logs.createModel _ _) (logs'.createModel _ _)⟩
  certain certain h := by
    obtain ⟨ok, after, ok', after'⟩ := hC.certain certain h.1
    exact ⟨ok, ⟨after, h.2.still (logs.createModel _ _) rfl⟩, ok', after', h.2.still rfl (logs'.createModel _ _)⟩
  generate provider requests h := by
    obtain ⟨same, after⟩ := hC.generate provider requests h.1
    exact ⟨same, after, h.2.ask (.model provider requests) (logs.generate _ _ _) (logs'.generate _ _ _)⟩
  callTool key args _ _ _ _ _ callers h := by
    obtain ⟨same, after⟩ := hC.callTool key args callers h.1
    exact ⟨same, after, h.2.still (logs.callTool _ _ _ _) (logs'.callTool _ _ _ _)⟩
  send client url _ _ _ _ _ requests h := by
    obtain ⟨same, after⟩ := hC.send client url requests h.1
    exact ⟨same, after, h.2.ask (.server client url requests) (logs.send _ _) (logs'.send _ _)⟩
  jitter h := by
    obtain ⟨same, after⟩ := hC.jitter h.1
    exact ⟨same, after, h.2.still (logs.jitter _) (logs'.jitter _)⟩
  access key _ _ op _ _ _ named h := by
    obtain ⟨answers, after⟩ := hC.access key op named h.1
    exact ⟨answers, after, h.2.still (logs.access _ _ _ _) (logs'.access _ _ _ _)⟩
  drawChatId h fresh fresh' := by
    have after := hC.drawChatId h.1 fresh fresh'
    exact ⟨after, (h.2.mono Or.inl).still (logs.drawChatId _) (logs'.drawChatId _)⟩

theorem Agree.noting (h : C.Agree n w w') :
    (C.noting note log log' (log w.outside) (log' w'.outside)).Agree n w w' :=
  { h with
    outside := ⟨h.outside, [], [], .nil, by simp, by simp⟩
    registries := ⟨h.registries.steady, h.registries.providers⟩ }

theorem Agree.of_noting (h : (C.noting note log log' old old').Agree n w w') : C.Agree n w w' :=
  { h with
    outside := h.outside.1
    registries := ⟨h.registries.steady, h.registries.providers⟩ }

end Comparison

/-! ## A message of one of many sessions -/

namespace Reception

def SparesOthers (view : Nat → ChatId → σ → β) (id : String) (r : Reception) (w : World σ) (r' : Reception)
    (w' : World σ) : Prop :=
  ∀ j, j ≠ id → r'.session? j = r.session? j ∧ ∀ h, r.session? j = some h → Retains view w w' h

theorem Reached.worlds {C : Comparison σ τ} {n : Names} {r r' : Reception} {w : World σ} {w' : World τ}
    (hC : C.Impartial) (reached : Reached C.out C.drawn r w) (reached' : Reached C.out' C.drawn' r' w')
    (once : (C.drawn w.outside).Nodup) (once' : (C.drawn' w'.outside).Nodup) (agree : C.Agree n w w') :
    C.Worlds n w w' := by
  have settled := reached.settled hC.draws once
  have settled' := reached'.settled hC.draws' once'
  exact ⟨agree, settled.sound, settled'.sound, settled.tidy, settled'.tidy⟩

/-- **Sessions are isolated.** A message of a session, answered or not, leaves the other sessions alone if no
chat id is drawn twice, and so does the end of the session. If the worlds behave alike and agree on what goes
by the names that are known, then a message of the same session takes the same course in both, however
they were reached: both are answered or neither is, models are asked for the same, and reply and session are
the same up to the names of chats that are drawn now. -/
theorem sessions_isolated {C : Comparison σ τ} {view : Nat → ChatId → σ → β} (hd : C.out.Draws C.drawn)
    (keeps : C.out.Keeps view) {r : Reception} {w : World σ} (reached : Reached C.out C.drawn r w)
    (id message : String) (d : Option Nat) {result : Option (String × Reception)} {w₁ : World σ}
    (run : r.process C.out id message d w = (result, w₁)) (once : (C.drawn w₁.outside).Nodup) :
    ((∀ reply r₁, result = some (reply, r₁) → SparesOthers view id r w r₁ w₁) ∧
      ∀ j h, j ≠ id → r.session? j = some h → Retains view w w₁ h) ∧
    (∃ ended r₂ w₂, r.endSession C.out id d w = (some (ended, r₂), w₂) ∧ SparesOthers view id r w r₂ w₂) ∧
    ∀ {note : Asked → List ι} {log : σ → List ι} {log' : τ → List ι}, C.Impartial → C.out.Logs note log →
      C.out'.Logs note log' → ∀ {r' w' n d' result' w₁'}, Reached C.out' C.drawn' r' w' → r.Renamed n id r' →
        C.Agree n w w' → Option.Rel (fun t t' => t + C.late = t' + C.early) d d' →
          r'.process C.out' id message d' w' = (result', w₁') → (C.drawn' w₁'.outside).Nodup →
            ∃ n', C.Learnt n w w' n' w₁ w₁' ∧ C.Agree n' w₁ w₁' ∧
              Option.Rel (fun x y => x.1 = y.1 ∧ x.2.Renamed n' id y.2) result result' ∧
              Noted note (log w.outside) (log' w'.outside) n'.chats (log w₁.outside) (log' w₁'.outside) := by
  have grown : C.drawn w.outside <+: C.drawn (r.process C.out id message d w).2.outside := drawn_process hd
  rw [run] at grown
  have before := once.sublist grown.sublist
  refine ⟨?_, ?_, ?_⟩
  · obtain ⟨sessions, stored⟩ := reached.process_others hd keeps run once
    refine ⟨fun reply r₁ answered j other => ⟨sessions reply r₁ answered j other, fun h has => ?_⟩, stored⟩
    exact stored j h other has
  · obtain ⟨⟨ended, r₂⟩, w₂, ends⟩ := answers_endSession C.out r id d w
    refine ⟨ended, r₂, w₂, ends, fun j other => ?_⟩
    obtain ⟨sessions, stored⟩ := reached.endSession_others hd before ends
    exact ⟨sessions j other, fun h has => stored j h other has⟩
  · intro note log log' hC logs logs' r' w' n d' result' w₁' reached' same agree deadlines run' once'
    have grown' : C.drawn' w'.outside <+: C.drawn' (r'.process C.out' id message d' w').2.outside :=
      drawn_process hC.draws'
    rw [run'] at grown'
    have before' := once'.sublist grown'.sublist
    -- The worlds go on alike, and so do the logs, which are put beside them.
    have impartial : (C.noting note log log' (log w.outside) (log' w'.outside)).Impartial := hC.noting logs logs'
    have worlds := reached.worlds impartial reached' before before' agree.noting
    have course := Comparison.grows_process impartial same message d d' w w' deadlines worlds
    rw [show r.process (C.noting note log log' _ _).out id message d w = (result, w₁) from run,
      show r'.process (C.noting note log log' _ _).out' id message d' w' = (result', w₁') from run'] at course
    obtain ⟨n', learnt, after, answers⟩ := course once once'
    exact ⟨n', ⟨learnt.toWithin, learnt.new, learnt.grown, learnt.grown'⟩, after.toAgree.of_noting, answers,
      after.outside.2⟩

end Reception

/-! ## Two counters -/

namespace Rehearsal

def Stage.drawn (s : Stage) : List ChatId :=
  (List.range s.chatsDrawn).map fun i => ⟨BitVec.ofNat 128 (0xC0DE0000000040008000000000000000 + i)⟩

theorem draws_drawn : Stage.outside.Draws Stage.drawn where
  drawChatId s := by
    unfold Stage.outside Stage.drawChatId Stage.drawn
    dsimp only
    rw [List.range_succ, List.map_append]
    rfl
  createModel model s := by
    unfold Stage.outside Stage.createModel Stage.drawn
    dsimp only
    split <;> rfl
  generate p r s := by
    unfold Stage.outside Stage.generate Stage.drawn
    dsimp only
    split <;> rfl
  callTool key args c s := by
    unfold Stage.outside Stage.callTool Stage.drawn
    dsimp only
    split
    · rfl
    · split <;> rfl
  send r s := by
    unfold Stage.outside Stage.send Stage.drawn
    dsimp only
    split <;> rfl
  jitter _ := rfl
  access _ _ _ _ := rfl
  closeStore _ _ := rfl

def ModelPart.fixed : ModelPart → Bool
  | cues cs => cs.all fun c => match c.line with
    | .echo _ => false
    | _ => true
  | absent _ => true

/-- What is still to be played is the same, and no model repeats what it is asked. -/
structure SameScript (s s' : Stage) : Prop where
  models : s.models = s'.models
  fixed : ∀ model part, s.models.get? model = some part → part.fixed = true
  tools : s.tools = s'.tools
  server : s.server = s'.server
  roles : s.roles = s'.roles

theorem SameScript.generate {s s' : Stage} (h : SameScript s s') {p p' : Provider} (same : p.Same p') (r r' : Request) :
    (s.generate p r).1 = (s'.generate p' r').1 ∧ SameScript (s.generate p r).2 (s'.generate p' r').2 := by
  obtain ⟨models, fixed, tools, server, roles⟩ := h
  unfold Stage.generate
  dsimp only
  rw [← same.2, ← models]
  cases has : s.models.get? p.model with
  | none => exact ⟨rfl, rfl, fixed, tools, server, roles⟩
  | some part =>
    have plain := fixed _ _ has
    cases part with
    | absent e => exact ⟨rfl, rfl, fixed, tools, server, roles⟩
    | cues cs =>
      cases cs with
      | nil => exact ⟨rfl, rfl, fixed, tools, server, roles⟩
      | cons c cs =>
        obtain ⟨line, delay⟩ := c
        obtain ⟨first, rest⟩ := Bool.and_eq_true_iff.mp plain
        refine ⟨?_, rfl, fun model part held => ?_, tools, server, roles⟩
        · cases line with
          | echo e => cases first
          | respond | fail | hang => rfl
        · rw [Table.get?_put] at held
          split at held
          · cases held
            exact rest
          · exact fixed _ _ held

def stages : Comparison Stage Stage where
  out := Stage.outside
  out' := Stage.outside
  drawn := Stage.drawn
  drawn' := Stage.drawn
  same _ := SameScript
  certain _ := False
  early := 0
  late := 0

theorem impartial_stages : stages.Impartial where
  draws := draws_drawn
  draws' := draws_drawn
  posted h := h.roles
  createModel model n s s' h := by
    obtain ⟨models, fixed, tools, server, roles⟩ := h
    unfold stages Stage.outside Stage.createModel
    dsimp only
    rw [models] at fixed ⊢
    split <;> exact ⟨rfl, rfl, fixed, tools, server, roles⟩
  certain certain _ := certain.elim
  generate same _ h := h.generate same _ _
  callTool key args c c' n s s' _ h := by
    obtain ⟨models, fixed, tools, server, roles⟩ := h
    unfold stages Stage.outside Stage.callTool
    dsimp only
    rw [tools]
    split
    · exact ⟨.never, models, fixed, tools, server, roles⟩
    · split
      · exact ⟨.never, models, fixed, rfl, server, roles⟩
      · exact ⟨.after _ fun _ => ⟨_, _, .same _⟩, models, fixed, rfl, server, roles⟩
  send client url r r' n s s' _ h := by
    obtain ⟨models, fixed, tools, server, roles⟩ := h
    unfold stages Stage.outside Stage.send
    dsimp only
    rw [server]
    split <;> exact ⟨rfl, models, fixed, tools, rfl, roles⟩
  jitter h := ⟨rfl, h⟩
  access _ _ _ _ _ _ _ _ h := ⟨.error (.same _), h⟩
  drawChatId h _ _ := ⟨h.models, h.fixed, h.tools, h.server, h.roles⟩

/-- One desk for all, where conversations are kept in one store. -/
def frontDesk : Desk := { config := {}, provider := ⟨.outside, "main", 0⟩, memory := .shared diary }

/-- The other half of the greeting is still to come. -/
def farewell : World Stage :=
  { greeting with outside := { models := [("main", .cues [⟨.respond ⟨"Still here.", none⟩, 0⟩])] } }

def Stage.closing (s : Stage) : Bool :=
  match s.models, s.tools, s.server, s.roles with
  | [(model, .cues [⟨.respond ⟨text, none⟩, 0⟩])], [], [], [] => model = "main" ∧ text = "Still here."
  | _, _, _, _ => false

theorem sameScript_closing {s : Stage} (h : s.closing) : SameScript s farewell.outside := by
  unfold Stage.closing at h
  split at h
  · rename_i models tools server roles
    rw [decide_eq_true_eq] at h
    obtain ⟨rfl, rfl⟩ := h
    refine ⟨models, fun model part held => ?_, tools, server, roles⟩
    rw [models] at held
    unfold Table.get? at held
    split at held
    · cases held
      rfl
    · cases held
  · cases h

end Rehearsal

theorem Desk.process_keeps {out : Outside σ} {id message reply : String} {deadline : Option Nat} {d d' : Desk}
    {w w' : World σ} (h : d.process out id message deadline w = (some (reply, d'), w')) :
    d' = { d with sessions := d'.sessions } := by
  obtain ⟨⟨r, d₁⟩, w₁, routed, same⟩ := bind_eq_some.mp h
  cases same
  obtain ⟨⟨s, d₀⟩, w₂, found, rest⟩ := bind_eq_some.mp routed
  obtain ⟨s₁, w₃, -, rest⟩ := bind_eq_some.mp rest
  obtain ⟨⟨r, s₂⟩, w₄, -, same⟩ := bind_eq_some.mp rest
  cases same
  have opened : d₀ = { d with sessions := d₀.sessions } := by
    unfold Desk.session at found
    cases has : d.sessions.get? id with
    | some s =>
      rw [has] at found
      cases found
      rfl
    | none =>
      rw [has] at found
      obtain ⟨s, w₅, -, same⟩ := bind_eq_some.mp found
      cases same
      rfl
  rw [opened]

namespace Rehearsal

theorem reached_frontDesk (o : Stage) :
    Reception.Reached Stage.outside Stage.drawn (.desk frontDesk) { greeting with outside := o } := by
  refine .opened rfl trivial (fun memory same store hs => ?_) ⟨fun {k} _ place s has => ?_, fun _ => rfl, fun _ => rfl⟩
    (Registry.sound_of_empty rfl rfl)
  · cases same
    simp only [diary, Adapters.list, Option.toList, List.append_nil, List.mem_singleton] at hs
    rw [hs]
    exact Nat.zero_lt_one
  · cases place with
    | zero =>
      cases has
      rfl
    | succ place => cases has

def oneStore : Names := ⟨fun _ _ => False, fun p p' => p = ⟨0⟩ ∧ p' = ⟨0⟩⟩

theorem agree_farewell {w : World Stage} (closing : w.outside.closing) (clock : w.clock = 0)
    (steady : greeting.registry.Steady w.registry) (providers : w.registry.providers = [])
    (blocked : w.folder.blocked = false) (plan : w.folder.plan = []) (isOpen : w.OpenInMemory ⟨0⟩) :
    stages.Agree oneStore w farewell := by
  constructor
  case chats => exact ⟨fun _ _ _ h => h.elim, fun _ _ _ h => h.elim⟩
  case places =>
    constructor
    · rintro p q r ⟨hp, -⟩ ⟨hq, -⟩
      rw [hp, hq]
    · rintro p q r ⟨-, hq⟩ ⟨-, hr⟩
      rw [hq, hr]
  case drawn => exact fun named => named.elim
  case outside => exact sameScript_closing closing
  case abreast =>
    rw [clock]
    rfl
  case registries =>
    refine ⟨steady.symm, fun model => Or.inr ?_⟩
    rw [providers]
    rfl
  case toolboxes =>
    intro role
    unfold Registry.toolsFor
    rw [steady.toolboxes]
    exact ⟨.nil, rfl⟩
  case folders =>
    refine ⟨blocked, plan, fun named => ?_⟩
    cases named with
    | record named | draft named => exact named.elim
  case stores =>
    rintro p p' ⟨rfl, rfl⟩
    obtain ⟨s, has, isOpen⟩ := isOpen
    exact ⟨.memory s, .memory {}, has, rfl, .memory ⟨isOpen, fun named => named.elim⟩⟩

end Rehearsal

open Rehearsal in
theorem Reception.sessions_isolated_frontDesk :
    ∃ r w r₁ w₁ r₂ w₂,
      (Reception.desk frontDesk).process Stage.outside "b" "Hi" none greeting = (some ("Hello.", r), w) ∧
      r.process Stage.outside "a" "And me?" none w = (some ("Still here.", r₁), w₁) ∧
      SparesOthers (fun _ _ _ => ()) "a" r w r₁ w₁ ∧
      (Reception.desk frontDesk).process Stage.outside "a" "And me?" none farewell = (some ("Still here.", r₂), w₂) ∧
      ∃ n, r₁.Renamed n "a" r₂ ∧
        Noted noteRequest w.outside.requests [] n.chats w₁.outside.requests w₂.outside.requests := by
  obtain ⟨⟨r, reply, w, reply₁, r₁⟩, w₁, ran, seen⟩ := answer_of_seen
    (do
      let first ← (Reception.desk frontDesk).process Stage.outside "b" "Hi"
      let w ← Run.get
      let second ← first.2.process Stage.outside "a" "And me?"
      return (first.2, first.1, w, second.1, second.2)) none greeting
    (fun y w₁ => (y.2.1, y.2.2.2.1, w₁.outside.chatsDrawn, y.2.2.1.clock, (y.1.session? "a").isNone &&
      y.2.2.1.outside.closing && y.2.2.1.registry.providers.isEmpty && !y.2.2.1.folder.blocked &&
      y.2.2.1.folder.plan.isEmpty && decide (y.2.2.1.OpenInMemory ⟨0⟩)))
    (show _ = some ("Hello.", "Still here.", 2, 0, true) by decide +kernel)
  obtain ⟨⟨reply₂, r₂⟩, w₂, ran₂, drawn₂⟩ := answer_of_seen
    ((Reception.desk frontDesk).process Stage.outside "a" "And me?") none farewell
    (fun _ w₂ => w₂.outside.chatsDrawn) (show _ = some 1 by decide +kernel)
  obtain ⟨⟨_, _⟩, _, first, rest⟩ := bind_eq_some.mp ran
  obtain ⟨_, _, got, rest⟩ := bind_eq_some.mp rest
  cases got
  obtain ⟨⟨_, _⟩, _, second, same⟩ := bind_eq_some.mp rest
  cases same
  simp only [Prod.mk.injEq, Bool.and_eq_true, Bool.not_eq_true', decide_eq_true_eq, Option.isNone_iff_eq_none,
    List.isEmpty_iff] at seen
  obtain ⟨rfl, rfl, drawn, clock, ⟨⟨⟨⟨new, closing⟩, providers⟩, blocked⟩, plan⟩, isOpen⟩ := seen
  have steady : greeting.Steady ((Reception.desk frontDesk).process Stage.outside "b" "Hi" none greeting).2 :=
    along_process (steady_deskDrift Stage.outside) _ _ _ none greeting
  rw [first] at steady
  obtain ⟨⟨_, d⟩, _, processed, same⟩ := bind_eq_some.mp first
  cases same
  have keeps := Desk.process_keeps processed
  have alike : (Reception.desk d).Renamed oneStore "a" (.desk frontDesk) := by
    have absent : d.sessions.get? "a" = none := by simpa [session?] using new
    rw [keeps]
    refine .desk ⟨rfl, ⟨rfl, rfl⟩, ⟨.nil, rfl⟩, .shared ⟨.some ⟨rfl, rfl⟩, .none, .none⟩⟩ ?_
    rw [absent]
    exact .none
  have once : (Stage.drawn w₁.outside).Nodup := by
    unfold Stage.drawn
    rw [drawn]
    decide
  have once₂ : (Stage.drawn w₂.outside).Nodup := by
    unfold Stage.drawn
    rw [drawn₂]
    decide
  have reached : Reached stages.out stages.drawn (.desk d) w := .message (reached_frontDesk greeting.outside) first
  obtain ⟨⟨others, -⟩, -, alone⟩ := sessions_isolated (C := stages) draws_drawn Stage.outside.keeps_nothing reached "a"
    "And me?" none second once
  obtain ⟨n, -, -, answers, noted⟩ := alone impartial_stages logs_requests logs_requests
    (reached_frontDesk farewell.outside) alike (agree_farewell closing clock steady providers blocked plan isOpen) .none
    ran₂ once₂
  cases answers with
  | some both =>
    obtain ⟨replies, sessions⟩ := both
    dsimp only at replies sessions
    subst replies
    exact ⟨_, _, _, _, _, _, first, second, others _ _ rfl, ran₂, n, sessions, noted⟩

end Concierge
