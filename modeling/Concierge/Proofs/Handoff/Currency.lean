import Concierge.Proofs.Handoff.Era
import Concierge.Proofs.Handoff.Recording
import Concierge.Proofs.Text.Found

/-!
# Specialists are those of the era

A specialist of a session that is up to date has been made from the present definition of its role. What
sets it apart from a new one is its share of the era: the contexts of the handoffs to it, and what it has
recorded. So no turn is ever taken by a specialist of an older configuration.
-/

namespace Concierge

open Run

variable {σ : Type}

/-! ## Paragraphs -/

theorem intercalate_eq_empty {sep : String} {ps : List String} (full : ∀ p ∈ ps, p ≠ "") :
    sep.intercalate ps = "" ↔ ps = [] := by
  cases ps with
  | nil => simp
  | cons p ps =>
    have first := full p (by simp)
    cases ps <;> simp [first]

namespace DeskSession

/-- The paragraphs of a specialist's context after handoffs with these contexts: that of its definition,
unless it is empty, and one for each handoff. -/
def paragraphs (first : String) (contexts : List String) : List String :=
  (if first.isEmpty then [] else [first]) ++
    contexts.map fun context => Text.trim ("Handoff context from the coordinator: " ++ context)

def briefing (first : String) (contexts : List String) : String := "\n\n".intercalate (paragraphs first contexts)

theorem briefing_nil (first : String) : briefing first [] = first := by
  unfold briefing paragraphs
  by_cases h : first.isEmpty
  · simp [String.isEmpty_iff.mp h]
  · simp [h]

theorem blank_handoffContext (context : String) :
    Text.blank ("Handoff context from the coordinator: " ++ context) = false := by
  have spoken : "Handoff context from the coordinator: ".toList.all Text.isBlank = false := by decide +kernel
  unfold Text.blank
  rw [String.toList_append, List.all_append, spoken, Bool.false_and]

theorem ne_empty_of_mem_paragraphs {first : String} {contexts : List String} :
    ∀ p ∈ paragraphs first contexts, p ≠ "" := by
  intro p hp
  rcases List.mem_append.mp hp with hp | hp
  · by_cases h : first.isEmpty
    · simp [h] at hp
    · simp only [h, Bool.false_eq_true, if_false, List.mem_singleton] at hp
      rw [hp]
      exact fun e => h (String.isEmpty_iff.mpr e)
  · obtain ⟨context, -, rfl⟩ := List.mem_map.mp hp
    rw [ne_eq, Text.trim_eq_empty_iff, blank_handoffContext]
    exact Bool.false_ne_true

theorem appendParagraph_briefing (first : String) (contexts : List String) (context : String) :
    Agent.appendParagraph (briefing first contexts) (contextText context) =
      briefing first (contexts ++ [context]) := by
  have more : paragraphs first (contexts ++ [context]) =
      paragraphs first contexts ++ [Text.trim ("Handoff context from the coordinator: " ++ context)] := by
    simp [paragraphs]
  have empty := @intercalate_eq_empty "\n\n" (paragraphs first contexts) ne_empty_of_mem_paragraphs
  unfold briefing Agent.appendParagraph contextText
  rw [more, blank_handoffContext]
  by_cases none : paragraphs first contexts = []
  · simp [none]
  · have some : ("\n\n".intercalate (paragraphs first contexts)).isEmpty = false := by
      rw [String.isEmpty_eq_false_iff, ne_eq, empty]
      exact none
    rw [String.intercalate_append_of_ne_nil none (by simp)]
    simp [some]

def contextFor (role : String) : Option Signal → List String
  | some (.request role' context) => if role' = role then [context] else []
  | _ => []

def contextsFor (role : String) (ds : List Dispatch) : List String :=
  ds.flatMap fun x => contextFor role x.turn.outcome.signal

theorem contextsFor_concat (role : String) (ds : List Dispatch) (x : Dispatch) :
    contextsFor role (ds ++ [x]) = contextsFor role ds ++ contextFor role x.turn.outcome.signal := by
  simp [contextsFor]

end DeskSession

/-! ## Current specialists -/

/-- The chat of a specialist as the registry defines it now, given the contexts of the handoffs to it
and what it has recorded. -/
structure Chat.Current (c : Chat) (r : Registry) (sp : Specialist) (contexts : List String)
    (recorded : List Message) : Prop where
  role : c.agent.role = sp.role
  objective : c.agent.objective = sp.objective
  model : c.agent.provider.model = sp.model.getD r.defaultModel
  backend : c.agent.provider.backend = r.backend
  tools : c.agent.tools = ((r.toolboxes.get? sp.role).getD {}).register .endHandoff
  search : c.agent.search = sp.search
  limits : c.agent.limits = r.limits
  thinking : c.agent.thinking = false
  context : c.agent.context = DeskSession.briefing sp.context contexts
  history : c.history = recorded

namespace Chat.Current

variable {c : Chat} {r r' : Registry} {sp : Specialist} {contexts : List String} {recorded : List Message}

theorem steady (h : c.Current r sp contexts recorded) (hr : r.Steady r') : c.Current r' sp contexts recorded where
  role := h.role
  objective := h.objective
  model := by rw [h.model, hr.defaultModel]
  backend := by rw [h.backend, hr.backend]
  tools := by rw [h.tools, hr.toolboxes]
  search := h.search
  limits := by rw [h.limits, hr.limits]
  thinking := h.thinking
  context := h.context
  history := h.history

theorem addContext (h : c.Current r sp contexts recorded) (context : String) :
    (DeskSession.addContext context c).Current r sp (contexts ++ [context]) recorded :=
  { h with
    context := by
      rw [← DeskSession.appendParagraph_briefing, ← h.context]
      rfl }

theorem records (h : c.Current r sp contexts recorded) (ms : List Message) :
    { c with history := c.history ++ ms }.Current r sp contexts (recorded ++ ms) :=
  { h with
    history := by rw [h.history] }

end Chat.Current

theorem Chat.build_plain {out : Outside σ} {config : ChatConfig} {p : Provider} {tools : Toolbox}
    {memory : Adapters} {deadline : Option Nat} {w w' : World σ} {c : Chat} (plain : config.memoryTools = false)
    (h : Chat.build out config p tools memory false deadline w = (some c, w')) :
    c.agent = ⟨config.role, config.objective, config.context, none, p, tools, config.search, config.limits,
      config.thinking⟩ := by
  unfold Chat.build Chat.make at h
  obtain ⟨c₀, w₀, made, h⟩ := bind_eq_some.mp h
  obtain ⟨_, _, -, h⟩ := bind_eq_some.mp h
  simp only [plain, Bool.and_false, Bool.false_eq_true, if_false] at h
  cases h
  split at made
  · obtain ⟨id, _, -, made⟩ := bind_eq_some.mp made
    cases made
    rfl
  · cases made
    rfl

namespace DeskSession

theorem current_of_buildSpecialist {out : Outside σ} {deadline : Option Nat} {w w' : World σ} {role : String}
    {memory : Adapters} {chat : Chat} (genuine : w.registry.Genuine)
    (h : buildSpecialist out role memory deadline w = (some (.ok chat), w')) :
    ∃ sp, w.registry.definition? role = some sp ∧ chat.Current w.registry sp [] [] := by
  obtain ⟨sp, p, w₂, valid, provided, built⟩ := buildSpecialist_eq_ok h
  unfold Registry.validate at valid
  cases found : w.registry.definition? role with
  | none =>
    rw [found] at valid
    cases valid
  | some sp' =>
    rw [found] at valid
    cases valid
    have named : sp.role = role := by
      have same := List.find?_some found
      simpa using same
    have agent := Chat.build_plain rfl built
    have silent := Chat.build_history built
    obtain ⟨model, backend⟩ := World.provider_ok genuine (congrArg Prod.fst provided)
    refine ⟨sp, rfl, ?_⟩
    constructor <;> simp [agent, specialistConfig, briefing_nil, silent, model, backend, named, Registry.modelOf,
      Registry.toolsFor]

/-- The specialists of a session are current, `given` being the turns that handed messages on and `turns`
all turns. A role without a specialist has no part in them. -/
structure Reflects (s : DeskSession) (r : Registry) (given turns : List Dispatch) : Prop where
  present : ∀ {role chat}, lookupName role s.specialists = some chat → ∃ sp, r.definition? role = some sp ∧
    chat.Current r sp (contextsFor role given) (recordedBy (.specialist role) turns)
  absent : ∀ {role}, lookupName role s.specialists = none →
    contextsFor role given = [] ∧ recordedBy (.specialist role) turns = []

theorem reflects_of_empty {s : DeskSession} (none : s.specialists = []) (r : Registry) : s.Reflects r [] [] where
  present known := by
    rw [none] at known
    cases known
  absent _ := ⟨rfl, rfl⟩

/-! ## A call keeps specialists current -/

section
variable {out : Outside σ} {message : String} {deadline : Option Nat} {s s₁ : DeskSession} {w w₁ : World σ}
  {d : Dispatch} {accepted : Option Pending} {ds given turns : List Dispatch} {r r' : Registry}

theorem Reflects.steady (h : s.Reflects r given turns) (hr : r.Steady r') : s.Reflects r' given turns where
  present known := by
    obtain ⟨sp, found, current⟩ := h.present known
    refine ⟨sp, ?_, current.steady hr⟩
    rw [← found, Registry.definition?, Registry.definition?, hr.definitions]
  absent := h.absent

theorem Hop.lookup_eq (h : Hop out message deadline s w d s₁ w₁) (role : String) :
    lookupName role s₁.specialists = (lookupName role s.specialists).map fun c =>
      { c with history := c.history ++ if d.receiver = .specialist role then d.entries else [] } := by
  cases h with
  | coordinator _ _ => simp
  | @specialist other chat turn chat' _ _ known taken =>
    rw [lookupName_insertSorted, Chat.turn_chat taken, ← Dispatch.messagesOf_eq]
    by_cases same : role = other
    · simp [same, known]
    · simp [same, Ne.symm same]

theorem Hop.known {role : String} (h : Hop out message deadline s w d s₁ w₁)
    (mine : d.receiver = .specialist role) : ∃ chat, lookupName role s.specialists = some chat := by
  cases h with
  | coordinator _ _ => cases mine
  | specialist _ known _ =>
    cases mine
    exact ⟨_, known⟩

theorem Hop.reflects {x : Dispatch} (h : Hop out message deadline s w d s₁ w₁) (receiver : x.receiver = d.receiver)
    (entries : x.entries = d.entries) (hs : s.Reflects r given turns) :
    s₁.Reflects r given (turns ++ [x]) where
  present known₁ := by
    rw [h.lookup_eq] at known₁
    obtain ⟨chat, known, rfl⟩ := Option.map_eq_some_iff.mp known₁
    obtain ⟨sp, found, current⟩ := hs.present known
    rw [recordedBy_concat, receiver, entries]
    exact ⟨sp, found, current.records _⟩
  absent {role} unknown := by
    rw [h.lookup_eq, Option.map_eq_none_iff] at unknown
    have other : d.receiver ≠ .specialist role := by
      intro mine
      obtain ⟨chat, known⟩ := h.known mine
      rw [unknown] at known
      cases known
    obtain ⟨none, silent⟩ := hs.absent unknown
    rw [recordedBy_concat, receiver, if_neg other, silent]
    exact ⟨none, rfl⟩

theorem Reflects.start {role context : String} {chat : Chat} {sp : Specialist} (hs : s.Reflects r given turns)
    (found : r.definition? role = some sp)
    (current : chat.Current r sp (contextsFor role given) (recordedBy (.specialist role) turns))
    (signals : d.turn.outcome.signal = some (.request role context)) :
    { s with
      specialists := insertSorted role (DeskSession.addContext context chat) s.specialists
      speaker := .specialist role }.Reflects r (given ++ [d]) turns where
  present {other chat₁} known := by
    rw [contextsFor_concat, signals, contextFor]
    rw [lookupName_insertSorted] at known
    by_cases same : other = role
    · subst same
      simp only [if_true, Option.some.injEq] at known ⊢
      rw [← known]
      exact ⟨sp, found, current.addContext context⟩
    · simp only [same, if_false] at known
      simpa [Ne.symm same] using hs.present known
  absent {other} unknown := by
    rw [contextsFor_concat, signals, contextFor]
    rw [lookupName_insertSorted] at unknown
    by_cases same : other = role
    · simp [same] at unknown
    · simp only [same, if_false] at unknown
      simpa [Ne.symm same] using hs.absent unknown

theorem Onward.reflects {signal : Option Signal} (h : Onward out deadline s w signal accepted s₁ w₁)
    (signals : d.turn.outcome.signal = signal) (genuine : w.registry.Genuine)
    (hs : s.Reflects w.registry given turns) : s₁.Reflects w.registry (given ++ [d]) turns := by
  cases h with
  | known has =>
    obtain ⟨sp, found, current⟩ := hs.present has
    exact hs.start found current signals
  | built new made =>
    obtain ⟨sp, found, current⟩ := current_of_buildSpecialist genuine made
    obtain ⟨none, silent⟩ := hs.absent new
    rw [← none, ← silent] at current
    exact hs.start found current signals
  | ended _ =>
    refine ⟨fun known => ?_, fun unknown => ?_⟩
    · simpa [contextsFor_concat, signals, contextFor] using hs.present known
    · simpa [contextsFor_concat, signals, contextFor] using hs.absent unknown

theorem Passes.reflects (h : Passes out message deadline s w ds s₁ w₁) (genuine : w.registry.Genuine)
    (hs : s.Reflects w.registry given turns) : s₁.Reflects w₁.registry (given ++ ds) (turns ++ ds) := by
  induction h generalizing given turns with
  | nil => simpa using hs
  | @cons s w d s₁ w₁ accepted s₂ w₂ ds s₃ w₃ hop on _ ih =>
    have genuine₁ := hop.along (genuine_deskDrift out) genuine
    have genuine₂ := on.along (genuine_deskDrift out).toAgentDrift genuine₁
    let x : Dispatch := { d with accepted := accepted }
    have turned := (hop.reflects (show x.receiver = d.receiver from rfl) rfl hs).steady hop.steady
    have handed := (on.reflects (show x.turn.outcome.signal = _ from rfl) genuine₁ turned).steady on.steady
    have rest := ih genuine₂ handed
    rwa [List.append_assoc, List.append_assoc] at rest

theorem Takes.reflects {p : Passage} (h : Takes out message deadline s w p s₁ w₁) (genuine : w.registry.Genuine)
    (hs : s.Reflects w.registry given turns) :
    s₁.Reflects w₁.registry (given ++ p.handedOn) (turns ++ p.turns) := by
  cases h with
  | spent passes =>
    have passed := passes.reflects genuine hs
    simp only [Passage.turns, Option.toList_none, List.append_nil]
    exact ⟨passed.present, passed.absent⟩
  | answered passes hop stays =>
    have steady := stays.along (steady_deskDrift out).toAgentDrift
    have turned := (hop.reflects rfl rfl (passes.reflects genuine hs)).steady (hop.steady.trans steady)
    simpa [Passage.turns] using turned

end

/-! ## Whole eras -/

/-- What holds of a session and its log in an era: a session behind the registry has no log yet, the
specialists of the others are current. -/
structure Abreast (s : DeskSession) (r : Registry) (l : List Passage) : Prop where
  behind : s.generation ≠ r.generation → l = []
  reflects : s.generation = r.generation → s.Reflects r (Passage.handedOnIn l) (Passage.turnsIn l)

section
variable {out : Outside σ} {deadline : Option Nat} {s s₁ : DeskSession} {w w₁ : World σ} {l : List Passage}
  {r r' : Registry}

theorem Abreast.steady (h : s.Abreast r l) (hr : r.Steady r') : s.Abreast r' l where
  behind := by
    rw [hr.generation]
    exact h.behind
  reflects := by
    rw [hr.generation]
    exact fun same => (h.reflects same).steady hr

theorem Refreshes.reflects (h : Refreshes out deadline s w s₁ w₁) (genuine : w.registry.Genuine)
    (hs : s.Abreast w.registry l) : s₁.Reflects w₁.registry (Passage.handedOnIn l) (Passage.turnsIn l) := by
  refine Reflects.steady ?_ h.steady
  cases h with
  | current same => exact hs.reflects same
  | dropped stale _ | lost stale _ _ =>
    rw [hs.behind stale]
    exact reflects_of_empty rfl _
  | @rebuilt role chat _ stale _ made =>
    rw [hs.behind stale]
    obtain ⟨sp, found, current⟩ := current_of_buildSpecialist genuine made
    refine ⟨fun {other chat'} known => ?_, fun _ => ⟨rfl, rfl⟩⟩
    obtain ⟨rfl, rfl⟩ : other = role ∧ chat = chat' := by simpa [lookupName] using known
    exact ⟨sp, found, current⟩

theorem Refreshes.speaker_eq {role : String} {e : RegistryError} {w₀ : World σ}
    (h : Refreshes out deadline s w s₁ w₁) (stale : s.generation ≠ w.registry.generation)
    (active : s.speaker = .specialist role)
    (failed : buildSpecialist out role s.memory deadline w = (some (.error e), w₀)) :
    s₁.speaker = .coordinator := by
  cases h with
  | current same => exact absurd same stale
  | dropped _ active => exact active
  | lost _ _ _ => rfl
  | rebuilt _ active' made =>
    rw [active] at active'
    cases active'
    rw [failed] at made
    cases made

theorem Ends.head_receiver {message : String} {hops : Nat} {r : Routed} (hops_pos : 0 < hops)
    (h : Ends out message deadline hops s w (some (r, s₁)) w₁) :
    ∃ x, r.dispatches.head? = some x ∧ x.receiver = s.speaker := by
  have first {ds s₁ w₁ d s₂ w₂} (passes : Passes out message deadline s w ds s₁ w₁)
      (hop : Hop out message deadline s₁ w₁ d s₂ w₂) :
      ∃ x, (ds ++ [d]).head? = some x ∧ x.receiver = s.speaker := by
    cases passes with
    | nil => exact ⟨d, rfl, hop.receiver_eq⟩
    | cons hop' _ _ => exact ⟨_, rfl, hop'.receiver_eq⟩
  cases h with
  | answered passes _ hop _ _ => exact first passes hop
  | spent passes all =>
    cases passes with
    | nil => exact absurd all (Nat.ne_of_lt hops_pos)
    | cons hop _ _ => exact ⟨_, rfl, hop.receiver_eq⟩

end

end DeskSession

/-- The specialist takes the conversation over and keeps it. -/
def Rehearsal.talk : World Stage := duo [requestMath] (some [⟨"Which sum?", none⟩])

namespace Desk

open DeskSession

section
variable {out : Outside σ} {deadline : Option Nat} {d d' : Desk} {id : String} {w w' : World σ} {s : DeskSession}
  {log : String → List Passage}

theorem Opens.reflects (h : Opens out deadline d id w s d' w') (genuine : w.registry.Genuine)
    (abreast : ∀ s, d.sessions.get? id = some s → s.Abreast w.registry (log id))
    (none : d.sessions.get? id = none → log id = []) :
    s.Reflects w'.registry (Passage.handedOnIn (log id)) (Passage.turnsIn (log id)) := by
  cases h with
  | again has refreshed => exact refreshed.reflects genuine (abreast _ has)
  | first new made refreshed =>
    rw [none new]
    have steps := genuine_deskDrift out
    have genuine₁ := (along_newSession steps.toDrift steps.openStores d).of_run made genuine
    obtain ⟨_, _, rfl, -⟩ := newSession_eq made
    exact refreshed.reflects genuine₁ ⟨fun _ => rfl, fun _ => reflects_of_empty rfl _⟩

theorem Opens.generation_eq (h : Opens out deadline d id w s d' w') : s.generation = w'.registry.generation := by
  cases h with
  | again _ refreshed | first _ _ refreshed => exact refreshed.generation_eq

/-- The induction over an era for one session. -/
theorem Era.abreast (h : Era out d w log) :
    ∀ id s, d.sessions.get? id = some s → s.Abreast w.registry (log id) := by
  induction h with
  | opened none _ =>
    intro id s has
    rw [none] at has
    cases has
  | shutdown _ done _ =>
    intro id s has
    rw [(shutdown_spec done).2] at has
    cases has
  | configured before _ _ | equipped before _ _ _ =>
    intro id s has
    obtain ⟨_, course⟩ := before.course
    have since := (course.coherent has).since
    exact ⟨fun _ => rfl, fun same => absurd same (Nat.ne_of_lt (Nat.lt_succ_of_le since))⟩
  | replanned _ _ ih => exact ih
  | elsewhere _ steady _ ih =>
    intro id s has
    exact (ih id s has).steady steady
  | @ended _ _ log i _ _ _ _ _ done ih =>
    intro id s has
    obtain ⟨same, sessions⟩ := endSession_spec done
    rw [sessions] at has
    split at has
    · cases has
    · rename_i other
      rw [Function.update_of_ne other]
      exact (ih id s has).steady (World.Steady.of_eq same)
  | @message d w log i _ _ r _ _ s₀ d₀ w₀ p s' before routed opens takes _ kept ih =>
    intro id s has
    have opened := opens.reflects before.genuine (ih i) before.log_nil
    have genuine₀ := opens.along (genuine_deskDrift out) before.genuine
    have steady := takes.along (steady_deskDrift out)
    rw [kept, opens.get?_keep] at has
    by_cases same : id = i
    · rw [if_pos same] at has
      cases has
      rw [same, Function.update_self]
      refine ⟨fun behind => absurd ?_ behind, fun _ => ?_⟩
      · rw [takes.generation_eq, opens.generation_eq, steady.generation]
      · rw [Passage.handedOnIn_concat, Passage.turnsIn_concat]
        exact takes.reflects genuine₀ opened
    · rw [if_neg same] at has
      rw [Function.update_of_ne same]
      exact (ih id s has).steady (opens.steady.trans steady)

end

/-- **No specialist is out of date.** Whenever a message reaches a specialist, its role is defined, and its
chat is what the registry says now, with the contexts that the handoffs of this era had for it and with
what it has recorded in this era. A session whose active specialist cannot be made anew after a change
gives the next message to the coordinator. -/
theorem specialists_current {out : Outside σ} {d : Desk} {w : World σ} {log : String → List Passage}
    (era : Era out d w log) :
    (∀ id message deadline s d₀ w₀ ds s₁ w₁ role, Opens out deadline d id w s d₀ w₀ →
      Passes out message deadline s w₀ ds s₁ w₁ → s₁.speaker = .specialist role →
        ∃ sp chat, w.registry.definition? role = some sp ∧ lookupName role s₁.specialists = some chat ∧
          chat.Current w.registry sp (contextsFor role (Passage.handedOnIn (log id) ++ ds))
            (recordedBy (.specialist role) (Passage.turnsIn (log id) ++ ds))) ∧
      (∀ id deadline s role e w₀, d.sessions.get? id = some s → s.generation ≠ w.registry.generation →
        s.speaker = .specialist role → buildSpecialist out role s.memory deadline w = (some (.error e), w₀) →
          (∀ s₁ d₁ w₁, Opens out deadline d id w s₁ d₁ w₁ → s₁.speaker = .coordinator) ∧
            ∀ message r d' w', d.route out id message deadline w = (some (r, d'), w') →
              ∃ x, r.dispatches.head? = some x ∧ x.receiver = .coordinator) ∧
      ∀ id message deadline r d' w', d.route out id message deadline w = (some (r, d'), w') →
        ∃ p, r.dispatches = p.turns ∧ Era out d' w' (Function.update log id (log id ++ [p])) := by
  refine ⟨?_, ?_, fun id message deadline r d' w' routed => era.routed routed⟩
  · intro id message deadline s d₀ w₀ ds s₁ w₁ role opens passes active
    have opened := opens.reflects era.genuine (era.abreast id) era.log_nil
    have genuine₀ := opens.along (genuine_deskDrift out) era.genuine
    have steady := opens.steady.trans (passes.along (steady_deskDrift out))
    have reflects := (passes.reflects genuine₀ opened).steady steady.symm
    obtain ⟨_, course⟩ := era.course
    have named := (passes.coherent (course.coherent_opened opens)).named role active
    obtain ⟨chat, known⟩ := lookupName_eq_some named
    obtain ⟨sp, found, current⟩ := reflects.present known
    exact ⟨sp, chat, found, known, current⟩
  · intro id deadline s role e w₀ has stale active failed
    have taken : ∀ s₁ d₁ w₁, Opens out deadline d id w s₁ d₁ w₁ → s₁.speaker = .coordinator :=
      fun s₁ d₁ w₁ opens => (opens.refreshes has).speaker_eq stale active failed
    refine ⟨taken, fun message r d' w' routed => ?_⟩
    obtain ⟨s₁, d₁, w₁, s', opens, ends, -⟩ := era.route_eq_some routed
    obtain ⟨x, first, receiver⟩ := ends.head_receiver (Nat.succ_pos _)
    exact ⟨x, first, receiver.trans (taken s₁ d₁ w₁ opens)⟩

open Rehearsal in
theorem specialists_current_talk :
    ∃ r d w s sp chat, ∃ p : Passage,
      deskOfDuo.route Stage.outside "s" "6*7?" none talk = (some (r, d), w) ∧
      d.sessions.get? "s" = some s ∧ s.speaker = .specialist "math" ∧ r.dispatches = p.turns ∧
      w.registry.definition? "math" = some sp ∧ lookupName "math" s.specialists = some chat ∧
      chat.Current w.registry sp (contextsFor "math" p.handedOn) (recordedBy (.specialist "math") r.dispatches) ∧
      chat.history.length = 2 ∧ chat.agent.context = "Handoff context from the coordinator: sums" := by
  obtain ⟨⟨r, d⟩, w, run, seen⟩ := answer_of_seen (deskOfDuo.route Stage.outside "s" "6*7?") none talk
    (fun y w => (y.2.sessions.get? "s").map fun s => (s.speaker,
      decide (s.generation = w.registry.generation),
      (lookupName "math" s.specialists).map fun c => (c.history.length, c.agent.context)))
    (show _ = some (some (.specialist "math", true, some (2, "Handoff context from the coordinator: sums")))
      by decide +kernel)
  simp only [Option.map_eq_some_iff, Prod.mk.injEq, decide_eq_true_eq] at seen
  obtain ⟨s, has, active, upToDate, chat, known, spoken⟩ := seen
  obtain ⟨p, turns, era⟩ :=
    (specialists_current (.opened rfl (Registry.genuine_of_empty rfl))).2.2 _ _ _ _ _ _ run
  obtain ⟨sp, chat', found, known', current⟩ :=
    (specialists_current era).1 "s" "Thanks" none s d w [] s w "math" (.again has (.current upToDate)) .nil active
  rw [known] at known'
  cases known'
  refine ⟨r, d, w, s, sp, chat, p, run, has, active, turns, found, known, ?_, spoken.1, spoken.2⟩
  simpa [Passage.handedOnIn, Passage.turnsIn, turns] using current

end Desk

end Concierge
