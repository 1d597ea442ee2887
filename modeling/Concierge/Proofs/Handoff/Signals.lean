import Concierge.Proofs.Encoding
import Concierge.Proofs.Handoff.Recording
import Concierge.Proofs.Rounds
import Mathlib.Data.List.Nodup

/-!
# Signals that can be acted on

The signalling tools take exactly the arguments that `Requested` and `Finished` spell out, by the members of the
record. A role that the request tool takes is one that the registry defines, and still does when the turn is over, so
that the specialist can be made for it: only its model may be missing.
-/

namespace Concierge

open Run

variable {σ : Type}

/-! ## Members of a record -/

theorem Data.member?_record {ms : List (String × Data)} (distinct : (ms.map (·.1)).Nodup) {key : String} {d : Data} :
    (record ms).member? key = some d ↔ (key, d) ∈ ms := by
  unfold member?
  rw [Option.map_eq_some_iff]
  constructor
  · rintro ⟨⟨k, d'⟩, found, rfl⟩
    obtain rfl : k = key := by simpa using List.find?_some found
    exact List.mem_reverse.mp (List.mem_of_find?_eq_some found)
  · intro h
    have there : (ms.reverse.find? fun m => m.1 = key).isSome = true :=
      List.find?_isSome.mpr ⟨_, List.mem_reverse.mpr h, by simp⟩
    obtain ⟨m, found⟩ := Option.isSome_iff_exists.mp there
    have named : m.1 = key := by simpa using List.find?_some found
    -- the last member of the name is found, and there is no other
    have same := List.inj_on_of_nodup_map distinct (List.mem_reverse.mp (List.mem_of_find?_eq_some found)) h named
    exact ⟨m, found, congrArg Prod.snd same⟩

theorem Data.canonical_of_mem {ms : List (String × Data)} (h : canonicalMembers ms = true) {key : String} {d : Data}
    (hd : (key, d) ∈ ms) : d.canonical = true := by
  induction ms with
  | nil => cases hd
  | cons m ms ih =>
    simp only [canonicalMembers, Bool.and_eq_true] at h
    rcases List.mem_cons.mp hd with rfl | hd
    · exact h.1
    · exact ih h.2 hd

namespace Handoff

theorem text?_eq_some {d : Data} {s : String} : d.text? = some s ↔ d = .str s := by
  cases d <;> simp [Data.text?]

def Holds (args : Value) (key : String) (d : Data) : Prop := ∃ ms, args.data = .record ms ∧ (key, d) ∈ ms

def HasText (args : Value) (key s : String) : Prop := Holds args key (.str s) ∧ Text.blank s = false

def HasValue (args : Value) (key : String) (v : Value) : Prop := Holds args key v.data ∧ v.data ≠ .null

section
variable {args : Value} {key : String}

theorem member?_eq_some {v : Value} : args.member? key = some v ↔ Holds args key v.data := by
  obtain ⟨data, canonical⟩ := args
  cases data with
  | record ms =>
    simp only [Data.canonical, Bool.and_eq_true] at canonical
    have distinct : (ms.map (·.1)).Nodup :=
      (pairwise_of_ascending canonical.1).imp fun {a b} (before : a < b) (same : a = b) => String.lt_irrefl b (same ▸ before)
    unfold Value.member? Holds
    rw [Option.bind_eq_some_iff]
    constructor
    · rintro ⟨d, found, read⟩
      have hd := (Data.member?_record distinct).mp found
      obtain rfl : (⟨d, Data.canonical_of_mem canonical.2 hd⟩ : Value) = v :=
        Option.some.inj ((Value.ofData?_data _).symm.trans read)
      exact ⟨ms, rfl, hd⟩
    · rintro ⟨_, ⟨⟩, hd⟩
      exact ⟨v.data, (Data.member?_record distinct).mpr hd, v.ofData?_data⟩
  | null | bool _ | num _ | str _ | list _ | unreadable =>
    constructor
    · intro h
      cases h
    · rintro ⟨_, same, -⟩
      cases same

theorem textArgument?_eq_some {s : String} : textArgument? args key = some s ↔ HasText args key s := by
  have given : (args.member? key).bind Value.text? = some s ↔ Holds args key (.str s) := by
    rw [Option.bind_eq_some_iff]
    constructor
    · rintro ⟨v, found, text⟩
      have hv := member?_eq_some.mp found
      rwa [text?_eq_some.mp (show v.data.text? = some s from text)] at hv
    · intro h
      exact ⟨.str s, member?_eq_some.mpr h, rfl⟩
  unfold textArgument? HasText
  rw [← given]
  cases (args.member? key).bind Value.text? with
  | none => simp
  | some t =>
    cases blank : Text.blank t with
    | true =>
      simp only [blank, if_true, reduceCtorEq, Option.some.injEq, false_iff, not_and]
      rintro rfl
      rw [blank]
      exact Bool.noConfusion
    | false =>
      simp only [blank, Bool.false_eq_true, if_false, Option.some.injEq]
      constructor
      · rintro rfl
        exact ⟨rfl, blank⟩
      · exact And.left

theorem textArgument?_eq_none : textArgument? args key = none ↔ ∀ s, ¬ HasText args key s := by
  rw [Option.eq_none_iff_forall_ne_some]
  exact forall_congr' fun s => not_congr textArgument?_eq_some

theorem valueArgument?_eq_some {v : Value} : valueArgument? args key = some v ↔ HasValue args key v := by
  unfold valueArgument? HasValue
  rw [← member?_eq_some]
  cases args.member? key with
  | none => simp
  | some t =>
    have null : t.isNull = true ↔ t.data = .null := by
      unfold Value.isNull
      cases t.data <;> simp [Data.isNull]
    by_cases h : t.isNull = true
    · simp only [h, if_true, reduceCtorEq, Option.some.injEq, false_iff, not_and]
      rintro rfl there
      exact there (null.mp h)
    · simp only [h, Bool.false_eq_true, if_false, Option.some.injEq]
      constructor
      · rintro rfl
        exact ⟨rfl, fun same => h (null.mpr same)⟩
      · exact And.left

theorem valueArgument?_eq_none : valueArgument? args key = none ↔ ∀ v, ¬ HasValue args key v := by
  rw [Option.eq_none_iff_forall_ne_some]
  exact forall_congr' fun v => not_congr valueArgument?_eq_some

end

/-! ## What the tools take -/

inductive Requested (roles : List String) (args : Value) : ToolOutput → Prop
  | accepted {role context} (asked : HasText args "specialist_role" role)
      (told : HasText args "initial_context" context) (listed : role ∈ roles) :
      Requested roles args (.ofSignal (.request role context))
  | unlisted {role context} (asked : HasText args "specialist_role" role)
      (told : HasText args "initial_context" context) (unlisted : role ∉ roles) :
      Requested roles args ⟨unknownRoleText role roles, true, none⟩
  | noRole (unasked : ∀ role, ¬ HasText args "specialist_role" role) :
      Requested roles args (.ofSignal (.malformed "Missing required argument 'specialist_role'" args))
  | noContext {role} (asked : HasText args "specialist_role" role)
      (untold : ∀ context, ¬ HasText args "initial_context" context) :
      Requested roles args (.ofSignal (.malformed "Missing required argument 'initial_context'" args))

inductive Finished (args : Value) : ToolOutput → Prop
  | accepted {status result last message} (ended : HasText args "status" status)
      (found : HasValue args "final_result" result) (heard : HasText args "last_user_message" last)
      (noted : ∀ m, message = some m ↔ HasText args "message_to_coordinator" m) :
      Finished args (.ofSignal (.handback ⟨status, result, last, message⟩))
  | noStatus (unended : ∀ status, ¬ HasText args "status" status) :
      Finished args (.ofSignal (.malformed "Missing required argument 'status'" args))
  | noResult {status} (ended : HasText args "status" status) (nothing : ∀ v, ¬ HasValue args "final_result" v) :
      Finished args (.ofSignal (.malformed "Missing required argument 'final_result'" args))
  | noLast {status result} (ended : HasText args "status" status) (found : HasValue args "final_result" result)
      (unheard : ∀ s, ¬ HasText args "last_user_message" s) :
      Finished args (.ofSignal (.malformed "Missing required argument 'last_user_message'" args))

theorem request_eq_iff {roles : List String} {args : Value} {o : ToolOutput} :
    request roles args = o ↔ Requested roles args o := by
  constructor
  · rintro rfl
    unfold request
    cases asked : textArgument? args "specialist_role" with
    | none => exact .noRole (textArgument?_eq_none.mp asked)
    | some role =>
      have asked := textArgument?_eq_some.mp asked
      cases told : textArgument? args "initial_context" with
      | none => exact .noContext asked (textArgument?_eq_none.mp told)
      | some context =>
        have told := textArgument?_eq_some.mp told
        by_cases listed : role ∈ roles
        · simp only [if_pos listed]
          exact .accepted asked told listed
        · simp only [if_neg listed]
          exact .unlisted asked told listed
  · intro h
    unfold request
    cases h with
    | accepted asked told listed =>
      rw [textArgument?_eq_some.mpr asked, textArgument?_eq_some.mpr told]
      exact if_pos listed
    | unlisted asked told unlisted =>
      rw [textArgument?_eq_some.mpr asked, textArgument?_eq_some.mpr told]
      exact if_neg unlisted
    | noRole unasked =>
      rw [textArgument?_eq_none.mpr unasked]
      rfl
    | noContext asked untold =>
      rw [textArgument?_eq_some.mpr asked, textArgument?_eq_none.mpr untold]
      rfl

theorem finish_eq_iff {args : Value} {o : ToolOutput} : finish args = o ↔ Finished args o := by
  constructor
  · rintro rfl
    unfold finish
    cases ended : textArgument? args "status" with
    | none => exact .noStatus (textArgument?_eq_none.mp ended)
    | some status =>
      have ended := textArgument?_eq_some.mp ended
      cases found : valueArgument? args "final_result" with
      | none => exact .noResult ended (valueArgument?_eq_none.mp found)
      | some result =>
        have found := valueArgument?_eq_some.mp found
        cases heard : textArgument? args "last_user_message" with
        | none => exact .noLast ended found (textArgument?_eq_none.mp heard)
        | some last => exact .accepted ended found (textArgument?_eq_some.mp heard) fun m => textArgument?_eq_some
  · intro h
    unfold finish
    cases h with
    | @accepted status result last message ended found heard noted =>
      have note : textArgument? args "message_to_coordinator" = message :=
        Option.ext fun m => textArgument?_eq_some.trans (noted m).symm
      rw [textArgument?_eq_some.mpr ended, valueArgument?_eq_some.mpr found, textArgument?_eq_some.mpr heard, note]
    | noStatus unended =>
      rw [textArgument?_eq_none.mpr unended]
      rfl
    | noResult ended nothing =>
      rw [textArgument?_eq_some.mpr ended, valueArgument?_eq_none.mpr nothing]
      rfl
    | noLast ended found unheard =>
      rw [textArgument?_eq_some.mpr ended, valueArgument?_eq_some.mpr found, textArgument?_eq_none.mpr unheard]
      rfl

theorem Requested.listed {roles : List String} {args : Value} {o : ToolOutput} (h : Requested roles args o)
    {role context : String} (signals : o.signal = some (.request role context)) : role ∈ roles := by
  cases h with
  | accepted _ _ listed =>
    cases signals
    exact listed
  | unlisted | noRole | noContext => cases signals

end Handoff

section
variable (out : Outside σ) (depth : Nat) (busy : List Nat) (args : Value) (context : ToolContext)
  (deadline : Option Nat) (w : World σ)

theorem Tool.useAt_requestHandoff (directory : Directory) :
    useAt out depth busy (.requestHandoff directory) args context deadline w =
      (some (.ok (Handoff.request (Agent.listedRoles out w directory) args)), w) := by
  cases depth <;> rfl

theorem Tool.useAt_endHandoff :
    useAt out depth busy .endHandoff args context deadline w = (some (.ok (Handoff.finish args)), w) := by
  cases depth <;> rfl

end

/-! ## What is asked for is defined -/

/-- A request for a handoff comes from the tool that takes the roles of the registry, and from no other. -/
def Turn.AsksRegistry (t : Turn) (tools : Toolbox) : Prop :=
  ∀ e ∈ t.exchanges, ∀ text call output role context, e.answer = .ok ⟨text, some call⟩ → e.output = some output →
    output.signal = some (.request role context) → tools.get? call.name = some (.requestHandoff .registry)

theorem Turn.Rounds.along {model : Request → Run σ (Except ModelError Response)} {tool : FunctionCall → Run σ ToolOutput}
    {R : World σ → World σ → Prop} {out : Outside σ} (hR : Drift out R) (hm : ∀ r, Along R (model r))
    (ht : ∀ c, Along R (tool c)) {deadline : Option Nat} {r r₁ : Request} {w w₁ : World σ} {es : List Exchange}
    (h : Rounds model tool deadline r w es r₁ w₁) : R w w₁ := by
  induction h with
  | nil => exact hR.refl _
  | cons round _ ih =>
    cases round with
    | mk asked used _ => exact hR.trans ((hm _).of_run asked) (hR.trans ((ht _).of_run used) ih)

section
variable {out : Outside σ} {deadline : Option Nat} {w w₁ : World σ} {role context : String}

theorem Agent.Gives.listed {a : Agent} {c : ToolContext} {call : FunctionCall} {output : ToolOutput}
    (gives : a.Gives (Tool.use out []) c deadline call w output w₁)
    (known : a.tools.get? call.name = some (.requestHandoff .registry))
    (signals : output.signal = some (.request role context)) : role ∈ w.registry.roles := by
  cases gives with
  | answered known' used =>
    cases known.symm.trans known'
    have always : ∀ d, Tool.use out [] (.requestHandoff .registry) (Agent.callArgs call) c d w =
        (some (.ok (Handoff.request w.registry.roles (Agent.callArgs call))), w) :=
      fun d => Tool.useAt_requestHandoff out _ [] _ c d w .registry
    cases (within_of_answers always _).symm.trans used
    exact (Handoff.request_eq_iff.mp rfl).listed signals
  | unknown | disowned | failed | late => cases signals

theorem Chat.listed_of_turn {c c' : Chat} {text : String} {t : Turn}
    (taken : c.turn out text deadline w = (some (t, c'), w₁)) (asks : t.AsksRegistry c.agent.tools)
    (signals : t.outcome.signal = some (.request role context)) : role ∈ w.registry.roles := by
  unfold turn at taken
  obtain ⟨t', w₂, ran, taken⟩ := bind_eq_some.mp taken
  obtain ⟨c'', w₃, -, same⟩ := bind_eq_some.mp taken
  cases same
  have runs := c.agent.runTurn_runs out (Tool.use out []) c.contents [.text text] c.toolContext deadline w
  rw [ran] at runs
  have hR := steady_deskDrift out
  have model := Agent.along_askModel hR.toDrift c.agent
  have uses (t : Tool) (args : Value) : Along World.Steady (Tool.use out [] t args c.toolContext) :=
    Tool.along_use hR.toAgentDrift [] t args fun _ _ => trivial
  have tool := Agent.along_callTool hR.toDrift uses c.agent
  cases runs with
  | spent => cases signals
  | ended rounds left last =>
    cases last with
    | failed | answered => cases signals
    | @signalled text call output signal w₁' w₂' asked used given =>
      cases signals
      -- the call is answered after the model was asked, and the roles are those of the beginning until then
      have steady : w.Steady w₁' := hR.trans (rounds.along hR.toDrift model tool) ((model _).of_run asked)
      have known := asks _ (List.mem_append_right _ List.mem_cons_self) _ _ _ _ _ rfl rfl given
      have listed := (c.agent.callTool_gives _ _ _ used).listed known given
      rwa [steady.roles] at listed

end

theorem Registry.validate_of_mem {r : Registry} {role : String} (h : role ∈ r.roles) :
    ∃ sp, r.validate role = .ok sp ∧ sp.role = role := by
  obtain ⟨sp, hsp, rfl⟩ := List.mem_map.mp h
  have there : (r.definitions.find? (·.role = sp.role)).isSome = true :=
    List.find?_isSome.mpr ⟨sp, hsp, by simp⟩
  obtain ⟨found, h⟩ := Option.isSome_iff_exists.mp there
  refine ⟨found, ?_, by simpa using List.find?_some h⟩
  unfold validate definition?
  rw [h]

theorem World.provider_or_refused (out : Outside σ) (model : String) (w : World σ) :
    (∃ p w₁, provider out model w = (.ok p, w₁)) ∨
      ∃ e w₁, w.registry.providers.get? model = none ∧ (checkModel out model w).1 = .error e ∧
        provider out model w = (.error (.noClient model e), w₁) := by
  unfold provider
  cases w.registry.providers.get? model with
  | some p => exact Or.inl ⟨p, w, rfl⟩
  | none =>
    rcases checkModel out model w with ⟨e | ⟨⟩, w₁⟩
    · exact Or.inr ⟨e, w₁, rfl, rfl, rfl⟩
    · exact Or.inl ⟨_, _, rfl⟩

namespace DeskSession

variable {out : Outside σ} {message : String} {deadline : Option Nat} {s s₁ : DeskSession} {w w₁ : World σ}
  {d : Dispatch} {role context : String}

def active (s : DeskSession) : Chat := (s.chat? s.speaker).getD s.coordinator

theorem turn_of_dispatch (h : s.dispatch out message deadline w = (some (d, s₁), w₁)) :
    ∃ text c, s.active.turn out text deadline w = (some (d.turn, c), w₁) := by
  have asked (hs : s.active = s.coordinator) (h : s.askCoordinator out message deadline w = (some (d, s₁), w₁)) :
      ∃ text c, s.active.turn out text deadline w = (some (d.turn, c), w₁) := by
    obtain ⟨⟨turn, c⟩, w₂, taken, same⟩ := bind_eq_some.mp h
    cases same
    exact ⟨_, c, hs ▸ taken⟩
  unfold dispatch at h
  cases speaks : s.speaker with
  | coordinator =>
    simp only [speaks] at h
    exact asked (by rw [active, speaks]; rfl) h
  | specialist role =>
    simp only [speaks] at h
    cases known : lookupName role s.specialists with
    -- a specialist that the session has no chat with leaves the message to the coordinator
    | none =>
      simp only [known] at h
      refine asked ?_ h
      rw [active, speaks, chat?, known]
      rfl
    | some chat =>
      simp only [known] at h
      have same : s.active = chat := by
        rw [active, speaks, chat?, known]
        rfl
      obtain ⟨⟨turn, c⟩, w₂, taken, hd⟩ := bind_eq_some.mp h
      cases hd
      exact ⟨_, c, same ▸ taken⟩

theorem listed_of_dispatch (h : s.dispatch out message deadline w = (some (d, s₁), w₁))
    (asks : d.turn.AsksRegistry s.active.agent.tools)
    (signals : d.turn.outcome.signal = some (.request role context)) : role ∈ w₁.registry.roles := by
  have steady : w.Steady w₁ := (along_dispatch (steady_deskDrift out) s message).of_run h
  obtain ⟨text, c, taken⟩ := turn_of_dispatch h
  rw [steady.roles]
  exact Chat.listed_of_turn taken asks signals

/-- What comes of a request for a specialist. It fails only if the session has no such specialist yet and the model of
the one that is defined is refused. -/
inductive Starts (out : Outside σ) (s : DeskSession) (w : World σ) (role : String) :
    Except RegistryError Unit × DeskSession → Prop
  | started {s' : DeskSession} (speaks : s'.speaker = .specialist role) : Starts out s w role (.ok (), s')
  | refused {sp e} (new : lookupName role s.specialists = none) (defined : w.registry.validate role = .ok sp)
      (unmade : w.registry.providers.get? (w.registry.modelOf sp) = none)
      (refuses : (World.checkModel out (w.registry.modelOf sp) w).1 = .error e) :
      Starts out s w role (.error (.noClient (w.registry.modelOf sp) e), s)

theorem startHandoff_starts (s : DeskSession) (h : role ∈ w.registry.roles) (context : String)
    (deadline : Option Nat) :
    ∃ result w₁, s.startHandoff out role context deadline w = (some result, w₁) ∧ Starts out s w role result := by
  unfold startHandoff
  cases has : lookupName role s.specialists with
  | some chat => exact ⟨_, w, rfl, .started rfl⟩
  | none =>
    obtain ⟨sp, valid, -⟩ := Registry.validate_of_mem h
    rcases World.provider_or_refused out (w.registry.modelOf sp) w with ⟨p, w₁, provided⟩ | ⟨e, w₁, unmade, refused, failed⟩
    · obtain ⟨chat, w₂, built⟩ := Chat.answers_build out (specialistConfig w.registry.limits sp) p
        ((w.registry.toolsFor role).register .endHandoff) s.memory false deadline w₁
      have made : buildSpecialist out role s.memory deadline w = (some (.ok chat), w₂) := by
        unfold buildSpecialist
        rw [bind_of_some get_run]
        simp only [valid]
        rw [bind_of_some (modifyGet_run _), provided]
        exact bind_of_some built _
      exact ⟨_, w₂, bind_of_some made _, .started rfl⟩
    · have none : buildSpecialist out role s.memory deadline w =
          (some (.error (.noClient (w.registry.modelOf sp) e)), w₁) := by
        unfold buildSpecialist
        rw [bind_of_some get_run]
        simp only [valid]
        rw [bind_of_some (modifyGet_run _), failed]
        rfl
      exact ⟨_, w₁, bind_of_some none _, .refused has valid unmade refused⟩

end DeskSession

/-! ## The whole -/

namespace Handoff

open DeskSession

/-- **What the signalling tools accept can be acted on.** They answer at once, and for all arguments as `Requested` and
`Finished` say. A role that was accepted in a turn is defined when the turn is over, and what remains to be refused is
its model. -/
theorem accepted_signals_can_be_routed (out : Outside σ) :
    (∀ depth busy directory args context deadline w r w₁,
      Tool.useAt out depth busy (.requestHandoff directory) args context deadline w = (r, w₁) ↔
        ∃ o, r = some (.ok o) ∧ w₁ = w ∧ Requested (Agent.listedRoles out w directory) args o) ∧
    (∀ depth busy args context deadline w r w₁,
      Tool.useAt out depth busy .endHandoff args context deadline w = (r, w₁) ↔
        ∃ o, r = some (.ok o) ∧ w₁ = w ∧ Finished args o) ∧
    ∀ (s : DeskSession) message deadline w d s₁ w₁ role context,
      s.dispatch out message deadline w = (some (d, s₁), w₁) → d.turn.AsksRegistry s.active.agent.tools →
      d.turn.outcome.signal = some (.request role context) →
      role ∈ w₁.registry.roles ∧ ∃ result w₂,
        s₁.startHandoff out role context deadline w₁ = (some result, w₂) ∧ Starts out s₁ w₁ role result := by
  refine ⟨fun depth busy directory args context deadline w r w₁ => ?_,
    fun depth busy args context deadline w r w₁ => ?_,
    fun s message deadline w d s₁ w₁ role context given asks signals => ?_⟩
  · rw [Tool.useAt_requestHandoff, Prod.mk.injEq]
    constructor
    · rintro ⟨rfl, rfl⟩
      exact ⟨_, rfl, rfl, request_eq_iff.mp rfl⟩
    · rintro ⟨o, rfl, rfl, h⟩
      rw [request_eq_iff.mpr h]
      exact ⟨rfl, rfl⟩
  · rw [Tool.useAt_endHandoff, Prod.mk.injEq]
    constructor
    · rintro ⟨rfl, rfl⟩
      exact ⟨_, rfl, rfl, finish_eq_iff.mp rfl⟩
    · rintro ⟨o, rfl, rfl, h⟩
      rw [finish_eq_iff.mpr h]
      exact ⟨rfl, rfl⟩
  · have listed := listed_of_dispatch given asks signals
    exact ⟨listed, startHandoff_starts s₁ listed context deadline⟩

end Handoff

namespace Rehearsal

def host : Agent where
  role := "assistant"
  objective := "Help the user"
  context := ""
  provider := ⟨.outside, "main", 0⟩
  tools := Toolbox.ofList [.requestHandoff .registry]

def helpDesk : DeskSession where
  coordinator := { agent := host }
  memory := {}
  generation := 0

def asksForMath (t : Turn) : Bool :=
  (match t.outcome.signal with
    | some (.request role context) => role = "math" && context = "sums"
    | _ => false) &&
  t.exchanges.all fun e =>
    match e.answer with
    | .ok ⟨_, some call⟩ => call.name = Tool.requestHandoffName
    | _ => true

end Rehearsal

open Rehearsal DeskSession in
theorem Handoff.accepted_signals_can_be_routed_sums :
    ∃ d s₁ w₁, helpDesk.dispatch Stage.outside "6*7?" none sums = (some (d, s₁), w₁) ∧
      d.turn.AsksRegistry helpDesk.active.agent.tools ∧ d.turn.outcome.signal = some (.request "math" "sums") ∧
      "math" ∈ w₁.registry.roles ∧ ∃ result w₂,
        s₁.startHandoff Stage.outside "math" "sums" none w₁ = (some result, w₂) ∧
          Starts Stage.outside s₁ w₁ "math" result := by
  obtain ⟨⟨d, s₁⟩, w₁, given, seen⟩ := answer_of_seen (helpDesk.dispatch Stage.outside "6*7?") none sums
    (fun p _ => asksForMath p.1.turn) (show _ = some true by decide +kernel)
  simp only [asksForMath, Bool.and_eq_true] at seen
  have signals : d.turn.outcome.signal = some (.request "math" "sums") := by
    have := seen.1
    split at this
    · rename_i role context signals
      simp only [Bool.and_eq_true, decide_eq_true_eq] at this
      rw [signals, this.1, this.2]
    · cases this
  have asks : d.turn.AsksRegistry helpDesk.active.agent.tools := by
    intro e he text call output role context answer _ _
    have := List.all_eq_true.mp seen.2 e he
    rw [answer] at this
    simp only [decide_eq_true_eq] at this
    rw [this]
    rfl
  exact ⟨d, s₁, w₁, given, asks, signals, (Handoff.accepted_signals_can_be_routed Stage.outside).2.2 helpDesk "6*7?"
    none sums d s₁ w₁ "math" "sums" given asks signals⟩

end Concierge
