import Concierge.Proofs.Delegation
import Concierge.Proofs.Memory.Facts
import Concierge.Proofs.Outcome

/-!
# The memory tools

A model sets facts with one tool and looks them up with another. What a use of a tool comes to is spelled out by the
members of its arguments (`Remembered`, `Recalled`), and what it sets can be read off the call (`Tool.memo?`). All
else that an agent does in a turn sets nothing, so a log of all facts can be kept from outside (`Agent.Does.notes`).
-/

namespace Concierge

open Run Memory Handoff

variable {σ : Type}

/-- What is said if a call to remember lacks an argument. -/
def rememberRefusal (key : String) : ToolError :=
  .invalidInput Tool.rememberName ("Missing required parameter: " ++ key)

def rememberError (key : String) : String :=
  "Error executing tool '" ++ Tool.rememberName ++ "': " ++ (rememberRefusal key).message

/-- What comes of a call to remember a fact in a chat: what the model is told, and what is set. -/
inductive Remembered (chat : ChatId) (args : Value) : ToolOutput → Option Memo → Prop
  | set {key v} (named : HasText args "key" key) (given : HasValue args "value" v) :
      Remembered chat args (.text ("Remembered '" ++ key ++ "'")) (some ⟨chat, key, v⟩)
  | unnamed (absent : ∀ key, ¬ HasText args "key" key) :
      Remembered chat args (.error (rememberError "key")) none
  | empty {key} (named : HasText args "key" key) (absent : ∀ v, ¬ HasValue args "value" v) :
      Remembered chat args (.error (rememberError "value")) none

/-- What the model is told if it looks up facts and these are the facts of its chat. -/
inductive Recalled (facts : String → Option Value) (args : Value) : ToolOutput → Prop
  | text {key s} (asked : Holds args "key" (.str key)) (named : key ≠ "") (there : facts key = some (.str s)) :
      Recalled facts args (.text s)
  | json {key v} (asked : Holds args "key" (.str key)) (named : key ≠ "") (there : facts key = some v)
      (other : ∀ s, v ≠ .str s) : Recalled facts args (.text (Json.compact v.data))
  | nothing {key} (asked : Holds args "key" (.str key)) (named : key ≠ "") (absent : facts key = none) :
      Recalled facts args (.text ("No fact stored under '" ++ key ++ "'"))
  | all {fs} (unnamed : ∀ key, Holds args "key" (.str key) → key = "") (listed : Facts.Lists fs facts) :
      Recalled facts args (.text (Json.compact fs.data))

/-- What a use of a tool sets in the store. -/
def Tool.memo? (store : StoreId) (context : ToolContext) (args : Value) : Tool → Option Memo
  | .remember place => if place = store then
      (chat? context).bind fun chat => (textArgument? args "key").bind fun key =>
        (valueArgument? args "value").map fun v => ⟨chat, key, v⟩
    else none
  | _ => none

theorem Value.text?_eq_some {v : Value} {s : String} : v.text? = some s ↔ v = .str s := by
  constructor
  · intro h
    obtain ⟨data, canonical⟩ := v
    have same : data = .str s := Handoff.text?_eq_some.mp h
    subst same
    rfl
  · rintro rfl
    rfl

theorem Handoff.text_of_holds {args : Value} {key s : String} :
    (args.member? key).bind Value.text? = some s ↔ Holds args key (.str s) := by
  rw [Option.bind_eq_some_iff]
  constructor
  · rintro ⟨v, found, text⟩
    obtain rfl := Value.text?_eq_some.mp text
    exact member?_eq_some.mp found
  · intro h
    exact ⟨.str s, member?_eq_some.mpr h, rfl⟩

namespace Tool

section
variable {out : Outside σ} {store : StoreId} {fits : Value → Prop} {calm works : World σ → Prop} {args : Value} {busy : List Nat}
  {context : ToolContext} {chat : ChatId} {key : String} {v : Value} {deadline : Option Nat} {w : World σ}

theorem memo?_eq_some (known : chat? context = some chat) (named : HasText args "key" key)
    (given : HasValue args "value" v) : memo? store context args (.remember store) = some ⟨chat, key, v⟩ := by
  unfold memo?
  simp only [if_true, known, textArgument?_eq_some.mpr named, valueArgument?_eq_some.mpr given, Option.bind_some,
    Option.map_some]

theorem memo?_unnamed (absent : ∀ key, ¬ HasText args "key" key) (t : Tool) : memo? store context args t = none := by
  cases t with
  | remember place =>
    unfold memo?
    simp only [textArgument?_eq_none.mpr absent, Option.bind_none, Option.bind_fun_none, ite_self]
  | _ => rfl

theorem memo?_empty (absent : ∀ v, ¬ HasValue args "value" v) (t : Tool) : memo? store context args t = none := by
  cases t with
  | remember place =>
    unfold memo?
    simp only [valueArgument?_eq_none.mpr absent, Option.map_none, Option.bind_fun_none, ite_self]
  | _ => rfl

/-! ## What the tools answer -/

theorem use_eq {t : Tool} (other : t ≠ .delegate) :
    use out busy t args context = useWith out (fun _ _ => stall) t args context := by
  funext deadline w
  show useAt out w.registry.definitions.length busy t args context deadline w = _
  rw [useAt_of_ne out other]

theorem use_remember (place : StoreId) :
    use out busy (.remember place) args context = rememberFact out place args context := by
  rw [use_eq Tool.noConfusion]
  rfl

theorem use_lookUp (place : StoreId) : use out busy (.lookUp place) args context = lookUpFact out place args context := by
  rw [use_eq Tool.noConfusion]
  rfl

theorem delegate_anywhere (context' : ToolContext) :
    use out busy .delegate args context = use out busy .delegate args context' := by
  funext deadline w
  show useAt out w.registry.definitions.length busy .delegate args context deadline w =
    useAt out w.registry.definitions.length busy .delegate args context' deadline w
  cases w.registry.definitions.length <;> rfl

theorem rememberFact_unnamed (known : chat? context = some chat) (absent : ∀ key, ¬ HasText args "key" key) :
    rememberFact out store args context deadline w = (some (.error (rememberRefusal "key")), w) := by
  unfold rememberFact requiredText
  rw [known, textArgument?_eq_none.mpr absent]
  rfl

theorem rememberFact_empty (known : chat? context = some chat) (named : HasText args "key" key)
    (absent : ∀ v, ¬ HasValue args "value" v) :
    rememberFact out store args context deadline w = (some (.error (rememberRefusal "value")), w) := by
  unfold rememberFact requiredText requiredValue
  rw [known, textArgument?_eq_some.mpr named, valueArgument?_eq_none.mpr absent]
  rfl

theorem lookUpFact_of_key {found : Option Value} (known : chat? context = some chat)
    (asked : lookUpKey? args = some key) (answer : (World.access out store chat (.fact? key) w).1 = .ok found) :
    lookUpFact out store args context deadline w =
      (some (.ok (found.elim (.text ("No fact stored under '" ++ key ++ "'")) .value)),
        (World.access out store chat (.fact? key) w).2) := by
  unfold lookUpFact
  rw [known, asked]
  dsimp only
  rw [bind_access, answer]
  cases found <;> rfl

theorem lookUpFact_of_no_key {fs : Facts} (known : chat? context = some chat) (unasked : lookUpKey? args = none)
    (answer : (World.access out store chat .allFacts w).1 = .ok fs) :
    lookUpFact out store args context deadline w =
      (some (.ok (.value (.ofMembers fs))), (World.access out store chat .allFacts w).2) := by
  unfold lookUpFact
  rw [known, unasked]
  dsimp only
  rw [bind_access, answer]
  rfl

section
variable (hs : FactStore out store fits calm works)
include hs

theorem rememberFact_set (quiet : calm w) (ok : works w) (known : chat? context = some chat)
    (named : HasText args "key" key) (given : HasValue args "value" v) :
    rememberFact out store args context deadline w =
      (some (.ok (.text ("Remembered '" ++ key ++ "'"))), (World.access out store chat (.setFact key v) w).2) := by
  unfold rememberFact requiredText requiredValue
  rw [known, textArgument?_eq_some.mpr named, valueArgument?_eq_some.mpr given]
  dsimp only
  rw [bind_access, hs.set chat key v quiet ok]
  rfl

theorem recalled_of_key (quiet : calm w) (ok : works w) (known : chat? context = some chat)
    (asked : Holds args "key" (.str key)) (named : key ≠ "") :
    ∃ output w₁, (∀ deadline, lookUpFact out store args context deadline w = (some (.ok output), w₁)) ∧
      Recalled (w.fact? out store chat) args output := by
  have isKey : lookUpKey? args = some key := by
    unfold lookUpKey?
    rw [text_of_holds.mpr asked]
    exact if_neg fun empty => named (by simpa using empty)
  refine ⟨_, _, fun _ => lookUpFact_of_key known isKey (hs.access_fact chat key quiet ok), ?_⟩
  cases there : w.fact? out store chat key with
  | none => exact .nothing asked named there
  | some v =>
    rw [Option.elim_some, ToolOutput.value]
    cases text : v.text? with
    | some s =>
      rw [Value.text?_eq_some.mp text] at there
      exact .text asked named there
    | none =>
      refine .json asked named there fun s same => ?_
      rw [Value.text?_eq_some.mpr same] at text
      cases text

theorem recalled_of_no_key (quiet : calm w) (ok : works w) (known : chat? context = some chat)
    (unnamed : ∀ key, Holds args "key" (.str key) → key = "") :
    ∃ output w₁, (∀ deadline, lookUpFact out store args context deadline w = (some (.ok output), w₁)) ∧
      Recalled (w.fact? out store chat) args output := by
  have noKey : lookUpKey? args = none := by
    unfold lookUpKey?
    cases text : (args.member? "key").bind Value.text? with
    | none => rfl
    | some s => exact if_pos (by simpa using unnamed s (text_of_holds.mp text))
  obtain ⟨fs, answer, listed⟩ := hs.all chat quiet ok
  refine ⟨_, _, fun _ => lookUpFact_of_no_key known noKey answer, ?_⟩
  unfold ToolOutput.value Value.text?
  rw [Facts.data_ofMembers listed.ordered]
  exact .all unnamed listed

theorem lookUp_recalls (args : Value) (quiet : calm w) (ok : works w) (known : chat? context = some chat) :
    ∃ output w₁, (∀ deadline, lookUpFact out store args context deadline w = (some (.ok output), w₁)) ∧
      Recalled (w.fact? out store chat) args output := by
  by_cases asked : ∃ key, Holds args "key" (.str key) ∧ key ≠ ""
  · obtain ⟨key, asked, named⟩ := asked
    exact recalled_of_key hs quiet ok known asked named
  · refine recalled_of_no_key hs quiet ok known fun key holds => ?_
    by_contra named
    exact asked ⟨key, holds, named⟩

/-! ## What is set -/

theorem notes_setFact (place : StoreId) (chat : ChatId) (key : String) (v : Value) (w : World σ) :
    World.Notes out store fits calm works (if place = store then [⟨chat, key, v⟩] else []) w
      (World.access out place chat (.setFact key v) w).2 := by
  by_cases here : place = store
  · rw [if_pos here, here]
    exact hs.sets chat key v w
  · rw [if_neg here]
    exact hs.others chat (.inl here) w

theorem notes_rememberFact (place : StoreId) (deadline : Option Nat) (w : World σ) :
    World.Notes out store fits calm works (memo? store context args (.remember place)).toList w
      (rememberFact out place args context deadline w).2 := by
  have still : World.Notes out store fits calm works [] w w := World.Notes.refl w
  unfold memo? rememberFact requiredText requiredValue
  cases chat? context with
  | none => simpa using still
  | some chat =>
    cases textArgument? args "key" with
    | none => simpa using still
    | some key =>
      cases valueArgument? args "value" with
      | none => simpa using still
      | some v =>
        have sets := notes_setFact hs place chat key v w
        have log : (if place = store then some (⟨chat, key, v⟩ : Memo) else none).toList =
            if place = store then [⟨chat, key, v⟩] else [] := by split <;> rfl
        simp only [Option.bind_some, Option.map_some]
        rw [log, bind_access]
        generalize (World.access out place chat (.setFact key v) w).1 = answer
        cases answer <;> exact sets

theorem notes_lookUpFact (place : StoreId) (args : Value) (context : ToolContext) :
    Along (World.Notes out store fits calm works []) (lookUpFact out place args context) := by
  have hR := hs.drift
  have reads {α : Type} (chat : ChatId) {op : Operation α} (only : op.setsFact = false) :
      Along (World.Notes out store fits calm works []) (Run.access out place chat op) :=
    along_modifyGet (hs.others chat (.inr only))
  unfold lookUpFact
  cases chat? context with
  | none => exact along_pure hR _
  | some chat =>
    dsimp only
    cases lookUpKey? args with
    | none =>
      refine along_bind hR (reads chat rfl) fun answer => ?_
      split <;> exact along_pure hR _
    | some key =>
      refine along_bind hR (reads chat rfl) fun answer => ?_
      split <;> exact along_pure hR _

theorem notes_use (t : Tool) (deadline : Option Nat) (w : World σ) :
    World.Notes out store fits calm works (t.memo? store context args).toList w
      (use out busy t args context deadline w).2 := by
  have hR := hs.drift
  cases t with
  | delegate =>
    -- The agents to whom tasks are delegated are in no chat.
    have alone : ToolContext.Within (fun _ => False) ⟨"", none⟩ := by
      intro id known
      cases known
    rw [delegate_anywhere ⟨"", none⟩]
    exact along_use hs.agentDrift busy .delegate args alone deadline w
  | outside key definition =>
    rw [use_eq Tool.noConfusion]
    exact along_bind hR (along_ask hR fun _ => .callTool _ _ _) (along_await hR) deadline w
  | requestHandoff directory =>
    rw [use_eq Tool.noConfusion]
    exact World.Notes.refl w
  | endHandoff =>
    rw [use_eq Tool.noConfusion]
    exact World.Notes.refl w
  | remember place =>
    rw [use_remember]
    exact notes_rememberFact hs place deadline w
  | lookUp place =>
    rw [use_lookUp]
    exact notes_lookUpFact hs place args context deadline w

theorem notes_within {t : Tool} {limit : Option Nat} {x : Option (Option (Except ToolError ToolOutput))} {w₁ : World σ}
    (ran : within limit (use out busy t args context) deadline w = (x, w₁)) :
    World.Notes out store fits calm works (t.memo? store context args).toList w w₁ := by
  obtain ⟨d, world⟩ := within_world limit (use out busy t args context) deadline w
  rw [ran] at world
  obtain rfl : w₁ = _ := world
  exact notes_use hs t d w

end

end

end Tool

/-! ## What an agent sets -/

/-- What is set in the store by a deed of an agent with these tools. -/
def Deed.memo? (store : StoreId) (tools : Toolbox) (context : ToolContext) : Deed → Option Memo
  | asked _ _ => none
  | used name args _ => (tools.get? name).bind (Tool.memo? store context args)

theorem Deed.memo?_used (store : StoreId) (tools : Toolbox) (context : ToolContext) (name : String) (args : Value)
    (output : ToolOutput) : Deed.memo? store tools context (.used name args output) =
      (tools.get? name).bind (Tool.memo? store context args) := rfl

namespace Agent

section
variable {out : Outside σ} {use : Tool → Value → ToolContext → Run σ (Except ToolError ToolOutput)} {a : Agent}
  {context : ToolContext} {deadline : Option Nat} {w w₁ w₂ : World σ}

theorem along_ask {R : World σ → World σ → Prop} (hR : Drift out R) (a : Agent) (r : Request) :
    Along R (a.ask out r) := by
  unfold ask
  split
  · exact along_bind hR (Run.along_ask hR fun _ => .generate _ _) (along_await hR)
  · exact Gemini.Client.along_generate hR _ _ r

theorem Replies.along {R : World σ → World σ → Prop} (hR : Drift out R) {r : Request}
    {answer : Except ModelError Response} (h : a.Replies out deadline r w answer w₁) : R w w₁ := by
  cases h with
  | answered asked | late _ asked => exact (along_within _ (along_ask hR a r)).of_run asked

end

section
variable {out : Outside σ} {store : StoreId} {fits : Value → Prop} {calm works : World σ → Prop} (hs : FactStore out store fits calm works)
  {a : Agent} {context : ToolContext} {chat : ChatId} {deadline : Option Nat} {w w₁ : World σ} {name : String}
  {args : Value} {output : ToolOutput}
include hs

theorem Gives.notes (h : a.Gives (Tool.use out []) context deadline ⟨name, args⟩ w output w₁)
    (proper : args.isNull = false) :
    World.Notes out store fits calm works ((a.tools.get? name).bind (Tool.memo? store context args)).toList w w₁ := by
  have used {t : Tool} {x : Option (Option (Except ToolError ToolOutput))} (known : a.tools.get? name = some t)
      (ran : within a.limits.toolTimeout (Tool.use out [] t (callArgs ⟨name, args⟩) context) deadline w = (x, w₁)) :
      World.Notes out store fits calm works ((a.tools.get? name).bind (Tool.memo? store context args)).toList w w₁ := by
    rw [callArgs_of_proper proper] at ran
    rw [known]
    exact Tool.notes_within hs ran
  cases h with
  | unknown absent =>
    rw [show a.tools.get? name = none from absent]
    exact World.Notes.refl w
  | answered known ran | disowned known ran | failed known ran _ | late known _ ran => exact used known ran

/-- **The log of an agent.** Its deeds set what can be read off the calls of its tools, and nothing else. -/
theorem Does.notes {ds : List Deed} (h : a.Does out (Tool.use out []) context deadline w ds w₁) :
    World.Notes out store fits calm works (ds.filterMap (Deed.memo? store a.tools context)) w w₁ := by
  induction h with
  | nil => exact World.Notes.refl _
  | ask replied _ ih => exact (replied.along hs.drift).trans ih
  | @use name args w output w₁ ds w₂ proper given _ ih =>
    have first := given.notes hs proper
    rw [← Deed.memo?_used store a.tools context name args output] at first
    have log (f : Deed → Option Memo) (d : Deed) : (d :: ds).filterMap f = (f d).toList ++ ds.filterMap f := by
      cases made : f d <;> simp [made]
    rw [log]
    exact first.trans ih

section
variable (quiet : calm w) (ok : works w) (known : Tool.chat? context = some chat)
include quiet ok known

theorem Gives.recalls (equipped : a.tools.get? Tool.lookUpName = some (.lookUp store)) (proper : args.isNull = false)
    (h : a.Gives (Tool.use out []) context deadline ⟨Tool.lookUpName, args⟩ w output w₁) :
    Recalled (w.fact? out store chat) args output := by
  obtain ⟨answer, w₂, run, recalled⟩ := Tool.lookUp_recalls hs args quiet ok known
  have always (d : Option Nat) : Tool.use out [] (.lookUp store) (callArgs ⟨Tool.lookUpName, args⟩) context d w =
      (some (.ok answer), w₂) := by
    rw [callArgs_of_proper proper, Tool.use_lookUp]
    exact run d
  rw [(h.eq_shown equipped always).1]
  exact recalled

theorem Gives.remembers (equipped : a.tools.get? Tool.rememberName = some (.remember store))
    (proper : args.isNull = false)
    (h : a.Gives (Tool.use out []) context deadline ⟨Tool.rememberName, args⟩ w output w₁) :
    Remembered chat args output (Deed.memo? store a.tools context (.used Tool.rememberName args output)) := by
  have shown {result : Except ToolError ToolOutput} {w₂ : World σ}
      (run : ∀ d, Tool.rememberFact out store args context d w = (some result, w₂)) :
      output = Agent.shown ⟨Tool.rememberName, args⟩ result := by
    have always (d : Option Nat) : Tool.use out [] (.remember store) (callArgs ⟨Tool.rememberName, args⟩) context d w =
        (some result, w₂) := by
      rw [callArgs_of_proper proper, Tool.use_remember]
      exact run d
    exact (h.eq_shown equipped always).1
  rw [Deed.memo?_used, equipped, Option.bind_some]
  by_cases named : ∃ key, HasText args "key" key
  · obtain ⟨key, named⟩ := named
    by_cases given : ∃ v, HasValue args "value" v
    · obtain ⟨v, given⟩ := given
      rw [shown fun d => Tool.rememberFact_set hs quiet ok known named given, Tool.memo?_eq_some known named given]
      exact .set named given
    · have absent := not_exists.mp given
      rw [shown fun d => Tool.rememberFact_empty known named absent, Tool.memo?_empty absent]
      exact .empty named absent
  · have absent := not_exists.mp named
    rw [shown fun d => Tool.rememberFact_unnamed known absent, Tool.memo?_unnamed absent]
    exact .unnamed absent

end

end

end Agent

end Concierge
