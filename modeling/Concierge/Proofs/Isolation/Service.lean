import Concierge.Proofs.Isolation.Stores

/-!
# One session is served

A message of a session is received by a desk or by an agent alone. Either way the chats of all others are
spared, and the session goes on in its own chats with the memory that it has or, if it is new, with the one
that it is given (`Reception.Serves`).
-/

namespace Concierge

open Run Memory

variable {σ β : Type}

/-! ## The memory of a new session -/

namespace MemoryMode

/-- The memory is one of a session. If sessions have stores of their own then those are in places from
the base on. -/
def Supplies (mode : MemoryMode) (base : Nat) (w : World σ) (memory : Adapters) : Prop :=
  match mode with
  | none => memory = {}
  | shared m => memory = m
  | perSession _ => ∀ store ∈ memory.list, w.OpenFrom base store

section
variable {mode : MemoryMode} {memory : Adapters} {deadline : Option Nat} {base base' : Nat} {w w₁ : World σ}
  {view : Nat → ChatId → σ → β} {P : ChatId → Prop}

theorem supplies_forNewSession (independent : mode.Independent)
    (h : mode.forNewSession deadline w = (some memory, w₁)) : mode.Supplies w.stores.length w₁ memory := by
  cases mode with
  | none =>
    cases h
    rfl
  | shared m =>
    cases h
    rfl
  | perSession plan =>
    cases h
    exact World.openAll_from independent w

theorem Supplies.later (h : mode.Supplies base w memory) (spared : w.Spares view P w₁) :
    mode.Supplies base w₁ memory := by
  cases mode with
  | none => exact h
  | shared m => exact h
  | perSession plan =>
    intro store hs
    have old := h store hs
    exact old.later (spared.kinds old.lt)

theorem Supplies.lower (h : mode.Supplies base w memory) (below : base' ≤ base) : mode.Supplies base' w memory := by
  cases mode with
  | none => exact h
  | shared m => exact h
  | perSession plan =>
    intro store hs
    obtain ⟨above, rest⟩ := h store hs
    exact ⟨below.trans above, rest⟩

theorem Supplies.replan (h : mode.Supplies base w memory) (plan : StorePlan) :
    (mode.replan plan).Supplies base w memory := by
  cases mode <;> exact h

end

end MemoryMode

namespace DeskSession

section
variable {out : Outside σ} {message : String} {deadline : Option Nat} {s s₁ : DeskSession} {w w₁ : World σ}

theorem Refreshes.memory_eq (h : Refreshes out deadline s w s₁ w₁) : s₁.memory = s.memory := by
  cases h <;> rfl

theorem Hop.memory_eq {d : Dispatch} (h : Hop out message deadline s w d s₁ w₁) : s₁.memory = s.memory := by
  cases h <;> rfl

theorem Onward.memory_eq {signal : Option Signal} {accepted : Option Pending}
    (h : Onward out deadline s w signal accepted s₁ w₁) : s₁.memory = s.memory := by
  cases h <;> rfl

theorem Passes.memory_eq {ds : List Dispatch} (h : Passes out message deadline s w ds s₁ w₁) :
    s₁.memory = s.memory := by
  induction h with
  | nil => rfl
  | cons hop on rest ih => rw [ih, on.memory_eq, hop.memory_eq]

theorem Ends.memory_eq {hops : Nat} {r : Routed} (h : Ends out message deadline hops s w (some (r, s₁)) w₁) :
    s₁.memory = s.memory := by
  cases h with
  | spent passes all => exact passes.memory_eq
  | answered passes left hop stays last => rw [hop.memory_eq, passes.memory_eq]

end

end DeskSession

/-! ## Sessions of either kind -/

inductive Held where
  | desk (s : DeskSession)
  | single (c : Chat)

namespace Held

def chats : Held → List Chat
  | desk s => s.chats
  | single c => [c]

def memory : Held → Adapters
  | desk s => s.memory
  | single c => c.memory

def Has (h : Held) (k : ChatId) : Prop := ∃ c ∈ h.chats, c.id = some k

structure Own (P : ChatId → Prop) (h : Held) : Prop where
  apart : ∀ k, h.Has k → ¬ P k
  memory : ∀ c ∈ h.chats, c.memory = h.memory

variable {P : ChatId → Prop}

theorem own_desk {s : DeskSession} : (desk s).Own P ↔ s.Own P := by
  constructor
  · intro h
    exact ⟨fun c hc k known => h.apart k ⟨c, hc, known⟩, h.memory⟩
  · intro h
    refine ⟨fun k has => ?_, h.memory⟩
    obtain ⟨c, hc, known⟩ := has
    exact h.apart c hc k known

theorem own_single {c : Chat} : (single c).Own P ↔ c.Apart P := by
  constructor
  · intro h k known
    exact h.apart k ⟨c, List.mem_singleton_self c, known⟩
  · intro h
    refine ⟨fun k has => ?_, fun c' hc => ?_⟩
    · obtain ⟨c', hc, known⟩ := has
      rw [List.mem_singleton.mp hc] at known
      exact h k known
    · rw [List.mem_singleton.mp hc]
      rfl

end Held

namespace Reception

def session? (id : String) : Reception → Option Held
  | desk d => (d.sessions.get? id).map .desk
  | single m => (m.sessions.get? id).map .single

def memory : Reception → MemoryMode
  | desk d => d.memory
  | single m => m.memory

def replan (plan : StorePlan) : Reception → Reception
  | desk d => desk { d with memory := d.memory.replan plan }
  | single m => single { m with memory := m.memory.replan plan }

@[simp] theorem session?_replan (r : Reception) (plan : StorePlan) (id : String) :
    (r.replan plan).session? id = r.session? id := by
  cases r <;> rfl

@[simp] theorem memory_replan (r : Reception) (plan : StorePlan) : (r.replan plan).memory = r.memory.replan plan := by
  cases r <;> rfl

/-- The session of the id is as `h` now, in the memory that it had or in the one that new sessions are
given. The other sessions are as they were. -/
structure Serves (P : ChatId → Prop) (id : String) (r : Reception) (w : World σ) (r' : Reception) (w' : World σ)
    (h : Held) : Prop where
  mode : r'.memory = r.memory
  session : r'.session? id = some h
  others : ∀ j, j ≠ id → r'.session? j = r.session? j
  own : h.Own P
  memory : (∃ h₀, r.session? id = some h₀ ∧ h.memory = h₀.memory) ∨
    r.session? id = none ∧ r.memory.Supplies w.stores.length w' h.memory

/-- If it is a desk, then the session that a message opens has the specialist that is active. -/
def Named (out : Outside σ) (deadline : Option Nat) (id : String) (w : World σ) : Reception → Prop
  | desk d => ∀ {s d₁ w₁}, Desk.Opens out deadline d id w s d₁ w₁ → s.Named
  | single _ => True

theorem process_desk (out : Outside σ) (d : Desk) (id message : String) :
    (desk d).process out id message = d.process out id message >>= fun p => Pure.pure (p.1, desk p.2) := rfl

theorem process_single (out : Outside σ) (m : ChatManager) (id message : String) :
    (single m).process out id message = m.process out id message >>= fun p => Pure.pure (p.1, single p.2) := rfl

end Reception

inductive ChatManager.Takes (out : Outside σ) (deadline : Option Nat) (m : ChatManager) (id : String) (w : World σ) :
    Chat → ChatManager → World σ → Prop
  | again {c} (has : m.sessions.get? id = some c) : Takes out deadline m id w c m w
  | first {memory w₁ c w₂} (new : m.sessions.get? id = none)
      (supplied : m.memory.forNewSession deadline w = (some memory, w₁))
      (built : Chat.build out m.config m.provider m.tools memory m.registry deadline w₁ = (some c, w₂)) :
      Takes out deadline m id w c { m with sessions := m.sessions.put id c } w₂

theorem MemoryMode.answers_forNewSession (mode : MemoryMode) : Answers (mode.forNewSession : Run σ Adapters) := by
  cases mode with
  | none => exact answers_pure _
  | shared m => exact answers_pure _
  | perSession plan => exact answers_modifyGet _

theorem ChatManager.chat_takes (out : Outside σ) (deadline : Option Nat) (m : ChatManager) (id : String)
    (w : World σ) : ∃ c m' w', m.chat out id deadline w = (some (c, m'), w') ∧ Takes out deadline m id w c m' w' := by
  unfold chat
  cases has : m.sessions.get? id with
  | some c => exact ⟨c, m, w, rfl, .again has⟩
  | none =>
    obtain ⟨memory, w₁, supplied⟩ := m.memory.answers_forNewSession deadline w
    obtain ⟨c, w₂, built⟩ := Chat.answers_build out m.config m.provider m.tools memory m.registry deadline w₁
    refine ⟨c, _, w₂, ?_, .first has supplied built⟩
    dsimp only
    rw [bind_of_some supplied, bind_of_some built]
    rfl

/-! ## A message is received -/

section
variable {out : Outside σ} {drawn : σ → List ChatId} {view : Nat → ChatId → σ → β} {P : ChatId → Prop}
  {L : List ChatId} {deadline : Option Nat} {w w₁ : World σ} {id message : String} (hd : out.Draws drawn)

theorem World.drawn_forNewSession {mode : MemoryMode} {memory : Adapters} (hd : out.Draws drawn)
    (h : mode.forNewSession deadline w = (some memory, w₁)) : drawn w.outside <+: drawn w₁.outside :=
  (MemoryMode.along_forNewSession (drawn_deskDrift hd).toDrift (drawn_deskDrift hd).openStores mode).of_run h

theorem World.spares_newStores {mode : MemoryMode} {memory : Adapters} (keeps : out.Keeps view)
    (h : mode.forNewSession deadline w = (some memory, w₁)) : w.Spares view P w₁ := by
  have steps := (spares_turnDrift keeps P).toDrift
  exact (MemoryMode.along_forNewSession steps (fun _ => along_modifyGet (World.spares_openAll _)) mode).of_run h

theorem Desk.process_ends {d : Desk} (named : ∀ {s d₁ w₁}, Opens out deadline d id w s d₁ w₁ → s.Named) :
    ∃ s d₁ w₀ result w₁, Opens out deadline d id w s d₁ w₀ ∧
      DeskSession.Ends out message deadline maxHops s w₀ result w₁ ∧
      d.process out id message deadline w = (result.map fun p => (p.1.reply, d₁.keep id p.2), w₁) := by
  obtain ⟨s, d₁, w₀, opens, routed⟩ := route_opens out deadline d id message w
  have ends := DeskSession.route_ends out message deadline (named opens) maxHops w₀
  refine ⟨s, d₁, w₀, _, _, opens, ends, ?_⟩
  unfold process
  rw [bind_run, routed, bind_run]
  rcases s.route out message maxHops deadline w₀ with ⟨_ | p, w₂⟩ <;> rfl

section
variable {R : World σ → World σ → Prop} (hR : DeskDrift out R)
include hR

theorem ChatManager.along_chat (m : ChatManager) (id : String) : Along R (m.chat out id) := by
  unfold chat
  split
  · exact along_pure hR.toDrift _
  · refine along_bind hR.toDrift (MemoryMode.along_forNewSession hR.toDrift hR.openStores _) fun memory => ?_
    exact along_bind hR.toDrift (Chat.along_build hR.toDrift _ _ _ _ _) fun chat => along_pure hR.toDrift _

theorem ChatManager.along_process (m : ChatManager) (id message : String) : Along R (m.process out id message) := by
  refine along_bind hR.toDrift (along_chat hR m id) fun found => ?_
  exact along_bind hR.toDrift (Chat.along_message hR _ message) fun _ => along_pure hR.toDrift _

theorem Reception.along_process (r : Reception) (id message : String) : Along R (r.process out id message) := by
  cases r with
  | desk d => exact along_bind hR.toDrift (Desk.along_process hR d id message) fun _ => along_pure hR.toDrift _
  | single m => exact along_bind hR.toDrift (ChatManager.along_process hR m id message) fun _ => along_pure hR.toDrift _

end

section
variable (keeps : out.Keeps view) (once : L.Nodup)
include hd keeps once

theorem Chat.serves_build {mode : MemoryMode} {config : ChatConfig} {p : Provider} {tools : Toolbox}
    {memory : Adapters} {registry : Bool} {c : Chat} {w₂ : World σ} (independent : mode.Independent)
    (clear : Clear P L (drawn w.outside)) (within : drawn w₂.outside <+: L)
    (supplied : mode.forNewSession deadline w = (some memory, w₁))
    (built : build out config p tools memory registry deadline w₁ = (some c, w₂)) :
    w.Spares view P w₂ ∧ c.Apart P ∧ c.memory = memory ∧ mode.Supplies w.stores.length w₂ memory := by
  have grown := World.drawn_forNewSession hd supplied
  obtain ⟨apart, kept⟩ := apart_build hd once (clear.later grown) within built
  have spared : w₁.Spares view P w₂ := (along_build (spares_turnDrift keeps P).toDrift _ _ _ _ _).of_run built
  have given := (MemoryMode.supplies_forNewSession independent supplied).later spared
  exact ⟨(World.spares_newStores keeps supplied).trans spared, apart, kept, given⟩

theorem Desk.serves_newSession {d : Desk} {s : DeskSession} (independent : d.memory.Independent)
    (clear : Clear P L (drawn w.outside)) (within : drawn w₁.outside <+: L)
    (h : d.newSession out deadline w = (some s, w₁)) :
    w.Spares view P w₁ ∧ s.Own P ∧ d.memory.Supplies w.stores.length w₁ s.memory := by
  unfold newSession at h
  obtain ⟨memory, w₂, supplied, h⟩ := bind_eq_some.mp h
  obtain ⟨chat, w₃, built, h⟩ := bind_eq_some.mp h
  obtain ⟨_, _, got, h⟩ := bind_eq_some.mp h
  cases got
  cases h
  obtain ⟨spared, apart, kept, given⟩ := Chat.serves_build hd keeps once independent clear within supplied built
  refine ⟨spared, ⟨fun c hc => ?_, fun c hc => ?_⟩, given⟩
  · rw [List.mem_singleton.mp hc]
    exact apart
  · rw [List.mem_singleton.mp hc]
    exact kept

theorem Desk.Opens.serves {d d' : Desk} {s : DeskSession}
    (independent : d.sessions.get? id = none → d.memory.Independent)
    (own : ∀ s₀, d.sessions.get? id = some s₀ → s₀.Own P) (clear : Clear P L (drawn w.outside))
    (within : drawn w₁.outside <+: L) (h : Opens out deadline d id w s d' w₁) :
    w.Spares view P w₁ ∧ s.Own P ∧ ((∃ s₀, d.sessions.get? id = some s₀ ∧ s.memory = s₀.memory) ∨
      d.sessions.get? id = none ∧ d.memory.Supplies w.stores.length w₁ s.memory) := by
  have steps := (spares_turnDrift keeps P).toAgentDrift
  cases h with
  | @again s₀ _ _ has refreshed =>
    refine ⟨refreshed.along steps, refreshed.own hd once (own s₀ has) clear within, ?_⟩
    exact Or.inl ⟨s₀, has, refreshed.memory_eq⟩
  | @first s₀ w₀ _ _ new made refreshed =>
    have left := refreshed.along (drawn_deskDrift hd).toAgentDrift
    have grown := (along_newSession (drawn_deskDrift hd).toDrift (drawn_deskDrift hd).openStores d).of_run made
    obtain ⟨spared, own₀, given⟩ := serves_newSession hd keeps once (independent new) clear (left.trans within) made
    have spared' := refreshed.along steps
    refine ⟨spared.trans spared', refreshed.own hd once own₀ (clear.later grown) within, ?_⟩
    rw [refreshed.memory_eq]
    exact Or.inr ⟨new, given.later spared'⟩

theorem Desk.serves_process {d : Desk} {result : Option (String × Desk)}
    (independent : d.sessions.get? id = none → d.memory.Independent)
    (named : ∀ {s d₁ w₁}, Opens out deadline d id w s d₁ w₁ → s.Named)
    (own : ∀ s₀, d.sessions.get? id = some s₀ → s₀.Own P) (clear : Clear P L (drawn w.outside))
    (within : drawn w₁.outside <+: L) (run : d.process out id message deadline w = (result, w₁)) :
    w.Spares view P w₁ ∧ ∀ reply d', result = some (reply, d') →
      ∃ h, Reception.Serves P id (.desk d) w (.desk d') w₁ h := by
  obtain ⟨s, d₁, w₀, answer, w₂, opens, ends, ran⟩ := process_ends named
  rw [run] at ran
  cases ran
  have grown := opens.along (drawn_deskDrift hd)
  have left := ends.along (drawn_deskDrift hd)
  obtain ⟨spared, own₀, memory⟩ := opens.serves hd keeps once independent own clear (left.trans within)
  obtain ⟨spared', owned⟩ := ends.spares hd once keeps own₀ (clear.later grown) within
  refine ⟨spared.trans spared', fun reply d' some => ?_⟩
  obtain ⟨⟨r, s'⟩, call, pair⟩ := Option.map_eq_some_iff.mp some
  cases pair
  subst call
  refine ⟨.desk s', ?_, ?_, ?_, Held.own_desk.mpr (owned r s' rfl), ?_⟩
  · cases opens <;> rfl
  · dsimp only [Reception.session?]
    rw [opens.get?_keep, if_pos rfl]
    rfl
  · intro j other
    dsimp only [Reception.session?]
    rw [opens.get?_keep, if_neg other]
  · dsimp only [Held.memory]
    rw [ends.memory_eq]
    rcases memory with ⟨s₀, has, kept⟩ | ⟨new, given⟩
    · refine Or.inl ⟨.desk s₀, ?_, kept⟩
      simp [Reception.session?, has]
    · refine Or.inr ⟨?_, given.later spared'⟩
      simp [Reception.session?, new]

theorem ChatManager.Takes.serves {m m' : ChatManager} {c : Chat}
    (independent : m.sessions.get? id = none → m.memory.Independent)
    (own : ∀ c₀, m.sessions.get? id = some c₀ → c₀.Apart P) (clear : Clear P L (drawn w.outside))
    (within : drawn w₁.outside <+: L) (h : Takes out deadline m id w c m' w₁) :
    w.Spares view P w₁ ∧ c.Apart P ∧ ((∃ c₀, m.sessions.get? id = some c₀ ∧ c.memory = c₀.memory) ∨
      m.sessions.get? id = none ∧ m.memory.Supplies w.stores.length w₁ c.memory) := by
  cases h with
  | again has => exact ⟨.refl w, own c has, Or.inl ⟨c, has, rfl⟩⟩
  | first new supplied built =>
    obtain ⟨spared, apart, kept, given⟩ :=
      Chat.serves_build hd keeps once (independent new) clear within supplied built
    refine ⟨spared, apart, Or.inr ⟨new, ?_⟩⟩
    rw [kept]
    exact given

theorem ChatManager.serves_process {m : ChatManager} {result : Option (String × ChatManager)}
    (independent : m.sessions.get? id = none → m.memory.Independent)
    (own : ∀ c, m.sessions.get? id = some c → c.Apart P)
    (clear : Clear P L (drawn w.outside)) (within : drawn w₁.outside <+: L)
    (run : m.process out id message deadline w = (result, w₁)) :
    w.Spares view P w₁ ∧ ∀ reply m', result = some (reply, m') →
      ∃ h, Reception.Serves P id (.single m) w (.single m') w₁ h := by
  obtain ⟨c, m₁, w₀, taken, takes⟩ := chat_takes out deadline m id w
  unfold process at run
  rw [bind_of_some taken] at run
  dsimp only at run
  rcases answers_or_not (c.turn out message) deadline w₀ with ⟨⟨turn, c'⟩, w₂, turned⟩ | ⟨w₂, cut⟩
  · rw [bind_of_some turned] at run
    cases run
    have left := (Chat.along_turn (drawn_deskDrift hd).toTurnDrift (fun _ _ => trivial) _).of_run turned
    obtain ⟨spared, apart, memory⟩ := takes.serves hd keeps once independent own clear (left.trans within)
    have spared' := (Chat.along_turn (spares_turnDrift keeps P) apart _).of_run turned
    have same := Chat.turn_chat turned
    refine ⟨spared.trans spared', fun reply m' some => ?_⟩
    cases some
    refine ⟨.single c', ?_, ?_, ?_, Held.own_single.mpr ?_, ?_⟩
    · cases takes <;> rfl
    · simp [Reception.session?, setChat, Table.get?_put]
    · intro j other
      cases takes <;> simp [Reception.session?, setChat, Table.get?_put, other]
    · rw [same]
      exact apart
    · rw [same]
      rcases memory with ⟨c₀, has, kept⟩ | ⟨new, given⟩
      · exact Or.inl ⟨.single c₀, by simp [Reception.session?, has], kept⟩
      · exact Or.inr ⟨by simp [Reception.session?, new], given.later spared'⟩
  · rw [bind_of_none cut] at run
    cases run
    have left := (Chat.along_turn (drawn_deskDrift hd).toTurnDrift (fun _ _ => trivial) _).of_run cut
    obtain ⟨spared, apart, -⟩ := takes.serves hd keeps once independent own clear (left.trans within)
    refine ⟨spared.trans ((Chat.along_turn (spares_turnDrift keeps P) apart _).of_run cut), fun reply m' some => ?_⟩
    cases some

theorem Reception.serves_process {r : Reception} {result : Option (String × Reception)}
    (independent : r.session? id = none → r.memory.Independent) (named : r.Named out deadline id w)
    (own : ∀ h, r.session? id = some h → h.Own P) (clear : Clear P L (drawn w.outside))
    (within : drawn w₁.outside <+: L) (run : r.process out id message deadline w = (result, w₁)) :
    w.Spares view P w₁ ∧ ∀ reply r', result = some (reply, r') → ∃ h, Serves P id r w r' w₁ h := by
  cases r with
  | desk d =>
    have owns (s₀ : DeskSession) (has : d.sessions.get? id = some s₀) : s₀.Own P := by
      refine Held.own_desk.mp (own (.desk s₀) ?_)
      simp [session?, has]
    have independent (new : d.sessions.get? id = none) : d.memory.Independent :=
      independent (by simp [session?, new])
    rw [process_desk] at run
    rcases answers_or_not (d.process out id message) deadline w with ⟨⟨reply, d'⟩, w₂, ran⟩ | ⟨w₂, cut⟩
    · rw [bind_of_some ran] at run
      cases run
      obtain ⟨spared, served⟩ := Desk.serves_process hd keeps once independent named owns clear within ran
      refine ⟨spared, fun reply r' some => ?_⟩
      cases some
      exact served reply d' rfl
    · rw [bind_of_none cut] at run
      cases run
      obtain ⟨spared, -⟩ := Desk.serves_process hd keeps once independent named owns clear within cut
      refine ⟨spared, fun reply r' some => ?_⟩
      cases some
  | single m =>
    have owns (c : Chat) (has : m.sessions.get? id = some c) : c.Apart P := by
      refine Held.own_single.mp (own (.single c) ?_)
      simp [session?, has]
    have independent (new : m.sessions.get? id = none) : m.memory.Independent :=
      independent (by simp [session?, new])
    rw [process_single] at run
    rcases answers_or_not (m.process out id message) deadline w with ⟨⟨reply, m'⟩, w₂, ran⟩ | ⟨w₂, cut⟩
    · rw [bind_of_some ran] at run
      cases run
      obtain ⟨spared, served⟩ := ChatManager.serves_process hd keeps once independent owns clear within ran
      refine ⟨spared, fun reply r' some => ?_⟩
      cases some
      exact served reply m' rfl
    · rw [bind_of_none cut] at run
      cases run
      obtain ⟨spared, -⟩ := ChatManager.serves_process hd keeps once independent owns clear within cut
      refine ⟨spared, fun reply r' some => ?_⟩
      cases some

end

end

end Concierge
