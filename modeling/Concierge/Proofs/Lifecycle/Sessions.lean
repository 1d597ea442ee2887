import Concierge.Proofs.Lifecycle.Closing
import Concierge.Proofs.Table
import Mathlib.Data.List.Perm.Basic

/-!
# Sessions begin, go on and end

A message of a session that is not there begins one and is then received in it. A session goes on in the
memory that it began with, and so do all its chats. When it ends, or all sessions do, stores are closed. Each
of this is told of the table of the sessions, for a desk and for an agent alone.
-/

namespace Concierge

open Run Memory

variable {σ β : Type}

/-! ## Tables -/

namespace Table

variable {κ α γ : Type} [DecidableEq κ] {k : κ} {v : α} {t : Table κ α}

def mapEntries (f : α → γ) (t : Table κ α) : Table κ γ := t.map fun e => (e.1, f e.2)

theorem get?_mapEntries (f : α → γ) (k : κ) (t : Table κ α) : (t.mapEntries f).get? k = (t.get? k).map f := by
  induction t with
  | nil => rfl
  | cons e t ih =>
    unfold mapEntries at ih
    unfold mapEntries get?
    rw [List.map_cons]
    by_cases here : e.1 = k <;> simp [here, ih]

theorem mapEntries_put (f : α → γ) (k : κ) (v : α) (t : Table κ α) :
    (t.put k v).mapEntries f = (t.mapEntries f).put k (f v) := by
  induction t with
  | nil => rfl
  | cons e t ih =>
    unfold mapEntries at ih
    unfold mapEntries put
    by_cases here : e.1 = k <;> simp [here, ih]

theorem mapEntries_erase (f : α → γ) (k : κ) (t : Table κ α) :
    (t.erase k).mapEntries f = (t.mapEntries f).erase k := by
  unfold mapEntries erase
  rw [List.filter_map]
  rfl

theorem nodup_erase (once : t.keys.Nodup) (k : κ) : (t.erase k).keys.Nodup :=
  once.sublist (List.filter_sublist.map _)

theorem perm_erase (once : t.keys.Nodup) (h : t.get? k = some v) : t.Perm ((k, v) :: t.erase k) := by
  induction t with
  | nil => cases h
  | cons e t ih =>
    obtain ⟨absent, rest⟩ := List.nodup_cons.mp once
    unfold get? at h
    unfold erase
    split at h
    · rename_i here
      cases h
      have kept : t.filter (·.1 ≠ k) = t := by
        refine List.filter_eq_self.mpr fun x hx => ?_
        rw [decide_eq_true_eq, ← here]
        rintro same
        have inside : x.1 ∈ t.map (·.1) := List.mem_map_of_mem hx
        rw [same] at inside
        exact absent inside
      rw [List.filter_cons_of_neg (by simp [here]), kept, ← here]
    · rename_i other
      rw [List.filter_cons_of_pos (by simp [other])]
      exact ((ih rest h).cons e).trans (.swap _ _ _)

end Table

/-! ## The memory of the sessions -/

namespace MemoryMode

def supply (mode : MemoryMode) (w : World σ) : Adapters × World σ :=
  match mode with
  | none => ({}, w)
  | shared memory => (memory, w)
  | perSession plan => World.openAll plan w

def ofSession (mode : MemoryMode) (memory : Adapters) : List StoreId :=
  match mode with
  | perSession _ => memory.list
  | none | shared _ => []

def ofAll (mode : MemoryMode) (sessions : List Adapters) : List StoreId :=
  match mode with
  | none => []
  | shared memory => memory.list
  | perSession _ => sessions.flatMap Adapters.list

variable (mode : MemoryMode) (memory : Adapters) (sessions : List Adapters) {out : Outside σ}
  {deadline : Option Nat} {w : World σ}

theorem forNewSession_run : mode.forNewSession deadline w = (some (mode.supply w).1, (mode.supply w).2) := by
  cases mode <;> rfl

theorem outside_supply : (mode.supply w).2.outside = w.outside := by
  cases mode with
  | none | shared => rfl
  | perSession plan => exact World.outside_openAll plan w

theorem closeSession_run : mode.closeSession out memory deadline w =
    (some (), World.closeEach out (mode.ofSession memory) w) := by
  cases mode <;> rfl

theorem close_run : mode.close out sessions deadline w =
    (some (), World.closeEach out (mode.ofAll sessions) w) := by
  cases mode with
  | none | shared => rfl
  | perSession plan =>
    unfold close ofAll World.closeEach
    rw [List.foldl_flatMap]
    rfl

end MemoryMode

theorem Desk.process_again {d : Desk} {id : String} {s : DeskSession} {out : Outside σ} {deadline : Option Nat}
    {w w₁ : World σ} (first : d.session out id deadline w = (some (s, d.keep id s), w₁)) (text : String) :
    d.process out id text deadline w = (d.keep id s).process out id text deadline w₁ := by
  -- Once the session is kept, to look for it changes nothing.
  have again : (d.keep id s).session out id deadline w₁ = (some (s, d.keep id s), w₁) := by
    unfold Desk.session Desk.keep
    dsimp only
    rw [Table.get?_put, if_pos rfl]
    rfl
  have routed : d.route out id text deadline w = (d.keep id s).route out id text deadline w₁ := by
    unfold Desk.route
    rw [bind_of_some first, bind_of_some again]
  unfold Desk.process
  rw [bind_run, routed, bind_run]

theorem ChatManager.process_again {m : ChatManager} {id : String} {c : Chat} {out : Outside σ} {deadline : Option Nat}
    {w w₁ : World σ} (first : m.chat out id deadline w = (some (c, m.setChat id c), w₁)) (text : String) :
    m.process out id text deadline w = (m.setChat id c).process out id text deadline w₁ := by
  have again : (m.setChat id c).chat out id deadline w₁ = (some (c, m.setChat id c), w₁) := by
    unfold ChatManager.chat ChatManager.setChat
    dsimp only
    rw [Table.get?_put, if_pos rfl]
    rfl
  unfold ChatManager.process
  rw [bind_of_some first, bind_of_some again]

/-! ## The memory that a session goes on in -/

namespace DeskSession

section
variable {out : Outside σ} {message : String} {deadline : Option Nat} {s s₁ : DeskSession} {w w₁ : World σ}

theorem memory_of_buildSpecialist {role : String} {memory : Adapters} {chat : Chat}
    (h : buildSpecialist out role memory deadline w = (some (.ok chat), w₁)) : chat.memory = memory := by
  obtain ⟨sp, p, w₂, -, -, built⟩ := buildSpecialist_eq_ok h
  exact (Chat.build_new built).1

def Alike (s : DeskSession) : Prop := s.Own fun _ => False

theorem Refreshes.alike (h : Refreshes out deadline s w s₁ w₁) (alike : s.Alike) : s₁.Alike :=
  h.own_of_built alike fun made => ⟨fun _ _ => not_false, memory_of_buildSpecialist made⟩

theorem Passes.alike {ds : List Dispatch} (h : Passes out message deadline s w ds s₁ w₁) (alike : s.Alike) :
    s₁.Alike := by
  induction h with
  | nil => exact alike
  | cons hop on _ ih =>
    exact ih (on.own_of_built (hop.own alike) fun made => ⟨fun _ _ => not_false, memory_of_buildSpecialist made⟩)

theorem Ends.alike {hops : Nat} {r : Routed} (h : Ends out message deadline hops s w (some (r, s₁)) w₁)
    (alike : s.Alike) : s₁.Alike := by
  cases h with
  | spent passes _ =>
    have passed := passes.alike alike
    exact ⟨passed.apart, passed.memory⟩
  | answered passes _ hop _ _ => exact hop.own (passes.alike alike)

end

end DeskSession

/-! ## Sessions by id -/

namespace Held

def Fresh : Held → Prop
  | desk s => s.coordinator.history = [] ∧ s.speaker = .coordinator ∧ s.specialists = [] ∧ s.pending = none
  | single c => c.history = []

def chatId? : Held → Option ChatId
  | desk s => s.coordinator.id
  | single c => c.id

def Alike (h : Held) : Prop := ∀ c ∈ h.chats, c.memory = h.memory

theorem alike_desk {s : DeskSession} : (desk s).Alike ↔ s.Alike :=
  ⟨fun alike => ⟨fun _ _ _ _ => not_false, alike⟩, DeskSession.Own.memory⟩

theorem alike_single (c : Chat) : (single c).Alike := by
  intro c' hc
  rw [List.mem_singleton.mp hc]
  rfl

end Held

namespace Reception

def table : Reception → Table String Held
  | desk d => d.sessions.mapEntries .desk
  | single m => m.sessions.mapEntries .single

theorem session?_eq (r : Reception) (id : String) : r.session? id = r.table.get? id := by
  cases r <;> exact (Table.get?_mapEntries _ _ _).symm

def entries (r : Reception) : Table String Adapters := r.table.mapEntries Held.memory

/-! ## A session begins -/

/-- In the reception `r₁` there is the session `h` besides those of `r`. Nothing has happened in it yet; it
has the memory that is supplied to it, and the chat id that is drawn if there is any memory. -/
structure Begins (out : Outside σ) (id : String) (r : Reception) (w : World σ) (h : Held) (r₁ : Reception)
    (w₁ : World σ) : Prop where
  mode : r₁.memory = r.memory
  table : r₁.table = r.table.put id h
  fresh : h.Fresh
  alike : h.Alike
  memory : h.memory = (r.memory.supply w).1
  only : ∀ k, h.Has k → h.chatId? = some k
  drawn : if h.memory.isPersistent then
      h.chatId? = some (out.drawChatId w.outside).1 ∧
        w₁ = { (r.memory.supply w).2 with outside := (out.drawChatId w.outside).2 }
    else h.chatId? = none ∧ w₁ = (r.memory.supply w).2

section
variable {out : Outside σ} {deadline : Option Nat} {r r' r₁ : Reception} {w w' w₁ : World σ} {id text : String}
  {h : Held}

theorem chat_begins {m : ChatManager} (out : Outside σ) (deadline : Option Nat) (w : World σ)
    (new : m.sessions.get? id = none) : ∃ c w₁, m.chat out id deadline w = (some (c, m.setChat id c), w₁) ∧
      Begins out id (single m) w (.single c) (single (m.setChat id c)) w₁ := by
  obtain ⟨c, w₁, built⟩ := Chat.answers_build out m.config m.provider m.tools (m.memory.supply w).1 m.registry
    deadline (m.memory.supply w).2
  have first : m.chat out id deadline w = (some (c, m.setChat id c), w₁) := by
    unfold ChatManager.chat
    rw [new]
    dsimp only
    rw [bind_of_some m.memory.forNewSession_run, bind_of_some built]
    rfl
  obtain ⟨memory, history, drew⟩ := Chat.build_new built
  rw [m.memory.outside_supply, ← memory] at drew
  refine ⟨c, w₁, first, rfl, Table.mapEntries_put _ _ _ _, history, fun c' hc => ?_, memory, fun k has => ?_, drew⟩
  · rw [List.mem_singleton.mp hc]
    rfl
  · obtain ⟨c', hc, known⟩ := has
    rw [List.mem_singleton.mp hc] at known
    exact known

/-- **A message begins its session if need be.** Then it is received as if the session had been there. -/
theorem process_begins (out : Outside σ) (deadline : Option Nat) (w : World σ) (absent : r.session? id = none) :
    ∃ h r₁ w₁, Begins out id r w h r₁ w₁ ∧ (r.Named out deadline id w → r₁.Named out deadline id w₁) ∧
      ∀ text, r.process out id text deadline w = r₁.process out id text deadline w₁ := by
  cases r with
  | desk d =>
    have new : d.sessions.get? id = none := by simpa [session?] using absent
    obtain ⟨s, w₁, made⟩ := Desk.answers_newSession out d deadline w
    have first : d.session out id deadline w = (some (s, d.keep id s), w₁) := by
      unfold Desk.session
      rw [new]
      exact bind_of_some made _
    refine ⟨.desk s, .desk (d.keep id s), w₁, ?_, fun named => ?_, fun text => ?_⟩
    · unfold Desk.newSession at made
      rw [bind_of_some d.memory.forNewSession_run] at made
      obtain ⟨c, w₂, built, made⟩ := bind_eq_some.mp made
      obtain ⟨_, _, got, made⟩ := bind_eq_some.mp made
      cases got
      cases made
      obtain ⟨memory, history, drew⟩ := Chat.build_new built
      rw [d.memory.outside_supply] at drew
      refine ⟨rfl, Table.mapEntries_put _ _ _ _, ⟨history, rfl, rfl, rfl⟩, fun c' hc => ?_, rfl, fun k has => ?_, drew⟩
      · rw [List.mem_singleton.mp hc]
        exact memory
      · obtain ⟨c', hc, known⟩ := has
        rw [List.mem_singleton.mp hc] at known
        exact known
    · intro s' d' w' opens
      cases opens with
      | again has refreshed =>
        unfold Desk.keep at has
        rw [Table.get?_put, if_pos rfl] at has
        cases has
        exact named (.first new made refreshed)
      | first new' _ _ =>
        unfold Desk.keep at new'
        rw [Table.get?_put, if_pos rfl] at new'
        cases new'
    · rw [process_desk, process_desk, bind_run, Desk.process_again first, bind_run]
  | single m =>
    have new : m.sessions.get? id = none := by simpa [session?] using absent
    obtain ⟨c, w₁, first, begins⟩ := chat_begins out deadline w new
    refine ⟨.single c, .single (m.setChat id c), w₁, begins, fun _ => trivial, fun text => ?_⟩
    rw [process_single, process_single, bind_run, ChatManager.process_again first, bind_run]

/-! ## A session goes on -/

/-- **A session goes on in its memory**, and so do all its chats. -/
theorem process_goes_on {reply : String} (named : r.Named out deadline id w) (has : r.session? id = some h)
    (alike : h.Alike) (run : r.process out id text deadline w = (some (reply, r'), w')) :
    ∃ h', r'.memory = r.memory ∧ r'.table = r.table.put id h' ∧ h'.memory = h.memory ∧ h'.Alike := by
  cases r with
  | desk d =>
    obtain ⟨s, found, rfl⟩ := Option.map_eq_some_iff.mp has
    obtain ⟨⟨_, d'⟩, _, processed, same⟩ := bind_eq_some.mp run
    cases same
    obtain ⟨⟨routed, d'⟩, _, ran, same⟩ := bind_eq_some.mp processed
    cases same
    obtain ⟨s₁, d₁, w₁, s', opens, ends, rfl⟩ := Desk.route_eq_some named ran
    cases opens with
    | first new _ _ =>
      rw [found] at new
      cases new
    | again found' refreshed =>
      rw [found] at found'
      cases found'
      have memory : s'.memory = s.memory := ends.memory_eq.trans refreshed.memory_eq
      have kept := ends.alike (refreshed.alike (Held.alike_desk.mp alike))
      exact ⟨.desk s', rfl, Table.mapEntries_put _ _ _ _, memory, Held.alike_desk.mpr kept⟩
  | single m =>
    obtain ⟨c, found, rfl⟩ := Option.map_eq_some_iff.mp has
    obtain ⟨⟨_, m'⟩, _, processed, same⟩ := bind_eq_some.mp run
    cases same
    obtain ⟨⟨c₁, m₁⟩, _, taken, processed⟩ := bind_eq_some.mp processed
    obtain ⟨⟨t, c'⟩, _, turned, same⟩ := bind_eq_some.mp processed
    cases same
    unfold ChatManager.chat at taken
    rw [found] at taken
    cases taken
    refine ⟨.single c', rfl, Table.mapEntries_put _ _ _ _, ?_, Held.alike_single c'⟩
    rw [Chat.turn_chat turned]
    rfl

theorem spares_process {drawn : σ → List ChatId} {view : Nat → ChatId → σ → β} {P : ChatId → Prop}
    {result : Option (String × Reception)} (hd : out.Draws drawn) (keeps : out.Keeps view)
    (named : r.Named out deadline id w) (has : r.session? id = some h) (own : h.Own P)
    (clear : Clear P (drawn w'.outside) (drawn w.outside)) (once : (drawn w'.outside).Nodup)
    (run : r.process out id text deadline w = (result, w')) : w.Spares view P w' := by
  have there (new : r.session? id = none) : r.memory.Independent := by
    rw [has] at new
    cases new
  have owns (h' : Held) (has' : r.session? id = some h') : h'.Own P := by
    rw [has] at has'
    cases has'
    exact own
  exact (serves_process hd keeps once there named owns clear List.prefix_rfl run).1

/-! ## Sessions end -/

theorem endSession_absent (absent : r.session? id = none) :
    r.endSession out id deadline w = (some (false, r), w) := by
  cases r with
  | desk d =>
    have none : d.sessions.get? id = none := by simpa [session?] using absent
    have gone : d.endSession out id deadline w = (some (false, d), w) := by
      unfold Desk.endSession
      rw [none]
      rfl
    exact bind_of_some gone _
  | single m =>
    have none : m.sessions.get? id = none := by simpa [session?] using absent
    have gone : m.endSession out id deadline w = (some (false, m), w) := by
      unfold ChatManager.endSession
      rw [none]
      rfl
    exact bind_of_some gone _

/-- **The end of a session.** Its stores are closed if they are its own. -/
theorem endSession_live (out : Outside σ) (has : r.session? id = some h) :
    ∃ r', r'.memory = r.memory ∧ r'.table = r.table.erase id ∧ ∀ deadline w,
      r.endSession out id deadline w = (some (true, r'), World.closeEach out (r.memory.ofSession h.memory) w) := by
  cases r with
  | desk d =>
    obtain ⟨s, found, rfl⟩ := Option.map_eq_some_iff.mp has
    refine ⟨.desk { d with sessions := d.sessions.erase id }, rfl, Table.mapEntries_erase _ _ _, fun deadline w => ?_⟩
    have ended : d.endSession out id deadline w = (some (true, { d with sessions := d.sessions.erase id }),
        World.closeEach out (d.memory.ofSession s.memory) w) := by
      unfold Desk.endSession
      rw [found]
      exact bind_of_some (d.memory.closeSession_run s.memory) _
    exact bind_of_some ended _
  | single m =>
    obtain ⟨c, found, rfl⟩ := Option.map_eq_some_iff.mp has
    refine ⟨.single { m with sessions := m.sessions.erase id }, rfl, Table.mapEntries_erase _ _ _, fun deadline w => ?_⟩
    have ended : m.endSession out id deadline w = (some (true, { m with sessions := m.sessions.erase id }),
        World.closeEach out (m.memory.ofSession c.memory) w) := by
      unfold ChatManager.endSession
      rw [found]
      exact bind_of_some (m.memory.closeSession_run c.memory) _
    exact bind_of_some ended _

theorem shutdown_run (out : Outside σ) (r : Reception) :
    ∃ r', r'.memory = r.memory ∧ r'.table = [] ∧ ∀ deadline w,
      r.shutdown out deadline w = (some r', World.closeEach out (r.memory.ofAll (r.entries.map (·.2))) w) := by
  cases r with
  | desk d =>
    refine ⟨.desk { d with sessions := [] }, rfl, rfl, fun deadline w => ?_⟩
    have memories : (desk d).entries.map (·.2) = d.sessions.map (·.2.memory) := by
      simp [entries, table, Table.mapEntries, Held.memory]
    rw [memories]
    exact bind_of_some (bind_of_some (d.memory.close_run _) _) _
  | single m =>
    refine ⟨.single { m with sessions := [] }, rfl, rfl, fun deadline w => ?_⟩
    have memories : (single m).entries.map (·.2) = m.sessions.map (·.2.memory) := by
      simp [entries, table, Table.mapEntries, Held.memory]
    rw [memories]
    exact bind_of_some (bind_of_some (m.memory.close_run _) _) _

end

end Reception

end Concierge
