import Concierge.Proofs.Handoff.Alone

/-!
# Asking for the status

A desk looks up the session whose status it is asked for. An agent alone takes the session up, so it begins one
that is not there. Calls that visit and calls that ask for the status are served in turn (`Reception.serve`);
beside that stands the run in which only the visits are made. The two cannot be told apart at any point exactly
if no status begins a session (`Reception.status_changes_nothing_iff`).
-/

namespace Concierge

open Run

variable {σ α : Type}

inductive Contact (σ : Type) where
  | visit (v : Visit σ)
  | status (id : String)

inductive Answered where
  | visit (u : Upshot)
  | status (text : String)

def Contact.visit? : Contact σ → Option (Visit σ)
  | visit v => some v
  | status _ => none

def Answered.upshot? : Answered → Option Upshot
  | visit u => some u
  | status _ => none

/-- The contacts without those that ask for the status. -/
def visitsOf (calls : List (Option Nat × Contact σ)) : List (Option Nat × Visit σ) :=
  calls.filterMap fun (deadline, c) => c.visit?.map fun v => (deadline, v)

theorem visitsOf_visit (deadline : Option Nat) (v : Visit σ) (calls : List (Option Nat × Contact σ)) :
    visitsOf ((deadline, .visit v) :: calls) = (deadline, v) :: visitsOf calls := rfl

theorem visitsOf_status (deadline : Option Nat) (id : String) (calls : List (Option Nat × Contact σ)) :
    visitsOf ((deadline, .status id) :: calls) = visitsOf calls := rfl

/-- What came of the visits among these steps. -/
def upshotsOf (steps : List (Answered × Reception × World σ)) : List (Upshot × Reception × World σ) :=
  steps.filterMap fun (a, now) => a.upshot?.map fun u => (u, now)

/-- The reception and the world after these steps. -/
def standing (now : Reception × World σ) (steps : List (α × Reception × World σ)) : Reception × World σ :=
  steps.foldl (fun _ step => step.2) now

namespace Reception

def contact (out : Outside σ) (r : Reception) : Contact σ → Run σ (Answered × Reception)
  | .visit v => do
    let (u, r) ← r.visit out v
    return (.visit u, r)
  | .status id => do
    let (text, r) ← r.status out id
    return (.status text, r)

/-- Serve calls one after the other, like visits are attended to. -/
def serve (out : Outside σ) (r : Reception) :
    List (Option Nat × Contact σ) → World σ → List (Answered × Reception × World σ) × Option (World σ)
  | [], _ => ([], none)
  | (deadline, c) :: calls, w =>
    match r.contact out c deadline w with
    | (none, w) => ([], some w)
    | (some (a, r), w) =>
      let (steps, cut) := serve out r calls w
      ((a, r, w) :: steps, cut)

/-- The status of a session is only looked up. -/
def LooksUp (id : String) : Reception → Prop
  | desk _ => True
  | single m => (m.sessions.get? id).isSome

/-- Each status that is asked for is only looked up. -/
def OnlyLooksUp (out : Outside σ) (r : Reception) : List (Option Nat × Contact σ) → World σ → Prop
  | [], _ => True
  | (deadline, c) :: calls, w => (∀ id, c = .status id → r.LooksUp id) ∧
    match r.contact out c deadline w with
    | (none, _) => True
    | (some (_, r), w) => OnlyLooksUp out r calls w

/-- Without the calls for the status everything is the same: what comes of each visit, the reception and the
world then and at the end, and where the run is cut off. -/
structure Undisturbed (out : Outside σ) (r : Reception) (calls : List (Option Nat × Contact σ)) (w : World σ) :
    Prop where
  upshots : r.attend out (visitsOf calls) w = (upshotsOf (r.serve out calls w).1, (r.serve out calls w).2)
  standing : standing (r, w) (r.attend out (visitsOf calls) w).1 = standing (r, w) (r.serve out calls w).1

section
variable {out : Outside σ} {r r₁ : Reception} {c : Contact σ} {v : Visit σ} {deadline : Option Nat}
  {w w₁ : World σ} {a : Answered} {u : Upshot} {id text : String} {calls past : List (Option Nat × Contact σ)}

theorem serve_of_some (h : r.contact out c deadline w = (some (a, r₁), w₁)) (calls : List (Option Nat × Contact σ)) :
    r.serve out ((deadline, c) :: calls) w = ((a, r₁, w₁) :: (r₁.serve out calls w₁).1, (r₁.serve out calls w₁).2) := by
  rw [serve, h]

theorem serve_of_none (h : r.contact out c deadline w = (none, w₁)) (calls : List (Option Nat × Contact σ)) :
    r.serve out ((deadline, c) :: calls) w = ([], some w₁) := by
  rw [serve, h]

theorem contact_status (h : r.status out id deadline w = (some (text, r₁), w₁)) :
    r.contact out (.status id) deadline w = (some (.status text, r₁), w₁) := bind_of_some h _

/-! ## One status -/

theorem status_looksUp (h : r.LooksUp id) (out : Outside σ) :
    ∃ text, ∀ deadline w, r.status out id deadline w = (some (text, r), w) := by
  cases r with
  | desk d => exact ⟨_, fun deadline w => rfl⟩
  | single m =>
    obtain ⟨c, has⟩ := Option.isSome_iff_exists.mp h
    refine ⟨c.status, fun deadline w => ?_⟩
    have found : m.chat out id deadline w = (some (c, m), w) := by
      unfold ChatManager.chat
      rw [has]
      rfl
    exact bind_of_some found _

/-- **A status that is not looked up begins the session**, just as a message would. -/
theorem status_begins (out : Outside σ) (deadline : Option Nat) (w : World σ) (h : ¬ r.LooksUp id) :
    ∃ c m w₁, r.status out id deadline w = (some (c.status, .single m), w₁) ∧ r.session? id = none ∧
      Begins out id r w (.single c) (.single m) w₁ ∧
      ∀ text, r.process out id text deadline w = (Reception.single m).process out id text deadline w₁ := by
  cases r with
  | desk d => exact absurd trivial h
  | single m =>
    have new : m.sessions.get? id = none := Option.not_isSome_iff_eq_none.mp h
    obtain ⟨c, w₁, first, begins⟩ := chat_begins out deadline w new
    refine ⟨c, _, w₁, bind_of_some first _, by simpa [session?] using new, begins, fun text => ?_⟩
    rw [process_single, process_single, bind_run, ChatManager.process_again first, bind_run]

/-! ## Runs with and without them -/

theorem upshot_of_contact (h : r.contact out (.visit v) deadline w = (some (a, r₁), w₁)) :
    ∃ u, a = .visit u ∧ r.visit out v deadline w = (some (u, r₁), w₁) := by
  obtain ⟨⟨u, _⟩, _, visited, same⟩ := bind_eq_some.mp h
  cases same
  exact ⟨u, rfl, visited⟩

theorem contact_eq_none (h : r.contact out (.visit v) deadline w = (none, w₁)) :
    r.visit out v deadline w = (none, w₁) := by
  rcases answers_or_not (r.visit out v) deadline w with ⟨⟨u, r'⟩, w', visited⟩ | ⟨w', cut⟩
  · have answered : r.contact out (.visit v) deadline w = (some (.visit u, r'), w') := bind_of_some visited _
    rw [answered] at h
    cases h
  · have none : r.contact out (.visit v) deadline w = (none, w') := bind_of_none cut _
    rw [none] at h
    cases h
    exact cut

theorem undisturbed_visit (h : r.contact out (.visit v) deadline w = (some (a, r₁), w₁)) :
    r.Undisturbed out ((deadline, .visit v) :: calls) w ↔ r₁.Undisturbed out calls w₁ := by
  obtain ⟨u, rfl, visited⟩ := upshot_of_contact h
  have upshots (steps : List (Answered × Reception × World σ)) :
      upshotsOf ((.visit u, r₁, w₁) :: steps) = (u, r₁, w₁) :: upshotsOf steps := rfl
  constructor
  · rintro ⟨same, stands⟩
    rw [visitsOf_visit, attend_of_some visited, serve_of_some h] at same stands
    rw [upshots, Prod.mk.injEq, List.cons.injEq] at same
    exact ⟨Prod.ext same.1.2 same.2, stands⟩
  · rintro ⟨same, stands⟩
    constructor
    · rw [visitsOf_visit, attend_of_some visited, serve_of_some h, upshots, same]
    · rw [visitsOf_visit, attend_of_some visited, serve_of_some h]
      exact stands

theorem undisturbed_status (h : ∀ deadline w, r.status out id deadline w = (some (text, r), w)) :
    r.Undisturbed out ((deadline, .status id) :: calls) w ↔ r.Undisturbed out calls w := by
  have served := contact_status (h deadline w)
  constructor
  · rintro ⟨same, stands⟩
    rw [visitsOf_status, serve_of_some served] at same stands
    exact ⟨same, stands⟩
  · rintro ⟨same, stands⟩
    constructor
    · rw [visitsOf_status, serve_of_some served]
      exact same
    · rw [visitsOf_status, serve_of_some served]
      exact stands

theorem undisturbed_of_onlyLooksUp (out : Outside σ) (r : Reception) (calls : List (Option Nat × Contact σ))
    (w : World σ) (informed : r.OnlyLooksUp out calls w) : r.Undisturbed out calls w := by
  induction calls generalizing r w with
  | nil => exact ⟨rfl, rfl⟩
  | cons call calls ih =>
    obtain ⟨deadline, c⟩ := call
    obtain ⟨known, rest⟩ := informed
    cases c with
    | status id =>
      obtain ⟨text, status⟩ := status_looksUp (known id rfl) out
      rw [contact_status (status deadline w)] at rest
      exact (undisturbed_status status).mpr (ih r w rest)
    | visit v =>
      rcases answers_or_not (r.contact out (.visit v)) deadline w with ⟨⟨a, r₁⟩, w₁, served⟩ | ⟨w₁, cut⟩
      · rw [served] at rest
        exact (undisturbed_visit served).mpr (ih r₁ w₁ rest)
      · constructor
        · rw [visitsOf_visit, attend_of_none (contact_eq_none cut), serve_of_none cut]
          rfl
        · rw [visitsOf_visit, attend_of_none (contact_eq_none cut), serve_of_none cut]
          rfl

/-- Whether a session is there is the same without the calls for the status. -/
def SameSessions (out : Outside σ) (r : Reception) (calls : List (Option Nat × Contact σ)) (w : World σ) : Prop :=
  ∀ id, ((standing (r, w) (r.attend out (visitsOf calls) w).1).1.session? id).isSome =
    ((standing (r, w) (r.serve out calls w).1).1.session? id).isSome

theorem Undisturbed.sameSessions (h : r.Undisturbed out calls w) : r.SameSessions out calls w := by
  intro id
  rw [h.standing]

theorem onlyLooksUp_of_sameSessions (out : Outside σ) (r : Reception) (calls : List (Option Nat × Contact σ))
    (w : World σ) (same : ∀ past, past <+: calls → r.SameSessions out past w) : r.OnlyLooksUp out calls w := by
  induction calls generalizing r w with
  | nil => trivial
  | cons call calls ih =>
    obtain ⟨deadline, c⟩ := call
    cases c with
    | status id =>
      -- The session that it would begin is there after this call alone.
      have known : r.LooksUp id := by
        by_contra unknown
        obtain ⟨c, m, w₁, status, absent, begins, -⟩ := status_begins out deadline w unknown
        have once := same [(deadline, .status id)] ⟨calls, rfl⟩ id
        have there : (Reception.single m).session? id = some (.single c) := by
          rw [session?_eq, begins.table, Table.get?_put, if_pos rfl]
        rw [serve_of_some (contact_status status)] at once
        change (r.session? id).isSome = ((Reception.single m).session? id).isSome at once
        rw [absent, there] at once
        cases once
      obtain ⟨text, status⟩ := status_looksUp known out
      have served := contact_status (status deadline w)
      refine ⟨fun id' asked => ?_, ?_⟩
      · cases asked
        exact known
      · rw [served]
        refine ih r w fun past before id' => ?_
        have longer := same ((deadline, .status id) :: past) (List.cons_prefix_cons.mpr ⟨rfl, before⟩) id'
        rw [serve_of_some served] at longer
        exact longer
    | visit v =>
      refine ⟨fun _ => nofun, ?_⟩
      rcases answers_or_not (r.contact out (.visit v)) deadline w with ⟨⟨a, r₁⟩, w₁, served⟩ | ⟨w₁, cut⟩
      · rw [served]
        obtain ⟨u, rfl, visited⟩ := upshot_of_contact served
        refine ih r₁ w₁ fun past before id' => ?_
        have longer := same ((deadline, .visit v) :: past) (List.cons_prefix_cons.mpr ⟨rfl, before⟩) id'
        rw [visitsOf_visit, attend_of_some visited, serve_of_some served] at longer
        exact longer
      · rw [cut]
        trivial

theorem OnlyLooksUp.earlier (h : r.OnlyLooksUp out calls w) (before : past <+: calls) : r.OnlyLooksUp out past w := by
  induction past generalizing calls r w with
  | nil => trivial
  | cons call past ih =>
    obtain ⟨rest, rfl⟩ := before
    obtain ⟨known, later⟩ := h
    refine ⟨known, ?_⟩
    rcases answers_or_not (r.contact out call.2) call.1 w with ⟨⟨a, r₁⟩, w₁, served⟩ | ⟨w₁, cut⟩
    · rw [served] at later ⊢
      exact ih later ⟨rest, rfl⟩
    · rw [cut]
      trivial

/-! ## Desks -/

theorem visit_desk {d : Desk} (h : (desk d).visit out v deadline w = (some (u, r₁), w₁)) : ∃ d₁, r₁ = desk d₁ := by
  cases v with
  | message id text =>
    obtain ⟨_, _, answered, same⟩ := bind_eq_some.mp h
    obtain ⟨_, _, -, same'⟩ := bind_eq_some.mp answered
    cases same'
    cases same
    exact ⟨_, rfl⟩
  | leave id =>
    obtain ⟨_, _, ended, same⟩ := bind_eq_some.mp h
    obtain ⟨_, _, -, same'⟩ := bind_eq_some.mp ended
    cases same'
    cases same
    exact ⟨_, rfl⟩
  | close =>
    obtain ⟨_, _, closed, same⟩ := bind_eq_some.mp h
    obtain ⟨_, _, -, same'⟩ := bind_eq_some.mp closed
    cases same'
    cases same
    exact ⟨_, rfl⟩
  | meanwhile change =>
    cases h
    exact ⟨d, rfl⟩

theorem onlyLooksUp_desk (out : Outside σ) (d : Desk) (calls : List (Option Nat × Contact σ)) (w : World σ) :
    (desk d).OnlyLooksUp out calls w := by
  induction calls generalizing d w with
  | nil => trivial
  | cons call calls ih =>
    obtain ⟨deadline, c⟩ := call
    refine ⟨fun _ _ => trivial, ?_⟩
    rcases answers_or_not ((desk d).contact out c) deadline w with ⟨⟨a, r₁⟩, w₁, served⟩ | ⟨w₁, cut⟩
    · rw [served]
      cases c with
      | status id =>
        cases served
        exact ih d w
      | visit v =>
        obtain ⟨u, rfl, visited⟩ := upshot_of_contact served
        obtain ⟨d₁, rfl⟩ := visit_desk visited
        exact ih d₁ w₁
    · rw [cut]
      trivial

/-- **A status changes nothing unless it begins a session.** If a run asks only for statuses that are looked up
then at no point can it be told from the run without them, and otherwise there comes a point where a session is
there in one of the two only. A desk looks up every status. Where an agent alone does not, it begins the session
as the next message would have done. -/
theorem status_changes_nothing_iff (out : Outside σ) (r : Reception) (calls : List (Option Nat × Contact σ))
    (w : World σ) :
    (∀ (r : Reception) id text,
      r.process out id text = (fun heard => (heard.1.reply, heard.2)) <$> r.answer out id text) ∧
    (r.OnlyLooksUp out calls w ↔ ∀ past, past <+: calls → r.Undisturbed out past w) ∧
    (r.OnlyLooksUp out calls w ↔ ∀ past, past <+: calls → r.SameSessions out past w) ∧
    ((∃ d, r = desk d) → r.OnlyLooksUp out calls w) ∧
    ∀ id deadline, (∃ text, r.status out id deadline w = (some (text, r), w)) ∨
      ∃ c m w₁, r.status out id deadline w = (some (c.status, .single m), w₁) ∧ r.session? id = none ∧
        Begins out id r w (.single c) (.single m) w₁ ∧
        ∀ text, r.process out id text deadline w = (Reception.single m).process out id text deadline w₁ := by
  have undisturbed (informed : r.OnlyLooksUp out calls w) (past : List (Option Nat × Contact σ))
      (before : past <+: calls) : r.Undisturbed out past w :=
    undisturbed_of_onlyLooksUp out r past w (informed.earlier before)
  have informed (same : ∀ past, past <+: calls → r.SameSessions out past w) : r.OnlyLooksUp out calls w :=
    onlyLooksUp_of_sameSessions out r calls w same
  refine ⟨process_eq_answer out, ⟨undisturbed, fun all => ?_⟩, ⟨fun known past before => ?_, informed⟩, ?_, fun id deadline => ?_⟩
  · exact informed fun past before => (all past before).sameSessions
  · exact (undisturbed known past before).sameSessions
  · rintro ⟨d, rfl⟩
    exact onlyLooksUp_desk out d calls w
  · by_cases known : r.LooksUp id
    · obtain ⟨text, status⟩ := status_looksUp known out
      exact .inl ⟨text, status deadline w⟩
    · exact .inr (status_begins out deadline w known)

end

end Reception

namespace Rehearsal

/-- An agent alone, to whom nobody has talked yet. -/
def kiosk : ChatManager := { config := {}, provider := ⟨.outside, "main", 0⟩ }

/-- Somebody asks for the status and leaves. -/
def passerBy : List (Option Nat × Contact Stage) := [(none, .status "a"), (none, .visit (.leave "a"))]

def Upshot.left? : Upshot → Option Bool
  | .left there => some there
  | _ => none

end Rehearsal

open Rehearsal in
/-- Without the status there is nothing to leave. -/
theorem Reception.status_noticed_on_leaving :
    ¬ (Reception.single kiosk).Undisturbed Stage.outside passerBy weather := by
  intro same
  have left := congrArg (fun run => run.1.map fun step => Upshot.left? step.1) same.upshots
  have without : (((Reception.single kiosk).attend Stage.outside (visitsOf passerBy) weather).1.map
      fun step => Upshot.left? step.1) = [some false] := by decide +kernel
  have withIt : ((upshotsOf ((Reception.single kiosk).serve Stage.outside passerBy weather).1).map
      fun step => Upshot.left? step.1) = [some true] := by decide +kernel
  rw [without, withIt] at left
  cases left

end Concierge
