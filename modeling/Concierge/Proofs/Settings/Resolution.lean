import Concierge.Proofs.Table
import Concierge.Registry.Basic
import Concierge.Settings.Configuration

/-!
# What settings resolve to

The checks are made in a fixed order and the first that fails is told. What passes them is put together from
the foremost sources, with each specialist as it is defined last, in the order of the last definitions; a
registry takes these specialists as they are.
-/

namespace Concierge

inductive Foremost {α : Type} : List (Option α) → α → Prop
  | here (a : α) (rest : List (Option α)) : Foremost (some a :: rest) a
  | next {rest : List (Option α)} {a : α} (h : Foremost rest a) : Foremost (none :: rest) a

theorem foremost_iff {α : Type} {sources : List (Option α)} {a : α} :
    Foremost sources a ↔ sources.findSome? id = some a := by
  constructor
  · intro h
    induction h with
    | here => rfl
    | next _ ih => exact ih
  · intro h
    induction sources with
    | nil => cases h
    | cons source rest ih =>
      cases source with
      | none => exact .next (ih h)
      | some b =>
        cases h
        exact .here a rest

namespace Configuration

variable {o : Overrides} {e : Environment} {s : Settings} {folder : String} {c : Configuration}
  {role : String} {ds kept : List Specialist} {d : Specialist} {error : SettingsError}

/-! ## The checks -/

def HasKey (o : Overrides) (e : Environment) (s : Settings) : Prop :=
  ∃ key, Foremost [o.apiKey, e.apiKey, s.service.apiKey] key ∧ Text.blank key = false

def Fine (coordinator : String) (d : Specialist) : Prop := Text.blank d.role = false ∧ d.role ≠ coordinator

/-- The first check that fails, with its error. -/
inductive Flawed (o : Overrides) (e : Environment) (s : Settings) : SettingsError → Prop
  | noKey (key : ¬HasKey o e s) :
      Flawed o e s (.missing "api_key (set GEMINI_API_KEY or add to ~/.switchboard/config.toml)")
  | noIterations (key : HasKey o e s) (forbidden : s.agents.maxIterations = 0) :
      Flawed o e s (.invalid "agent.max_iterations" "must be at least 1")
  | unnamed {before after : List Specialist} {d : Specialist} (key : HasKey o e s)
      (allowed : 1 ≤ s.agents.maxIterations) (whole : s.specialists = before ++ d :: after)
      (fine : ∀ d' ∈ before, Fine s.coordinator.role d') (blank : Text.blank d.role = true) :
      Flawed o e s (.invalid "specialists.role" "must not be empty")
  | clash {before after : List Specialist} {d : Specialist} (key : HasKey o e s)
      (allowed : 1 ≤ s.agents.maxIterations) (whole : s.specialists = before ++ d :: after)
      (fine : ∀ d' ∈ before, Fine s.coordinator.role d') (named : Text.blank d.role = false)
      (same : d.role = s.coordinator.role) :
      Flawed o e s (.invalid "specialists.role" ("'" ++ d.role ++ "' is the coordinator's role"))

structure Sound (o : Overrides) (e : Environment) (s : Settings) : Prop where
  key : HasKey o e s
  iterations : 1 ≤ s.agents.maxIterations
  specialists : ∀ d ∈ s.specialists, Fine s.coordinator.role d

/-! ## The specialists -/

/-- The last entry of one role comes before the last entry of another. -/
def Before (ds : List Specialist) (a b : Specialist) : Prop :=
  ∃ before after, ds = before ++ a :: after ∧ (∀ d ∈ after, d.role ≠ a.role) ∧
    Table.LastUnder Specialist.role after b.role b

/-- The last entry of each role, in the order of the last entries. -/
structure Kept (ds kept : List Specialist) : Prop where
  once : (kept.map Specialist.role).Nodup
  roles : ∀ role, role ∈ kept.map Specialist.role ↔ role ∈ ds.map Specialist.role
  last : ∀ d ∈ kept, Table.LastUnder Specialist.role ds d.role d
  ordered : kept.Pairwise (Before ds)

theorem Kept.nil : Kept [] [] where
  once := .nil
  roles _ := Iff.rfl
  last _ h := by cases h
  ordered := .nil

theorem Before.concat {a b : Specialist} (h : Before ds a b) (forA : d.role ≠ a.role) (forB : d.role ≠ b.role) :
    Before (ds ++ [d]) a b := by
  obtain ⟨before, after, rfl, others, last⟩ := h
  refine ⟨before, after ++ [d], by simp, fun d' hd' => ?_, (Table.lastUnder_concat_of_ne after forB).mpr last⟩
  rcases List.mem_append.mp hd' with hd' | hd'
  · exact others d' hd'
  · rw [List.mem_singleton.mp hd']
    exact forA

theorem before_concat_self {a : Specialist} (h : Table.LastUnder Specialist.role ds a.role a)
    (other : d.role ≠ a.role) : Before (ds ++ [d]) a d := by
  obtain ⟨before, after, rfl, -, others⟩ := h
  refine ⟨before, after ++ [d], by simp, fun d' hd' => ?_, (Table.lastUnder_concat_self after d).mpr rfl⟩
  rcases List.mem_append.mp hd' with hd' | hd'
  · exact others d' hd'
  · rw [List.mem_singleton.mp hd']
    exact other

theorem mem_eraseP_role (once : (kept.map Specialist.role).Nodup) {a : Specialist} :
    a ∈ kept.eraseP (·.role = role) ↔ a ∈ kept ∧ a.role ≠ role := by
  induction kept with
  | nil => simp
  | cons first kept ih =>
    obtain ⟨absent, rest⟩ := List.nodup_cons.mp once
    by_cases here : first.role = role
    · rw [List.eraseP_cons_of_pos (by simpa using here), List.mem_cons]
      have others : ∀ a ∈ kept, a.role ≠ role := by
        intro a ha same
        rw [here, ← same] at absent
        exact absent (List.mem_map_of_mem ha)
      constructor
      · exact fun ha => ⟨.inr ha, others a ha⟩
      · rintro ⟨rfl | ha, other⟩
        · exact absurd here other
        · exact ha
    · rw [List.eraseP_cons_of_neg (by simpa using here), List.mem_cons, List.mem_cons, ih rest]
      constructor
      · rintro (rfl | ⟨ha, other⟩)
        · exact ⟨.inl rfl, here⟩
        · exact ⟨.inr ha, other⟩
      · rintro ⟨rfl | ha, other⟩
        · exact .inl rfl
        · exact .inr ⟨ha, other⟩

theorem Kept.concat (h : Kept ds kept) (d : Specialist) :
    Kept (ds ++ [d]) (kept.eraseP (·.role = d.role) ++ [d]) := by
  -- What was kept of its role goes. The rest is of other roles, for which the new entry comes too late.
  have mem {a : Specialist} : a ∈ kept.eraseP (·.role = d.role) ↔ a ∈ kept ∧ a.role ≠ d.role :=
    mem_eraseP_role h.once
  have sub : (kept.eraseP (·.role = d.role)).Sublist kept := List.eraseP_sublist
  constructor
  case once =>
    rw [List.map_append, List.nodup_append]
    refine ⟨h.once.sublist (sub.map _), List.pairwise_singleton _ _, fun r hr r' hr' => ?_⟩
    obtain ⟨a, ha, rfl⟩ := List.mem_map.mp hr
    rw [List.mem_singleton.mp hr']
    exact (mem.mp ha).2
  case roles =>
    intro role
    rw [List.map_append, List.mem_append, List.map_append, List.mem_append, ← h.roles, List.map_singleton,
      List.mem_singleton]
    constructor
    · rintro (known | new)
      · exact .inl ((sub.map _).subset known)
      · exact .inr new
    · rintro (known | new)
      · obtain ⟨a, ha, rfl⟩ := List.mem_map.mp known
        by_cases same : a.role = d.role
        · exact .inr same
        · exact .inl (List.mem_map_of_mem (mem.mpr ⟨ha, same⟩))
      · exact .inr new
  case last =>
    intro a ha
    rcases List.mem_append.mp ha with ha | ha
    · obtain ⟨old, other⟩ := mem.mp ha
      exact (Table.lastUnder_concat_of_ne ds other.symm).mpr (h.last a old)
    · rw [List.mem_singleton.mp ha]
      exact (Table.lastUnder_concat_self ds d).mpr rfl
  case ordered =>
    rw [List.pairwise_append]
    refine ⟨?_, List.pairwise_singleton _ _, fun a ha b hb => ?_⟩
    · refine (h.ordered.sublist sub).imp_of_mem fun {a b} ha hb before => ?_
      exact before.concat (mem.mp ha).2.symm (mem.mp hb).2.symm
    · obtain ⟨old, other⟩ := mem.mp ha
      rw [List.mem_singleton.mp hb]
      exact before_concat_self (h.last a old) other.symm

theorem addSpecialist_of_fine (fine : Fine role d) (kept : List Specialist) :
    addSpecialist role kept d = .ok (kept.eraseP (·.role = d.role) ++ [d]) := by
  unfold addSpecialist
  rw [fine.1, if_neg fine.2]
  rfl

theorem specialists_of_fine (fine : ∀ d ∈ ds, Fine role d) :
    ∃ kept, ds.foldlM (addSpecialist role) [] = .ok kept ∧ Kept ds kept := by
  -- The loop goes from the front, so the induction takes the list from its end.
  induction ds using List.reverseRecOn with
  | nil => exact ⟨[], rfl, .nil⟩
  | append_singleton ds d ih =>
    obtain ⟨kept, collected, keeps⟩ := ih fun d' hd' => fine d' (List.mem_append_left _ hd')
    refine ⟨_, ?_, keeps.concat d⟩
    have last := addSpecialist_of_fine (fine d (by simp)) kept
    rw [List.foldlM_append, collected]
    show [d].foldlM (addSpecialist role) kept = _
    rw [List.foldlM_cons, last]
    rfl

theorem specialists_of_flaw {before after : List Specialist} (fine : ∀ d' ∈ before, Fine role d')
    (flaw : ∀ kept, addSpecialist role kept d = .error error) :
    (before ++ d :: after).foldlM (addSpecialist role) [] = .error error := by
  obtain ⟨kept, collected, -⟩ := specialists_of_fine fine
  rw [List.foldlM_append, collected]
  show (d :: after).foldlM (addSpecialist role) kept = _
  rw [List.foldlM_cons, flaw kept]
  rfl

theorem fine_or_first_flaw (role : String) (ds : List Specialist) :
    (∀ d ∈ ds, Fine role d) ∨
      ∃ before d after, ds = before ++ d :: after ∧ (∀ d' ∈ before, Fine role d') ∧ ¬Fine role d := by
  induction ds with
  | nil => exact .inl (by simp)
  | cons d ds ih =>
    by_cases fine : Fine role d
    · rcases ih with all | ⟨before, d', after, rfl, first, flaw⟩
      · exact .inl (List.forall_mem_cons.mpr ⟨fine, all⟩)
      · exact .inr ⟨d :: before, d', after, rfl, List.forall_mem_cons.mpr ⟨fine, first⟩, flaw⟩
    · exact .inr ⟨[], d, ds, rfl, by simp, fine⟩

/-! ## The key -/

theorem apiKey?_of_blank (missing : ¬HasKey o e s) : apiKey? o e s = .error apiKey?.missing := by
  unfold apiKey?
  cases given : o.apiKey <|> e.apiKey <|> s.service.apiKey with
  | none => rfl
  | some key =>
    have first : Foremost [o.apiKey, e.apiKey, s.service.apiKey] key := by
      rw [foremost_iff, ← given]
      cases o.apiKey <;> cases e.apiKey <;> cases s.service.apiKey <;> rfl
    cases blank : Text.blank key with
    | true => simp [blank]
    | false => exact absurd ⟨key, first, blank⟩ missing

theorem apiKey?_of_foremost {key : String} (first : Foremost [o.apiKey, e.apiKey, s.service.apiKey] key)
    (notBlank : Text.blank key = false) : apiKey? o e s = .ok key := by
  have given : (o.apiKey <|> e.apiKey <|> s.service.apiKey) = some key := by
    rw [← foremost_iff.mp first]
    cases o.apiKey <;> cases e.apiKey <;> cases s.service.apiKey <;> rfl
  unfold apiKey?
  rw [given]
  simp [notBlank]

/-! ## The configuration -/

structure Resolved (o : Overrides) (e : Environment) (s : Settings) (folder : String) (c : Configuration) : Prop where
  apiKey : Foremost [o.apiKey, e.apiKey, s.service.apiKey] c.apiKey
  model : Foremost [o.model, e.model, s.service.model, some defaultModel] c.model
  baseUrl : Foremost [e.baseUrl, s.service.baseUrl, some defaultBaseUrl] c.baseUrl
  backend : Foremost [o.backend, some s.memory.backend] c.memory.backend
  memoryFolder : Foremost [s.memory.folder, some (pathIn folder "memory")] c.memory.folder
  specialists : Kept s.specialists c.specialists
  kept : c.folder = folder ∧ c.agents = s.agents ∧ c.coordinator = s.coordinator ∧ c.memory.shared = s.memory.shared

theorem Sound.resolve (h : Sound o e s) (folder : String) :
    ∃ c, Configuration.resolve o e s folder = .ok c ∧ Resolved o e s folder c := by
  obtain ⟨key, first, notBlank⟩ := h.key
  obtain ⟨kept, collected, keeps⟩ := specialists_of_fine h.specialists
  have allowed : s.agents.maxIterations ≠ 0 := Nat.one_le_iff_ne_zero.mp h.iterations
  unfold Configuration.resolve distinctSpecialists
  rw [apiKey?_of_foremost first notBlank, collected]
  simp only [Except.bind, bind, if_neg allowed, pure, Except.pure]
  refine ⟨_, rfl, ?_⟩
  constructor
  case apiKey => exact first
  case model =>
    rw [foremost_iff]
    cases o.model <;> cases e.model <;> cases s.service.model <;> rfl
  case baseUrl =>
    rw [foremost_iff]
    cases e.baseUrl <;> cases s.service.baseUrl <;> rfl
  case backend =>
    rw [foremost_iff]
    cases o.backend <;> rfl
  case memoryFolder =>
    rw [foremost_iff]
    cases s.memory.folder <;> rfl
  case specialists => exact keeps
  case kept => exact ⟨rfl, rfl, rfl, rfl⟩

theorem resolve_of_flaw_in_specialists (key : HasKey o e s) (allowed : 1 ≤ s.agents.maxIterations)
    (flaw : s.specialists.foldlM (addSpecialist s.coordinator.role) [] = .error error) :
    resolve o e s folder = .error error := by
  obtain ⟨key, first, notBlank⟩ := key
  unfold resolve distinctSpecialists
  rw [apiKey?_of_foremost first notBlank, flaw]
  simp only [Except.bind, bind, if_neg (Nat.one_le_iff_ne_zero.mp allowed)]

theorem Flawed.resolve (h : Flawed o e s error) (folder : String) :
    Configuration.resolve o e s folder = .error error := by
  cases h with
  | noKey key =>
    unfold Configuration.resolve
    rw [apiKey?_of_blank key]
    rfl
  | noIterations key forbidden =>
    obtain ⟨key, first, notBlank⟩ := key
    unfold Configuration.resolve
    rw [apiKey?_of_foremost first notBlank, forbidden]
    rfl
  | unnamed key allowed whole fine blank =>
    refine resolve_of_flaw_in_specialists key allowed ?_
    rw [whole]
    refine specialists_of_flaw fine fun kept => ?_
    unfold addSpecialist
    rw [if_pos blank]
  | clash key allowed whole fine named same =>
    refine resolve_of_flaw_in_specialists key allowed ?_
    rw [whole]
    refine specialists_of_flaw fine fun kept => ?_
    unfold addSpecialist
    rw [named, if_pos same]
    rfl

theorem sound_or_flawed (o : Overrides) (e : Environment) (s : Settings) :
    Sound o e s ∨ ∃ error, Flawed o e s error := by
  by_cases key : HasKey o e s
  · rcases Nat.eq_zero_or_pos s.agents.maxIterations with forbidden | allowed
    · exact .inr ⟨_, .noIterations key forbidden⟩
    · rcases fine_or_first_flaw s.coordinator.role s.specialists with all | ⟨before, d, after, whole, fine, flaw⟩
      · exact .inl ⟨key, allowed, all⟩
      · cases blank : Text.blank d.role with
        | true => exact .inr ⟨_, .unnamed key allowed whole fine blank⟩
        | false =>
          have same : d.role = s.coordinator.role := Classical.byContradiction fun other => flaw ⟨blank, other⟩
          exact .inr ⟨_, .clash key allowed whole fine blank same⟩
  · exact .inr ⟨_, .noKey key⟩

theorem Kept.distinct (h : Kept ds kept) : Registry.distinct kept = kept := by
  show (Table.collect Specialist.role kept).map (·.2) = kept
  rw [Table.collect_of_nodup h.once, List.map_map]
  exact List.map_id _

/-- **Settings resolve exactly when every check passes**, and the error is that of the first check that fails. Each
part of the configuration comes from its foremost source, the specialists are the last entries of their roles in
the order of these, and a registry keeps them so. -/
theorem resolve_meets_precedence (o : Overrides) (e : Environment) (s : Settings) (folder : String) :
    ((∃ c, resolve o e s folder = .ok c) ↔ Sound o e s) ∧
    (∀ error, resolve o e s folder = .error error ↔ Flawed o e s error) ∧
    ∀ c, resolve o e s folder = .ok c →
      Resolved o e s folder c ∧ ∀ r : Registry, (r.configure c.specialists).definitions = c.specialists := by
  rcases sound_or_flawed o e s with sound | ⟨error, flawed⟩
  · obtain ⟨c, resolved, built⟩ := sound.resolve folder
    refine ⟨⟨fun _ => sound, fun _ => ⟨c, resolved⟩⟩, fun error => ⟨fun failed => ?_, fun flawed => flawed.resolve folder⟩,
      fun c' resolved' => ?_⟩
    · rw [resolved] at failed
      cases failed
    · rw [resolved] at resolved'
      cases resolved'
      exact ⟨built, fun r => built.specialists.distinct⟩
  · have failed := flawed.resolve folder
    refine ⟨⟨fun h => ?_, fun sound => ?_⟩, fun error' => ⟨fun failed' => ?_, fun flawed' => flawed'.resolve folder⟩,
      fun c resolved => ?_⟩
    · obtain ⟨c, resolved⟩ := h
      rw [failed] at resolved
      cases resolved
    · obtain ⟨c, resolved, -⟩ := sound.resolve folder
      rw [failed] at resolved
      cases resolved
    · rw [failed] at failed'
      cases failed'
      exact flawed
    · rw [failed] at resolved
      cases resolved

end Configuration

namespace Rehearsal

/-- Settings in which a role is defined twice and another one in between. -/
def triage : Settings where
  service := { model := some "gemini-pro" }
  specialists := [⟨"billing", "Find invoices", "", none, false⟩, ⟨"travel", "Book trips", "", none, false⟩,
    ⟨"billing", "Explain invoices", "", none, false⟩]

end Rehearsal

open Rehearsal in
theorem Configuration.resolve_meets_precedence_triage :
    (∃ c, resolve {} { apiKey := some "k", model := some "env" } triage "home" = .ok c ∧ c.model = "env" ∧
      c.specialists.map Specialist.objective = ["Book trips", "Explain invoices"] ∧
      ∀ r : Registry, (r.configure c.specialists).definitions = c.specialists) ∧
    resolve { apiKey := some " " } { apiKey := some "k" } triage "home" = .error apiKey?.missing := by
  have good := resolve_meets_precedence {} { apiKey := some "k", model := some "env" } triage "home"
  have bad := resolve_meets_precedence { apiKey := some " " } { apiKey := some "k" } triage "home"
  have sound : Sound {} { apiKey := some "k", model := some "env" } triage := by
    refine ⟨⟨"k", .next (.here _ _), by decide +kernel⟩, by decide, fun d hd => ?_⟩
    rcases List.mem_cons.mp hd with rfl | hd
    · exact ⟨by decide +kernel, by decide +kernel⟩
    · rcases List.mem_cons.mp hd with rfl | hd
      · exact ⟨by decide +kernel, by decide +kernel⟩
      · rw [List.mem_singleton.mp hd]
        exact ⟨by decide +kernel, by decide +kernel⟩
  refine ⟨?_, (bad.2.1 _).mpr (.noKey ?_)⟩
  · obtain ⟨c, resolved⟩ := good.1.mpr sound
    obtain ⟨built, same⟩ := good.2.2 c resolved
    have found : (resolve {} { apiKey := some "k", model := some "env" } triage "home").toOption.map
        (fun c => (c.model, c.specialists.map Specialist.objective)) =
          some ("env", ["Book trips", "Explain invoices"]) := by decide +kernel
    rw [resolved] at found
    obtain ⟨model, specialists⟩ := Prod.mk.inj (Option.some.inj found)
    exact ⟨c, resolved, model, specialists, same⟩
  · rintro ⟨key, first, notBlank⟩
    cases first
    revert notBlank
    decide +kernel

end Concierge
