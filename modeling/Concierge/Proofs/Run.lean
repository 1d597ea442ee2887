import Concierge.World.Run

/-!
# How runs are put together

A run of two parts answers when both do. A relation between worlds that the parts of a run keep to
(`Along`) is kept to by the whole run, whether it answers or is cut off.
-/

namespace Concierge

inductive Outside.Moves {σ : Type} (out : Outside σ) (s : σ) : σ → Prop
  | createModel (model : String) : Moves out s (out.createModel model s).2
  | generate (p : Provider) (r : Request) : Moves out s (out.generate p r s).2
  | callTool (key : Nat) (args : Value) (context : ToolContext) :
      Moves out s (out.callTool key args context s).2
  | send (r : HttpRequest) : Moves out s (out.send r s).2
  | jitter : Moves out s (out.jitter s).2
  | drawChatId : Moves out s (out.drawChatId s).2

namespace Run

variable {σ α β : Type} {deadline : Option Nat} {w w₁ : World σ}

/-! ## Answers -/

@[simp] theorem pure_run (a : α) : (Pure.pure a : Run σ α) deadline w = (some a, w) := rfl

@[simp] theorem get_run : (get : Run σ (World σ)) deadline w = (some w, w) := rfl

@[simp] theorem modifyGet_run (f : World σ → α × World σ) :
    modifyGet f deadline w = (some (f w).1, (f w).2) := rfl

theorem bind_run (x : Run σ α) (f : α → Run σ β) :
    (x >>= f) deadline w = match x deadline w with
      | (some a, w₁) => f a deadline w₁
      | (none, w₁) => (none, w₁) := rfl

theorem bind_of_some {x : Run σ α} {a : α} (h : x deadline w = (some a, w₁)) (f : α → Run σ β) :
    (x >>= f) deadline w = f a deadline w₁ := by
  rw [bind_run, h]

theorem bind_of_none {x : Run σ α} (h : x deadline w = (none, w₁)) (f : α → Run σ β) :
    (x >>= f) deadline w = (none, w₁) := by
  rw [bind_run, h]

theorem bind_eq_some {x : Run σ α} {f : α → Run σ β} {b : β} :
    (x >>= f) deadline w = (some b, w₁) ↔
      ∃ a w₂, x deadline w = (some a, w₂) ∧ f a deadline w₂ = (some b, w₁) := by
  rw [bind_run]
  constructor
  · intro h
    split at h
    · rename_i a w₂ hx
      exact ⟨a, w₂, hx, h⟩
    · cases h
  · rintro ⟨a, w₂, hx, hf⟩
    rw [hx]
    exact hf

theorem answers_or_not (x : Run σ α) (deadline : Option Nat) (w : World σ) :
    (∃ a w₁, x deadline w = (some a, w₁)) ∨ ∃ w₁, x deadline w = (none, w₁) := by
  rcases h : x deadline w with ⟨_ | a, w₁⟩
  · exact Or.inr ⟨w₁, rfl⟩
  · exact Or.inl ⟨a, w₁, rfl⟩

theorem answer_of_seen (x : Run σ α) (deadline : Option Nat) (w : World σ) (f : α → World σ → β) {b : β}
    (seen : (x deadline w).1.map (f · (x deadline w).2) = some b) :
    ∃ a w₁, x deadline w = (some a, w₁) ∧ f a w₁ = b := by
  rcases run : x deadline w with ⟨_ | a, w₁⟩
  · simp [run] at seen
  · simp only [run, Option.map_some, Option.some.injEq] at seen
    exact ⟨a, w₁, rfl, seen⟩

theorem within_world (limit : Option Nat) (x : Run σ α) (deadline : Option Nat) (w : World σ) :
    ∃ d, (within limit x deadline w).2 = (x d w).2 := by
  unfold within
  cases limit with
  | none =>
    refine ⟨deadline, ?_⟩
    rcases x deadline w with ⟨_ | a, w₁⟩ <;> rfl
  | some ms =>
    cases deadline with
    | none =>
      refine ⟨some (w.clock + ms), ?_⟩
      simp only [Bool.false_eq_true, ↓reduceIte]
      rcases x (some (w.clock + ms)) w with ⟨_ | a, w₁⟩ <;> rfl
    | some d =>
      by_cases h : d < w.clock + ms
      · refine ⟨some d, ?_⟩
        simp only [h, decide_true, ↓reduceIte]
        rcases x (some d) w with ⟨_ | a, w₁⟩ <;> rfl
      · refine ⟨some (w.clock + ms), ?_⟩
        simp only [h, decide_false, Bool.false_eq_true, ↓reduceIte]
        rcases x (some (w.clock + ms)) w with ⟨_ | a, w₁⟩ <;> rfl

def sooner (deadline : Option Nat) (time : Nat) : Bool :=
  match deadline with
  | some d => decide (d < time)
  | none => false

theorem sleep_run (delay : Nat) (d : Option Nat) (w : World σ) :
    (sleep delay : Run σ Unit) d w = if sooner d (w.clock + delay) then (none, expire d w)
      else (some (), { w with clock := w.clock + delay }) := rfl

theorem await_after (delay : Nat) (a : α) (d : Option Nat) (w : World σ) :
    await (.after delay a) d w = if sooner d (w.clock + delay) then (none, expire d w)
      else (some a, { w with clock := w.clock + delay }) := by
  show (do sleep delay; Pure.pure a : Run σ α) d w = _
  rw [bind_run, sleep_run]
  by_cases late : sooner d (w.clock + delay) = true
  · rw [if_pos late, if_pos late]
  · rw [if_neg late, if_neg late]
    rfl

theorem within_some (ms : Nat) (x : Run σ α) (d : Option Nat) (w : World σ) :
    within (some ms) x d w =
      match x (if sooner d (w.clock + ms) then d else some (w.clock + ms)) w with
      | (some a, w₁) => (some (some a), w₁)
      | (none, w₁) => if sooner d (w.clock + ms) then (none, w₁) else (some none, w₁) := rfl

theorem within_none (x : Run σ α) (d : Option Nat) (w : World σ) :
    within none x d w = ((x d w).1.map some, (x d w).2) := by
  unfold within
  rcases x d w with ⟨_ | a, w₁⟩ <;> rfl

theorem not_sooner_of_le {d : Option Nat} {t t' : Nat} (h : sooner d t' = false) (le : t ≤ t') :
    sooner d t = false := by
  cases d with
  | none => rfl
  | some d =>
    simp only [sooner, decide_eq_false_iff_not, Nat.not_lt] at h ⊢
    exact Nat.le_trans le h

theorem within_pure (limit : Option Nat) (a : α) :
    within limit (Pure.pure a : Run σ α) deadline w = (some (some a), w) := by
  cases limit <;> rfl

theorem within_of_answers {x : Run σ α} {a : α} (h : ∀ d, x d w = (some a, w₁)) (limit : Option Nat) :
    within limit x deadline w = (some (some a), w₁) := by
  cases limit with
  | none => rw [within_none, h]; rfl
  | some ms => rw [within_some, h]

theorem limit_of_within {limit : Option Nat} {x : Run σ α}
    (h : within limit x deadline w = (some none, w₁)) : ∃ ms, limit = some ms := by
  cases limit with
  | some ms => exact ⟨ms, rfl⟩
  | none =>
    unfold within at h
    rcases hx : x deadline w with ⟨_ | a, w₂⟩ <;> simp [hx] at h

/-- The run answers at once or later, whatever the deadline. -/
def Answers (x : Run σ α) : Prop := ∀ deadline w, ∃ a w₁, x deadline w = (some a, w₁)

theorem answers_pure (a : α) : Answers (Pure.pure a : Run σ α) := fun _ w => ⟨a, w, rfl⟩

theorem answers_get : Answers (get : Run σ (World σ)) := fun _ w => ⟨w, w, rfl⟩

theorem answers_modifyGet (f : World σ → α × World σ) : Answers (modifyGet f) :=
  fun _ w => ⟨(f w).1, (f w).2, rfl⟩

theorem answers_bind {x : Run σ α} {f : α → Run σ β} (hx : Answers x) (hf : ∀ a, Answers (f a)) :
    Answers (x >>= f) := by
  intro deadline w
  obtain ⟨a, w₁, h⟩ := hx deadline w
  rw [bind_of_some h]
  exact hf a deadline w₁

theorem answers_within {x : Run σ α} (hx : Answers x) (limit : Option Nat) : Answers (within limit x) := by
  intro deadline w
  cases limit with
  | none =>
    obtain ⟨a, w₁, ran⟩ := hx deadline w
    rw [within_none, ran]
    exact ⟨_, _, rfl⟩
  | some ms =>
    obtain ⟨a, w₁, ran⟩ := hx (if sooner deadline (w.clock + ms) then deadline else some (w.clock + ms)) w
    rw [within_some, ran]
    exact ⟨_, _, rfl⟩

/-! ## Keeping to a relation -/

/-- The run takes the world only where `R` allows, also if it is cut off. -/
def Along (R : World σ → World σ → Prop) (x : Run σ α) : Prop :=
  ∀ deadline w, R w (x deadline w).2

theorem Along.of_run {R : World σ → World σ → Prop} {x : Run σ α} {a : Option α} (hx : Along R x)
    (h : x deadline w = (a, w₁)) : R w w₁ := by
  have along := hx deadline w
  rw [h] at along
  exact along

/-- What is allowed may be done in steps; time may pass and the outside may be asked. -/
structure Drift (out : Outside σ) (R : World σ → World σ → Prop) : Prop where
  trans : ∀ {w₁ w₂ w₃}, R w₁ w₂ → R w₂ w₃ → R w₁ w₃
  clock : ∀ w c, R w { w with clock := c }
  outside : ∀ w o, out.Moves w.outside o → R w { w with outside := o }

section
variable {out : Outside σ} {R : World σ → World σ → Prop} (hR : Drift out R)
include hR

theorem Drift.refl (w : World σ) : R w w := hR.clock w w.clock

theorem along_pure (a : α) : Along R (Pure.pure a : Run σ α) := fun _ w => hR.refl w

theorem along_get : Along R (get : Run σ (World σ)) := fun _ w => hR.refl w

theorem along_bind {x : Run σ α} {f : α → Run σ β} (hx : Along R x) (hf : ∀ a, Along R (f a)) :
    Along R (x >>= f) := by
  intro deadline w
  have h := hx deadline w
  rcases answers_or_not x deadline w with ⟨a, w₁, ha⟩ | ⟨w₁, hn⟩
  · rw [bind_of_some ha]
    rw [ha] at h
    exact hR.trans h (hf a deadline w₁)
  · rw [bind_of_none hn]
    rw [hn] at h
    exact h

omit hR in
theorem along_modifyGet {f : World σ → α × World σ} (h : ∀ w, R w (f w).2) :
    Along R (modifyGet f) := fun _ w => h w

theorem along_ask {f : σ → α × σ} (moves : ∀ s, out.Moves s (f s).2) : Along R (ask f) :=
  along_modifyGet fun w => hR.outside w (f w.outside).2 (moves w.outside)

theorem along_stall : Along R (stall : Run σ α) := fun deadline w => hR.clock w (deadline.getD w.clock)

theorem along_sleep (delay : Nat) : Along R (sleep delay : Run σ Unit) := by
  intro deadline w
  unfold sleep
  cases deadline with
  | none => exact hR.clock w _
  | some d =>
    simp only
    split
    · exact hR.clock w _
    · exact hR.clock w _

theorem along_await (t : Timed α) : Along R (await t) := by
  cases t with
  | after delay a => exact along_bind hR (along_sleep hR delay) fun _ => along_pure hR a
  | never => exact along_stall hR

omit hR in
theorem along_within (limit : Option Nat) {x : Run σ α} (hx : Along R x) :
    Along R (within limit x) := by
  intro deadline w
  obtain ⟨d, hd⟩ := within_world limit x deadline w
  rw [hd]
  exact hx d w

end

end Run

end Concierge
