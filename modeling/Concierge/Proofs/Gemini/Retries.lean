import Mathlib.Data.Nat.Find
import Mathlib.Tactic.Choose
import Concierge.Gemini.Generate
import Concierge.Proofs.Number
import Concierge.Proofs.Run
import Concierge.Rehearsal.Script

/-!
# How often a request is sent

Each attempt to send a request meets with an outcome. Were the client never to give up, one outcome would
follow another for ever, with a wait between them (`Succession`). A call is the part of that up to the first
outcome that is final, or up to the last retry if that comes sooner (`call_ends_at_first_final_or_last_retry`).
Which error replies are not final is said in `errors_retried_unless_refused`.
-/

namespace Concierge.Gemini

open Run

variable {σ : Type}

inductive Outcome where
  | replied (reply : HttpReply)
  | failed (reason : String)
  | late

namespace Outcome

def ofAnswer : Except String HttpReply → Outcome
  | .ok reply => replied reply
  | .error reason => failed reason

def error? : Outcome → Option ModelError
  | replied reply =>
    if 200 ≤ reply.status ∧ reply.status < 300 then none
    else some (classify reply.status (reply.body.getD "") (retryAfter? reply.headers))
  | failed reason => some (.network reason)
  | late => some .timeout

/-- A success, or an error that another attempt would not mend. -/
def isFinal (o : Outcome) : Bool :=
  match o.error? with
  | some e => !e.isTransient
  | none => true

def result : Outcome → Except ModelError Response
  | replied reply => Client.readReply reply
  | failed reason => .error (.network reason)
  | late => .error .timeout

def namedDelay : Outcome → Option Nat
  | replied reply => if reply.status = 429 then retryAfter? reply.headers else none
  | _ => none

section
variable {o : Outcome} {e : ModelError}

theorem result_of_error? (h : o.error? = some e) : o.result = .error e := by
  cases o with
  | replied reply =>
    by_cases success : 200 ≤ reply.status ∧ reply.status < 300
    · simp [error?, success] at h
    · simp only [error?, if_neg success, Option.some.injEq] at h
      simp only [result, Client.readReply, if_neg success, h]
  | failed reason => cases h; rfl
  | late => cases h; rfl

theorem isTransient_of_response {b : ReplyBody} (h : b.response = .error e) : e.isTransient = false := by
  unfold ReplyBody.response at h
  split at h
  · cases h; rfl
  · split at h
    · cases h; rfl
    · dsimp only at h
      split at h
      · split at h
        · cases h
        · cases h; rfl
      · cases h

theorem isTransient_of_success (h : o.error? = none) (failed : o.result = .error e) : e.isTransient = false := by
  cases o with
  | replied reply =>
    by_cases success : 200 ≤ reply.status ∧ reply.status < 300
    · simp only [result, Client.readReply, if_pos success] at failed
      split at failed
      · exact isTransient_of_response failed
      · cases failed; rfl
    · simp [error?, success] at h
  | failed reason => cases h
  | late => cases h

theorem requestedDelay_eq (h : o.error? = some e) : Client.requestedDelay e = o.namedDelay := by
  cases o with
  | replied reply =>
    by_cases success : 200 ≤ reply.status ∧ reply.status < 300
    · simp [error?, success] at h
    · simp only [error?, if_neg success, Option.some.injEq] at h
      subst h
      unfold classify namedDelay
      by_cases busy : reply.status = 429
      · simp [busy, Client.requestedDelay]
      · simp only [busy, if_false]
        repeat' split
        all_goals rfl
  | failed reason => cases h; rfl
  | late => cases h; rfl

theorem isFinal_of_error? (h : o.error? = some e) : o.isFinal = !e.isTransient := by
  simp only [isFinal, h]

theorem isFinal_of_success (h : o.error? = none) : o.isFinal = true := by
  simp only [isFinal, h]

end

end Outcome

/-! ## One attempt after another -/

/-- An attempt to send `q`, if there is such a request, takes the world from one state to another. Whoever sends
nothing fails at once. -/
inductive Meets (out : Outside σ) (limit : Option Nat) : Option HttpRequest → World σ → Outcome → World σ → Prop
  | unsent {w} : Meets out limit none w (.failed "builder error") w
  | answered {q w delay answer s} (sent : out.send q w.outside = (.after delay answer, s))
      (soon : ∀ ms, limit = some ms → delay ≤ ms) :
      Meets out limit (some q) w (.ofAnswer answer) { w with outside := s, clock := w.clock + delay }
  | late {q w answer s ms} (sent : out.send q w.outside = (answer, s)) (limited : limit = some ms)
      (slow : ∀ delay a, answer = .after delay a → ms < delay) :
      Meets out limit (some q) w .late { w with outside := s, clock := w.clock + ms }

def Client.request? (c : Client) (model : String) (r : Request) : Option HttpRequest :=
  (Url.ofText? (c.address model)).map (c.httpRequest · r)

def Settles (out : Outside σ) (limit : Option Nat) : Prop :=
  limit = none → ∀ q s, ∃ delay answer, (out.send q s).1 = .after delay answer

/-- What would happen from `w` on if every attempt to send `q` were followed by another one. The attempts are
counted from zero; `before k` and `after k` are the world right before and after that of number `k`. -/
structure Succession (out : Outside σ) (c : Client) (q : Option HttpRequest) (w : World σ)
    (outcomes : Nat → Outcome) (before after : Nat → World σ) : Prop where
  start : before 0 = w
  meets : ∀ k, Meets out c.timeout q (before k) (outcomes k) (after k)
  waits : ∀ k, before (k + 1) = { after k with
    outside := (out.jitter (after k).outside).2
    clock := (after k).clock + c.retry.delay k (outcomes k).namedDelay (out.jitter (after k).outside).1 }

/-- The last attempt of a call: the first final one, or that of the last retry if it comes sooner. -/
def IsLast (outcomes : Nat → Outcome) (retries n : Nat) : Prop :=
  (∃ i, (outcomes i).isFinal = true ∧ (∀ j < i, (outcomes j).isFinal = false) ∧ n = min i retries) ∨
    (∀ i, (outcomes i).isFinal = false) ∧ n = retries

theorem exists_isLast (outcomes : Nat → Outcome) (retries : Nat) : ∃ n, IsLast outcomes retries n := by
  by_cases h : ∃ i, (outcomes i).isFinal = true
  · refine ⟨_, Or.inl ⟨Nat.find h, Nat.find_spec h, fun j sooner => ?_, rfl⟩⟩
    exact Bool.eq_false_iff.mpr (Nat.find_min h sooner)
  · refine ⟨retries, Or.inr ⟨fun i => ?_, rfl⟩⟩
    exact Bool.eq_false_iff.mpr fun final => h ⟨i, final⟩

namespace IsLast

variable {outcomes : Nat → Outcome} {retries n : Nat} (h : IsLast outcomes retries n)
include h

theorem le : n ≤ retries := by
  rcases h with ⟨i, -, -, rfl⟩ | ⟨-, rfl⟩
  · exact Nat.min_le_right _ _
  · exact Nat.le_refl _

theorem retried : ∀ k < n, (outcomes k).isFinal = false := by
  intro k early
  rcases h with ⟨i, -, first, rfl⟩ | ⟨never, -⟩
  · exact first k (by omega)
  · exact never k

theorem stops : (outcomes n).isFinal = true ∨ n = retries := by
  rcases h with ⟨i, final, -, rfl⟩ | ⟨-, spent⟩
  · by_cases left : i ≤ retries
    · rw [Nat.min_eq_left left]
      exact Or.inl final
    · exact Or.inr (by omega)
  · exact Or.inr spent

theorem lt_iff {k : Nat} (made : k ≤ n) (left : k < retries) : k < n ↔ (outcomes k).isFinal = false := by
  constructor
  · exact h.retried k
  · intro open'
    refine Nat.lt_of_le_of_ne made fun last => ?_
    subst last
    rcases h.stops with final | spent
    · rw [open'] at final
      cases final
    · omega

end IsLast

/-! ## Attempts in the world -/

section
variable {out : Outside σ} {w w₁ : World σ} {deadline : Option Nat}

theorem answered_run {α : Type} {f : σ → Timed α × σ} {delay : Nat} {a : α} {s : σ}
    (h : f w.outside = (.after delay a, s)) (inTime : sooner deadline (w.clock + delay) = false) :
    (do await (← ask f)) deadline w = (some a, { w with outside := s, clock := w.clock + delay }) := by
  have asked : ask f deadline w = (some (.after delay a), { w with outside := s }) := by
    unfold ask
    rw [modifyGet_run, h]
  rw [bind_of_some asked, await_after, if_neg (by simp [inTime])]

theorem unanswered_run {α : Type} {f : σ → Timed α × σ} {answer : Timed α} {s : σ} {ms : Nat}
    (h : f w.outside = (answer, s)) (slow : ∀ delay a, answer = .after delay a → ms < delay) :
    (do await (← ask f)) (some (w.clock + ms)) w = (none, { w with outside := s, clock := w.clock + ms }) := by
  have asked : ask f (some (w.clock + ms)) w = (some answer, { w with outside := s }) := by
    unfold ask
    rw [modifyGet_run, h]
  rw [bind_of_some asked]
  cases answer with
  | never => rfl
  | after delay a =>
    have late : sooner (some (w.clock + ms)) (w.clock + delay) = true := by
      have := slow delay a rfl
      simp only [sooner, decide_eq_true_eq]
      omega
    rw [await_after, if_pos late]
    rfl

theorem Meets.clock_le {limit : Option Nat} {q : Option HttpRequest} {o : Outcome} (h : Meets out limit q w o w₁) :
    w.clock ≤ w₁.clock := by
  cases h with
  | unsent => exact Nat.le_refl _
  | answered _ _ => exact Nat.le_add_right _ _
  | late _ _ _ => exact Nat.le_add_right _ _

theorem Meets.attempt_run {c : Client} {url : Option Url} {r : Request} {o : Outcome}
    (h : Meets out c.timeout (url.map (c.httpRequest · r)) w o w₁) (inTime : sooner deadline w₁.clock = false) :
    c.attempt out url r deadline w = (some o.result, w₁) := by
  cases url with
  | none =>
    cases h with
    | unsent => rfl
  | some url =>
    unfold Client.attempt
    dsimp only
    cases h with
    | @answered _ _ delay answer s sent soon =>
      have reply : within c.timeout (do await (← ask (out.send (c.httpRequest url r)))) deadline w =
          (some (some answer), { w with outside := s, clock := w.clock + delay }) := by
        cases limit : c.timeout with
        | none => rw [within_none, answered_run sent inTime]; rfl
        | some ms =>
          have own : sooner (some (w.clock + ms)) (w.clock + delay) = false := by
            have := soon ms limit
            simp only [sooner, decide_eq_false_iff_not]
            omega
          -- either deadline may be the one that counts, and the answer is in time for both
          rw [within_some]
          by_cases first : sooner deadline (w.clock + ms) = true
          · rw [if_pos first, answered_run sent inTime]
          · rw [if_neg first, answered_run sent own]
      rw [bind_of_some reply]
      cases answer <;> rfl
    | @late _ _ answer s ms sent limited slow =>
      have reply : within c.timeout (do await (← ask (out.send (c.httpRequest url r)))) deadline w =
          (some none, { w with outside := s, clock := w.clock + ms }) := by
        have notFirst : ¬ sooner deadline (w.clock + ms) = true := by simpa using inTime
        rw [limited, within_some, if_neg notFirst, unanswered_run sent slow]
        exact if_neg notFirst
      rw [bind_of_some reply]
      rfl

theorem exists_meets {limit : Option Nat} (settles : Settles out limit) (q : Option HttpRequest) (w : World σ) :
    ∃ o w₁, Meets out limit q w o w₁ := by
  cases q with
  | none => exact ⟨_, _, .unsent⟩
  | some q =>
    rcases sent : out.send q w.outside with ⟨answer, s⟩
    cases limit with
    | none =>
      obtain ⟨delay, a, answered⟩ := settles rfl q w.outside
      rw [sent] at answered
      subst answered
      exact ⟨_, _, .answered sent (by simp)⟩
    | some ms =>
      cases answer with
      | never => exact ⟨_, _, .late sent rfl (by simp)⟩
      | after delay a =>
        by_cases soon : delay ≤ ms
        · exact ⟨_, _, .answered sent (by simpa using soon)⟩
        · exact ⟨_, _, .late sent rfl (by simpa using soon)⟩

end

/-! ## A call in the world -/

section
variable {out : Outside σ} {c : Client} {q : Option HttpRequest} {w : World σ}

theorem exists_succession (settles : Settles out c.timeout) (q : Option HttpRequest) (w : World σ) :
    ∃ outcomes before after, Succession out c q w outcomes before after := by
  choose outcome next met using exists_meets settles q
  let step (k : Nat) (v : World σ) : World σ := { next v with
    outside := (out.jitter (next v).outside).2
    clock := (next v).clock + c.retry.delay k (outcome v).namedDelay (out.jitter (next v).outside).1 }
  let before (k : Nat) : World σ := Nat.rec w step k
  exact ⟨fun k => outcome (before k), before, fun k => next (before k), rfl, fun k => met (before k), fun k => rfl⟩

variable {outcomes : Nat → Outcome} {before after : Nat → World σ}

namespace Succession

section
variable (h : Succession out c q w outcomes before after)
include h

theorem clock_after_le {j k : Nat} (le : j ≤ k) : (after j).clock ≤ (after k).clock := by
  induction k with
  | zero => rw [Nat.le_zero.mp le]
  | succ k ih =>
    rcases Nat.eq_or_lt_of_le le with rfl | lt
    · exact Nat.le_refl _
    · calc (after j).clock ≤ (after k).clock := ih (Nat.le_of_lt_succ lt)
        _ ≤ (before (k + 1)).clock := by rw [h.waits]; exact Nat.le_add_right _ _
        _ ≤ (after (k + 1)).clock := (h.meets (k + 1)).clock_le

end

/-- The induction is on the retries that are left, so the number of attempts made grows along it. -/
theorem attempts_run {url : Option Url} {r : Request} {left made n : Nat} {deadline : Option Nat}
    (h : Succession out c (url.map (c.httpRequest · r)) w outcomes before after) (reached : made ≤ n)
    (bounded : n ≤ made + left) (retried : ∀ k, made ≤ k → k < n → (outcomes k).isFinal = false)
    (stops : (outcomes n).isFinal = true ∨ n = made + left) (inTime : sooner deadline (after n).clock = false) :
    c.attempts out url r left made deadline (before made) = (some (outcomes n).result, after n) := by
  induction left generalizing made with
  | zero =>
    have here : made = n := by omega
    subst here
    unfold Client.attempts
    rw [bind_of_some ((h.meets made).attempt_run inTime)]
    cases (outcomes made).result <;> rfl
  | succ left ih =>
    have attempted := (h.meets made).attempt_run (not_sooner_of_le inTime (h.clock_after_le reached))
    unfold Client.attempts
    rw [bind_of_some attempted]
    by_cases final : (outcomes made).isFinal = true
    · have here : made = n := by
        refine Nat.le_antisymm reached (Nat.le_of_not_lt fun early => ?_)
        rw [retried made (Nat.le_refl _) early] at final
        cases final
      subst here
      cases answer : (outcomes made).result with
      | ok response => rfl
      | error e =>
        -- a success that cannot be read is final too, although its outcome stands for no error
        have lasting : e.isTransient = false := by
          cases error : (outcomes made).error? with
          | none => exact Outcome.isTransient_of_success error answer
          | some e' =>
            rw [Outcome.result_of_error? error] at answer
            cases answer
            simpa [Outcome.isFinal_of_error? error] using final
        simp only [lasting, Bool.false_eq_true, if_false]
        rfl
    · have early : made < n := by
        refine Nat.lt_of_le_of_ne reached fun here => ?_
        subst here
        rcases stops with stops | spent
        · exact final stops
        · omega
      cases error : (outcomes made).error? with
      | none => exact absurd (Outcome.isFinal_of_success error) final
      | some e =>
        have transient : e.isTransient = true := by
          simpa [Outcome.isFinal_of_error? error] using final
        -- the wait ends in time because the last attempt, which comes after it, does
        have slept : sooner deadline (before (made + 1)).clock = false :=
          not_sooner_of_le inTime
            (Nat.le_trans (h.meets (made + 1)).clock_le (h.clock_after_le early))
        rw [h.waits] at slept
        have rest := @ih (made + 1) early (by omega) (fun k le => retried k (by omega))
          (stops.imp_right fun spent => by omega)
        rw [h.waits] at rest
        simp only [Outcome.result_of_error? error, transient, if_true, Outcome.requestedDelay_eq error]
        rw [bind_run]
        unfold ask
        rw [modifyGet_run]
        dsimp only
        rw [bind_run, sleep_run, if_neg (by simp [slept])]
        exact rest

theorem generate_run {model : String} {r : Request} {n : Nat} {deadline : Option Nat} (valid : validHeader c.apiKey = true)
    (h : Succession out c (c.request? model r) w outcomes before after)
    (last : IsLast outcomes c.retry.maxRetries n) (inTime : sooner deadline (after n).clock = false) :
    c.generate out model r deadline w = (some (outcomes n).result, after n) := by
  unfold Client.generate
  rw [if_pos valid, ← h.start]
  refine h.attempts_run (Nat.zero_le _) ?_ (fun k _ => last.retried k) ?_ inTime
  · rw [Nat.zero_add]
    exact last.le
  · rw [Nat.zero_add]
    exact last.stops

end Succession

end

namespace Outcome

end Outcome

theorem isTransient_classify (status : Nat) (body : String) (named : Option Nat) :
    (classify status body named).isTransient = true ↔ status ≠ 400 ∧ status ≠ 401 ∧ status ≠ 403 := by
  unfold classify
  dsimp only
  by_cases denied : status = 401 ∨ status = 403
  · rw [if_pos denied]
    simp only [ModelError.isTransient, Bool.false_eq_true, false_iff]
    omega
  · rw [if_neg denied]
    by_cases bad : status = 400
    · rw [if_pos bad]
      split <;> simp [ModelError.isTransient, bad]
    · rw [if_neg bad]
      have other : status ≠ 400 ∧ status ≠ 401 ∧ status ≠ 403 := by omega
      split
      · simpa [ModelError.isTransient] using other
      · split <;> simpa [ModelError.isTransient] using other

theorem Outcome.isFinal_replied {reply : HttpReply} (failure : ¬ (200 ≤ reply.status ∧ reply.status < 300)) :
    (replied reply).isFinal = false ↔ reply.status ≠ 400 ∧ reply.status ≠ 401 ∧ reply.status ≠ 403 := by
  have error : (replied reply).error? =
      some (classify reply.status (reply.body.getD "") (retryAfter? reply.headers)) := by
    simp only [error?, if_neg failure]
  rw [isFinal_of_error? error, ← isTransient_classify, Bool.not_eq_false']

end Concierge.Gemini

namespace Concierge.Rehearsal

def caller : Gemini.Client := ⟨"key", "http://host", some 1000, { maxRetries := 4, maxDelay := 1500 }⟩

def hello : Request := ⟨none, [], [.text "Hello"], none⟩

def failure? : Except ModelError Response → Option ModelError
  | .error e => some e
  | .ok _ => none

/-- The server has no such page, and has one when it is asked again. -/
def missingPage : World Stage where
  outside := { server := [.reply ⟨404, [], some "no such page"⟩, .reply ⟨200, [], some "?"⟩] }

end Concierge.Rehearsal

namespace Concierge.Gemini

open Run Rehearsal

variable {σ : Type}

theorem settles_caller : Settles Stage.outside caller.timeout := fun unlimited => nomatch unlimited

theorem Succession.first_of_reply {w : World Stage} {reply : HttpReply} {rest : List _}
    {outcomes : Nat → Outcome} {before after : Nat → World Stage}
    (h : Succession Stage.outside caller (caller.request? "gemini" hello) w outcomes before after)
    (server : w.outside.server = .reply reply :: rest) : outcomes 0 = .replied reply := by
  obtain ⟨request, sends⟩ : ∃ request, caller.request? "gemini" hello = some request :=
    Option.isSome_iff_exists.mp (by decide +kernel)
  have met := h.meets 0
  rw [h.start, sends] at met
  have answer : (Stage.outside.send request w.outside).1 = .after 0 (.ok reply) := by
    simp only [Stage.outside, Stage.send, server]
  generalize outcomes 0 = o, after 0 = w₁ at met
  cases met with
  | answered sent _ =>
    rw [sent] at answer
    cases answer
    rfl
  | late sent _ slow =>
    rw [sent] at answer
    exact absurd (slow 0 _ answer) (Nat.not_lt_zero _)

/-- **Every error is retried but those that refuse the request or its key**, whatever the reply has for a body. -/
theorem errors_retried_unless_refused (out : Outside σ) (c : Client) (model : String) (r : Request) (w : World σ)
    (valid : validHeader c.apiKey = true) (settles : Settles out c.timeout) :
    ∃ outcomes before after, Succession out c (c.request? model r) w outcomes before after ∧
      ∃ n, IsLast outcomes c.retry.maxRetries n ∧
        (∀ deadline, sooner deadline (after n).clock = false →
          c.generate out model r deadline w = (some (outcomes n).result, after n)) ∧
        ∀ k reply, k ≤ n → k < c.retry.maxRetries → outcomes k = .replied reply →
          ¬ (200 ≤ reply.status ∧ reply.status < 300) →
            (k < n ↔ reply.status ≠ 400 ∧ reply.status ≠ 401 ∧ reply.status ≠ 403) ∧
            (reply.status ∈ [400, 401, 403, 429] ∨ 500 ≤ reply.status ∧ reply.status < 600 →
              (k < n ↔ reply.status = 429 ∨ 500 ≤ reply.status ∧ reply.status < 600)) := by
  obtain ⟨outcomes, before, after, h⟩ := exists_succession settles (c.request? model r) w
  obtain ⟨n, last⟩ := exists_isLast outcomes c.retry.maxRetries
  refine ⟨outcomes, before, after, h, n, last, fun deadline inTime => h.generate_run valid last inTime, ?_⟩
  intro k reply made left replied failure
  have again : k < n ↔ reply.status ≠ 400 ∧ reply.status ≠ 401 ∧ reply.status ≠ 403 := by
    rw [last.lt_iff made left, replied]
    exact Outcome.isFinal_replied failure
  refine ⟨again, fun known => again.trans ?_⟩
  simp only [List.mem_cons, List.not_mem_nil, or_false] at known
  omega

theorem errors_retried_unless_refused_missingPage :
    ∃ outcomes before after,
      Succession Stage.outside caller (caller.request? "gemini" hello) missingPage outcomes before after ∧
      ∃ n, IsLast outcomes 4 n ∧
        caller.generate Stage.outside "gemini" hello none missingPage = (some (outcomes n).result, after n) ∧
        outcomes 0 = .replied ⟨404, [], some "no such page"⟩ ∧ 0 < n := by
  obtain ⟨outcomes, before, after, h, n, last, run, retried⟩ :=
    errors_retried_unless_refused Stage.outside caller "gemini" hello missingPage (by decide) settles_caller
  have replied : outcomes 0 = .replied ⟨404, [], some "no such page"⟩ := h.first_of_reply rfl
  refine ⟨outcomes, before, after, h, n, last, run none rfl, replied, ?_⟩
  exact (retried 0 _ (Nat.zero_le n) (by decide) replied (by decide)).1.mpr (by decide)

/-- A page that is missing is asked for again, although that is no error of the server. -/
theorem missing_page_asked_for_again :
    missingPage.outside.server.head? = some (.reply ⟨404, [], some "no such page"⟩) ∧
      (caller.generate Stage.outside "gemini" hello none missingPage).2.outside.sent.length = 2 :=
  ⟨rfl, by decide +kernel⟩

end Concierge.Gemini
