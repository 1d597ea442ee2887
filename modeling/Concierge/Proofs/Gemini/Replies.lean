import Concierge.Gemini.Wire
import Mathlib.Data.List.Induction
import Mathlib.Logic.Relation

/-!
# What counts in a reply

Of the candidates of a reply only the first one counts, and of its parts only those that are not thoughts: their
texts are joined and the first call is kept. An error takes the place of that when the prompt was blocked, when
there is no candidate, or when the first one has no parts and did not end as it should.
-/

namespace Concierge.Gemini

def spoken (parts : List ReplyPart) : List ReplyPart := parts.filter fun p => !p.thought

variable {before after parts parts' : List ReplyPart} {p p' : ReplyPart} {b b' : ReplyBody}

theorem spoken_append (before after : List ReplyPart) : spoken (before ++ after) = spoken before ++ spoken after :=
  List.filter_append before after

theorem spoken_of_thought (hidden : p.thought = true) : spoken [p] = [] := by
  unfold spoken
  rw [List.filter_cons_of_neg (by simp [hidden]), List.filter_nil]

theorem spoken_of_not_thought (shown : p.thought = false) : spoken [p] = [p] := by
  unfold spoken
  rw [List.filter_cons_of_pos (by simp [shown]), List.filter_nil]

/-! ## The parts joined -/

theorem joinParts_concat (parts : List ReplyPart) (p : ReplyPart) :
    joinParts (parts ++ [p]) = if p.thought then joinParts parts
      else ⟨(joinParts parts).text ++ p.text.getD "", (joinParts parts).call <|> p.call⟩ := by
  unfold joinParts
  rw [List.foldl_append]
  rfl

theorem joinParts_eq (parts : List ReplyPart) :
    joinParts parts =
      ⟨String.join ((spoken parts).filterMap ReplyPart.text), (spoken parts).findSome? ReplyPart.call⟩ := by
  -- From the end, as the parts are joined from the front.
  induction parts using List.reverseRecOn with
  | nil => rfl
  | append_singleton parts p ih =>
    rw [joinParts_concat, ih, spoken_append]
    cases thought : p.thought with
    | true => rw [if_pos rfl, spoken_of_thought thought, List.append_nil]
    | false =>
      rw [if_neg Bool.false_ne_true, spoken_of_not_thought thought, List.filterMap_append, List.findSome?_append]
      congr 1
      · cases said : p.text <;> simp [said, String.join]
      · cases called : p.call <;> simp [called]

theorem joinParts_congr (same : spoken parts = spoken parts') : joinParts parts = joinParts parts' := by
  rw [joinParts_eq, joinParts_eq, same]

/-! ## The rules -/

inductive Collapses (b : ReplyBody) : Except ModelError Response → Prop
  | blocked {reason : String} (feedback : b.blockReason = some reason) : Collapses b (.error (.blocked reason))
  | empty (feedback : b.blockReason = none) (none : b.candidates = []) :
      Collapses b (.error (.unreadable "response contained no candidates"))
  | cutOff {c : Candidate} {rest : List Candidate} {reason : String} (feedback : b.blockReason = none)
      (first : b.candidates = c :: rest) (bare : c.parts.getD [] = []) (ended : c.finishReason = some reason)
      (early : reason ≠ "STOP") : Collapses b (.error (.blocked reason))
  | answered {c : Candidate} {rest : List Candidate} (feedback : b.blockReason = none)
      (first : b.candidates = c :: rest)
      (whole : c.parts.getD [] = [] → ∀ reason, c.finishReason = some reason → reason = "STOP") :
      Collapses b (.ok ⟨String.join ((spoken (c.parts.getD [])).filterMap ReplyPart.text),
        (spoken (c.parts.getD [])).findSome? ReplyPart.call⟩)

theorem response_of_parts {c : Candidate} {rest : List Candidate} (present : c.parts.getD [] ≠ []) :
    (ReplyBody.mk (c :: rest) none).response = .ok (joinParts (c.parts.getD [])) := by
  unfold ReplyBody.response
  dsimp only
  split
  · contradiction
  · rfl

theorem response_of_bare {c : Candidate} {rest : List Candidate} (bare : c.parts.getD [] = []) :
    (ReplyBody.mk (c :: rest) none).response =
      match c.finishReason with
      | some reason => if reason = "STOP" then .ok (joinParts []) else .error (.blocked reason)
      | none => .ok (joinParts []) := by
  unfold ReplyBody.response
  dsimp only
  rw [bare]
  cases c.finishReason <;> rfl

theorem collapses_response (b : ReplyBody) : Collapses b b.response := by
  rcases b with ⟨candidates, feedback⟩
  cases feedback with
  | some reason => exact .blocked rfl
  | none =>
    cases candidates with
    | nil => exact .empty rfl rfl
    | cons c rest =>
      by_cases bare : c.parts.getD [] = []
      · cases ended : c.finishReason with
        | none =>
          rw [response_of_bare bare, ended, ← bare, joinParts_eq]
          exact .answered rfl rfl fun _ reason h => by rw [ended] at h; cases h
        | some reason =>
          by_cases stop : reason = "STOP"
          · rw [response_of_bare bare, ended]
            dsimp only
            rw [if_pos stop, ← bare, joinParts_eq]
            refine .answered rfl rfl fun _ reason' h => ?_
            rw [ended] at h
            cases h
            exact stop
          · rw [response_of_bare bare, ended]
            dsimp only
            rw [if_neg stop]
            exact .cutOff rfl rfl bare ended stop
      · rw [response_of_parts bare, joinParts_eq]
        exact .answered rfl rfl fun h => absurd h bare

theorem Collapses.response {o : Except ModelError Response} (h : Collapses b o) : b.response = o := by
  rcases b with ⟨candidates, feedback⟩
  cases h with
  | blocked feedback =>
    cases feedback
    rfl
  | empty feedback none =>
    cases feedback
    cases none
    rfl
  | cutOff feedback first bare ended early =>
    cases feedback
    cases first
    rw [response_of_bare bare, ended]
    exact if_neg early
  | @answered c rest feedback first whole =>
    cases feedback
    cases first
    rw [← joinParts_eq]
    by_cases bare : c.parts.getD [] = []
    · rw [response_of_bare bare, bare]
      cases ended : c.finishReason with
      | none => rfl
      | some reason => exact if_pos (whole bare reason ended)
    · exact response_of_parts bare

/-! ## What does not count -/

/-- Two replies that differ in something that does not count. -/
inductive Aside : ReplyBody → ReplyBody → Prop
  | blocked (candidates candidates' : List Candidate) (reason : String) :
      Aside ⟨candidates, some reason⟩ ⟨candidates', some reason⟩
  | others (c : Candidate) (rest rest' : List Candidate) (feedback : Option String) :
      Aside ⟨c :: rest, feedback⟩ ⟨c :: rest', feedback⟩
  | content (finish : Option String) (rest : List Candidate) (feedback : Option String) :
      Aside ⟨⟨none, finish⟩ :: rest, feedback⟩ ⟨⟨some [], finish⟩ :: rest, feedback⟩
  /-- Why a candidate ended, when it has parts. -/
  | finish {parts : List ReplyPart} (present : parts ≠ []) (finish finish' : Option String) (rest : List Candidate)
      (feedback : Option String) :
      Aside ⟨⟨some parts, finish⟩ :: rest, feedback⟩ ⟨⟨some parts, finish'⟩ :: rest, feedback⟩
  /-- Whatever a thought says and calls. -/
  | thought {p p' : ReplyPart} (hidden : p.thought = true) (hidden' : p'.thought = true)
      (before after : List ReplyPart) (finish : Option String) (rest : List Candidate) (feedback : Option String) :
      Aside ⟨⟨some (before ++ p :: after), finish⟩ :: rest, feedback⟩
        ⟨⟨some (before ++ p' :: after), finish⟩ :: rest, feedback⟩
  /-- One thought more, among other parts. -/
  | inserted {p : ReplyPart} {before after : List ReplyPart} (hidden : p.thought = true)
      (present : before ++ after ≠ []) (finish : Option String) (rest : List Candidate) (feedback : Option String) :
      Aside ⟨⟨some (before ++ p :: after), finish⟩ :: rest, feedback⟩
        ⟨⟨some (before ++ after), finish⟩ :: rest, feedback⟩
  /-- A call after the first one. -/
  | laterCall {p q : ReplyPart} {before : List ReplyPart} (earlier : q ∈ before) (shown : q.thought = false)
      (calls : q.call ≠ none) (call : Option FunctionCall) (after : List ReplyPart) (finish : Option String)
      (rest : List Candidate) (feedback : Option String) :
      Aside ⟨⟨some (before ++ p :: after), finish⟩ :: rest, feedback⟩
        ⟨⟨some (before ++ { p with call := call } :: after), finish⟩ :: rest, feedback⟩

theorem response_congr {finish finish' : Option String} {rest : List Candidate} {feedback : Option String}
    (present : parts ≠ []) (present' : parts' ≠ []) (same : joinParts parts = joinParts parts') :
    (ReplyBody.mk (⟨some parts, finish⟩ :: rest) feedback).response =
      (ReplyBody.mk (⟨some parts', finish'⟩ :: rest) feedback).response := by
  cases feedback with
  | some reason => rfl
  | none =>
    rw [response_of_parts (c := ⟨some parts, finish⟩) present, response_of_parts (c := ⟨some parts', finish'⟩) present']
    exact congrArg Except.ok same

theorem spoken_insert (hidden : p.thought = true) : spoken (before ++ p :: after) = spoken (before ++ after) := by
  rw [List.append_cons, spoken_append, spoken_append, spoken_append, spoken_of_thought hidden, List.append_nil]

theorem joinParts_later_call {q : ReplyPart} (earlier : q ∈ before) (shown : q.thought = false) (calls : q.call ≠ none)
    (said : p.text = p'.text) (kind : p.thought = p'.thought) :
    joinParts (before ++ p :: after) = joinParts (before ++ p' :: after) := by
  cases thought : p.thought with
  | true =>
    refine joinParts_congr ?_
    rw [spoken_insert thought, spoken_insert (kind ▸ thought)]
  | false =>
    have thought' : p'.thought = false := by rw [← kind, thought]
    obtain ⟨first, found⟩ : ∃ first, (spoken before).findSome? ReplyPart.call = some first := by
      rw [← Option.isSome_iff_exists, List.findSome?_isSome_iff]
      refine ⟨q, List.mem_filter.mpr ⟨earlier, by simp [shown]⟩, ?_⟩
      exact Option.isSome_iff_ne_none.mpr calls
    rw [List.append_cons before p after, List.append_cons before p' after, joinParts_eq, joinParts_eq]
    simp only [spoken_append, spoken_of_not_thought thought, spoken_of_not_thought thought', List.findSome?_append,
      found, Option.some_or, List.filterMap_append, List.filterMap_cons, said]

theorem Aside.response (h : Aside b b') : b.response = b'.response := by
  cases h with
  | blocked => rfl
  | others c rest rest' feedback => cases feedback <;> rfl
  | content finish rest feedback => cases feedback <;> rfl
  | finish present finish finish' rest feedback => exact response_congr present present rfl
  | thought hidden hidden' before after finish rest feedback =>
    refine response_congr (by simp) (by simp) (joinParts_congr ?_)
    rw [spoken_insert hidden, spoken_insert hidden']
  | inserted hidden present finish rest feedback =>
    exact response_congr (by simp) present (joinParts_congr (spoken_insert hidden))
  | laterCall earlier shown calls call after finish rest feedback =>
    exact response_congr (by simp) (by simp) (joinParts_later_call earlier shown calls rfl rfl)

/-- **A reply collapses to what its first candidate says.** The rules leave nothing open, and whatever else replies
differ in, step by step, does not show. -/
theorem response_is_first_candidate_without_thoughts (b : ReplyBody) :
    (∀ o, b.response = o ↔ Collapses b o) ∧ ∀ b', Relation.EqvGen Aside b b' → b'.response = b.response := by
  constructor
  · intro o
    constructor
    · rintro rfl
      exact collapses_response b
    · exact Collapses.response
  · intro b' alike
    induction alike with
    | rel _ _ aside => exact aside.response.symm
    | refl => rfl
    | symm _ _ _ ih => exact ih.symm
    | trans _ _ _ _ _ first second => exact second.trans first

end Concierge.Gemini

namespace Concierge.Rehearsal

open Gemini

def said (text : String) : ReplyPart := ⟨some text, none, false⟩

def pondered (text : String) : ReplyPart := ⟨some text, some ⟨"erase", .ofMembers []⟩, true⟩

def called (text name : String) : ReplyPart := ⟨some text, some ⟨name, .ofMembers []⟩, false⟩

/-- A candidate that begins with a thought, which has a call of its own. -/
def undecided : Candidate :=
  ⟨some [pondered "Shall I?", said "One ", called "moment" "look", called "." "wait"], some "MAX_TOKENS"⟩

def decided : Candidate := ⟨some [said "One ", called "moment" "look", called "." "wait"], none⟩

end Concierge.Rehearsal

namespace Concierge.Gemini

open Rehearsal in
theorem response_is_first_candidate_without_thoughts_undecided :
    (ReplyBody.mk [undecided, ⟨none, some "SAFETY"⟩] none).response =
        .ok ⟨"One moment.", some ⟨"look", .ofMembers []⟩⟩ ∧
      (ReplyBody.mk [decided] none).response = (ReplyBody.mk [undecided, ⟨none, some "SAFETY"⟩] none).response := by
  obtain ⟨rules, aside⟩ :=
    response_is_first_candidate_without_thoughts ⟨[undecided, ⟨none, some "SAFETY"⟩], none⟩
  constructor
  · have whole : undecided.parts.getD [] = [] → ∀ reason, undecided.finishReason = some reason → reason = "STOP" := by
      intro bare
      cases bare
    have text : String.join ((spoken (undecided.parts.getD [])).filterMap ReplyPart.text) = "One moment." := by
      decide +kernel
    have collapsed := (rules _).mpr (.answered rfl rfl whole)
    rw [text] at collapsed
    exact collapsed
  · have alone := Relation.EqvGen.rel _ _ (Aside.others undecided [⟨none, some "SAFETY"⟩] [] none)
    have clear := Relation.EqvGen.rel _ _ (@Aside.inserted (pondered "Shall I?") [] (decided.parts.getD []) rfl
      (by decide) (some "MAX_TOKENS") [] none)
    have ended := Relation.EqvGen.rel _ _ (@Aside.finish (decided.parts.getD []) (by decide) (some "MAX_TOKENS") none
      [] none)
    exact aside _ (alone.trans _ _ _ (clear.trans _ _ _ ended))

end Concierge.Gemini
