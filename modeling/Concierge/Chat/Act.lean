import Concierge.Chat.Basic

/-!
# What is done with a chat
-/

namespace Concierge.Chat

open Memory

variable {σ : Type}

inductive Act where
  | turn (message : String)
  | clearHistory
  | resume (id : ChatId)
  | setFact (key : String) (v : Value)
  | fact (key : String)
  | allFacts
  | addSummary (content : String)
  | latestSummary
  | summaries (limit : Option Nat)

inductive Reply where
  | turn (t : Turn)
  | done (b : Bool)
  | fact (v : Option Value)
  | facts (fs : Facts)
  | summary (s : Option String)
  | summaries (ss : List Summary)

def perform (out : Outside σ) (c : Chat) : Act → Run σ (Reply × Chat)
  | .turn message => do
    let (t, c) ← c.turn out message
    return (.turn t, c)
  | .clearHistory => do
    let (b, c) ← c.clearHistory out
    return (.done b, c)
  | .resume id => do
    let (b, c) ← c.resume out id
    return (.done b, c)
  | .setFact key v => do return (.done (← c.setFact out key v), c)
  | .fact key => do return (.fact (← c.fact? out key), c)
  | .allFacts => do return (.facts (← c.allFacts out), c)
  | .addSummary content => do return (.done (← c.addSummary out content), c)
  | .latestSummary => do return (.summary (← c.latestSummary? out), c)
  | .summaries limit => do return (.summaries (← c.summaries out limit), c)

def performAll (out : Outside σ) (c : Chat) : List Act → Run σ (List Reply × Chat)
  | [] => pure ([], c)
  | act :: acts => do
    let (reply, c) ← c.perform out act
    let (replies, c) ← performAll out c acts
    return (reply :: replies, c)

end Concierge.Chat
