import Concierge.Dialogue.Message
import Concierge.Json.Reader
import Concierge.Json.Writer
import Concierge.Time.Timestamp

/-!
# What is remembered of a chat

A record holds the transcript of a chat, facts under names, and summaries with the time at which
they were made. A record is kept as indented JSON.
-/

namespace Concierge

open Data

structure Summary where
  content : String
  time : Instant
deriving DecidableEq, Repr

namespace Summary

def encode (s : Summary) : Data :=
  .record [("summary_content", .str s.content), ("timestamp", .str s.time.text)]

def decode? (d : Data) : Option Summary := do
  match ← d.fields? [⟨"summary_content", false⟩, ⟨"timestamp", false⟩] with
  | [content, time] =>
    return ⟨← required Data.text? content,
      ← required (fun d => d.text?.bind Instant.ofText?) time⟩
  | _ => none

end Summary

abbrev Facts := List (String × Value)

namespace Facts

def data (fs : Facts) : Data := .record (fs.map fun (k, v) => (k, v.data))

/-- Facts from a record; of members that share a name the last one counts. -/
def decode? : Data → Option Facts
  | .record ms => do
    let fs ← ms.mapM fun (k, d) => (Value.ofData? d).map fun v => (k, v)
    return fs.foldl (fun sorted f => insertSorted f.1 f.2 sorted) []
  | _ => none

end Facts

structure ChatRecord where
  messages : List Message := []
  facts : Facts := []
  summaries : List Summary := []
deriving Inhabited

namespace ChatRecord

def encode (r : ChatRecord) : Data :=
  .record [("messages", .list (r.messages.map Message.encode)), ("facts", r.facts.data),
    ("summaries", .list (r.summaries.map Summary.encode))]

/-- What is missing is empty. -/
def decode? (d : Data) : Option ChatRecord := do
  match ← d.fields? [⟨"messages", true⟩, ⟨"facts", true⟩, ⟨"summaries", true⟩] with
  | [messages, facts, summaries] =>
    return ⟨← orElse [] (listOf? Message.decode?) messages, ← orElse [] Facts.decode? facts,
      ← orElse [] (listOf? Summary.decode?) summaries⟩
  | _ => none

def write (r : ChatRecord) : String := Json.pretty r.encode

def read? (s : String) : Option ChatRecord := (Json.read? s).bind decode?

/-- The summary with the latest time, the last of them if several share it. -/
def latest? (r : ChatRecord) : Option Summary :=
  r.summaries.foldl (fun best s =>
    match best with
    | none => some s
    | some b => if b.time.le s.time then some s else some b) none

/-- The summaries by descending time, those of one time in the order in which they were added. -/
def newestFirst (r : ChatRecord) (limit : Option Nat) : List Summary :=
  let sorted := r.summaries.mergeSort fun a b => b.time.le a.time
  match limit with
  | some n => sorted.take n
  | none => sorted

end ChatRecord

end Concierge
