import Concierge.World.Basic

/-!
# Rehearsals

A rehearsal runs agents against a script instead of the outside world: models answer from lists of
lines, tools behave in a fixed way, a server sends prepared replies. What was asked is written down.
-/

namespace Concierge.Rehearsal

inductive Echo where
  | prompt
  | wrap
  | context
  | count
  | transcript

inductive Line where
  | respond (r : Response)
  | fail (e : ModelError)
  | echo (e : Echo)
  | hang

structure Cue where
  line : Line
  delay : Nat := 0

inductive ModelPart where
  | cues (cs : List Cue)
  | absent (e : ModelError)

inductive ToolManner where
  | output (o : ToolOutput)
  | fail (e : ToolError)
  | field (key : String)
  | echo
  | count
  | const (v : Value)

inductive ToolPace where
  | after (delay : Nat)
  | never

/-- The part of a tool, with the number of times it was called. -/
structure ToolPart where
  name : String
  manner : ToolManner
  pace : ToolPace
  calls : Nat := 0

inductive ServerCue where
  | reply (r : HttpReply)
  | drop
  | hang

/-- The script of a rehearsal and what was written down. -/
structure Stage where
  models : Table String ModelPart := []
  tools : List ToolPart := []
  server : List ServerCue := []
  roles : List String := []
  chatsDrawn : Nat := 0
  clockRead : Nat := 0
  created : List String := []
  requests : List (String × Request) := []
  toolCalls : List (String × Value) := []
  sent : List HttpRequest := []

def exhausted : String := "(script exhausted)"

/-- The texts at the front of the contents, those of the prompt last. -/
def transcript (r : Request) : String :=
  "|".intercalate (r.contents.filterMap fun c => c.parts.head?.bind Part.text?)

def Echo.text (r : Request) : Echo → String
  | prompt => r.promptText
  | wrap => "<" ++ r.promptText ++ ">"
  | context => r.context.getD ""
  | count => "seen " ++ toString r.contents.length
  | transcript => Rehearsal.transcript r

def Cue.answer (r : Request) (c : Cue) : Timed (Except ModelError Response) :=
  match c.line with
  | .respond response => .after c.delay (.ok response)
  | .fail e => .after c.delay (.error e)
  | .echo e => .after c.delay (.ok { text := e.text r })
  | .hang => .never

namespace Stage

def createModel (model : String) (s : Stage) : Except ModelError Unit × Stage :=
  let s := { s with created := s.created ++ [model] }
  match s.models.get? model with
  | none => (.error (.badRequest ("no mock for " ++ model)), s)
  | some (.absent e) => (.error e, s)
  | some (.cues _) => (.ok (), s)

def generate (p : Provider) (r : Request) (s : Stage) :
    Timed (Except ModelError Response) × Stage :=
  let s := { s with requests := s.requests ++ [(p.model, r)] }
  match s.models.get? p.model with
  | some (.cues (c :: cs)) => (c.answer r, { s with models := s.models.put p.model (.cues cs) })
  | _ => (.after 0 (.ok { text := exhausted }), s)

def push (model : String) (cs : List Cue) (s : Stage) : Stage :=
  match s.models.get? model with
  | some (.cues old) => { s with models := s.models.put model (.cues (old ++ cs)) }
  | some (.absent _) => s
  | none => { s with models := s.models.put model (.cues cs) }

def manner (args : Value) (calls : Nat) : ToolManner → Except ToolError ToolOutput
  | .output o => .ok o
  | .fail e => .error e
  | .field key => .ok (.value ((args.member? key).getD .null))
  | .echo => .ok (.value args)
  | .count => .ok (.value (.nat calls))
  | .const v => .ok (.value v)

def callTool (key : Nat) (args : Value) (_ : ToolContext) (s : Stage) :
    Timed (Except ToolError ToolOutput) × Stage :=
  match s.tools[key]? with
  | none => (.never, s)
  | some t =>
    let calls := t.calls + 1
    let s := { s with
      toolCalls := s.toolCalls ++ [(t.name, args)]
      tools := s.tools.set key { t with calls := calls } }
    match t.pace with
    | .never => (.never, s)
    | .after delay => (.after delay (manner args calls t.manner), s)

/-- After the last cue every request is refused. -/
def send (r : HttpRequest) (s : Stage) : Timed (Except String HttpReply) × Stage :=
  let s := { s with sent := s.sent ++ [r] }
  match s.server with
  | [] => (.after 0 (.ok ⟨400, [], some "script exhausted"⟩), s)
  | .reply reply :: cs => (.after 0 (.ok reply), { s with server := cs })
  | .drop :: cs => (.after 0 (.error "connection closed"), { s with server := cs })
  | .hang :: cs => (.never, { s with server := cs })

/-- Chat ids are drawn in a row, from the range of random ids. -/
def drawChatId (s : Stage) : ChatId × Stage :=
  (⟨BitVec.ofNat 128 (0xC0DE0000000040008000000000000000 + s.chatsDrawn)⟩,
    { s with chatsDrawn := s.chatsDrawn + 1 })

/-- Every reading of the time is later than the one before. -/
def now (s : Stage) : Instant × Stage :=
  (⟨1700000000 + s.clockRead, 0⟩, { s with clockRead := s.clockRead + 1 })

/-- Stores outside fail every call. -/
def outside : Outside Stage where
  createModel := createModel
  generate := generate
  callTool := callTool
  postedRoles := roles
  send := send
  jitter := fun s => (1.0, s)
  drawChatId := drawChatId
  now := now
  access := fun _ _ _ s => (.error (.backend "disk full"), s)
  closeStore := fun _ s => (.error (.backend "disk full"), s)

end Stage

end Concierge.Rehearsal
