import Concierge.Gemini.Wire
import Concierge.Number.Literal
import Concierge.Web.Url
import Concierge.World.Run

/-!
# Asking the Gemini service

A request is sent until a reply is a success or an error that another attempt would not mend, or the
retries are used up. Between attempts the client waits as its policy says; only a reply that
complains of too many requests may name the delay.
-/

namespace Concierge.Gemini

variable {σ : Type}

/-- A header value holds no control characters but the tab. -/
def validHeader (s : String) : Bool :=
  s.toList.all fun c => (0x20 ≤ c.toNat && c.toNat ≠ 0x7F) || c = '\t'

def headerValue (s : String) : String :=
  let bare (cs : List Char) := (cs.dropWhile fun c => c = ' ' || c = '\t').reverse
  String.ofList (bare (bare s.toList))

/-- The first header of that name, in any case. -/
def header? (name : String) (headers : List (String × String)) : Option String :=
  (headers.find? fun h => h.1.toList.map Char.toLower = name.toList).map (headerValue ·.2)

def retryAfter? (headers : List (String × String)) : Option Nat := do
  let text ← header? "retry-after" headers
  if text.toList.any fun c => 0x7E < c.toNat ∨ (c.toNat < 0x20 ∧ c ≠ '\t') then none
  return (← Extended.ofLiteral? text).thousandfold

namespace Client

def address (c : Client) (model : String) : String :=
  c.baseUrl ++ "/v1beta/models/" ++ model ++ ":generateContent"

def httpRequest (c : Client) (url : Url) (r : Request) : HttpRequest where
  host := url.authority
  target := url.target
  headers := [("content-type", "application/json"), ("x-goog-api-key", c.apiKey)]
  body := Json.compact (requestBody r)

def readReply (reply : HttpReply) : Except ModelError Response :=
  if 200 ≤ reply.status ∧ reply.status < 300 then
    match (reply.body.bind Json.read?).bind ReplyBody.decode? with
    | some body => body.response
    | none => .error (.unreadable "error decoding response body")
  else .error (classify reply.status (reply.body.getD "") (retryAfter? reply.headers))

/-- One attempt. An address that cannot be used fails without a request. -/
def attempt (out : Outside σ) (c : Client) (url : Option Url) (r : Request) :
    Run σ (Except ModelError Response) :=
  match url with
  | none => pure (.error (.network "builder error"))
  | some url => do
    let reply ← Run.within c.timeout do
      Run.await (← Run.ask (out.send (c.httpRequest url r)))
    match reply with
    | none => return .error .timeout
    | some (.error reason) => return .error (.network reason)
    | some (.ok reply) => return readReply reply

def requestedDelay : ModelError → Option Nat
  | .rateLimited after => after
  | _ => none

/-- Attempts until one is final, with `left` retries after `done` earlier ones. -/
def attempts (out : Outside σ) (c : Client) (url : Option Url) (r : Request) :
    (left done : Nat) → Run σ (Except ModelError Response)
  | left, done => do
    match ← attempt out c url r with
    | .ok response => return .ok response
    | .error e =>
      match left with
      | 0 => return .error e
      | left + 1 =>
        if e.isTransient then
          let jitter ← Run.ask out.jitter
          Run.sleep (c.retry.delay done (requestedDelay e) jitter)
          attempts out c url r left (done + 1)
        else return .error e

/-- The response of a model of the service. A key that cannot be sent is refused at once. -/
def generate (out : Outside σ) (c : Client) (model : String) (r : Request) :
    Run σ (Except ModelError Response) :=
  if validHeader c.apiKey then
    attempts out c (Url.ofText? (c.address model)) r c.retry.maxRetries 0
  else pure (.error (.auth "Invalid API key format"))

end Client

end Concierge.Gemini
