import Concierge.Settings.Configuration
import Concierge.Text.Find

/-!
# The command line

Options have a long name, some a letter; a value follows as the next word or behind an equals sign.
No option is given twice. Whoever asks for help or for the version gets it at once, unless a word
before it is wrong.
-/

namespace Concierge

structure Options where
  message : Option String := none
  session : Option String := none
  overrides : Overrides := {}
  verbose : Bool := false
  single : Bool := false
deriving DecidableEq, Repr

inductive Invocation where
  | run (o : Options)
  | help
  | version
  | misuse (reason : String)
deriving DecidableEq, Repr

namespace CommandLine

inductive Setting where
  | message
  | session
  | model
  | apiKey
  | memory
deriving DecidableEq, Repr

inductive Flag where
  | verbose
  | single
  | help
  | version
deriving DecidableEq, Repr

inductive Switch where
  | setting (s : Setting)
  | flag (f : Flag)
deriving DecidableEq, Repr

def ofName? (name : String) : Option Switch :=
  match name with
  | "print" => some (.setting .message)
  | "session" => some (.setting .session)
  | "model" => some (.setting .model)
  | "api-key" => some (.setting .apiKey)
  | "memory" => some (.setting .memory)
  | "verbose" => some (.flag .verbose)
  | "no-routing" => some (.flag .single)
  | "help" => some (.flag .help)
  | "version" => some (.flag .version)
  | _ => none

def ofLetter? (c : Char) : Option Switch :=
  match c with
  | 'p' => some (.setting .message)
  | 'h' => some (.flag .help)
  | 'V' => some (.flag .version)
  | _ => none

def twice : String := "an option is given twice"

def fill (old : Option String) (v : String) : Except String (Option String) :=
  match old with
  | some _ => .error twice
  | none => .ok (some v)

def set (o : Options) (s : Setting) (v : String) : Except String Options := do
  match s with
  | .message => return { o with message := ← fill o.message v }
  | .session => return { o with session := ← fill o.session v }
  | .model => return { o with overrides := { o.overrides with model := ← fill o.overrides.model v } }
  | .apiKey =>
    return { o with overrides := { o.overrides with apiKey := ← fill o.overrides.apiKey v } }
  | .memory =>
    match o.overrides.backend, Settings.Backend.ofName? v with
    | none, some b => return { o with overrides := { o.overrides with backend := some b } }
    | some _, _ => throw twice
    | none, none =>
      throw ("unknown memory backend '" ++ v ++ "' (expected none, memory or file)")

def raise (o : Options) : Flag → Except Invocation Options
  | .help => .error .help
  | .version => .error .version
  | .verbose => if o.verbose then .error (.misuse twice) else .ok { o with verbose := true }
  | .single => if o.single then .error (.misuse twice) else .ok { o with single := true }

def splitValue (cs : List Char) : String × Option String :=
  (String.ofList (cs.takeWhile (· ≠ '=')),
    match cs.dropWhile (· ≠ '=') with
    | _ :: v => some (String.ofList v)
    | [] => none)

inductive Word where
  | stop
  | long (name : String) (value : Option String)
  | short (letters : List Char)
  | plain (text : String)

def Word.ofText (s : String) : Word :=
  match s.toList with
  | ['-', '-'] => .stop
  | '-' :: '-' :: cs => let (name, v) := splitValue cs; .long name v
  | '-' :: c :: cs => .short (c :: cs)
  | _ => .plain s

/-- Take an option with the value that is attached to it, or with the next word. -/
def take (o : Options) (s : Setting) (attached : Option String) (rest : List String) :
    Except Invocation (Options × List String) :=
  let settle (v : String) (rest : List String) : Except Invocation (Options × List String) :=
    match set o s v with
    | .ok o => .ok (o, rest)
    | .error e => .error (.misuse e)
  let lacking := Invocation.misuse "a value is missing"
  match attached, rest with
  | some v, rest => settle v rest
  | none, [] => .error lacking
  | none, w :: rest =>
    match Word.ofText w with
    | .plain v => settle v rest
    | _ => .error lacking

/-- Take the letters behind a dash. The letter of an option with a value ends them: what follows is
the value, with or without an equals sign. -/
def takeLetters (o : Options) (rest : List String) :
    List Char → Except Invocation (Options × List String)
  | [] => .ok (o, rest)
  | c :: cs =>
    match ofLetter? c with
    | none => .error (.misuse "unknown option")
    | some (.flag f) => do takeLetters (← raise o f) rest cs
    | some (.setting s) =>
      match cs with
      | [] => take o s none rest
      | '=' :: v | v => take o s (some (String.ofList v)) rest

def takeWord (o : Options) (w : String) (rest : List String) :
    Except Invocation (Options × List String) :=
  match Word.ofText w with
  | .stop => if rest.isEmpty then .ok (o, []) else .error (.misuse "unexpected word")
  | .plain _ => .error (.misuse "unexpected word")
  | .short letters => takeLetters o rest letters
  | .long name v =>
    match ofName? name, v with
    | none, _ => .error (.misuse "unknown option")
    | some (.setting s), v => take o s v rest
    | some (.flag f), none => (raise o f).map fun o => (o, rest)
    | some (.flag _), some _ => .error (.misuse "unexpected value")

theorem take_length {o o' : Options} {s : Setting} {v : Option String} {rest rest' : List String}
    (h : take o s v rest = .ok (o', rest')) : rest'.length ≤ rest.length := by
  unfold take at h
  grind

theorem takeLetters_length {rest rest' : List String} {cs : List Char} {o o' : Options}
    (h : takeLetters o rest cs = .ok (o', rest')) : rest'.length ≤ rest.length := by
  induction cs generalizing o with
  | nil => cases h; exact Nat.le_refl _
  | cons c cs ih =>
    unfold takeLetters at h
    split at h
    · cases h
    · rename_i f _
      cases hf : raise o f with
      | error e => rw [hf] at h; cases h
      | ok o₂ => rw [hf] at h; exact ih h
    · split at h <;> exact take_length h

theorem takeWord_length {o o' : Options} {w : String} {rest rest' : List String}
    (h : takeWord o w rest = .ok (o', rest')) : rest'.length ≤ rest.length := by
  unfold takeWord at h
  split at h
  · split at h
    · cases h; exact Nat.zero_le _
    · cases h
  · cases h
  · exact takeLetters_length h
  · split at h
    · cases h
    · exact take_length h
    · rename_i f _ _
      cases hf : raise o f with
      | error e => rw [hf] at h; cases h
      | ok o₂ => rw [hf] at h; cases h; exact Nat.le_refl _
    · cases h

def read (o : Options) : List String → Invocation
  | [] => .run o
  | w :: rest =>
    match _h : takeWord o w rest with
    | .ok (o, rest') => read o rest'
    | .error i => i
termination_by ws => ws.length
decreasing_by
  have := takeWord_length _h
  simp only [List.length_cons]
  omega

end CommandLine

def Invocation.ofWords (ws : List String) : Invocation := CommandLine.read {} ws

end Concierge
