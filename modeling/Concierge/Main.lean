import Concierge.Console
import Std.Time.DateTime.Timestamp

/-!
# The command

The program reads its words, its environment and its settings file, and holds the conversation over
the standard streams. Memory that is kept in files is written out after every answer. There is no way
to a server from here: every request ends without a connection.
-/

namespace Concierge

structure Machine where
  generator : StdGen
  now : Instant

namespace Machine

def draw (high : Nat) (m : Machine) : Nat × Machine :=
  let (n, g) := randNat m.generator 0 high
  (n, { m with generator := g })

/-- A random chat id but for six bits, which say so. -/
def drawChatId (m : Machine) : ChatId × Machine :=
  let (a, m) := m.draw (twoTo 48 - 1)
  let (b, m) := m.draw (twoTo 12 - 1)
  let (c, m) := m.draw (twoTo 62 - 1)
  (⟨BitVec.ofNat 48 a ++ 4#4 ++ BitVec.ofNat 12 b ++ 2#2 ++ BitVec.ofNat 62 c⟩, m)

def jitter (m : Machine) : Float × Machine :=
  let (n, m) := m.draw 1000000
  (0.75 + Float.ofNat n / 2000000, m)

def outside : Outside Machine where
  createModel _ m := (.ok (), m)
  generate _ _ m := (.after 0 (.error (.network "no connection")), m)
  callTool _ _ _ m := (.after 0 (.error (.failed "no such tool")), m)
  postedRoles _ := []
  send r m := (.after 0 (.error ("no connection to " ++ r.host)), m)
  jitter := Machine.jitter
  drawChatId := Machine.drawChatId
  now m := (m.now, m)
  access _ _ _ m := (.error (.backend "no such store"), m)
  closeStore _ m := (.ok (), m)

end Machine

namespace Main

def write (w : Written) : IO Unit := do
  let (text, stream) ← match w with
    | .answer text => pure (text, ← IO.getStdout)
    | .aside text => pure (text, ← IO.getStderr)
  stream.putStr text
  stream.flush

def readText? (path : String) : IO (Option String) := do
  match ← (IO.FS.readFile path).toBaseIO with
  | .ok text => return some text
  | .error _ => return none

def now : IO Instant := do
  let n := (← Std.Time.Timestamp.now).toNanosecondsSinceUnixEpoch.val
  return ⟨n / 1000000000, (n % 1000000000).toNat⟩

def keepFiles (path : String) (before after : Memory.Folder) : IO Unit := do
  if after.present && !before.present then IO.FS.createDirAll path
  for (name, node) in after.nodes do
    if before.nodes.get? name ≠ some node then
      if let .file text := node then IO.FS.writeFile (Configuration.pathIn path name) text
  for (name, _) in before.nodes do
    if (after.nodes.get? name).isNone then IO.FS.removeFile (Configuration.pathIn path name)

/-- The world at the start. Something that can be read as a file stands in the way of a folder. -/
def opening (folder : Option String) : IO (World Machine) := do
  let blocked := match folder with
    | some path => (·.isSome) <$> readText? path
    | none => pure false
  let seed ← IO.rand 0 (twoTo 31)
  return { outside := ⟨mkStdGen seed, ← now⟩, folder := { blocked := ← blocked } }

def perform {α : Type} (folder : Option String) (x : Run Machine α) (w : World Machine) :
    IO (Option α × World Machine) := do
  let (a, after) := x none { w with outside := { w.outside with now := ← now } }
  IO.sleep (UInt32.ofNat (after.clock - w.clock))
  if let some path := folder then
    if let .error e ← (keepFiles path w.folder after.folder).toBaseIO then
      write (.aside ("Memory was not kept: " ++ toString e ++ "\n"))
  return (a, after)

partial def converse (folder : Option String) (c : Console) (w : World Machine) : IO UInt32 := do
  let leave (w : World Machine) (status : UInt32) : IO UInt32 := do
    let _ ← perform folder (c.reception.shutdown Machine.outside) w
    return status
  write (.aside Console.prompt)
  match ← ((← IO.getStdin).getLine).toBaseIO with
  | .error e =>
    let status ← leave w 1
    write (.aside (Complaint.text ⟨"Failed to read from stdin", [toString e]⟩))
    return status
  | .ok line =>
    if line.isEmpty then
      write (.aside "\n")
      leave w 0
    else
      match ← perform folder (c.respond Machine.outside line) w with
      | (some (written, some c), w) =>
        written.forM write
        converse folder c w
      | (some (written, none), w) =>
        written.forM write
        leave w 0
      | (none, w) => leave w 1

def start (l : Launch) : IO UInt32 := do
  let folder := l.memoryFolder?
  match ← perform folder (l.run Machine.outside) (← opening folder) with
  | (some (.done written status), _) =>
    written.forM write
    return UInt32.ofNat status
  | (some (.talking written c), w) =>
    written.forM write
    converse folder c w
  | (none, _) => return 1

end Main

end Concierge

open Concierge in
def main (words : List String) : IO UInt32 := do
  let folder := Configuration.settingsFolder (← IO.getEnv "SWITCHBOARD_CONFIG_DIR")
    (← IO.getEnv "HOME")
  Main.start {
    words := words
    environment := ⟨← IO.getEnv "GEMINI_API_KEY", ← IO.getEnv "SWITCHBOARD_MODEL",
      ← IO.getEnv "GEMINI_API_BASE_URL"⟩
    toml := ← Main.readText? (Configuration.pathIn folder "config.toml")
    folder := folder }
