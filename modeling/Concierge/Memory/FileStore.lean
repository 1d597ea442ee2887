import Concierge.Memory.Folder
import Concierge.Memory.Operation

/-!
# Memory kept in files

A store keeps the record of every chat in a file of its own within a folder, which is made before the
first operation. A record is written to a temporary file that then takes the name of the record, so
the record itself is replaced as a whole or not at all.
-/

namespace Concierge.Memory

/-- A store makes its folder once and may be closed for good. -/
inductive FileStore where
  | uninitialized
  | ready
  | closed
deriving DecidableEq, Repr

def FolderError.memoryError : FolderError → MemoryError
  | .notFound => .io "not found"
  | .other => .io "the call failed"

namespace FileStore

def recordName (chat : ChatId) : String := chat.text ++ ".json"

def draftName (chat : ChatId) : String := chat.text ++ ".tmp"

def ensureReady (s : FileStore) (f : Folder) : Except MemoryError Unit × FileStore × Folder :=
  match s with
  | ready => (.ok (), ready, f)
  | closed => (.error .closed, closed, f)
  | uninitialized =>
    match f.create with
    | (.ok (), f) => (.ok (), ready, f)
    | (.error e, f) => (.error e.memoryError, uninitialized, f)

/-- The record of a chat, empty if there is no file. -/
def load (chat : ChatId) (f : Folder) : Except MemoryError ChatRecord × Folder :=
  match f.read (recordName chat) with
  | (.ok text, f) =>
    match ChatRecord.read? text with
    | some r => (.ok r, f)
    | none => (.error (.corrupt chat "not a record"), f)
  | (.error .notFound, f) => (.ok {}, f)
  | (.error e, f) => (.error e.memoryError, f)

def save (chat : ChatId) (r : ChatRecord) (f : Folder) : Except MemoryError Unit × Folder :=
  match f.write (draftName chat) r.write with
  | (.error e, f) => (.error e.memoryError, f)
  | (.ok (), f) =>
    match f.rename (draftName chat) (recordName chat) with
    | (.error e, f) => (.error e.memoryError, f)
    | (.ok (), f) => (.ok (), f)

def perform {α : Type} (s : FileStore) (f : Folder) (chat : ChatId) (op : Operation α) :
    Except MemoryError α × FileStore × Folder :=
  match s.ensureReady f with
  | (.error e, s, f) => (.error e, s, f)
  | (.ok (), s, f) =>
    match load chat f with
    | (.error e, f) => (.error e, s, f)
    | (.ok r, f) =>
      let (a, r) := op.apply r
      if op.writes then
        match save chat r f with
        | (.error e, f) => (.error e, s, f)
        | (.ok (), f) => (.ok a, s, f)
      else (.ok a, s, f)

end FileStore

end Concierge.Memory
