import Concierge.Text.Blank
import Concierge.Text.Find

/-!
# The answer in a reply that thinks aloud

Some models reason in their reply before they answer. The answer stands between answer tags, or it
follows the last line that starts with a marker. What precedes it is the reasoning, in paragraphs.
-/

namespace Concierge

structure Answer where
  reasoning : List String
  final : String
deriving DecidableEq, Repr

namespace Answer

open Text

def openTag : List Char := "<answer>".toList

def closeTag : List Char := "</answer>".toList

/-- The markers, those that are tried first in front. -/
def markers : List String := ["final answer:", "answer:", "conclusion:"]

def paragraphs (cs : List Char) : List String :=
  ((piecesAtPair '\n' cs).map trimChars).filter (!·.isEmpty) |>.map String.ofList

def of? (reasoning answer : List Char) : Option Answer :=
  match trimChars answer with
  | [] => none
  | final => some ⟨paragraphs reasoning, String.ofList final⟩

def tagged? (cs : List Char) : Option Answer := do
  let (before, inside) ← splitFirst? (startsWithNoCase openTag) openTag.length cs
  let (body, _) ← splitFirst? (startsWithNoCase closeTag) closeTag.length inside
  of? before body

/-- A line without blanks in front and without headings and emphasis after them. -/
def bareLine (line : List Char) : List Char :=
  (trimStart line).dropWhile fun c => c = '#' || c = '*' || c = '_' || c = ' '

/-- What precedes the last line that starts with the marker, and what follows the marker. -/
def lastMarked? (marker : List Char) : List (List Char) → Option (List Char × List Char)
  | [] => none
  | line :: rest =>
    match lastMarked? marker rest with
    | some (before, after) => some (line ++ before, after)
    | none =>
      if startsWithNoCase marker (bareLine line) then
        some ([], (bareLine line).drop marker.length ++ rest.flatten)
      else none

/-- The answer after the first marker that some line starts with; no other marker is tried. -/
def marked? (cs : List Char) : Option Answer := do
  let (before, after) ← markers.findSome? fun m => lastMarked? m.toList (lines cs)
  of? before (after.dropWhile fun c => c = '*' || c = '_')

/-- The answer of a reply; none if it has neither tags nor a marker or the answer is blank. -/
def ofReply? (reply : String) : Option Answer :=
  tagged? reply.toList <|> marked? reply.toList

end Answer

end Concierge
