import Concierge.Proofs.Answer.Grammar
import Concierge.Proofs.Text.Bytes

/-!
# The answer by byte offsets

Here the answer is cut out of the reply by offsets: those of the tags in the lower-case copy, and those of the lines,
summed up over the lines before. A cut out of range or inside a character gives nothing at all, where a reply without
an answer gives `some none`. Every cut succeeds, and the answer is the one of the grammar.
-/

namespace Concierge.Answer

open Text

def taggedByOffset? (cs : List Char) : Option (Option Answer) :=
  match find? openTag (cs.map lower) with
  | none => some none
  | some start => do
    let inside ← from? (start + byteLength openTag) (cs.map lower)
    match find? closeTag inside with
    | none => some none
    | some size =>
      let before ← upTo? start cs
      let body ← between? (start + byteLength openTag) (size + (start + byteLength openTag)) cs
      some (of? before body)

/-- Where what follows the marker begins in a line that begins with the marker. -/
def markOffset? (m line : List Char) : Option (Option Nat) :=
  let bare := bareLine line
  if byteLength m ≤ byteLength bare ∧ (cutAt? (byteLength m) bare).isSome = true then do
    let word ← upTo? (byteLength m) bare
    some (if word.map lower = m.map lower then some (byteLength line - byteLength bare + byteLength m) else none)
  else some none

/-- Where the last line that begins with the marker begins and where what follows the marker does; `found` if there is
none. -/
def lastMarkOffset? (m : List Char) : List (List Char) → Nat → Option (Nat × Nat) → Option (Option (Nat × Nat))
  | [], _, found => some found
  | line :: rest, offset, found => do
    let mark ← markOffset? m line
    lastMarkOffset? m rest (offset + byteLength line) ((mark.map fun n => (offset, offset + n)) <|> found)

def markedByOffset? (cs : List Char) : List String → Option (Option Answer)
  | [] => some none
  | m :: ms => do
    match ← lastMarkOffset? m.toList (lines cs) 0 none with
    | none => markedByOffset? cs ms
    | some (start, stop) =>
      let after ← from? stop cs
      let before ← upTo? start cs
      some (of? before (after.dropWhile fun c => c = '*' || c = '_'))

def byOffset? (reply : String) : Option (Option Answer) := do
  match ← taggedByOffset? reply.toList with
  | some a => some (some a)
  | none => markedByOffset? reply.toList markers

/-! ## Tags -/

theorem find?_openTag (cs : List Char) : find? openTag (cs.map lower) =
    (splitFirst? (startsWithNoCase openTag) openTag.length cs).map (byteLength ·.1) :=
  find?_map_lower (by decide) (by decide) cs

theorem find?_closeTag (cs : List Char) : find? closeTag (cs.map lower) =
    (splitFirst? (startsWithNoCase closeTag) closeTag.length cs).map (byteLength ·.1) :=
  find?_map_lower (by decide) (by decide) cs

theorem taggedByOffset?_eq (cs : List Char) : taggedByOffset? cs = some (tagged? cs) := by
  rw [taggedByOffset?, find?_openTag]
  rcases splitFirst?_spells openTag cs with ⟨before, opening, inside, hsplit, opens⟩ | ⟨hsplit, -⟩
  · have skip : byteLength before + byteLength openTag = byteLength (before ++ opening) := by
      rw [byteLength_append, opens.found.byteLength_eq]
    have copy : from? (byteLength before + byteLength openTag) (cs.map lower) = some (inside.map lower) := by
      have copied : cs.map lower = (before ++ opening).map lower ++ inside.map lower := by
        rw [opens.split]
        exact List.map_append
      rw [skip, ← byteLength_map_lower, copied]
      exact from?_append _ _
    simp only [hsplit, Option.map_some, copy, Option.bind_eq_bind, Option.bind_some, find?_closeTag]
    rcases splitFirst?_spells closeTag inside with ⟨body, closing, after, hbody, closes⟩ | ⟨hbody, -⟩
    · have head : upTo? (byteLength before) cs = some before := by
        rw [opens.split, List.append_assoc]
        exact upTo?_append _ _
      have middle : between? (byteLength before + byteLength openTag)
          (byteLength body + (byteLength before + byteLength openTag)) cs = some body := by
        rw [skip, Nat.add_comm (byteLength body), opens.split, closes.split, List.append_assoc body,
          ← List.append_assoc _ body]
        exact between?_append _ _ _
      simp [hbody, head, middle, tagged?, hsplit]
    · simp [hbody, tagged?, hsplit]
  · simp [hsplit, tagged?]

/-! ## Markers -/

theorem markOffset?_of_starts {m line : List Char} (h : startsWithNoCase m (bareLine line) = true) :
    ∃ front, line = front ++ (bareLine line).drop m.length ∧ markOffset? m line = some (some (byteLength front)) := by
  obtain ⟨word, tail, bare, spells⟩ := (startsWithNoCase_iff m _).mp h
  obtain ⟨blanks, marks, split, -, -⟩ := eq_append_bareLine line
  have lead : byteLength line - byteLength (bareLine line) = byteLength (blanks ++ marks) := by
    have total := congrArg byteLength split
    rw [byteLength_append] at total
    omega
  refine ⟨blanks ++ marks ++ word, ?_, ?_⟩
  · rw [bare, ← Spells.length_eq _ spells, List.drop_left, List.append_assoc, ← bare, ← split]
  · have cut : cutAt? (byteLength m) (bareLine line) = some (word, tail) := by
      rw [bare, ← spells.byteLength_eq]
      exact cutAt?_append _ _
    have fits : byteLength m ≤ byteLength (bareLine line) := by
      rw [bare, byteLength_append, spells.byteLength_eq]
      exact Nat.le_add_right _ _
    rw [markOffset?, if_pos ⟨fits, by rw [cut]; rfl⟩, upTo?, cut, lead]
    show some (if word.map lower = m.map lower then _ else _) = _
    rw [if_pos (show word.map lower = m.map lower from spells), byteLength_append _ word, spells.byteLength_eq]

theorem markOffset?_of_not_starts {m line : List Char} (h : ¬ startsWithNoCase m (bareLine line) = true) :
    markOffset? m line = some none := by
  rw [markOffset?]
  split
  case isTrue fits =>
    obtain ⟨⟨word, tail⟩, cut⟩ := Option.isSome_iff_exists.mp fits.2
    have other : ¬ word.map lower = m.map lower := fun spells =>
      h ((startsWithNoCase_iff m _).mpr ⟨word, tail, (cutAt?_eq_some cut).1, spells⟩)
    rw [upTo?, cut]
    simp [other]
  case isFalse => rfl

theorem lastMarkOffset?_cases (m : List Char) (ls : List (List Char)) (offset : Nat) (found : Option (Nat × Nat)) :
    (∃ before mark after, lastMarked? m ls = some (before, after) ∧ ls.flatten = before ++ mark ++ after ∧
      lastMarkOffset? m ls offset found =
        some (some (offset + byteLength before, offset + byteLength (before ++ mark)))) ∨
    lastMarked? m ls = none ∧ lastMarkOffset? m ls offset found = some found := by
  induction ls generalizing offset found with
  | nil => exact Or.inr ⟨rfl, rfl⟩
  | cons line rest ih =>
    by_cases h : startsWithNoCase m (bareLine line) = true
    -- what was found so far is given up for this line, and this line for a later one
    · obtain ⟨front, split, here⟩ := markOffset?_of_starts h
      rcases ih (offset + byteLength line) (some (offset, offset + byteLength front)) with
        ⟨before, mark, after, last, hrest, later⟩ | ⟨last, later⟩
      · refine Or.inl ⟨line ++ before, mark, after, by rw [lastMarked?, last], ?_, ?_⟩
        · rw [List.flatten_cons, hrest]
          simp only [List.append_assoc]
        · simp [lastMarkOffset?, here, later, Nat.add_assoc]
      · refine Or.inl ⟨[], front, _, by rw [lastMarked?, last, if_pos h], ?_, ?_⟩
        · rw [List.flatten_cons, List.nil_append, ← List.append_assoc, ← split]
        · simp [lastMarkOffset?, here, later]
    · rcases ih (offset + byteLength line) found with ⟨before, mark, after, last, hrest, later⟩ | ⟨last, later⟩
      · refine Or.inl ⟨line ++ before, mark, after, by rw [lastMarked?, last], ?_, ?_⟩
        · rw [List.flatten_cons, hrest]
          simp only [List.append_assoc]
        · simp [lastMarkOffset?, markOffset?_of_not_starts h, later, Nat.add_assoc]
      · exact Or.inr ⟨by rw [lastMarked?, last, if_neg h], by simp [lastMarkOffset?, markOffset?_of_not_starts h, later]⟩

theorem markedByOffset?_eq (cs : List Char) (ms : List String) : markedByOffset? cs ms = some (do
    let (before, after) ← ms.findSome? fun m => lastMarked? m.toList (lines cs)
    of? before (after.dropWhile fun c => c = '*' || c = '_')) := by
  induction ms with
  | nil => rfl
  | cons m ms ih =>
    rcases lastMarkOffset?_cases m.toList (lines cs) 0 none with ⟨before, mark, after, last, split, found⟩ | ⟨last, found⟩
    · rw [flatten_lines] at split
      rw [Nat.zero_add, Nat.zero_add] at found
      have tail : from? (byteLength (before ++ mark)) cs = some after := split ▸ from?_append _ _
      have head : upTo? (byteLength before) cs = some before := by
        rw [split, List.append_assoc]
        exact upTo?_append _ _
      simp only [markedByOffset?, found, tail, head, last, List.findSome?_cons, Option.bind_eq_bind, Option.bind_some]
    · simp [markedByOffset?, found, ih, last]

theorem byOffset?_eq (reply : String) : byOffset? reply = some (ofReply? reply) := by
  rw [byOffset?, taggedByOffset?_eq, ofReply?]
  cases h : tagged? reply.toList with
  | some a => rfl
  | none =>
    show markedByOffset? reply.toList markers = _
    rw [markedByOffset?_eq]
    rfl

/-- A reply is read by its grammar, whatever its characters, and no cut at an offset falls outside the text or inside a
character. -/
theorem reply_read_by_grammar_cuts_in_range (reply : String) (a : Option Answer) :
    (ofReply? reply = a ↔ Reads reply.toList a) ∧ byOffset? reply = some (ofReply? reply) ∧
      ∀ (s : String) (n : Nat), (cutAt? n s.toList).isSome = true ↔ String.Pos.Raw.IsValid s ⟨n⟩ :=
  ⟨read_eq_iff, byOffset?_eq reply, fun s n => isSome_cutAt? n s⟩

end Concierge.Answer
