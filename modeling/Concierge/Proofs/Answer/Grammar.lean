import Mathlib.Data.List.Forall2
import Concierge.Dialogue.Answer
import Concierge.Proofs.Text.Found

/-!
# The grammar of a reply

`Reads` says what answer a reply holds, by the places of the tags and of the markers in its text. The reader takes a
text line by line; the places are found again by taking off one line after the other.
-/

namespace Concierge.Answer

open Text

/-! ## The answer and its reasoning -/

def Paragraphs (cs : List Char) (ps : List String) : Prop :=
  ∃ pieces, Pieces (· = ['\n', '\n']) cs pieces ∧
    List.Forall₂ (fun piece (p : String) => Trims piece p.toList) (pieces.filter fun p => !p.all isBlank) ps

theorem paragraphs_eq (cs : List Char) : paragraphs cs =
    ((piecesAtPair '\n' cs).filter fun p => !p.all isBlank).map fun p => String.ofList (trimChars p) := by
  have kept (p : List Char) : (!(trimChars p).isEmpty) = !p.all isBlank := by
    rw [Bool.eq_iff_iff]
    simp only [Bool.not_eq_true', List.isEmpty_eq_false_iff, List.all_eq_false, ne_eq, trimChars_eq_nil_iff]
    simp
  rw [paragraphs, List.filter_map, List.map_map]
  congr 2
  funext p
  exact kept p

theorem forall₂_trims {pieces : List (List Char)} {ps : List String} :
    List.Forall₂ (fun piece (p : String) => Trims piece p.toList) pieces ps ↔
      pieces.map (fun p => String.ofList (trimChars p)) = ps := by
  have trimmed : (fun piece (p : String) => Trims piece p.toList) = fun piece p => String.ofList (trimChars piece) = p := by
    funext piece p
    rw [← trimChars_eq_iff, eq_iff_iff]
    constructor
    · intro h
      rw [h, String.ofList_toList]
    · rintro rfl
      exact String.toList_ofList.symm
  rw [← List.forall₂_eq_eq_eq, List.forall₂_map_left_iff, trimmed]

theorem paragraphs_eq_iff {cs : List Char} {ps : List String} : paragraphs cs = ps ↔ Paragraphs cs ps := by
  rw [paragraphs_eq, ← forall₂_trims]
  constructor
  · intro h
    exact ⟨_, pieces_piecesAtPair '\n' cs, h⟩
  · rintro ⟨pieces, cuts, h⟩
    rw [(pieces_piecesAtPair '\n' cs).unique (fun f hf => congrArg List.length hf) cuts]
    exact h

inductive Gives (before text : List Char) : Option Answer → Prop
  | blank (blank : ∀ c ∈ text, isBlank c = true) : Gives before text none
  | final {ps t} (trims : Trims text t) (nonempty : t ≠ []) (reasoning : Paragraphs before ps) :
      Gives before text (some ⟨ps, String.ofList t⟩)

theorem of?_eq_iff {before text : List Char} {a : Option Answer} : of? before text = a ↔ Gives before text a := by
  unfold of?
  constructor
  · rintro rfl
    split
    case h_1 h => exact .blank (trimChars_eq_nil_iff.mp h)
    case h_2 t h => exact .final (trims_trimChars text) h (paragraphs_eq_iff.mp rfl)
  · intro h
    cases h with
    | blank blank => rw [trimChars_eq_nil_iff.mpr blank]
    | final trims nonempty reasoning =>
      rw [trims.trimChars_eq, paragraphs_eq_iff.mpr reasoning]
      split
      case h_1 => exact absurd rfl nonempty
      case h_2 => rfl

/-! ## Tags -/

/-- The first opening tag stands behind `before`, and `body` is in front of the first closing tag after it. -/
def Tagged (cs before body : List Char) : Prop :=
  ∃ opening inside closing after, First (Spells openTag) cs before opening inside ∧
    First (Spells closeTag) inside body closing after

theorem splitFirst?_spells (word cs : List Char) :
    (∃ before found after, splitFirst? (startsWithNoCase word) word.length cs = some (before, after) ∧
      First (Spells word) cs before found after) ∨
    splitFirst? (startsWithNoCase word) word.length cs = none ∧ Absent (Spells word) cs :=
  splitFirst?_cases Spells.length_eq (startsWithNoCase_iff word) cs

theorem Tagged.unique {cs before body before' body' : List Char} (h : Tagged cs before body)
    (h' : Tagged cs before' body') : before = before' ∧ body = body' := by
  obtain ⟨_, inside, _, _, opens, closes⟩ := h
  obtain ⟨_, inside', _, _, opens', closes'⟩ := h'
  obtain ⟨rfl, rfl⟩ := opens.unique Spells.length_eq opens'
  exact ⟨rfl, (closes.unique Spells.length_eq closes').1⟩

theorem tagged?_cases (cs : List Char) :
    (∃ before body, Tagged cs before body ∧ tagged? cs = of? before body) ∨
      (∀ before body, ¬ Tagged cs before body) ∧ tagged? cs = none := by
  rcases splitFirst?_spells openTag cs with ⟨before, _, inside, hsplit, opens⟩ | ⟨hsplit, absent⟩
  · rcases splitFirst?_spells closeTag inside with ⟨body, _, after, hbody, closes⟩ | ⟨hbody, absent⟩
    · refine Or.inl ⟨before, body, ⟨_, _, _, _, opens, closes⟩, ?_⟩
      simp [tagged?, hsplit, hbody]
    · refine Or.inr ⟨?_, by simp [tagged?, hsplit, hbody]⟩
      rintro _ _ ⟨_, inside', _, _, opens', closes'⟩
      obtain ⟨-, rfl⟩ := opens.unique Spells.length_eq opens'
      exact closes'.not_absent absent
  · refine Or.inr ⟨?_, by simp [tagged?, hsplit]⟩
    rintro _ _ ⟨_, _, _, _, opens', _⟩
    exact opens'.not_absent absent

/-! ## Markers -/

def emphasis (c : Char) : Bool := c = '#' || c = '*' || c = '_' || c = ' '

/-- A line begins behind `before`, and it begins with the marker. -/
def Marked (m cs before after : List Char) : Prop :=
  ∃ blanks marks word, cs = before ++ (blanks ++ marks ++ word ++ after) ∧
    (∀ c, before.getLast? = some c → c = '\n') ∧ (∀ c ∈ blanks, isBlank c = true ∧ c ≠ '\n') ∧
    (∀ c ∈ marks, emphasis c = true) ∧ Spells m word

structure LastMarked (m cs before after : List Char) : Prop where
  here : Marked m cs before after
  last : ∀ before' after', Marked m cs before' after' → before'.length ≤ before.length

structure Marker (m : List Char) : Prop where
  oneLine : '\n' ∉ m.map lower
  begins : ∃ c cs, m.map lower = c :: cs ∧ isBlank c = false ∧ emphasis c = false

theorem marker_of_mem {m : String} (hm : m ∈ markers) : Marker m.toList := by
  simp only [markers, List.mem_cons, List.not_mem_nil, or_false] at hm
  rcases hm with rfl | rfl | rfl
  · exact ⟨by decide, 'f', "inal answer:".toList, by decide⟩
  · exact ⟨by decide, 'a', "nswer:".toList, by decide⟩
  · exact ⟨by decide, 'c', "onclusion:".toList, by decide⟩

theorem lower_of_emphasis {c : Char} (h : emphasis c = true) : lower c = c := by
  simp only [emphasis, Bool.or_eq_true, decide_eq_true_eq] at h
  rcases h with ((rfl | rfl) | rfl) | rfl <;> rfl

theorem bareLine_append {blanks marks t : List Char} (hblanks : ∀ c ∈ blanks, isBlank c = true)
    (hmarks : ∀ c ∈ marks, emphasis c = true) (begins : ∀ c, t.head? = some c → isBlank c = false ∧ emphasis c = false) :
    bareLine (blanks ++ marks ++ t) = t := by
  show (trimStart (blanks ++ marks ++ t)).dropWhile emphasis = t
  rw [trimStart, List.append_assoc, List.dropWhile_append_of_pos hblanks,
    dropWhile_append_of_head? fun c hc => (begins c hc).1, List.dropWhile_append_of_pos,
    dropWhile_of_head? fun c hc => (begins c hc).2]
  exact fun c hc => hmarks c ((List.dropWhile_suffix _).subset hc)

theorem eq_append_bareLine (line : List Char) : ∃ blanks marks, line = blanks ++ marks ++ bareLine line ∧
    (∀ c ∈ blanks, isBlank c = true) ∧ ∀ c ∈ marks, emphasis c = true := by
  refine ⟨line.takeWhile isBlank, (trimStart line).takeWhile emphasis, ?_, fun c => List.mem_takeWhile_imp,
    fun c => List.mem_takeWhile_imp⟩
  show line = _ ++ _ ++ (trimStart line).dropWhile emphasis
  rw [List.append_assoc, List.takeWhile_append_dropWhile]
  exact List.takeWhile_append_dropWhile.symm

section
variable {m : List Char} (marker : Marker m) {word : List Char} (spells : Spells m word)
include marker spells

theorem Marker.not_mem_word : '\n' ∉ word := by
  intro h
  have := List.mem_map_of_mem (f := lower) h
  rw [spells] at this
  exact marker.oneLine this

theorem Marker.word_ne_nil : word ≠ [] := by
  rintro rfl
  obtain ⟨c, cs, hm, -⟩ := marker.begins
  cases Eq.trans spells hm

theorem Marker.begins_word (after : List Char) :
    ∀ c, (word ++ after).head? = some c → isBlank c = false ∧ emphasis c = false := by
  obtain ⟨c, cs, hm, notBlank, plain⟩ := marker.begins
  obtain ⟨d, ds, rfl, hd, -⟩ := List.map_eq_cons_iff.mp (Eq.trans spells hm)
  rintro _ ⟨⟩
  refine ⟨Bool.eq_false_iff.mpr fun h => ?_, Bool.eq_false_iff.mpr fun h => ?_⟩
  · rw [lower_of_isBlank h] at hd
    rw [hd, notBlank] at h
    cases h
  · rw [lower_of_emphasis h] at hd
    rw [hd, plain] at h
    cases h

theorem Marker.bareLine_eq {blanks marks : List Char} (hblanks : ∀ c ∈ blanks, isBlank c = true)
    (hmarks : ∀ c ∈ marks, emphasis c = true) (after : List Char) :
    bareLine (blanks ++ marks ++ word ++ after) = word ++ after := by
  rw [List.append_assoc (blanks ++ marks)]
  exact bareLine_append hblanks hmarks (marker.begins_word spells after)

end

theorem LastMarked.unique {m : List Char} (marker : Marker m) {cs before after before' after' : List Char}
    (h : LastMarked m cs before after) (h' : LastMarked m cs before' after') : before = before' ∧ after = after' := by
  have same := Nat.le_antisymm (h'.last _ _ h.here) (h.last _ _ h'.here)
  obtain ⟨blanks, marks, word, split, -, hblanks, hmarks, spells⟩ := h.here
  obtain ⟨blanks', marks', word', split', -, hblanks', hmarks', spells'⟩ := h'.here
  obtain ⟨rfl, rest⟩ := List.append_inj (split.symm.trans split') same
  -- how blanks and marks share what is in front of the word may differ, but not where the word begins
  have bare := congrArg bareLine rest
  rw [marker.bareLine_eq spells (fun c hc => (hblanks c hc).1) hmarks,
    marker.bareLine_eq spells' (fun c hc => (hblanks' c hc).1) hmarks'] at bare
  exact ⟨rfl, (List.append_inj bare ((Spells.length_eq _ spells).trans (Spells.length_eq _ spells').symm)).2⟩

/-! ## Line by line -/

/-- `line` is the first line of `line ++ rest`: the line feed is its last character or it ends the text. -/
def FirstLine (line rest : List Char) : Prop :=
  ∃ body, '\n' ∉ body ∧ (line = body ++ ['\n'] ∨ line = body ∧ rest = [])

theorem lines_cons {c : Char} (cs : List Char) :
    ∃ line rest, c :: cs = line ++ rest ∧ lines (c :: cs) = line :: lines rest ∧ FirstLine line rest := by
  induction cs generalizing c with
  | nil =>
    by_cases h : c = '\n'
    · exact ⟨[c], [], rfl, by simp [lines, h], [], by simp, Or.inl (by simp [h])⟩
    · exact ⟨[c], [], rfl, by simp [lines, h], [c], by simpa using Ne.symm h, Or.inr ⟨rfl, rfl⟩⟩
  | cons d ds ih =>
    by_cases h : c = '\n'
    · exact ⟨[c], d :: ds, rfl, by rw [lines, if_pos h], [], by simp, Or.inl (by simp [h])⟩
    · obtain ⟨line, rest, split, hlines, body, plain, ends⟩ := ih (c := d)
      refine ⟨c :: line, rest, by rw [split]; rfl, by rw [lines, if_neg h, hlines], c :: body, ?_, ?_⟩
      · simpa [Ne.symm h] using plain
      · rcases ends with rfl | ⟨rfl, rfl⟩
        · exact Or.inl rfl
        · exact Or.inr ⟨rfl, rfl⟩

theorem append_eq_append_newline {u x body y : List Char} (h : u ++ x = body ++ '\n' :: y) (plain : '\n' ∉ u) :
    ∃ v, body = u ++ v ∧ x = v ++ '\n' :: y := by
  rcases List.append_eq_append_iff.mp h with ⟨v, hbody, hx⟩ | ⟨v, hu, hy⟩
  · exact ⟨v, hbody, hx⟩
  · cases v with
    | nil => exact ⟨[], by rw [hu]; simp, by simpa using hy.symm⟩
    | cons c v =>
      simp only [List.cons_append, List.cons.injEq] at hy
      exact absurd (by rw [hu, ← hy.1]; simp) plain

theorem FirstLine.of_prefix {line rest u x : List Char} (h : FirstLine line rest) (split : line ++ rest = u ++ x)
    (plain : '\n' ∉ u) : ∃ v, line = u ++ v ∧ x = v ++ rest := by
  obtain ⟨body, -, rfl | ⟨rfl, rfl⟩⟩ := h
  · rw [List.append_assoc, List.singleton_append] at split
    obtain ⟨v, rfl, rfl⟩ := append_eq_append_newline split.symm plain
    exact ⟨v ++ ['\n'], by simp, by simp⟩
  · exact ⟨x, by simpa using split, by simp⟩

theorem FirstLine.of_newline {line rest u x : List Char} (h : FirstLine line rest)
    (split : line ++ rest = u ++ ['\n'] ++ x) :
    ∃ v, u ++ ['\n'] = line ++ v ∧ rest = v ++ x ∧ ∀ c, v.getLast? = some c → c = '\n' := by
  obtain ⟨body, plain, rfl | ⟨rfl, rfl⟩⟩ := h
  · simp only [List.append_assoc, List.singleton_append] at split
    obtain ⟨v, rfl, hrest⟩ := append_eq_append_newline split plain
    cases v with
    | nil =>
      simp only [List.nil_append, List.cons.injEq, true_and] at hrest
      exact ⟨[], by simp, by simpa using hrest, by simp⟩
    | cons c v =>
      simp only [List.cons_append, List.cons.injEq] at hrest
      obtain ⟨rfl, rfl⟩ := hrest
      exact ⟨v ++ ['\n'], by simp, by simp, by simp⟩
  · rw [List.append_nil] at split
    exact absurd (by simp [split]) plain

theorem FirstLine.newline_last {line rest u v : List Char} (h : FirstLine line rest) (split : line = u ++ '\n' :: v) :
    v = [] := by
  obtain ⟨body, plain, rfl | ⟨rfl, rfl⟩⟩ := h
  · obtain ⟨w, -, hw⟩ := append_eq_append_newline split plain
    have := congrArg List.length hw
    simp only [List.length_cons, List.length_nil, List.length_append] at this
    exact List.length_eq_zero_iff.mp (by omega)
  · exact absurd (by simp [split]) plain

section
variable {m : List Char} (marker : Marker m) {line rest before after : List Char} (first : FirstLine line rest)
include marker first

theorem marked_here (h : startsWithNoCase m (bareLine line) = true) :
    Marked m (line ++ rest) [] ((bareLine line).drop m.length ++ rest) := by
  obtain ⟨word, tail, bare, spells⟩ := (startsWithNoCase_iff m _).mp h
  obtain ⟨blanks, marks, split, hblanks, hmarks⟩ := eq_append_bareLine line
  rw [bare] at split
  refine ⟨blanks, marks, word, ?_, by simp, fun c hc => ⟨hblanks c hc, ?_⟩, hmarks, spells⟩
  · rw [bare, ← Spells.length_eq _ spells, List.drop_left, split]
    simp
  · -- a line feed ends its line, so the marker could not follow it
    rintro rfl
    obtain ⟨b, b', rfl⟩ := List.append_of_mem hc
    have last := first.newline_last (u := b) (v := b' ++ marks ++ (word ++ tail)) (by rw [split]; simp)
    simp only [List.append_eq_nil_iff] at last
    exact marker.word_ne_nil spells last.2.1

theorem marked_append_iff : Marked m (line ++ rest) before after ↔
    (before = [] ∧ startsWithNoCase m (bareLine line) = true ∧ after = (bareLine line).drop m.length ++ rest) ∨
      ∃ before', before = line ++ before' ∧ Marked m rest before' after := by
  constructor
  · rintro ⟨blanks, marks, word, split, start, hblanks, hmarks, spells⟩
    -- what is marked is the first line itself or begins behind a line feed, which is not before its end
    rcases before.eq_nil_or_concat with rfl | ⟨u, c, rfl⟩
    · have plain : '\n' ∉ blanks ++ marks ++ word := by
        simp only [List.mem_append, not_or]
        exact ⟨⟨fun h => (hblanks _ h).2 rfl, fun h => by cases hmarks _ h⟩, marker.not_mem_word spells⟩
      rw [List.nil_append] at split
      obtain ⟨tail, rfl, rfl⟩ := first.of_prefix split plain
      rw [marker.bareLine_eq spells (fun c hc => (hblanks c hc).1) hmarks]
      refine Or.inl ⟨rfl, (startsWithNoCase_iff _ _).mpr ⟨word, tail, rfl, spells⟩, ?_⟩
      rw [← Spells.length_eq _ spells, List.drop_left]
    · obtain rfl := start c (by simp)
      rw [List.concat_eq_append] at split ⊢
      obtain ⟨before', hbefore, hrest, start'⟩ := first.of_newline split
      exact Or.inr ⟨before', hbefore, blanks, marks, word, hrest, start', hblanks, hmarks, spells⟩
  · rintro (⟨rfl, h, rfl⟩ | ⟨before', rfl, blanks, marks, word, split, start, hblanks, hmarks, spells⟩)
    · exact marked_here marker first h
    · refine ⟨blanks, marks, word, by rw [split, List.append_assoc line], fun c hc => ?_, hblanks, hmarks, spells⟩
      obtain ⟨body, -, rfl | ⟨rfl, rfl⟩⟩ := first
      · rcases before'.eq_nil_or_concat with rfl | ⟨u, d, rfl⟩
        · simpa using hc.symm
        · refine start c ?_
          rw [List.concat_eq_append, ← List.append_assoc, List.getLast?_append] at hc
          simpa using hc
      · simp only [List.nil_eq, List.append_eq_nil_iff] at split
        exact absurd split.2.1.2 (marker.word_ne_nil spells)

end

theorem lastMarked?_cases {m : List Char} (marker : Marker m) (cs : List Char) :
    (∃ before after, lastMarked? m (lines cs) = some (before, after) ∧ LastMarked m cs before after) ∨
      lastMarked? m (lines cs) = none ∧ ∀ before after, ¬ Marked m cs before after := by
  induction hcs : lines cs generalizing cs with
  | nil =>
    have empty := flatten_lines cs
    rw [hcs] at empty
    subst empty
    refine Or.inr ⟨rfl, ?_⟩
    rintro before after ⟨blanks, marks, word, split, -, -, -, spells⟩
    simp only [List.flatten_nil, List.nil_eq, List.append_eq_nil_iff] at split
    exact marker.word_ne_nil spells split.2.1.2
  | cons line ls ih =>
    cases cs with
    | nil => cases hcs
    | cons c cs =>
      obtain ⟨line', rest, split, hlines, first⟩ := lines_cons (c := c) cs
      cases hlines.symm.trans hcs
      rw [split, lastMarked?]
      -- a later line that begins with the marker is preferred to this one
      rcases ih rest rfl with ⟨before, after, found, last⟩ | ⟨found, none⟩
      · rw [found]
        refine Or.inl ⟨_, _, rfl, (marked_append_iff marker first).mpr (Or.inr ⟨before, rfl, last.here⟩), fun b a h => ?_⟩
        rcases (marked_append_iff marker first).mp h with ⟨rfl, -⟩ | ⟨b', rfl, h'⟩
        · exact Nat.zero_le _
        · rw [List.length_append, List.length_append]
          exact Nat.add_le_add_left (last.last b' a h') _
      · rw [found]
        by_cases h : startsWithNoCase m (bareLine line) = true
        · simp only [if_pos h, flatten_lines]
          refine Or.inl ⟨_, _, rfl, marked_here marker first h, fun b a h => ?_⟩
          rcases (marked_append_iff marker first).mp h with ⟨rfl, -⟩ | ⟨b', rfl, h'⟩
          · exact Nat.le_refl _
          · exact absurd h' (none b' a)
        · simp only [if_neg h]
          refine Or.inr ⟨trivial, fun b a h' => ?_⟩
          rcases (marked_append_iff marker first).mp h' with ⟨rfl, here, -⟩ | ⟨b', rfl, later⟩
          · exact h here
          · exact none b' a later

theorem lastMarked?_eq_some {m : List Char} (marker : Marker m) {cs before after : List Char} :
    lastMarked? m (lines cs) = some (before, after) ↔ LastMarked m cs before after := by
  rcases lastMarked?_cases marker cs with ⟨b, a, found, last⟩ | ⟨found, none⟩
  · constructor
    · intro h
      cases found.symm.trans h
      exact last
    · intro last'
      obtain ⟨rfl, rfl⟩ := last.unique marker last'
      exact found
  · constructor
    · intro h
      cases found.symm.trans h
    · intro last
      exact absurd last.here (none _ _)

theorem lastMarked?_eq_none {m : List Char} (marker : Marker m) {cs : List Char} :
    lastMarked? m (lines cs) = none ↔ ∀ before after, ¬ Marked m cs before after := by
  rcases lastMarked?_cases marker cs with ⟨b, a, found, last⟩ | ⟨found, none⟩
  · constructor
    · intro h
      cases found.symm.trans h
    · intro h
      exact absurd last.here (h b a)
  · exact ⟨fun _ => none, fun _ => found⟩

/-! ## Replies -/

def Untagged (cs : List Char) : Prop := ∀ before body, Tagged cs before body → ∀ c ∈ body, isBlank c = true

inductive Reads (cs : List Char) : Option Answer → Prop
  | tagged {before body a} (tagged : Tagged cs before body) (filled : ¬ ∀ c ∈ body, isBlank c = true)
      (gives : Gives before body a) : Reads cs a
  | marked {higher m lower before stars text a} (untagged : Untagged cs) (order : markers = higher ++ m :: lower)
      (first : ∀ h ∈ higher, ∀ before after, ¬ Marked h.toList cs before after)
      (last : LastMarked m.toList cs before (stars ++ text)) (hstars : ∀ c ∈ stars, c = '*' ∨ c = '_')
      (begins : ∀ c, text.head? = some c → ¬ (c = '*' ∨ c = '_')) (gives : Gives before text a) : Reads cs a
  | unmarked (untagged : Untagged cs) (nowhere : ∀ m ∈ markers, ∀ before after, ¬ Marked m.toList cs before after) :
      Reads cs none

theorem tagged?_eq_none_iff {cs : List Char} : tagged? cs = none ↔ Untagged cs := by
  rcases tagged?_cases cs with ⟨before, body, tagged, h⟩ | ⟨no, h⟩
  · rw [h, of?_eq_iff]
    constructor
    · rintro ⟨blank⟩ b b' tagged'
      rwa [← (tagged.unique tagged').2]
    · exact fun untagged => .blank (untagged _ _ tagged)
  · exact ⟨fun _ b b' tagged => absurd tagged (no b b'), fun _ => h⟩

theorem findSome?_markers_eq_some {cs before after : List Char} :
    (markers.findSome? fun m => lastMarked? m.toList (lines cs)) = some (before, after) ↔
      ∃ higher m lower, markers = higher ++ m :: lower ∧ LastMarked m.toList cs before after ∧
        ∀ h ∈ higher, ∀ b a, ¬ Marked h.toList cs b a := by
  rw [List.findSome?_eq_some_iff]
  constructor
  · rintro ⟨higher, m, lower, order, found, others⟩
    refine ⟨higher, m, lower, order, (lastMarked?_eq_some (marker_of_mem (by simp [order]))).mp found, fun h hh => ?_⟩
    exact (lastMarked?_eq_none (marker_of_mem (by simp [order, hh]))).mp (others h hh)
  · rintro ⟨higher, m, lower, order, last, others⟩
    refine ⟨higher, m, lower, order, (lastMarked?_eq_some (marker_of_mem (by simp [order]))).mpr last, fun h hh => ?_⟩
    exact (lastMarked?_eq_none (marker_of_mem (by simp [order, hh]))).mpr (others h hh)

theorem findSome?_markers_eq_none {cs : List Char} :
    (markers.findSome? fun m => lastMarked? m.toList (lines cs)) = none ↔
      ∀ m ∈ markers, ∀ b a, ¬ Marked m.toList cs b a := by
  rw [List.findSome?_eq_none_iff]
  exact forall₂_congr fun m hm => lastMarked?_eq_none (marker_of_mem hm)

theorem reads_marked? {cs : List Char} (untagged : Untagged cs) : Reads cs (marked? cs) := by
  unfold marked?
  cases h : markers.findSome? fun m => lastMarked? m.toList (lines cs) with
  | none => exact .unmarked untagged (findSome?_markers_eq_none.mp h)
  | some split =>
    obtain ⟨before, after⟩ := split
    obtain ⟨higher, m, lower, order, last, first⟩ := findSome?_markers_eq_some.mp h
    let p : Char → Bool := fun c => c = '*' || c = '_'
    rw [← List.takeWhile_append_dropWhile (p := p) (l := after)] at last
    refine .marked untagged order first last (fun c hc => ?_) (fun c hc => ?_) (of?_eq_iff.mp rfl)
    · simpa [p] using List.mem_takeWhile_imp hc
    · have := List.head?_dropWhile_not p after
      rw [hc] at this
      simpa [p] using this

theorem marked?_eq {cs before stars text : List Char} {higher lower : List String} {m : String}
    (order : markers = higher ++ m :: lower) (first : ∀ h ∈ higher, ∀ before after, ¬ Marked h.toList cs before after)
    (last : LastMarked m.toList cs before (stars ++ text)) (hstars : ∀ c ∈ stars, c = '*' ∨ c = '_')
    (begins : ∀ c, text.head? = some c → ¬ (c = '*' ∨ c = '_')) : marked? cs = of? before text := by
  unfold marked?
  rw [findSome?_markers_eq_some.mpr ⟨higher, m, lower, order, last, first⟩]
  show of? before ((stars ++ text).dropWhile _) = _
  rw [List.dropWhile_append_of_pos (by simpa using hstars), dropWhile_of_head? (by simpa using begins)]

theorem read_eq_iff {cs : List Char} {a : Option Answer} : (tagged? cs <|> marked? cs) = a ↔ Reads cs a := by
  constructor
  · rintro rfl
    cases h : tagged? cs with
    | none => exact reads_marked? (tagged?_eq_none_iff.mp h)
    | some a =>
      rcases tagged?_cases cs with ⟨before, body, tagged, hbody⟩ | ⟨-, hnone⟩
      · have gives := of?_eq_iff.mp (hbody.symm.trans h)
        refine .tagged tagged (fun blank => ?_) gives
        rw [tagged?_eq_none_iff.mpr fun b b' h' => (tagged.unique h').2 ▸ blank] at h
        cases h
      · cases hnone.symm.trans h
  · intro h
    cases h with
    | tagged tagged filled gives =>
      rcases tagged?_cases cs with ⟨before, body, tagged', hbody⟩ | ⟨no, -⟩
      · obtain ⟨rfl, rfl⟩ := tagged.unique tagged'
        rw [hbody, of?_eq_iff.mpr gives]
        cases gives with
        | blank blank => exact absurd blank filled
        | final => rfl
      · exact absurd tagged (no _ _)
    | marked untagged order first last hstars begins gives =>
      rw [tagged?_eq_none_iff.mpr untagged, marked?_eq order first last hstars begins, of?_eq_iff.mpr gives]
      rfl
    | unmarked untagged nowhere =>
      rw [tagged?_eq_none_iff.mpr untagged, marked?, findSome?_markers_eq_none.mpr nowhere]
      rfl

end Concierge.Answer
