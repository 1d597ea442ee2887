import Concierge.Toml.Scalar
import Concierge.Toml.Tree

/-!
# Reading TOML

A document is a sequence of lines that are blank, open a section or hold a pair. A value may extend
over several lines where it is a list or a string in three quotes.
-/

namespace Concierge.Toml

/-- Drop blanks, comments and line ends. A comment has to end with its line. -/
def skipGaps? (fuel : Nat) (cs : List Char) : Option (List Char) :=
  match fuel with
  | 0 => none
  | fuel + 1 =>
    match skipBlanks cs with
    | '#' :: cs => (newline? (skipComment ('#' :: cs))).bind (skipGaps? fuel)
    | '\n' :: cs => skipGaps? fuel cs
    | '\r' :: cs => (newline? ('\r' :: cs)).bind (skipGaps? fuel)
    | cs => some cs

def gaps? (cs : List Char) : Option (List Char) := skipGaps? (cs.length + 1) cs

mutual

def value? (fuel depth : Nat) (cs : List Char) : Option (Data × List Char) :=
  match fuel with
  | 0 => none
  | fuel + 1 =>
    match cs with
    | '"' :: cs => (string? .double cs).map fun (s, cs) => (.str s, cs)
    | '\'' :: cs => (string? .single cs).map fun (s, cs) => (.str s, cs)
    | '[' :: cs =>
      if maxDepth ≤ depth + 1 then none
      else (items? fuel (depth + 1) cs).map fun (xs, cs) => (.list xs, cs)
    | '{' :: cs =>
      if maxDepth ≤ depth + 1 then none
      else match skipBlanks cs with
        | '}' :: cs => some (.record [], cs)
        | cs => do
          let (ps, cs) ← pairs? fuel (depth + 1) cs
          return (← inlineRecord? ps, cs)
    | cs => scalar? cs

/-- The items of a list up to its closing bracket; a comma may follow the last one. -/
def items? (fuel depth : Nat) (cs : List Char) : Option (List Data × List Char) :=
  match fuel with
  | 0 => none
  | fuel + 1 => do
    match ← gaps? cs with
    | ']' :: cs => some ([], cs)
    | cs =>
      let (x, cs) ← value? fuel depth cs
      match ← gaps? cs with
      | ',' :: cs => (items? fuel depth cs).map fun (xs, cs) => (x :: xs, cs)
      | ']' :: cs => some ([x], cs)
      | _ => none

def pairs? (fuel depth : Nat) (cs : List Char) : Option (List Pair × List Char) :=
  match fuel with
  | 0 => none
  | fuel + 1 => do
    let (p, cs) ← pair? fuel depth cs
    match skipBlanks cs with
    | ',' :: cs => (pairs? fuel depth cs).map fun (ps, cs) => (p :: ps, cs)
    | '}' :: cs => some ([p], cs)
    | _ => none

def pair? (fuel depth : Nat) (cs : List Char) : Option (Pair × List Char) :=
  match fuel with
  | 0 => none
  | fuel + 1 => do
    let (key, cs) ← key? cs
    let cs ← mark? '=' cs
    let (v, cs) ← value? fuel depth (skipBlanks cs)
    return (⟨key, v⟩, cs)

end

/-! ## Documents -/

inductive Line where
  | blank
  | heading (h : Heading)
  | pair (p : Pair)

def heading? (cs : List Char) : Option (Heading × List Char) :=
  match cs with
  | '[' :: cs => do
    let (key, cs) ← key? cs
    let cs ← mark? ']' cs
    let cs ← mark? ']' cs
    return (.entry key, cs)
  | cs => do
    let (key, cs) ← key? cs
    let cs ← mark? ']' cs
    return (.table key, cs)

def lineOf? (cs : List Char) : Option (Line × List Char) :=
  match skipBlanks cs with
  | [] => some (.blank, [])
  | '#' :: cs => (lineEnd? ('#' :: cs)).map fun cs => (.blank, cs)
  | '\n' :: cs => some (.blank, cs)
  | '\r' :: cs => (newline? ('\r' :: cs)).map fun cs => (.blank, cs)
  | '[' :: cs => do
    let (h, cs) ← heading? cs
    return (.heading h, ← lineEnd? cs)
  | cs => do
    let (p, cs) ← pair? (4 * cs.length + 4) 0 cs
    return (.pair p, ← lineEnd? cs)

def lines? (fuel : Nat) (cs : List Char) : Option (List Line) :=
  match fuel, cs with
  | _, [] => some []
  | 0, _ => none
  | fuel + 1, cs => do
    let (l, cs) ← lineOf? cs
    (lines? fuel cs).map (l :: ·)

/-- The sections that some lines form after those of an open one. -/
def sections (s : Section) : List Line → List Section
  | [] => [s]
  | .blank :: ls => sections s ls
  | .heading h :: ls => s :: sections ⟨h, []⟩ ls
  | .pair p :: ls => sections { s with pairs := s.pairs ++ [p] } ls

/-- The record that a document describes. A byte order mark in front is passed over. -/
def read? (s : String) : Option Data := do
  let cs := match s.toList with
    | '\ufeff' :: cs => cs
    | cs => cs
  let ls ← lines? (cs.length + 1) cs
  recordOf? (sections ⟨.root, []⟩ ls)

end Concierge.Toml
