import Concierge.Text.Find
import Concierge.Web.Percent

/-!
# Paths

The segments of a path that mean "here" and "one up" are resolved before it is sent. A backslash
counts as a slash, and a dot may be written by its byte.
-/

namespace Concierge.Path

def isSlash (c : Char) : Bool := c = '/' || c = '\\'

def segments (cs : List Char) : List (List Char) :=
  match Text.splitOn isSlash cs with
  | [] :: s :: ss => s :: ss
  | ss => ss

/-- One of the two spellings of a dot at the front. -/
def dropDot? (cs : List Char) : Option (List Char) :=
  match cs with
  | '.' :: cs => some cs
  | '%' :: '2' :: e :: cs => if e = 'e' ∨ e = 'E' then some cs else none
  | _ => none

def isDot (cs : List Char) : Bool := dropDot? cs = some []

def isTwoDots (cs : List Char) : Bool := ((dropDot? cs).bind dropDot?) = some []

/-- Resolve the segments that mean "here" and "one up"; `done` is reversed. -/
def resolve (done : List (List Char)) : List (List Char) → List (List Char)
  | [] => done.reverse
  | [s] =>
    if isTwoDots s then (([] : List Char) :: done.tail).reverse
    else if isDot s then (([] : List Char) :: done).reverse
    else (s :: done).reverse
  | s :: ss =>
    if isTwoDots s then resolve done.tail ss
    else if isDot s then resolve done ss
    else resolve (s :: done) ss

def encoded : List Char := [' ', '"', '#', '<', '>', '?', '`', '\x7b', '\x7d']

def sent (cs : List Char) : List Char :=
  (resolve [] (segments cs)).flatMap fun s => '/' :: Percent.encode encoded s

end Concierge.Path
