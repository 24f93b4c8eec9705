import Assay.Regex.CharSet

/-!
# Regular expressions

A pattern describes texts. It is matched by following all ways through it at once: `after p from`
gives the positions at which a match of `p` can end if it begins at one of the positions in `from`.
There is no choice between ways and nothing to go back to, so matching takes a time bounded by the
sizes of pattern and text.

A text matches if some part of it does (`matchesText`).
-/

namespace Assay

/-! ## 1. Patterns -/

/-- A condition on a position between characters. -/
inductive Regex.Look where
  | textStart
  | textEnd
  | lineStart
  | lineEnd
  /-- The start of a line, where carriage returns end lines as well. -/
  | anyLineStart
  | anyLineEnd
  /-- A word begins or ends; `ascii` tells which characters words are made of. -/
  | wordBoundary (ascii : Bool)
  | noWordBoundary (ascii : Bool)
  | wordStart (ascii : Bool)
  | wordEnd (ascii : Bool)
  /-- No character of a word stands before. -/
  | wordStartHalf (ascii : Bool)
  | wordEndHalf (ascii : Bool)
  deriving DecidableEq, Repr

/-- A pattern. -/
inductive Regex where
  | empty
  | set (s : Regex.CharSet)
  | look (l : Regex.Look)
  | seq (a b : Regex)
  | alt (a b : Regex)
  /-- At least `min` times, and at most `max` times if there is such a bound. -/
  | rep (a : Regex) (min : Nat) (max : Option Nat)
  deriving Repr

namespace Regex

/-! ## 2. Positions -/

/-- A text to be matched. -/
abbrev Subject := Array Char

/-- The character in front of a position. -/
def before (text : Subject) (p : Nat) : Option Char := if p = 0 then none else text[p - 1]?

/-- The condition holds at a position. -/
def Look.holds (text : Subject) (p : Nat) (l : Look) : Bool :=
  let prev := before text p
  let next := text[p]?
  let word (ascii : Bool) (c : Option Char) : Bool := c.any (if ascii then isAsciiWord else isWord)
  match l with
  | textStart => p = 0
  | textEnd => p = text.size
  | lineStart => prev.isNone || prev == some '\n'
  | lineEnd => next.isNone || next == some '\n'
  | anyLineStart => prev.isNone || prev == some '\n' || (prev == some '\r' && next != some '\n')
  | anyLineEnd => next.isNone || next == some '\r' || (next == some '\n' && prev != some '\r')
  | wordBoundary a => word a prev != word a next
  | noWordBoundary a => word a prev == word a next
  | wordStart a => !word a prev && word a next
  | wordEnd a => word a prev && !word a next
  | wordStartHalf a => !word a prev
  | wordEndHalf a => !word a next

/-- Two ascending lists of positions as one. -/
def merge : List Nat → List Nat → List Nat
  | [], qs => qs
  | ps, [] => ps
  | p :: ps, q :: qs =>
    if p < q then p :: merge ps (q :: qs)
    else if q < p then q :: merge (p :: ps) qs
    else p :: merge ps qs

/-! ## 3. Matching -/

/-- A step done a number of times; it ends early where it changes nothing. -/
def iterate (step : List Nat → List Nat) : Nat → List Nat → List Nat
  | 0, ps => ps
  | n + 1, ps =>
    let qs := step ps
    if qs = ps then ps else iterate step n qs

/-- The positions after matches that begin at given positions. Positions are ascending. -/
def after (text : Subject) : Regex → List Nat → List Nat
  | empty, ps => ps
  | set s, ps => ps.filterMap fun p => if (text[p]?).any (s.holds ·) then some (p + 1) else none
  | look l, ps => ps.filter fun p => l.holds text p
  | seq a b, ps => after text b (after text a ps)
  | alt a b, ps => merge (after text a ps) (after text b ps)
  | rep a min max, ps =>
    let more := match max with
      | some max => Nat.min (max - min) (text.size + 1)
      | none => text.size + 1
    iterate (fun ps => merge ps (after text a ps)) more (iterate (after text a) min ps)

/-- Some part of the text is described by the pattern. -/
def matchesText (r : Regex) (text : String) : Bool :=
  let subject := text.toList.toArray
  !(after subject r (List.range (subject.size + 1))).isEmpty

end Regex

end Assay
