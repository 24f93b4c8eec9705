import Assay.Text.Split

/-!
# Paths

A path addresses a value inside a model. It is a text of segments with dots between them; the empty
path is the model itself. A segment is a name, or an index marker: a bare `#` stands for some item
of a collection, `#7` for the item at position 7.

An authored path may climb: a run of `<` in front of it leaves one level of the path it is read
against for each `<`. This file fixes

* what a well-formed authored path is (`Path.valid`), and what a single name is (`Path.isName`);
* how any text becomes a harmless run of segments (`Path.normalize`);
* which segments are index markers (`Path.isIndex`).

Reading an authored path against another is in `Assay.Path.Resolve`, filling markers in
`Assay.Path.Index`.
-/

namespace Assay.Path

open Assay.Text

/-! ## 1. Segments -/

/-- The segments of a path; the empty text has the one empty segment. -/
def segments (path : String) : List String := parts '.' path

/-- The path made of the given segments. -/
def ofSegments (segs : List String) : String := join '.' segs

theorem ofSegments_segments (path : String) : ofSegments (segments path) = path :=
  join_parts '.' path

/-- The segment after the last dot: the name of what the path addresses. -/
def name (path : String) : String :=
  ((segments path).getLast?).getD path

/-- The bare index marker. -/
def marker : String := "#"

/-- A marker, bare or with a position in decimal digits. -/
def isIndex (segment : String) : Bool :=
  match segment.toList with
  | '#' :: digits => digits.all Char.isDigit
  | _ => false

/-- The marker of the item at a position. -/
def indexSegment (index : Nat) : String := "#" ++ toString index

/-- Some segment is a marker. -/
def hasIndex (path : String) : Bool := (segments path).any isIndex

/-- How many segments are markers. -/
def indexCount (path : String) : Nat := ((segments path).filter isIndex).length

/-! ## 2. Well-formed authored paths -/

/-- Two dots stand next to each other. -/
def doubledDot : List Char → Bool
  | '.' :: '.' :: _ => true
  | _ :: rest => doubledDot rest
  | [] => false

/-- A run of `<`, possibly empty, and then segments: the rest neither starts nor ends with a dot,
    has no doubled dot and no further `<`. A bare run climbs and is fine; the empty text is not. -/
def valid (path : String) : Bool :=
  match path.toList with
  | [] => false
  | chars =>
    match chars.dropWhile (· == '<') with
    | [] => true
    | core =>
      core.head? != some '.' && core.getLast? != some '.' && !doubledDot core &&
        !core.contains '<'

/-- A single segment that does not climb: the name of a member. -/
def isName (name : String) : Bool :=
  valid name && !name.toList.contains '.' && !name.toList.contains '<'

/-! ## 3. Any text as segments -/

/-- The text without its `<` and with its empty segments left out; `_` if nothing is left. The keys
    of a dictionary enter paths this way. -/
def normalize (text : String) : String :=
  if valid text && !text.toList.contains '<' then text
  else
    let segs := (splitAt '.' (text.toList.filter (· != '<'))).filter (!·.isEmpty)
    if segs.isEmpty then "_" else String.ofList (joinWith '.' segs)

end Assay.Path
