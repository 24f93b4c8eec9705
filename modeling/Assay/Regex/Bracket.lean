import Assay.Regex.Escape

/-!
# Sets in brackets

Between brackets stand characters, spans, escapes and further brackets; all of them together make a
set. `&&`, `--` and `~~` join what stands before and behind them by intersection, difference and
symmetric difference, from left to right.
-/

namespace Assay.Regex

/-! ## 1. Items -/

/-- One item: a character, or a set that cannot begin or end a span. -/
def takeItem (f : Flags) (text : List Char) : Option ((Char ⊕ CharSet) × List Char) :=
  match text with
  | [] => none
  | '\\' :: rest =>
    (takeEscape f rest).bind fun
      | (.char c, rest) | (.byte c, rest) => some (.inl c, rest)
      | (.set s, rest) => some (.inr s, rest)
      | (.look _, _) => none
  | c :: rest => some (.inl c, rest)

/-- What an item is alone. -/
def itemSet : Char ⊕ CharSet → CharSet
  | .inl c => .single c
  | .inr s => s

/-- A hyphen makes a span if neither a bracket nor another hyphen follows it. -/
def spanFollows (f : Flags) (text : List Char) : Option (List Char) :=
  match text with
  | '-' :: rest =>
    match f.pass rest with
    | ']' :: _ | '-' :: _ => none
    | rest => some rest
  | _ => none

/-- An item or a span. -/
def takeSpan (f : Flags) (text : List Char) : Option (CharSet × List Char) := do
  let (first, rest) ← takeItem f text
  let rest := f.pass rest
  match spanFollows f rest with
  | none => some (itemSet first, rest)
  | some rest =>
    let (last, rest) ← takeItem f rest
    match first, last with
    | .inl a, .inl b => if a ≤ b then some (.span a b, rest) else none
    | _, _ => none

/-- A class of ASCII by its name between colons, behind its bracket; none if it is not one. -/
def takeAsciiClass (text : List Char) : Option (CharSet × List Char) :=
  match text with
  | ':' :: rest =>
    let (negated, rest) := match rest with
      | '^' :: rest => (true, rest)
      | rest => (false, rest)
    let name := rest.takeWhile (· != ':')
    match rest.dropWhile (· != ':') with
    | ':' :: ']' :: rest =>
      (asciiClasses.find? name).map fun s => (if negated then .complement s else s, rest)
    | _ => none
  | _ => none

/-! ## 2. Operations -/

/-- How what stands before is joined with what follows. -/
inductive Join where
  | both
  | without
  | apart
  deriving DecidableEq, Repr

def Join.apply (j : Join) (a b : CharSet) : CharSet :=
  match j with
  | both => .both a b
  | without => .without a b
  | apart => .apart a b

/-- What stands before, joined with what followed it. -/
def joined (f : Flags) (pending : Option (CharSet × Join)) (s : CharSet) : CharSet :=
  match pending with
  | none => s
  | some (before, join) => join.apply (f.fold before) (f.fold s)

/-! ## 3. Brackets -/

/-- The hyphens and the bracket that stand for themselves at the beginning. -/
def takeLeading (f : Flags) (text : List Char) : CharSet × List Char :=
  match text with
  | '-' :: _ =>
    let rec skip : Nat → List Char → List Char
      | 0, text => text
      | fuel + 1, '-' :: rest => skip fuel (f.pass rest)
      | _, text => text
    (.single '-', skip (text.length + 1) text)
  | ']' :: rest => (.single ']', f.pass rest)
  | _ => (.empty, text)

/-- What stands between brackets from some item on. -/
def takeItems (f : Flags) (nested : List Char → Option (CharSet × List Char)) :
    (fuel : Nat) → (pending : Option (CharSet × Join)) → (s : CharSet) → (text : List Char) →
    Option (CharSet × List Char)
  | 0, _, _, _ => none
  | fuel + 1, pending, s, text =>
    let go (join : Join) (rest : List Char) : Option (CharSet × List Char) :=
      takeItems f nested fuel (some (joined f pending s, join)) .empty rest
    let add (more : CharSet) (rest : List Char) : Option (CharSet × List Char) :=
      takeItems f nested fuel pending (.either s more) rest
    match f.pass text with
    | [] => none
    | ']' :: rest => some (f.fold (joined f pending s), rest)
    | '&' :: '&' :: rest => go .both rest
    | '-' :: '-' :: rest => go .without rest
    | '~' :: '~' :: rest => go .apart rest
    | '[' :: rest =>
      match takeAsciiClass rest with
      | some (more, rest) => add more rest
      | none => (nested rest).bind fun (more, rest) => add more rest
    | text => (takeSpan f text).bind fun (more, rest) => add more rest

/-- A set behind its opening bracket. -/
def takeBracket (f : Flags) : (depth : Nat) → (text : List Char) → Option (CharSet × List Char)
  | 0, _ => none
  | depth + 1, text => do
    let text := f.pass text
    let (negated, text) := match text with
      | '^' :: rest => (true, f.pass rest)
      | text => (false, text)
    let (leading, rest) := takeLeading f text
    let (s, rest) ← takeItems f (takeBracket f depth) (rest.length + 1) none leading rest
    some (if negated then .complement s else s, rest)

end Assay.Regex
