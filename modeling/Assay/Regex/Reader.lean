import Assay.Regex.Bracket

/-!
# Reading patterns

A pattern is read from left to right. Flags that are turned on or off inside a group hold to its end,
across its alternatives; what is passed over depends on them, too. There is one answer for every kind
of mistake: no pattern.

Nothing can be asked for that would make matching go back: no look to either side, no reference to
what a group matched.
-/

namespace Assay.Regex

/-! ## 1. Limits -/

/-- How deep groups and brackets nest, at most. -/
def nestLimit : Nat := 250

/-- How large a pattern may be, with its repetitions written out. -/
def sizeLimit : Nat := 10485760

/-- What a character of a set adds to the size of a pattern, roughly. -/
def CharSet.size : CharSet → Nat
  | .empty | .span _ _ => 32
  | .named .word => 45000
  | .named .digit => 4000
  | .named .blank => 600
  | .named _ => 30000
  | .either a b | .both a b | .without a b | .apart a b => a.size + b.size
  | .complement a => a.size + 200
  | .caseless a => a.size + 32

/-- The size of a pattern, roughly. -/
def size : Regex → Nat
  | .empty => 0
  | .set s => s.size
  | .look _ => 32
  | .seq a b => a.size + b.size
  | .alt a b => a.size + b.size + 32
  | .rep a min max => a.size * Nat.max 1 (max.getD (min + 1)) + 32

/-! ## 2. Repetition -/

/-- A number with blanks around it. -/
def takeCount (text : List Char) : Option (Nat × List Char) :=
  let text := text.dropWhile Text.isBlank
  let digits := text.takeWhile Char.isDigit
  let n := digits.foldl (fun n c => 10 * n + (c.toNat - '0'.toNat)) 0
  if digits.isEmpty || n ≥ Nat.pow 2 32 then none
  else some (n, (text.dropWhile Char.isDigit).dropWhile Text.isBlank)

/-- The bounds behind an opening brace. -/
def takeBounds (text : List Char) : Option ((Nat × Option Nat) × List Char) := do
  let (min, rest) ← takeCount text
  match rest with
  | '\x7d' :: rest => some ((min, some min), rest)
  | ',' :: '\x7d' :: rest => some ((min, none), rest)
  | ',' :: rest =>
    let (max, rest) ← takeCount rest
    match rest with
    | '\x7d' :: rest => if min ≤ max then some ((min, some max), rest) else none
    | _ => none
  | _ => none

/-- The bounds a repetition mark stands for. -/
def bounds? : Char → Option (Nat × Option Nat)
  | '*' => some (0, none)
  | '+' => some (1, none)
  | '?' => some (0, some 1)
  | _ => none

/-- A repetition mark with the mark for as few as possible, which makes no difference to whether a
    text matches. -/
def takeRepetition (text : List Char) : Option ((Nat × Option Nat) × List Char) := do
  let (bounds, rest) ← match text with
    | '\x7b' :: rest => takeBounds rest
    | c :: rest => (bounds? c).map (·, rest)
    | [] => none
  match rest with
  | '?' :: rest => some (bounds, rest)
  | rest => some (bounds, rest)

/-! ## 3. Groups -/

/-- What has been read of a pattern so far decides how the rest is read. -/
structure Scan where
  flags : Flags
  /-- The names of groups. -/
  names : List (List Char)
  deriving Repr

/-- A flag turned on or off. -/
def Flags.turn (f : Flags) (letter : Char) (on : Bool) : Option Flags :=
  match letter with
  | 'i' => some { f with caseless := on }
  | 'm' => some { f with multiLine := on }
  | 's' => some { f with dotAll := on }
  | 'u' => some { f with unicode := on }
  | 'x' => some { f with extended := on }
  | 'R' => some { f with carriage := on }
  | 'U' => some f
  | _ => none

/-- Flags up to a colon or a bracket. No letter stands twice, and some letter follows the minus. -/
def takeFlags (f : Flags) (on : Bool) (seen : List Char) : List Char → Option (Flags × List Char)
  | [] => none
  | c :: rest =>
    if c = ':' ∨ c = ')' then
      if seen.head? = some '-' then none else some (f, c :: rest)
    else if seen.contains c then none
    else if c = '-' then takeFlags f false (c :: seen) rest
    else (f.turn c on).bind fun f => takeFlags f on (c :: seen) rest

/-- A character of a group's name. -/
def isNameChar (first : Bool) (c : Char) : Bool :=
  c == '_' || Text.isAlphabetic c ||
    (!first && (c == '.' || c == '[' || c == ']' || Text.hasCategory ["nd", "nl", "no"] c))

/-- The name of a group up to its closing mark. -/
def takeName (text : List Char) : Option (List Char × List Char) :=
  match Text.splitOnce '>' text with
  | some (c :: name, rest) =>
    if isNameChar true c && name.all (isNameChar false) then some (c :: name, rest) else none
  | _ => none

/-- What stands behind the bracket that opens a group. -/
inductive Opening where
  /-- A group, to be read on with these flags and names. -/
  | group (inside : Scan)
  /-- Flags for the rest of the group around it. -/
  | flags (after : Flags)

/-- The beginning of a group behind its bracket. -/
def takeOpening (scan : Scan) (text : List Char) : Option (Opening × List Char) :=
  let named (rest : List Char) : Option (Opening × List Char) :=
    (takeName rest).bind fun (name, rest) =>
      if scan.names.contains name then none
      else some (.group { scan with names := name :: scan.names }, rest)
  match scan.flags.pass text with
  | '?' :: '=' :: _ | '?' :: '!' :: _ | '?' :: '<' :: '=' :: _ | '?' :: '<' :: '!' :: _ => none
  | '?' :: 'P' :: '<' :: rest => named rest
  | '?' :: '<' :: rest => named rest
  | '?' :: rest =>
    match takeFlags scan.flags true [] rest with
    | some (f, ':' :: rest) => some (.group { scan with flags := f }, rest)
    | some (f, ')' :: after) => if rest.head? = some ')' then none else some (.flags f, after)
    | _ => none
  | text => some (.group scan, text)

/-! ## 4. Patterns -/

/-- The patterns of a list, back to front, one after another. -/
def sequence (items : List (Option Regex)) : Regex :=
  items.foldl (fun later item =>
    match item, later with
    | none, later => later
    | some r, .empty => r
    | some r, later => .seq r later) .empty

/-- One alternative behind others. -/
def alternative (before : Option Regex) (r : Regex) : Regex :=
  match before with
  | none => r
  | some before => .alt before r

/-- The dot. -/
def dot? (f : Flags) : Option CharSet :=
  if !f.unicode then none
  else some (if f.dotAll then .all else if f.carriage then .notLineEnd else .notLineFeed)

/-- `^` and `$`. -/
def anchor (f : Flags) (start : Bool) : Look :=
  if !f.multiLine then (if start then .textStart else .textEnd)
  else if f.carriage then (if start then .anyLineStart else .anyLineEnd)
  else if start then .lineStart else .lineEnd

/-- What an escape stands for in a pattern. -/
def escapedRegex? (f : Flags) : Escaped → Option Regex
  | .char c => some (.set (f.fold (.single c)))
  | .byte c => (f.set? (f.fold (.single c))).map .set
  | .set s => (f.set? s).map .set
  | .look l => some (.look l)

/-- The inside of a group, or a whole pattern, from some item on: the alternatives before, and the
    items of this one, the newest first. Flags stand among the items as nothing, and nothing cannot
    be repeated. -/
def takeInside (group : Scan → List Char → Option (Regex × Scan × List Char)) :
    (fuel : Nat) → Scan → (before : Option Regex) → (items : List (Option Regex)) →
    (text : List Char) → Option (Regex × Scan × List Char)
  | 0, _, _, _, _ => none
  | fuel + 1, scan, before, items, text =>
    let f := scan.flags
    let add (r : Regex) (rest : List Char) : Option (Regex × Scan × List Char) :=
      takeInside group fuel scan before (some r :: items) rest
    match f.pass text with
    | [] => some (alternative before (sequence items), scan, [])
    | ')' :: rest => some (alternative before (sequence items), scan, ')' :: rest)
    | '|' :: rest =>
      takeInside group fuel scan (some (alternative before (sequence items))) [] rest
    | '(' :: rest => do
      match ← takeOpening scan rest with
      | (.flags flags, rest) =>
        takeInside group fuel { scan with flags } before (none :: items) rest
      | (.group inside, rest) =>
        let (r, scan', rest) ← group inside rest
        takeInside group fuel { scan with names := scan'.names } before (some r :: items) rest
    | '[' :: rest => do
      let (s, rest) ← takeBracket f nestLimit rest
      add (.set (← f.set? s)) rest
    | '.' :: rest => do add (.set (← dot? f)) rest
    | '^' :: rest => add (.look (anchor f true)) rest
    | '$' :: rest => add (.look (anchor f false)) rest
    | '\\' :: rest => do
      let (escaped, rest) ← takeEscape f rest
      add (← escapedRegex? f escaped) rest
    | c :: rest =>
      if c == '\x7b' || (bounds? c).isSome then do
        let ((min, max), rest) ← takeRepetition (c :: rest)
        match items with
        | some r :: items => takeInside group fuel scan before (some (.rep r min max) :: items) rest
        | _ => none
      else add (.set (f.fold (.single c))) rest

/-- A group behind its opening, with its closing bracket. -/
def takeGroup : (depth : Nat) → Scan → List Char → Option (Regex × Scan × List Char)
  | 0, _, _ => none
  | depth + 1, scan, text => do
    let (r, scan, rest) ← takeInside (takeGroup depth) (text.length + 1) scan none [] text
    match rest with
    | ')' :: rest => some (r, scan, rest)
    | _ => none

/-- The pattern that a text is. -/
def read? (text : String) : Option Regex := do
  let chars := text.toList
  let (r, _, rest) ←
    takeInside (takeGroup nestLimit) (chars.length + 1) ⟨Flags.start, []⟩ none [] chars
  if rest.isEmpty && r.size ≤ sizeLimit then some r else none

end Assay.Regex
