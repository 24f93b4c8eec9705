import Assay.Time.Moment

/-!
# Time patterns

A pattern is a text with specifiers: `%` and a letter, which stand for a part of a moment, and all
else, which stands for itself. Between `%` and the letter of a number `-`, `_` or `0` may ask for no
padding, blanks or zeros. Some letters abbreviate whole patterns (`%F` is `%Y-%m-%d`); those take no
padding.

**A pattern is usable as a whole or not at all:** one unknown specifier anywhere, and `Pattern.read`
gives nothing.
-/

namespace Assay.Time

open Assay.Number

/-! ## 1. Items -/

/-- How a number is brought to its width. -/
inductive Padding where
  | zero
  | blank
  | bare
  deriving DecidableEq, Repr

/-- The numbers a pattern can show. -/
inductive NumberPart where
  | year | century | yearOfCentury
  | isoYear | isoYearOfCentury | isoWeek
  | quarter | month | day | ordinal
  | weekFromSunday | weekFromMonday | fromSunday | fromMonday
  | hour | hour12 | minute | second | nanosecond | timestamp
  deriving DecidableEq, Repr

/-- The texts a pattern can show. -/
inductive TextPart where
  | weekday | shortWeekday | monthName | shortMonth
  | half | lowerHalf
  | fraction | fractionTo (places : Nat) | bareFraction (places : Nat)
  | zone | offset | offsetColon | offsetSeconds | offsetHours
  | rfc3339
  deriving DecidableEq, Repr

inductive Item where
  | literal (text : List Char)
  | number (part : NumberPart) (padding : Padding)
  | text (part : TextPart)
  deriving DecidableEq, Repr

/-! ## 2. Reading a pattern -/

namespace Pattern

private def zeroed (part : NumberPart) : List Item := [.number part .zero]

private def dated (sep : Char) (parts : List NumberPart) : List Item :=
  (parts.flatMap fun p => [.literal [sep], .number p .zero]).drop 1

/-- The items a letter stands for. -/
def letter : Char → Option (List Item)
  | 'A' => some [.text .weekday]
  | 'B' => some [.text .monthName]
  | 'C' => some (zeroed .century)
  | 'D' | 'x' => some (dated '/' [.month, .day, .yearOfCentury])
  | 'F' => some (dated '-' [.year, .month, .day])
  | 'G' => some (zeroed .isoYear)
  | 'H' => some (zeroed .hour)
  | 'I' => some (zeroed .hour12)
  | 'M' => some (zeroed .minute)
  | 'P' => some [.text .lowerHalf]
  | 'R' => some (dated ':' [.hour, .minute])
  | 'S' => some (zeroed .second)
  | 'T' | 'X' => some (dated ':' [.hour, .minute, .second])
  | 'U' => some (zeroed .weekFromSunday)
  | 'V' => some (zeroed .isoWeek)
  | 'W' => some (zeroed .weekFromMonday)
  | 'Y' => some (zeroed .year)
  | 'Z' => some [.text .zone]
  | 'a' => some [.text .shortWeekday]
  | 'b' | 'h' => some [.text .shortMonth]
  | 'c' => some ([.text .shortWeekday, .literal [' '], .text .shortMonth, .literal [' '],
      .number .day .blank, .literal [' ']] ++ dated ':' [.hour, .minute, .second] ++
      [.literal [' '], .number .year .zero])
  | 'd' => some (zeroed .day)
  | 'e' => some [.number .day .blank]
  | 'f' => some (zeroed .nanosecond)
  | 'g' => some (zeroed .isoYearOfCentury)
  | 'j' => some (zeroed .ordinal)
  | 'k' => some [.number .hour .blank]
  | 'l' => some [.number .hour12 .blank]
  | 'm' => some (zeroed .month)
  | 'n' => some [.literal ['\n']]
  | 'p' => some [.text .half]
  | 'q' => some [.number .quarter .bare]
  | 'r' => some (dated ':' [.hour12, .minute, .second] ++ [.literal [' '], .text .half])
  | 's' => some [.number .timestamp .bare]
  | 't' => some [.literal ['\t']]
  | 'u' => some [.number .fromMonday .bare]
  | 'v' => some [.number .day .blank, .literal ['-'], .text .shortMonth, .literal ['-'],
      .number .year .zero]
  | 'w' => some [.number .fromSunday .bare]
  | 'y' => some (zeroed .yearOfCentury)
  | 'z' => some [.text .offset]
  | '+' => some [.text .rfc3339]
  | '%' => some [.literal ['%']]
  | _ => none

/-- A digit that counts the places of a fraction. -/
def placesOf : Char → Option Nat
  | '3' => some 3
  | '6' => some 6
  | '9' => some 9
  | _ => none

/-- The items of the specifier at the front of a text, after its `%`, and what follows it. -/
def specifier : List Char → Option (List Item × List Char)
  | '-' :: c :: rest => padded .bare c rest
  | '_' :: c :: rest => padded .blank c rest
  | '0' :: c :: rest => padded .zero c rest
  | ':' :: ':' :: ':' :: 'z' :: rest => some ([.text .offsetHours], rest)
  | ':' :: ':' :: 'z' :: rest => some ([.text .offsetSeconds], rest)
  | ':' :: 'z' :: rest => some ([.text .offsetColon], rest)
  | '.' :: 'f' :: rest => some ([.text .fraction], rest)
  | '.' :: d :: 'f' :: rest => (placesOf d).map fun n => ([.text (.fractionTo n)], rest)
  | c :: rest =>
    match placesOf c, rest with
    | some n, 'f' :: rest => some ([.text (.bareFraction n)], rest)
    | some _, _ => none
    | none, _ => (letter c).map fun items => (items, rest)
  | [] => none
where
  padded (padding : Padding) (c : Char) (rest : List Char) : Option (List Item × List Char) :=
    match letter c with
    | some [.number part _] => some ([.number part padding], rest)
    | _ => none

theorem length_of_specifier {text rest : List Char} {items : List Item}
    (h : specifier text = some (items, rest)) : rest.length < text.length := by
  have hp : ∀ p c r, specifier.padded p c r = some (items, rest) → rest = r := by
    intro p c r hr
    simp only [specifier.padded] at hr
    split at hr <;> simp_all
  unfold specifier at h
  split at h
  all_goals first
    | (have hr := hp _ _ _ h; subst hr; simp only [List.length_cons]; omega)
    | (simp only [Option.some.injEq, Prod.mk.injEq] at h; simp [← h.2]; done)
    | (simp only [Option.some.injEq, Prod.mk.injEq] at h; simp only [← h.2, List.length_cons]; omega)
    | skip
  · obtain ⟨n, _, hn⟩ := Option.map_eq_some_iff.1 h
    simp only [Prod.mk.injEq] at hn
    simp only [← hn.2, List.length_cons]
    omega
  · split at h
    · simp only [Option.some.injEq, Prod.mk.injEq] at h
      simp only [← h.2, List.length_cons]
      omega
    · simp at h
    · obtain ⟨n, _, hn⟩ := Option.map_eq_some_iff.1 h
      simp only [Prod.mk.injEq] at hn
      simp [← hn.2]
  · simp at h

/-- The items of a pattern, or nothing if a specifier is unknown. -/
def read (text : List Char) : Option (List Item) :=
  match text with
  | [] => some []
  | '%' :: rest =>
    match h : specifier rest with
    | none => none
    | some (items, after) =>
      have := length_of_specifier h
      (read after).map (items ++ ·)
  | c :: rest => (read rest).map (.literal [c] :: ·)
termination_by text.length

end Pattern

/-! ## 3. Writing a moment -/

/-- A number with a padding; a signed one has one more column. -/
def padNumber (padding : Padding) (width : Nat) (signed : Bool) (n : Int) : List Char :=
  let body := digits n.natAbs
  let sign := if n < 0 then ['-'] else if signed then ['+'] else []
  let width := if signed then width + 1 else width
  match padding with
  | .bare => sign ++ body
  | .zero => sign ++ List.leftpad (width - sign.length) '0' body
  | .blank => List.leftpad width ' ' (sign ++ body)

/-- A byte in two columns: its tens as the character that many places after `0`, then its ones. -/
def padByte (padding : Padding) (byte : Nat) : List Char :=
  let tens := byte / 10
  let ones := Char.ofNat ('0'.toNat + byte % 10)
  if tens = 0 then
    match padding with
    | .bare => [ones]
    | .blank => [' ', ones]
    | .zero => ['0', ones]
  else [Char.ofNat ('0'.toNat + tens), ones]

/-- A year in four columns, signed outside 0 to 9999. -/
def padYear (padding : Padding) (year : Int) : List Char :=
  if 1000 ≤ year ∧ year ≤ 9999 then digits year.natAbs
  else padNumber padding 4 (!(0 ≤ year && year < 10000)) year

/-- The hour on a clock face. -/
def hourOfHalf (hour : Nat) : Nat := if hour % 12 = 0 then 12 else hour % 12

/-- A number part of a moment. A century is kept as the byte it reduces to. -/
def NumberPart.write (m : Moment) (padding : Padding) : NumberPart → List Char
  | .year => padYear padding m.date.year
  | .century => padByte padding ((m.date.year.fdiv 100).emod 256).toNat
  | .yearOfCentury => padByte padding (m.date.year.emod 100).toNat
  | .isoYear => padYear padding m.date.isoWeek.1
  | .isoYearOfCentury => padByte padding (m.date.isoWeek.1.emod 100).toNat
  | .isoWeek => padByte padding m.date.isoWeek.2
  | .quarter => digits ((m.date.month - 1) / 3 + 1)
  | .month => padByte padding m.date.month
  | .day => padByte padding m.date.day
  | .ordinal => padNumber padding 3 false m.date.ordinal
  | .weekFromSunday => padByte padding (m.date.week m.date.daysFromSunday)
  | .weekFromMonday => padByte padding (m.date.week m.date.daysFromMonday)
  | .fromSunday => digits m.date.daysFromSunday
  | .fromMonday => digits (m.date.daysFromMonday + 1)
  | .hour => padByte padding m.hour
  | .hour12 => padByte padding (hourOfHalf m.hour)
  | .minute => padByte padding m.minute
  | .second => padByte padding m.second
  | .nanosecond => padNumber padding 9 false m.fraction
  | .timestamp => padNumber padding 9 false m.seconds

/-- The first places of a fraction. -/
def fractionPlaces (nanos places : Nat) : String :=
  Number.naturalField places (nanos / Nat.pow 10 (9 - places))

/-- An offset with hours, minutes and seconds. -/
def offsetWithSeconds (offset : Int) : String :=
  let s := offset.natAbs
  (if offset < 0 then "-" else "+") ++ Moment.two (s / 3600) ++ ":" ++ Moment.two (s / 60 % 60) ++
    ":" ++ Moment.two (s % 60)

/-- A zone is named by its offset; seconds are shown if there are any. -/
def zoneName (offset : Int) : String :=
  if offset.natAbs % 60 = 0 then Moment.offsetText offset ":" else offsetWithSeconds offset

/-- A text part of a moment. -/
def TextPart.write (m : Moment) : TextPart → String
  | .weekday => m.date.weekdayName
  | .shortWeekday => shortName m.date.weekdayName
  | .monthName => m.date.monthName
  | .shortMonth => shortName m.date.monthName
  | .half => if m.hour < 12 then "AM" else "PM"
  | .lowerHalf => if m.hour < 12 then "am" else "pm"
  | .fraction => Moment.fractionText m.fraction
  | .fractionTo places => "." ++ fractionPlaces m.fraction places
  | .bareFraction places => fractionPlaces m.fraction places
  | .zone => zoneName m.offset
  | .offset => Moment.offsetText m.offset ""
  | .offsetColon => Moment.offsetText m.offset ":"
  | .offsetSeconds => offsetWithSeconds m.offset
  | .offsetHours => (if m.offset < 0 then "-" else "+") ++ Moment.two (m.offset.natAbs / 3600)
  | .rfc3339 => m.rfc3339

def Item.write (m : Moment) : Item → List Char
  | .literal chars => chars
  | .number part padding => part.write m padding
  | .text part => (part.write m).toList

/-- The moment as a pattern shows it; nothing if the pattern is not usable. -/
def Moment.format? (m : Moment) (pattern : String) : Option String :=
  (Pattern.read pattern.toList).map fun items => String.ofList (items.flatMap (Item.write m))

end Assay.Time
