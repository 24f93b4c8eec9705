import Assay.Text.Alphabetic
import Assay.Text.Blank
import Assay.Text.CaseMap
import Assay.Text.Category

/-!
# Sets of characters

What one place of a pattern accepts is a set of characters, built from spans and named classes with
the operations of sets. A set can be closed under changes of case: then it holds every variant of
each of its members.
-/

namespace Assay.Regex

open Assay.Text

/-! ## 1. Named classes -/

/-- Classes of characters with a name. -/
inductive CharClass where
  /-- Decimal digits. -/
  | digit
  | blank
  /-- What words are made of: letters, marks, digits, connectors and joiners. -/
  | word
  | alphabetic
  | lowercase
  | uppercase
  | assigned
  /-- The characters of some general categories. -/
  | category (names : List String)
  | script (name : String)
  deriving DecidableEq, Repr

/-- A character that words are made of. -/
def isWord (c : Char) : Bool :=
  if c.toNat < 128 then c.isAlphanum || c == '_'
  else isAlphabetic c || hasCategory ["mn", "mc", "me", "nd", "pc"] c ||
    c == '\u200c' || c == '\u200d'

/-- A character that words of ASCII are made of. -/
def isAsciiWord (c : Char) : Bool := c.isAlphanum || c == '_'

def CharClass.holds (c : Char) : CharClass → Bool
  | digit => if c.toNat < 128 then c.isDigit else hasCategory ["nd"] c
  | blank => isBlank c
  | word => isWord c
  | alphabetic => isAlphabetic c
  | lowercase => isLowercase c
  | uppercase => isUppercase c
  | assigned => isAssigned c
  | category names => hasCategory names c
  | script name => hasScript name c

/-! ## 2. Sets -/

/-- A set of characters. -/
inductive CharSet where
  | empty
  | span (first last : Char)
  | named (name : CharClass)
  | either (a b : CharSet)
  | both (a b : CharSet)
  | without (a b : CharSet)
  /-- What is in one of two sets and not in the other. -/
  | apart (a b : CharSet)
  | complement (a : CharSet)
  /-- All case variants of what is in a set. -/
  | caseless (a : CharSet)
  deriving Repr

/-- The characters that have the same case folding as a character, itself among them. -/
def caseVariants (c : Char) : List Char :=
  let folded := foldChar c
  let ascii := if folded.toNat < 128 then [folded, folded.toUpper] else [folded]
  ascii ++ foldShifts.filterMap fun s =>
    let code := s.run.first + (folded.toNat - s.target)
    if s.target ≤ folded.toNat && s.run.holds code then some (Char.ofNat code) else none

namespace CharSet

/-- The character is in the set. -/
def holds (c : Char) : CharSet → Bool
  | empty => false
  | span first last => first ≤ c && c ≤ last
  | named name => name.holds c
  | either a b => a.holds c || b.holds c
  | both a b => a.holds c && b.holds c
  | without a b => a.holds c && !b.holds c
  | apart a b => a.holds c != b.holds c
  | complement a => !a.holds c
  | caseless a => (caseVariants c).any fun v => a.holds v

/-- A set of one character. -/
def single (c : Char) : CharSet := span c c

/-- The union of several sets. -/
def union (sets : List CharSet) : CharSet := sets.foldl either empty

/-- Every character. -/
def all : CharSet := complement empty

/-- The ASCII characters. -/
def ascii : CharSet := span '\x00' '\x7f'

/-- The set is within ASCII, as far as its making shows. -/
def isAscii : CharSet → Bool
  | empty => true
  | span _ last => last.toNat < 128
  | either a b => a.isAscii && b.isAscii
  | both a b => a.isAscii || b.isAscii
  | without a _ => a.isAscii
  | apart a b => a.isAscii && b.isAscii
  | _ => false

/-- All but the line feed. -/
def notLineFeed : CharSet := complement (single '\n')

/-- All but the line feed and the carriage return. -/
def notLineEnd : CharSet := complement (either (single '\n') (single '\r'))

end CharSet

end Assay.Regex
