import Assay.Text.Alphabetic
import Assay.Text.CaseMap

/-!
# Title case

The name of a member becomes words a reader can follow: `firstName2` is shown as `First Name 2`.

Words end at `_`, `-` and blanks, which are dropped, and at a boundary inside the name: between a
lowercase character and an uppercase one or a digit, and between a digit and an alphabetic
character. A run of capitals stays together. The first character of each word is put in upper case.
-/

namespace Assay.Text

/-! ## 1. Words -/

/-- A character between words. -/
def isWordBreak (c : Char) : Bool := c == '_' || c == '-' || c == ' '

/-- A new word starts between these two neighbours. -/
def isBoundary (previous c : Char) : Bool :=
  (isLowercase previous && (isUppercase c || c.isDigit)) ||
    (previous.isDigit && isAlphabetic c)

/-- A finished word, given back to front, in front of the ones after it; nothing for an empty
    word. -/
def endWord (word : List Char) (words : List (List Char)) : List (List Char) :=
  if word.isEmpty then words else word.reverse :: words

/-- The words of a name, with the character before it and the word begun, back to front. -/
def wordsFrom : (previous : Option Char) → (word name : List Char) → List (List Char)
  | _, word, [] => endWord word []
  | previous, word, c :: rest =>
    if isWordBreak c then endWord word (wordsFrom (some c) [] rest)
    else if previous.any (isBoundary · c) then endWord word (wordsFrom (some c) [c] rest)
    else wordsFrom (some c) (c :: word) rest

/-- The words of a name. -/
def words (name : List Char) : List (List Char) := wordsFrom none [] name

/-! ## 2. Title case -/

/-- A word with its first character in upper case. -/
def capitalized : List Char → List Char
  | [] => []
  | c :: rest => upperChar c ++ rest

/-- The words of a name, capitalized, with blanks between them. -/
def titleCase (name : String) : String :=
  String.ofList (joinWith ' ' ((words name.toList).map capitalized))

end Assay.Text
