import Assay.Regex.Reader
import Assay.Rule.Size

/-!
# Rules about texts

Texts are compared character by character, and lengths count characters.

The shape of a mail address is one `@` with something before it and, behind it, parts with single
dots between them, all without blanks.
-/

namespace Assay.Rule.Text

open Assay.Text

/-! ## 1. Tests -/

/-- The part stands somewhere in the text. -/
def hasPart (part : List Char) : List Char → Bool
  | [] => part.isEmpty
  | c :: rest => part.isPrefixOf (c :: rest) || hasPart part rest

/-- A non-empty run without blanks and `@`. -/
def isAddressWord (word : List Char) : Bool :=
  !word.isEmpty && word.all fun c => !isBlank c && c != '@'

/-- The shape of a mail address. -/
def isAddress (text : List Char) : Bool :=
  match splitOnce '@' text with
  | some (name, domain) => isAddressWord name && (splitAt '.' domain).all isAddressWord
  | none => false

/-! ## 2. Rules -/

/-- A text as the argument called `value`. -/
def valueArg (value : String) : List Arg := [⟨"value", .text value⟩]

def equalTo (value : String) : Rule String :=
  make "Texts.EqualTo" (valueArg value) fun v => v == value

def notEqualTo (value : String) : Rule String :=
  make "Texts.NotEqualTo" (valueArg value) fun v => v != value

def contains (value : String) : Rule String :=
  make "Texts.Contains" (valueArg value) fun v => hasPart value.toList v.toList

def notContains (value : String) : Rule String :=
  make "Texts.NotContains" (valueArg value) fun v => !hasPart value.toList v.toList

def startsWith (value : String) : Rule String :=
  make "Texts.StartsWith" (valueArg value) fun v => value.toList.isPrefixOf v.toList

def endsWith (value : String) : Rule String :=
  make "Texts.EndsWith" (valueArg value) fun v => value.toList.isSuffixOf v.toList

def notEmpty : Rule String := make "Texts.NotEmpty" [] fun v => v != ""

/-- Some character is no blank. -/
def notWhiteSpace : Rule String :=
  make "Texts.NotWhiteSpace" [] fun v => v.toList.any (!isBlank ·)

def singleLine : Rule String :=
  make "Texts.SingleLine" [] fun v => !v.toList.any fun c => c == '\n' || c == '\r'

def exactLength (n : Nat) : Rule String := exactly String.length "Texts.ExactLength" "length" n

def minLength (min : Nat) : Rule String := atLeast String.length "Texts.MinLength" min

def maxLength (max : Nat) : Rule String := atMost String.length "Texts.MaxLength" max

def lengthBetween (min max : Nat) : Rule String :=
  withinSizes String.length "Texts.LengthBetween" min max

/-- Why a pattern cannot be used. -/
def patternReason : String := "<regex>"

/-- Some part of the text is described by a pattern. No text passes what is no pattern. -/
def matchesPattern (pattern : String) : Rule String :=
  let read := Regex.read? pattern
  (make "Texts.Matches" [⟨"pattern", .text pattern⟩] fun v => read.any (·.matchesText v)).check
    read.isSome (.argument "pattern" patternReason)

def email : Rule String := make "Texts.Email" [] fun v => isAddress v.toList

end Assay.Rule.Text
