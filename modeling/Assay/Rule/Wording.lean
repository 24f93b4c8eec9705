import Assay.Message.Dictionary

/-!
# The English of the built-in rules

Each built-in rule has a message key; this is what the keys mean in English.
-/

namespace Assay.Rule

/-- Templates of the built-in rules by message key. -/
def englishEntries : List (String × String) := [
  ("Texts.EqualTo", "Must be equal to '\x7bvalue\x7d'"),
  ("Texts.NotEqualTo", "Must not be equal to '\x7bvalue\x7d'"),
  ("Texts.Contains", "Must contain '\x7bvalue\x7d'"),
  ("Texts.NotContains", "Must not contain '\x7bvalue\x7d'"),
  ("Texts.StartsWith", "Must start with '\x7bvalue\x7d'"),
  ("Texts.EndsWith", "Must end with '\x7bvalue\x7d'"),
  ("Texts.NotEmpty", "Must not be empty"),
  ("Texts.NotWhiteSpace", "Must not consist only of whitespace characters"),
  ("Texts.SingleLine", "Must consist of single line"),
  ("Texts.ExactLength", "Must be exactly \x7blength\x7d characters in length"),
  ("Texts.MinLength", "Must be at least \x7bmin\x7d characters in length"),
  ("Texts.MaxLength", "Must be at most \x7bmax\x7d characters in length"),
  ("Texts.LengthBetween", "Must be between \x7bmin\x7d and \x7bmax\x7d characters in length"),
  ("Texts.Matches", "Must match RegEx pattern '\x7bpattern\x7d'"),
  ("Texts.Email", "Must be a valid email address"),
  ("Numbers.EqualTo", "Must be equal to \x7bvalue\x7d"),
  ("Numbers.NotEqualTo", "Must not be equal to \x7bvalue\x7d"),
  ("Numbers.GreaterThan", "Must be greater than \x7bmin\x7d"),
  ("Numbers.GreaterThanOrEqualTo", "Must be greater than or equal to \x7bmin\x7d"),
  ("Numbers.LessThan", "Must be less than \x7bmax\x7d"),
  ("Numbers.LessThanOrEqualTo", "Must be less than or equal to \x7bmax\x7d"),
  ("Numbers.Between", "Must be between \x7bmin\x7d and \x7bmax\x7d (exclusive)"),
  ("Numbers.BetweenOrEqualTo", "Must be between \x7bmin\x7d and \x7bmax\x7d (inclusive)"),
  ("Numbers.NonZero", "Must not be zero"),
  ("Numbers.Positive", "Must be positive"),
  ("Numbers.NonPositive", "Must not be positive"),
  ("Numbers.Negative", "Must be negative"),
  ("Numbers.NonNegative", "Must not be negative"),
  ("Numbers.NonNaN", "Must be a number"),
  ("Collections.ExactCollectionSize", "Must contain exactly \x7bsize\x7d items"),
  ("Collections.EmptyCollection", "Must be empty"),
  ("Collections.NotEmptyCollection", "Must not be empty"),
  ("Collections.MinCollectionSize", "Must contain at least \x7bmin\x7d items"),
  ("Collections.MaxCollectionSize", "Must contain at most \x7bmax\x7d items"),
  ("Collections.CollectionSizeBetween", "Must contain between \x7bmin\x7d and \x7bmax\x7d items"),
  ("Bools.True", "Must be true"),
  ("Bools.False", "Must be false"),
  ("Guids.NotNil", "Must not be nil"),
  ("Guids.EqualTo", "Must be equal to \x7bvalue\x7d"),
  ("Guids.NotEqualTo", "Must not be equal to \x7bvalue\x7d"),
  ("Times.After", "Must be after \x7bmin\x7d"),
  ("Times.Before", "Must be before \x7bmax\x7d"),
  ("Times.BetweenTimes", "Must be between \x7bmin\x7d and \x7bmax\x7d")]

/-- English with the entries of the engine and of the rules. -/
def english : Translations := Translations.core.extend Translations.english englishEntries

end Assay.Rule
