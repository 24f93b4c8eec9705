import Assay.Regex.CharSet

/-!
# Properties by name

A pattern may name a set of characters: by a general category or a group of them, by a script, or by
a property. Names are compared without letter case, blanks, underscores and hyphens, and a leading
`is` does not count.
-/

namespace Assay.Regex

open CharSet

/-! ## 1. Names -/

/-- A name without what does not count. -/
def looseName (name : List Char) : List Char :=
  let lowered := (name.filter fun c => c.toNat < 128).map Char.toLower
  let bare (cs : List Char) : List Char := cs.filter fun c => c != ' ' && c != '_' && c != '-'
  match lowered with
  | 'i' :: 's' :: rest => if bare rest = ['c'] then ['i', 's', 'c'] else bare rest
  | _ => bare lowered

/-- Sets under several names each. -/
abbrev Names (α : Type) := List (String × α)

/-- What stands under a loose name; a row may give several names with blanks between them. -/
def Names.find? {α : Type} (rows : Names α) (name : List Char) : Option α :=
  rows.findSome? fun (spellings, value) =>
    if (Text.splitAt ' ' spellings.toList).contains name then some value else none

/-! ## 2. Tables -/

/-- The set of some categories. -/
def ofCategories (names : List String) : CharSet := named (.category names)

/-- General categories and their groups. -/
def categories : Names CharSet := [
  ("l letter", ofCategories ["lu", "ll", "lt", "lm", "lo"]),
  ("lc casedletter", ofCategories ["lu", "ll", "lt"]),
  ("lu uppercaseletter", ofCategories ["lu"]),
  ("ll lowercaseletter", ofCategories ["ll"]),
  ("lt titlecaseletter", ofCategories ["lt"]),
  ("lm modifierletter", ofCategories ["lm"]),
  ("lo otherletter", ofCategories ["lo"]),
  ("m mark combiningmark", ofCategories ["mn", "mc", "me"]),
  ("mn nonspacingmark", ofCategories ["mn"]),
  ("mc spacingmark", ofCategories ["mc"]),
  ("me enclosingmark", ofCategories ["me"]),
  ("n number", ofCategories ["nd", "nl", "no"]),
  ("nd decimalnumber digit", ofCategories ["nd"]),
  ("nl letternumber", ofCategories ["nl"]),
  ("no othernumber", ofCategories ["no"]),
  ("p punctuation punct", ofCategories ["pc", "pd", "ps", "pe", "pi", "pf", "po"]),
  ("pc connectorpunctuation", ofCategories ["pc"]),
  ("pd dashpunctuation", ofCategories ["pd"]),
  ("ps openpunctuation", ofCategories ["ps"]),
  ("pe closepunctuation", ofCategories ["pe"]),
  ("pi initialpunctuation", ofCategories ["pi"]),
  ("pf finalpunctuation", ofCategories ["pf"]),
  ("po otherpunctuation", ofCategories ["po"]),
  ("s symbol", ofCategories ["sm", "sc", "sk", "so"]),
  ("sm mathsymbol", ofCategories ["sm"]),
  ("sc currencysymbol", ofCategories ["sc"]),
  ("sk modifiersymbol", ofCategories ["sk"]),
  ("so othersymbol", ofCategories ["so"]),
  ("z separator", ofCategories ["zs", "zl", "zp"]),
  ("zs spaceseparator", ofCategories ["zs"]),
  ("zl lineseparator", ofCategories ["zl"]),
  ("zp paragraphseparator", ofCategories ["zp"]),
  ("c other", either (ofCategories ["cc", "cf", "co"]) (complement (named .assigned))),
  ("cc control cntrl", ofCategories ["cc"]),
  ("cf format", ofCategories ["cf"]),
  ("co privateuse", ofCategories ["co"]),
  ("cn unassigned", complement (named .assigned)),
  ("any", all),
  ("assigned", named .assigned),
  ("ascii", ascii)]

/-- The listed scripts, by name and by code. -/
def scripts : Names CharSet := [
  ("latin latn", named (.script "latin")),
  ("greek grek", named (.script "greek")),
  ("cyrillic cyrl", named (.script "cyrillic")),
  ("han hani", named (.script "han")),
  ("hiragana hira", named (.script "hiragana")),
  ("katakana kana", named (.script "katakana")),
  ("arabic arab", named (.script "arabic")),
  ("hebrew hebr", named (.script "hebrew")),
  ("armenian armn", named (.script "armenian")),
  ("thai", named (.script "thai")),
  ("devanagari deva", named (.script "devanagari")),
  ("hangul hang", named (.script "hangul")),
  ("common zyyy", named (.script "common"))]

/-- Properties of characters. -/
def properties : Names CharSet := [
  ("alphabetic alpha", named .alphabetic),
  ("lowercase lower", named .lowercase),
  ("uppercase upper", named .uppercase),
  ("whitespace wspace space", named .blank),
  ("asciihexdigit ahex", union [span '0' '9', span 'A' 'F', span 'a' 'f']),
  ("joincontrol joinc", span '\u200c' '\u200d')]

/-- The names by which a kind of property can be asked for. -/
inductive Asked where
  | category
  | script
  deriving DecidableEq, Repr

def askedNames : Names Asked := [
  ("gc generalcategory", .category),
  ("sc script scx scriptextensions", .script)]

/-! ## 3. Looking up -/

/-- The set a single name stands for. -/
def setNamed? (name : List Char) : Option CharSet :=
  let name := looseName name
  ((properties.find? name).or (categories.find? name)).or (scripts.find? name)

/-- The set a property with a value stands for. -/
def setValued? (property value : List Char) : Option CharSet :=
  (askedNames.find? (looseName property)).bind fun
    | .category => categories.find? (looseName value)
    | .script => scripts.find? (looseName value)

/-- The set that what stands in the braces of a property escape stands for. -/
def propertySet? (text : List Char) : Option CharSet :=
  match Text.splitOnce ':' text with
  | some (property, value) => setValued? property value
  | none =>
    match Text.splitOnce '=' text with
    | some (property, value) =>
      match property.getLast? with
      | some '!' => (setValued? property.dropLast value).map complement
      | _ => setValued? property value
    | none => setNamed? text

/-- The classes of ASCII with names of their own. -/
def asciiClasses : Names CharSet :=
  let lower := span 'a' 'z'
  let upper := span 'A' 'Z'
  let digit := span '0' '9'
  let graph := span '!' '~'
  let letters := either lower upper
  [("alnum", either letters digit),
    ("alpha", letters),
    ("ascii", ascii),
    ("blank", either (single ' ') (single '\t')),
    ("cntrl", either (span '\x00' '\x1f') (single '\x7f')),
    ("digit", digit),
    ("graph", graph),
    ("lower", lower),
    ("print", span ' ' '~'),
    ("punct", without graph (either letters digit)),
    ("space", either (span '\t' '\r') (single ' ')),
    ("upper", upper),
    ("word", union [letters, digit, single '_']),
    ("xdigit", union [digit, span 'a' 'f', span 'A' 'F'])]

end Assay.Regex
