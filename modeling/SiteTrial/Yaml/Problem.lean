/-!
# Problems of YAML texts

* `Problem` : the ways in which a text is no document;
* `Problem.message` : their wording.

Only the first three are problems of the form of a text; all others are met when its values are made.
-/

namespace SiteTrial.Yaml

inductive Problem where
  /-- The text breaks a rule of the format. -/
  | malformed
  /-- Lists and mappings stand too deep inside each other. -/
  | tooDeep
  /-- An integer with more digits than are read. -/
  | integerTooLong
  /-- A number in the text cannot be read. -/
  | badNumber
  /-- A number of which no digit is written. -/
  | emptyNumber
  /-- A number in parts of sixty whose first part counts for more than any double. -/
  | numberTooLarge
  /-- A truth value that is none. -/
  | badTruth
  /-- A text that has not the form of a date or time. -/
  | notAMoment
  /-- A date or time that is written as a mapping. -/
  | momentOfMapping
  /-- A date or time that does not exist. -/
  | badMoment
  /-- A code point beyond the last. -/
  | badCodePoint
  /-- A code point beyond all machine integers. -/
  | hugeCodePoint
deriving Repr, DecidableEq

namespace Problem

/-- The wording of a problem. -/
def message : Problem → String
  | .malformed => "the text breaks a rule of the format"
  | .tooDeep => "lists and mappings stand too deep inside each other"
  | .integerTooLong => "an integer has too many digits"
  | .badNumber => "a number cannot be read"
  | .emptyNumber => "a number has no digits"
  | .numberTooLarge => "a number is too large"
  | .badTruth => "a truth value is none"
  | .notAMoment => "a text is no date or time"
  | .momentOfMapping => "a mapping is no date or time"
  | .badMoment => "a date or time does not exist"
  | .badCodePoint => "a code point lies beyond the last"
  | .hugeCodePoint => "a code point is too large"

end Problem

end SiteTrial.Yaml
