import TestDesign.Document.Step
import TestDesign.Keyed
import TestDesign.Text.Words

/-!
# TestDesign.Sentence.Dictionary

The words of the language that scenarios are written in: the keywords that steps start with, the
verbs that fill elements, and the words of generated sentences and comments. Every list holds the
accepted spellings, and its first one is written.
-/

namespace TestDesign

/-- Words and spellings of a language. -/
structure Dictionary where
  givenWords : List String
  whenWords : List String
  thenWords : List String
  andWords : List String
  otherwiseWords : List String
  /-- Who acts in a generated sentence. -/
  subjectWords : List String
  /-- What stands between an element and its value. -/
  withWords : List String
  fillVerbs : List String
  validWord : String
  invalidWord : String
  randomWord : String
  /-- What stands before the element that a check comes from. -/
  fromWord : String
  /-- Descriptions of the data test cases, by identifier. -/
  caseNames : Keyed String
deriving DecidableEq

namespace Dictionary

/-- English descriptions of the data test cases. -/
def englishCaseNames : List (String × String) :=
  [ ("VALUE_LOWEST", "lowest applicable value"),
    ("VALUE_RANDOM_BELOW_MIN", "random value below the minimum value"),
    ("VALUE_JUST_BELOW_MIN", "value just below the minimum value"),
    ("VALUE_MIN", "minimum value"),
    ("VALUE_JUST_ABOVE_MIN", "value just above the minimum value"),
    ("VALUE_ZERO", "zero value"),
    ("VALUE_MEDIAN", "median value"),
    ("VALUE_RANDOM_BETWEEN_MIN_MAX", "random value between the minimum and the maximum values"),
    ("VALUE_JUST_BELOW_MAX", "value just below the maximum value"),
    ("VALUE_MAX", "maximum value"),
    ("VALUE_JUST_ABOVE_MAX", "value just above the maximum value"),
    ("VALUE_RANDOM_ABOVE_MAX", "random value above the maximum value"),
    ("VALUE_GREATEST", "greatest applicable value"),
    ("LENGTH_LOWEST", "lowest applicable length"),
    ("LENGTH_RANDOM_BELOW_MIN", "random length below the minimum length"),
    ("LENGTH_JUST_BELOW_MIN", "length just below the minimum length"),
    ("LENGTH_MIN", "minimum length"),
    ("LENGTH_JUST_ABOVE_MIN", "length just above the minimum length"),
    ("LENGTH_ZERO", "empty"),
    ("LENGTH_MEDIAN", "median length"),
    ("LENGTH_RANDOM_BETWEEN_MIN_MAX", "random length between the minimum and the maximum lengths"),
    ("LENGTH_JUST_BELOW_MAX", "length just below the maximum length"),
    ("LENGTH_MAX", "maximum length"),
    ("LENGTH_JUST_ABOVE_MAX", "length just above the maximum length"),
    ("LENGTH_RANDOM_ABOVE_MAX", "random length above the maximum length"),
    ("LENGTH_GREATEST", "greatest applicable length"),
    ("FORMAT_VALID", "valid format"),
    ("FORMAT_INVALID", "invalid format"),
    ("SET_FIRST_ELEMENT", "first element of the set"),
    ("SET_RANDOM_ELEMENT", "random element of the set"),
    ("SET_LAST_ELEMENT", "last element of the set"),
    ("SET_NOT_IN_SET", "value not in the set"),
    ("REQUIRED_FILLED", "filled"),
    ("REQUIRED_NOT_FILLED", "not filled"),
    ("COMPUTED", "computed value") ]

def english : Dictionary where
  givenWords := ["given that", "given"]
  whenWords := ["when"]
  thenWords := ["then"]
  andWords := ["and"]
  otherwiseWords := ["otherwise"]
  subjectWords := ["I"]
  withWords := ["with"]
  fillVerbs := ["fill", "inform", "enter", "type"]
  validWord := "valid"
  invalidWord := "invalid"
  randomWord := "random"
  fromWord := "from"
  caseNames := .ofList englishCaseNames

instance : Inhabited Dictionary := ⟨english⟩

/-- The spellings of the keyword of a step kind. -/
def keywords (d : Dictionary) : StepKind → List String
  | .givenStep => d.givenWords
  | .whenStep => d.whenWords
  | .thenStep => d.thenWords
  | .andStep => d.andWords
  | .otherwiseStep => d.otherwiseWords

/-- The keyword written when the dictionary has none. -/
def defaultKeyword : StepKind → String
  | .givenStep => "Given that"
  | .whenStep => "When"
  | .thenStep => "Then"
  | .andStep => "And"
  | .otherwiseStep => "Otherwise"

/-- The keyword that a generated step starts with. -/
def keyword (d : Dictionary) (kind : StepKind) : String :=
  Text.upperFirst ((d.keywords kind).headD (defaultKeyword kind))

def subject (d : Dictionary) : String := d.subjectWords.headD "I"

def connective (d : Dictionary) : String := d.withWords.headD "with"

/-- The description of a data test case; its identifier when the dictionary has none. -/
def caseName (d : Dictionary) (id : String) : String := (d.caseNames.get? id).getD id

/-- Whether a word is a fill verb, the case of ASCII letters aside. -/
def isFillVerb (d : Dictionary) (word : String) : Bool :=
  d.fillVerbs.any fun verb => verb.toList.map Char.toLower = word.toList.map Char.toLower

end Dictionary

end TestDesign
