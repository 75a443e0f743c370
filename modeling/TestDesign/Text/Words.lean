import TestDesign.Text.CaseMap
import TestDesign.Text.Numbers

/-!
# TestDesign.Text.Words

The words of a name, and the six spellings that names are converted to. Words are runs of
alphanumeric characters; a run is also cut where a small letter or a digit meets a capital letter,
so `userName`, `user name` and `user-name` have the same words.
-/

namespace TestDesign.Text

/-- Adds a word to the words found so far, unless it is empty. The word is in reverse order. -/
def closeWord (word : List Char) (words : List (List Char)) : List (List Char) :=
  if word.isEmpty then words else word.reverse :: words

/-- Splits into words. `word` is the current word in reverse order, `afterSmall` says whether its
last character was a small letter or a digit. -/
def splitFrom : List Char → List Char → Bool → List (List Char)
  | [], word, _ => closeWord word []
  | c :: cs, word, afterSmall =>
    if !isAlphanumeric c then
      closeWord word (splitFrom cs [] false)
    else if isUpper c && afterSmall then
      closeWord word (splitFrom cs [c] (isLower c || isNumeric c))
    else
      splitFrom cs (c :: word) (isLower c || isNumeric c)

def splitWords (cs : List Char) : List (List Char) := splitFrom cs [] false

def lowerChars (cs : List Char) : List Char := lowerFrom [] cs

/-- The first character as a capital, the others small. -/
def capitalize : List Char → List Char
  | [] => []
  | c :: cs => upperChar c ++ cs.flatMap lowerChar

/-- The text with its first character as a capital. -/
def upperFirst (s : String) : String :=
  match s.toList with
  | [] => ""
  | c :: cs => String.ofList (upperChar c ++ cs)

/-- How the words of a name are joined. -/
inductive CaseStyle where
  | camel
  | pascal
  | snake
  | kebab
  | lower
  | upper
deriving DecidableEq, Inhabited

namespace CaseStyle

def all : List CaseStyle := [camel, pascal, snake, kebab, lower, upper]

def name : CaseStyle → String
  | camel => "camel"
  | pascal => "pascal"
  | snake => "snake"
  | kebab => "kebab"
  | lower => "lower"
  | upper => "upper"

def ofName? (s : String) : Option CaseStyle := all.find? (·.name = s)

/-- Small words with a separator between them. -/
def joinLower (separator : Char) (words : List (List Char)) : List Char :=
  [separator].intercalate (words.map lowerChars)

/-- The spelling of a list of words. -/
def join (style : CaseStyle) (words : List (List Char)) : List Char :=
  match style with
  | camel =>
    match words with
    | [] => []
    | w :: ws => lowerChars w ++ ws.flatMap capitalize
  | pascal => words.flatMap capitalize
  | snake => joinLower '_' words
  | kebab => joinLower '-' words
  | lower => joinLower ' ' words
  | upper => (joinLower ' ' words).flatMap upperChar

/-- The spelling of a name. -/
def convert (style : CaseStyle) (s : String) : String :=
  String.ofList (style.join (splitWords s.toList))

end CaseStyle

end TestDesign.Text
