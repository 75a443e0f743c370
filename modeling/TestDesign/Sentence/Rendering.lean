import TestDesign.Document.Element
import TestDesign.Sentence.Dictionary
import TestDesign.Text.Offset
import TestDesign.Text.Blank

/-!
# TestDesign.Sentence.Rendering

Values, element names and keywords as they are written in generated sentences.
-/

namespace TestDesign

open Text

/-- A text with a backslash in front of every quote. -/
def escapeQuotes : List Char → List Char
  | [] => []
  | c :: cs => if c = '"' then '\\' :: '"' :: escapeQuotes cs else c :: escapeQuotes cs

/-- A value in a sentence. Quotes are escaped in a string that stands for itself, but not in a
string of a list. -/
def Value.inSentence : Value → String
  | .text s => Value.quoted (String.ofList (escapeQuotes s.toList))
  | v => v.display

/-- The name of an element in the user interface, as a sentence refers to it. -/
def literalReference (name : String) : String := "<" ++ name ++ ">"

/-- What follows a keyword that the characters start with, the case aside. -/
def afterKeyword (keyword : String) (content : List Char) : Option (List Char) :=
  match splitAtByte content keyword.utf8ByteSize with
  | some (start, rest) =>
    if lowerChars start = lowerChars keyword.toList then some rest else none
  | none => none

/-- The longest of some findings with their lengths; the last one of several. -/
def longest (found : List (Nat × List Char)) : Option (Nat × List Char) :=
  found.foldl (fun best f =>
    match best with
    | none => some f
    | some b => if b.1 ≤ f.1 then some f else some b) none

/-- A sentence that starts with "otherwise", as one that starts with "then". -/
def otherwiseAsThen (content : String) (d : Dictionary) : String :=
  let cs := content.toList
  let found := (d.otherwiseWords.filter (!·.isEmpty)).filterMap fun keyword =>
    (afterKeyword keyword cs).map fun rest => (keyword.utf8ByteSize, rest)
  let rest := match longest found with
    | some (_, rest) => rest
    | none => cs
  d.keyword .thenStep ++ " " ++
    String.ofList (rest.dropWhile fun c => c = ',' || isBlank c)

end TestDesign
