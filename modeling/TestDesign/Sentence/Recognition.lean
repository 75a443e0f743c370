import TestDesign.Document.Lookup
import TestDesign.Sentence.Dictionary
import TestDesign.Text.Offset

/-!
# TestDesign.Sentence.Recognition

Recognition of step sentences. A sentence is cut into lexemes from left to right: a delimited
entity, a number at the start of a word, a word, or a single character of no meaning. The lexemes
in their order are the sentence, and an entity is always a whole lexeme, so entities stand at
increasing positions and do not overlap.

The kind of the step comes from the longest keyword that the sentence starts with as a whole word.
-/

namespace TestDesign

open Text

/-- Why a sentence is refused. -/
inductive RecognitionError where
  | unclosed (opening closing : Char) (location : Location)
  | emptyReference (text : String) (location : Location)
  | missingKeyword (content : String) (location : Location)
deriving DecidableEq

def RecognitionError.message : RecognitionError → String
  | unclosed o c l =>
    "Unclosed '" ++ o.toString ++ "' at " ++ l.text ++ ": expected '" ++ c.toString ++ "'"
  | emptyReference t l => "Empty reference '" ++ t ++ "' at " ++ l.text
  | missingKeyword c l => "Sentence does not start with a step keyword at " ++ l.text ++ ": " ++ c

namespace Sentence

/-- What is wrong with a lexeme, wherever it stands. -/
inductive Fault where
  | unclosed (opening closing : Char)
  | emptyReference (text : List Char)

def Fault.at (l : Location) : Fault → RecognitionError
  | unclosed o c => .unclosed o c l
  | emptyReference t => .emptyReference (String.ofList t) l

/-- What an entity means. -/
structure Meaning where
  kind : EntityKind
  value : List Char
  property : Option (List Char) := none

/-- Characters that belong together, and their meaning if they are an entity. -/
structure Lexeme where
  text : List Char
  meaning : Option Meaning

/-- The characters up to the closing one, which is included. With `escapes`, a backslash hides the
character after it. -/
def upTo (closing : Char) (escapes : Bool) : List Char → Option (List Char)
  | [] => none
  | c :: cs =>
    if escapes && c = '\\' then
      match cs with
      | [] => none
      | d :: ds => (upTo closing escapes ds).map fun r => c :: d :: r
    else if c = closing then
      some [c]
    else
      (upTo closing escapes cs).map (c :: ·)

/-- A quoted text without the backslashes in front of its quotes. -/
def unescape : List Char → List Char
  | '\\' :: '"' :: cs => '"' :: unescape cs
  | c :: cs => c :: unescape cs
  | [] => []

/-- A quoted value. -/
def quotedValue (cs : List Char) : Except Fault Lexeme :=
  match upTo '"' true cs with
  | some body => .ok ⟨'"' :: body, some { kind := .value, value := unescape body.dropLast }⟩
  | none => .error (.unclosed '"' '"')

/-- A name between delimiters, without the blanks around it. -/
def reference (kind : EntityKind) (opening closing : Char) (cs : List Char) :
    Except Fault Lexeme :=
  match upTo closing false cs with
  | some body =>
    let name := trimChars body.dropLast
    if name.isEmpty then .error (.emptyReference (opening :: body))
    else .ok ⟨opening :: body, some { kind, value := name }⟩
  | none => .error (.unclosed opening closing)

/-- An element, or a property of one after a bar. -/
def elementReference (cs : List Char) : Except Fault Lexeme :=
  match reference .element '{' '}' cs with
  | .error fault => .error fault
  | .ok lexeme =>
    match lexeme.meaning.bind fun m => splitAtFirst '|' m.value with
    | none => .ok lexeme
    | some (element, property) =>
      let element := trimChars element
      let property := trimChars property
      if element.isEmpty || property.isEmpty then .error (.emptyReference lexeme.text)
      else
        .ok { lexeme with
          meaning := some { kind := .property, value := element, property := some property } }

/-- The digits of a number after its first character, with points between digits. -/
def numberTail : List Char → List Char
  | [] => []
  | c :: cs =>
    if Decimal.isDigit c then c :: numberTail cs
    else if c = '.' && (cs.head?.any Decimal.isDigit) then c :: numberTail cs
    else []

def numberLexeme (c : Char) (cs : List Char) : Lexeme :=
  let text := c :: numberTail cs
  ⟨text, some { kind := .number, value := text }⟩

/-- A word, which is an entity if it is a fill verb. -/
def wordLexeme (d : Dictionary) (c : Char) (cs : List Char) : Lexeme :=
  let text := c :: cs.takeWhile isAlphanumeric
  if d.isFillVerb (String.ofList text) then
    ⟨text, some { kind := .action, value := Step.fillName.toList }⟩
  else
    ⟨text, none⟩

/-- Whether a number can start after the given character. -/
def startsWord : Option Char → Bool
  | none => true
  | some c => isBlank c || c = ',' || c = '('

/-- The lexeme that starts with `c`, where `before` is the character in front of it. -/
def lexeme (d : Dictionary) (before : Option Char) (c : Char) (cs : List Char) :
    Except Fault Lexeme :=
  match c with
  | '"' => quotedValue cs
  | '[' => reference .constant '[' ']' cs
  | '<' => reference .literal '<' '>' cs
  | '{' => elementReference cs
  | '~' => reference .state '~' '~' cs
  | c =>
    if Decimal.isDigit c || (c = '-' && cs.head?.any Decimal.isDigit) then
      .ok (if startsWord before then numberLexeme c cs else ⟨[c], none⟩)
    else if isAlphabetic c then
      .ok (wordLexeme d c cs)
    else
      .ok ⟨[c], none⟩

/-- How much of a sentence has been read. -/
structure Cursor where
  characters : Nat := 0
  bytes : Nat := 0
  last : Option Char := none

def Cursor.advance (k : Cursor) (text : List Char) : Cursor :=
  ⟨k.characters + text.length, k.bytes + byteLength text, text.getLast?.or k.last⟩

def Lexeme.entity? (x : Lexeme) (position : Nat) : Option Entity :=
  x.meaning.map fun m =>
    { kind := m.kind
      value := String.ofList m.value
      text := String.ofList x.text
      position
      property := m.property.map String.ofList }

/-- The entities of the rest of a sentence. -/
def entitiesFrom (d : Dictionary) (start : Location) (k : Cursor) :
    List Char → Except RecognitionError (List Entity)
  | [] => .ok []
  | c :: cs =>
    match lexeme d k.last c cs with
    | .error fault => .error (fault.at { start with column := start.column + k.characters })
    | .ok x =>
      match entitiesFrom d start (k.advance x.text) (cs.drop (x.text.length - 1)) with
      | .error e => .error e
      | .ok es => .ok ((x.entity? k.bytes).toList ++ es)
termination_by cs => cs.length
decreasing_by
  simp only [List.length_drop, List.length_cons]
  omega

/-- Whether a sentence starts with a keyword that is a whole word, and the bytes of the keyword.
Both are small. -/
def startsWith (keyword sentence : List Char) : Option Nat :=
  if keyword.isPrefixOf sentence && !(sentence.drop keyword.length).head?.any isAlphanumeric then
    some (byteLength keyword)
  else
    none

/-- The longer of two findings; the first one, when they are equally long. -/
def longer (best found : Option (Nat × StepKind)) : Option (Nat × StepKind) :=
  match best, found with
  | none, f => f
  | b, none => b
  | some b, some f => if b.1 < f.1 then some f else some b

/-- The kind of the longest keyword that the sentence starts with. -/
def kindOf (d : Dictionary) (content : String) : Option StepKind :=
  let sentence := lowerChars content.toList
  let found := StepKind.all.flatMap fun kind =>
    (d.keywords kind).map fun keyword =>
      (startsWith (lowerChars keyword.toList) sentence).map fun n => (n, kind)
  (found.foldl longer none).map (·.2)

end Sentence

/-- The step of a sentence, without the blanks around it. -/
def recognize (d : Dictionary) (sentence : String) (location : Location) :
    Except RecognitionError Step :=
  let content := trim sentence
  match Sentence.kindOf d content with
  | none => .error (.missingKeyword content location)
  | some kind =>
    match Sentence.entitiesFrom d location {} content.toList with
    | .error e => .error e
    | .ok entities => .ok { content, kind, location, entities }

/-- The steps of sentences on consecutive lines; the column counts the bytes of the blanks in
front. -/
def recognizeLines (d : Dictionary) : Nat → List String → Except RecognitionError (List Step)
  | _, [] => .ok []
  | line, s :: rest =>
    let column := byteLength (s.toList.takeWhile isBlank) + 1
    match recognize d s { line, column } with
    | .error e => .error e
    | .ok step =>
      match recognizeLines d (line + 1) rest with
      | .error e => .error e
      | .ok steps => .ok (step :: steps)

end TestDesign
