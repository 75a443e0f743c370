import TestDesign.Json.Shape
import TestDesign.Json.Tree
import TestDesign.Sentence.Dictionary

/-!
# TestDesign.Json.Dictionaries

Dictionaries as JSON. Entries that are missing keep their English value.
-/

namespace TestDesign.Json

def dictionaryReader : Reader Dictionary :=
  .record [
    .of "step_given" true (.list .text) fun x (d : Dictionary) => { d with givenWords := x },
    .of "step_when" true (.list .text) fun x d => { d with whenWords := x },
    .of "step_then" true (.list .text) fun x d => { d with thenWords := x },
    .of "step_and" true (.list .text) fun x d => { d with andWords := x },
    .of "step_otherwise" true (.list .text) fun x d => { d with otherwiseWords := x },
    .of "i" true (.list .text) fun x d => { d with subjectWords := x },
    .of "with" true (.list .text) fun x d => { d with withWords := x },
    .of "fill" true (.list .text) fun x d => { d with fillVerbs := x },
    .of "valid" true .text fun x d => { d with validWord := x },
    .of "invalid" true .text fun x d => { d with invalidWord := x },
    .of "random" true .text fun x d => { d with randomWord := x },
    .of "from" true .text fun x d => { d with fromWord := x },
    .of "test_cases" true (.keyed .text) fun x d => { d with caseNames := x }] .english

def ofDictionary (d : Dictionary) : Tree :=
  let words := fun ws : List String => Tree.list (ws.map .text)
  .object [
    ("step_given", words d.givenWords), ("step_when", words d.whenWords),
    ("step_then", words d.thenWords), ("step_and", words d.andWords),
    ("step_otherwise", words d.otherwiseWords), ("i", words d.subjectWords),
    ("with", words d.withWords), ("fill", words d.fillVerbs), ("valid", .text d.validWord),
    ("invalid", .text d.invalidWord), ("random", .text d.randomWord), ("from", .text d.fromWord),
    ("test_cases", .object (d.caseNames.entries.map fun e => (e.1, .text e.2)))]

end TestDesign.Json
