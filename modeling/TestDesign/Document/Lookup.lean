import TestDesign.Document.Element
import TestDesign.Text.Blank

/-!
# TestDesign.Document.Lookup

Documents, the specification they form, and the search for elements and constants in it.

A variable `Feature:Element` is searched by the name of the feature in every document. A bare name
is searched in the current document first, its feature before its global elements, and then among
the global elements of every document; elements of other features are not found by a bare name.
-/

namespace TestDesign

open Text

/-- A feature and its elements. -/
structure Feature where
  name : String
  elements : List Element := []
deriving BEq, Inhabited

/-- Adds an element, which becomes the feature's own. -/
def Feature.add (f : Feature) (e : Element) : Feature :=
  { f with elements := f.elements ++ [{ e with feature := some f.name }] }

/-- The characters before and after the first `mark`, if there is one. -/
def splitAtFirst (mark : Char) : List Char → Option (List Char × List Char)
  | [] => none
  | c :: cs =>
    if c = mark then some ([], cs)
    else (splitAtFirst mark cs).map fun p => (c :: p.1, p.2)

/-- A variable without blanks and braces around it. -/
def bareVariable (var : String) : String :=
  let cs := trimChars var.toList
  match cs, cs.getLast? with
  | '{' :: rest, some '}' => String.ofList rest.dropLast
  | _, _ => String.ofList cs

/-- The parts of `Feature:Element`, without blanks around them. -/
def splitFeature (var : String) : Option String × String :=
  match splitAtFirst ':' var.toList with
  | some (feature, name) =>
    (some (String.ofList (trimChars feature)), String.ofList (trimChars name))
  | none => (none, trim var)

/-- A document of the specification. -/
structure Document where
  path : String
  feature : Option Feature := none
  elements : List Element := []
  constants : List Constant := []
deriving BEq, Inhabited

namespace Document

/-- The path without its directories. -/
def fileName (d : Document) : String :=
  let name := d.path.toList.reverse.takeWhile fun c => c ≠ '/' && c ≠ '\\'
  String.ofList name.reverse

/-- The elements of the feature, then the global ones. -/
def allElements (d : Document) : List Element :=
  (match d.feature with
    | some f => f.elements
    | none => []) ++ d.elements

/-- The element of a variable, among those of this document. -/
def findElement? (d : Document) (var : String) : Option Element :=
  match splitFeature (bareVariable var) with
  | (some feature, name) =>
    match d.feature with
    | some f => if f.name = feature then f.elements.find? (·.name = name) else none
    | none => none
  | (none, name) => d.allElements.find? (·.name = name)

def findConstant? (d : Document) (name : String) : Option Constant :=
  d.constants.find? (·.name = name)

end Document

/-- All documents of a run. -/
structure Spec where
  documents : List Document
deriving BEq, Inhabited

namespace Spec

def document? (s : Spec) (path : String) : Option Document :=
  s.documents.find? (·.path = path)

/-- The element of a variable, seen from a document. -/
def findElement? (s : Spec) (var : String) (here : Option Document) : Option Element :=
  let name := bareVariable var
  match splitFeature name with
  | (some _, _) => s.documents.findSome? (·.findElement? name)
  | (none, _) =>
    match here.bind (·.findElement? name) with
    | some e => some e
    | none => s.documents.findSome? fun d => d.elements.find? (·.name = name)

/-- The constant of a name, seen from a document. -/
def findConstant? (s : Spec) (name : String) (here : Option Document) : Option Constant :=
  match here.bind (·.findConstant? name) with
  | some c => some c
  | none => s.documents.findSome? (·.findConstant? name)

end Spec

end TestDesign
