import TestDesign.Assembly.Diagnostic
import TestDesign.Document.Lookup

/-!
# TestDesign.Assembly.Session

What the runs on a document share: the specification, the diagnostics, and the external steps with
the values that they typed.

A diagnostic is reported once: one with the message of an earlier one is dropped.
-/

namespace TestDesign

/-- A specification, seen from one of its documents. -/
structure Scope where
  spec : Spec
  here : Option Document := none

namespace Scope

def findElement? (s : Scope) (var : String) : Option Element := s.spec.findElement? var s.here

def findConstant? (s : Scope) (name : String) : Option Constant := s.spec.findConstant? name s.here

/-- Where a step stands; in the current document when it does not say. -/
def locate (s : Scope) (step : Step) : Location :=
  match step.location.file, s.here with
  | none, some doc => { step.location with file := some doc.fileName }
  | _, _ => step.location

end Scope

/-- Adds a diagnostic, unless its message has been reported. -/
def report (ds : List Diagnostic) (d : Diagnostic) : List Diagnostic :=
  if ds.any fun x => x.message = d.message then ds else ds ++ [d]

/-- Keeps the first diagnostic of each message, apart from the messages in `seen`. -/
def firstOfEach (seen : List String) : List Diagnostic → List Diagnostic
  | [] => []
  | d :: ds =>
    if seen.contains d.message then firstOfEach seen ds
    else d :: firstOfEach (d.message :: seen) ds

/-- Something to report, as an error or as a warning. -/
inductive Note where
  | error (d : Diagnostic)
  | warning (d : Diagnostic)

/-- What an external step became, and the values typed by then, by variables. -/
structure ExternalStep where
  steps : List Step
  values : Keyed Value := .empty

/-- External steps by their sentences, and all values that they typed. -/
structure Externals where
  steps : Keyed ExternalStep := .empty
  values : Keyed Value := .empty

/-- Keeps an external step. -/
def Externals.insert (x : Externals) (content : String) (e : ExternalStep) : Externals :=
  ⟨x.steps.insert content e, x.values.union e.values⟩

/-- The diagnostics so far. -/
structure Reports where
  errors : List Diagnostic := []
  warnings : List Diagnostic := []

namespace Reports

def pushError (r : Reports) (d : Diagnostic) : Reports := { r with errors := report r.errors d }

def pushWarning (r : Reports) (d : Diagnostic) : Reports :=
  { r with warnings := report r.warnings d }

def push (r : Reports) : Note → Reports
  | .error d => r.pushError d
  | .warning d => r.pushWarning d

def pushAll (r : Reports) (ns : List Note) : Reports := ns.foldl push r

end Reports

/-- What runs leave behind. -/
structure Session extends Reports where
  externals : Externals := {}

namespace Session

def pushError (s : Session) (d : Diagnostic) : Session :=
  { s with toReports := s.toReports.pushError d }

def pushWarning (s : Session) (d : Diagnostic) : Session :=
  { s with toReports := s.toReports.pushWarning d }

def pushAll (s : Session) (ns : List Note) : Session :=
  { s with toReports := s.toReports.pushAll ns }

/-- Drops what was reported more than once in lists that were filled otherwise. -/
def dedup (s : Session) : Session :=
  { s with errors := firstOfEach [] s.errors, warnings := firstOfEach [] s.warnings }

def hasErrors (s : Session) : Bool := !s.errors.isEmpty

end Session

end TestDesign
