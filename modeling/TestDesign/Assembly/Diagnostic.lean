import TestDesign.Data.Error
import TestDesign.Sentence.Recognition

/-!
# TestDesign.Assembly.Diagnostic

What is reported about a run. Errors are fatal for a test case or say that an element cannot be
analyzed; after a recoverable diagnostic the test case goes on with a substitute.
-/

namespace TestDesign

/-- Something to report, with its place. -/
inductive Diagnostic where
  /-- The properties of an element are inconsistent. -/
  | configuration (element : String) (source : DataError) (location : Location)
  /-- A data case has no value. -/
  | contract (element : String) (source : DataError) (location : Location)
  | unresolvedElement (var : String) (location : Location)
  | unresolvedConstant (name : String) (location : Location)
  /-- A reference to a property other than the value. -/
  | unsupportedProperty (reference : String) (location : Location)
  /-- An entity that does not stand where it says, or a sentence that is not recognized. -/
  | malformedReference (text : String) (location : Location)
deriving DecidableEq

namespace Diagnostic

def location : Diagnostic → Location
  | configuration _ _ l | contract _ _ l | unresolvedElement _ l | unresolvedConstant _ l |
    unsupportedProperty _ l | malformedReference _ l => l

def isRecoverable : Diagnostic → Bool
  | unresolvedElement .. | unresolvedConstant .. | unsupportedProperty .. => true
  | configuration .. | contract .. | malformedReference .. => false

/-- A name in braces. -/
def braced (name : String) : String := "\x7b" ++ name ++ "\x7d"

def message : Diagnostic → String
  | configuration element source l =>
    "Invalid configuration of UI element " ++ braced element ++ " at " ++ l.text ++ ": " ++
      source.message
  | contract element source l =>
    "Could not generate a value for UI element " ++ braced element ++ " at " ++ l.text ++ ": " ++
      source.message
  | unresolvedElement var l => "Could not find UI element " ++ braced var ++ " at " ++ l.text
  | unresolvedConstant name l => "Could not find constant [" ++ name ++ "] at " ++ l.text
  | unsupportedProperty reference l =>
    "Could not retrieve a value from " ++ reference ++ " at " ++ l.text ++ ". Not supported yet."
  | malformedReference text l => "Malformed reference '" ++ text ++ "' at " ++ l.text

/-- A refused sentence, as a diagnostic. -/
def ofRecognition : RecognitionError → Diagnostic
  | .unclosed opening _ l => malformedReference opening.toString l
  | .emptyReference text l => malformedReference text l
  | .missingKeyword content l => malformedReference content l

end Diagnostic

end TestDesign
