import AgentSpec.Graph.Basic

/-!
What can be wrong with the shape of an entity, and the words for it.
-/
namespace AgentSpec

inductive Fault
  /-- Something that must be there is missing or blank. -/
  | missing (what : String)
  | duplicateName (what name : String)
  | blankEnumValue
  | noEnumValues
  | noReferenceTarget
  | strayReference (type : FieldType)
  | unknownDisplayField (name : String) (fields : List String)
  | unknownFormField (name : String)
  | derivedFormField (name : String)
  /-- A step lacks the text that tells it what to do. -/
  | noInstruction (kind : StepKind) (what : String)
  | wideMarker (emoji : String)
  | noInterval
  | zeroInterval
  | strayInterval
  | noTurns
  | duplicateOrder (order : UInt32)
  | nothingToAdd
  /-- A fault found elsewhere, in its own words. -/
  | reported (text : String)
deriving DecidableEq, Repr

def Fault.message : Fault → String
  | .missing what => what ++ " is required"
  | .duplicateName what name => s!"duplicate {what} name '{name}'"
  | .blankEnumValue => "enum values cannot be empty"
  | .noEnumValues => "enum field must carry at least one value"
  | .noReferenceTarget => "reference field must name a target model"
  | .strayReference type =>
    "only reference fields may carry a reference target (type is " ++ type.toText ++ ")"
  | .unknownDisplayField name fields =>
    s!"display field '{name}' is not a field of the model (fields: " ++
      ", ".intercalate fields ++ ")"
  | .unknownFormField name => s!"form field '{name}' is not a field of the model"
  | .derivedFormField name => s!"new form cannot collect derived field '{name}'"
  | .noInstruction kind what => kind.toText ++ " step requires a " ++ what
  | .wideMarker emoji => s!"marker '{emoji}' must be a single glyph"
  | .noInterval => "recurring schedule requires an interval"
  | .zeroInterval => "recurring interval must be at least one hour"
  | .strayInterval => "one-time schedule cannot carry an interval"
  | .noTurns => "schedule requires at least one step"
  | .duplicateOrder order => s!"duplicate execution order {order}"
  | .nothingToAdd => "nothing to add"
  | .reported text => text

/-- A fault and the entity it was found at. -/
structure Violation where
  path : String
  fault : Fault
deriving DecidableEq, Repr

def Violation.message (v : Violation) : String :=
  v.path ++ ": " ++ v.fault.message

/-- All violations of one entity on one line. -/
def Violation.summary (vs : List Violation) : String :=
  s!"{vs.length} schema violation(s): " ++ "; ".intercalate (vs.map Violation.message)

end AgentSpec
