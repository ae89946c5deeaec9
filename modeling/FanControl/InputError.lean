/-!
# Rejected input

What an operator can get wrong before anything is sent to the device, with the wording that is
shown.
-/

namespace FanControl

/-- Why an action is refused before anything is sent. -/
inductive InputError where
  /-- Not exactly one firmware image is selected. -/
  | noFileSelected
  | emptyField (name : String)
  | invalidSlotId (id : Int64)
  | noModeSelected
  | updateInProgress
deriving DecidableEq, Repr

/-- What is shown. -/
def InputError.message : InputError → String
  | noFileSelected => "Selecciona un archivo primero"
  | emptyField name => name ++ " no puede estar vacío"
  | invalidSlotId id => "invalid schedule slot id " ++ toString id.toInt ++ " (expected 1-3)"
  | noModeSelected => "Selecciona un modo primero."
  | updateInProgress => "a firmware update is already in progress"

end FanControl
