import FanControl.Decimal.Text
import FanControl.Json.Value
import FanControl.Text.Quoted

/-!
# Why a body is refused

A body is refused either because the text is no JSON, and then it is enough to know whether it
merely ended too early, or because the JSON has another shape than the reader wants. Only the
second kind has a wording of its own.
-/

namespace FanControl.Json

open FloatingPoint

/-- Why a text is no JSON. -/
inductive Fault where
  /-- The text ended too early. -/
  | ended
  /-- The text cannot be continued to JSON. -/
  | malformed
deriving DecidableEq, Repr

/-- How a value differs from what a reader wants. -/
inductive Mismatch where
  /-- A value of another kind. -/
  | wrongType (found : Plain) (expected : String)
  /-- A value of the right kind that is not among those wanted. -/
  | wrongValue (found : Plain) (expected : String)
  /-- An array of the wrong number of fields. -/
  | wrongLength (found : Nat) (expected : String)
  /-- A required field is absent. -/
  | missingField (key : String)
  /-- A field is given twice. -/
  | duplicateField (key : String)
  /-- A name that is none of the alternatives. -/
  | unknownVariant (found : String) (known : List String)
  /-- None of the alternatives of a value accepts what is there. -/
  | noAlternative (name : String)
deriving DecidableEq, Repr

/-- Why a body is refused. -/
inductive Error where
  | fault (f : Fault)
  | mismatch (m : Mismatch)
deriving DecidableEq, Repr

/-- A found number in words. -/
def Number.describe : Number → String
  | .integer i => "integer `" ++ toString i ++ "`"
  | .double x => "floating point `" ++ write (Decimal.Style.double.writeFinite? x) ++ "`"
  | .single x =>
    "floating point `" ++ write (Decimal.Style.single.writeFinite? x.decode) ++ "`"
where
  /-- The text of a number that may have none. -/
  write (text : Option (List Char)) : String := String.ofList (text.getD [])

/-- What was found, in words. -/
def Plain.describe : Plain → String
  | .null => "null"
  | .boolean b => "boolean `" ++ (if b then "true" else "false") ++ "`"
  | .number n => n.describe
  | .string s => "string " ++ Text.quoted s
  | .sequence => "sequence"
  | .map => "map"

/-- Names between backquotes, as a choice: two are joined by "or", more are listed. -/
def oneOf (known : List String) : String :=
  let names := known.map fun name => "`" ++ name ++ "`"
  match names with
  | [] => "nothing"
  | [a] => a
  | [a, b] => a ++ " or " ++ b
  | more => "one of " ++ String.intercalate ", " more

/-- The wording of a mismatch. -/
def Mismatch.message : Mismatch → String
  | .wrongType found expected =>
    "invalid type: " ++ found.describe ++ ", expected " ++ expected
  | .wrongValue found expected =>
    "invalid value: " ++ found.describe ++ ", expected " ++ expected
  | .wrongLength found expected =>
    "invalid length " ++ toString found ++ ", expected " ++ expected
  | .missingField key => "missing field `" ++ key ++ "`"
  | .duplicateField key => "duplicate field `" ++ key ++ "`"
  | .unknownVariant found known =>
    "unknown variant `" ++ found ++ "`, expected " ++ oneOf known
  | .noAlternative name => "data did not match any variant of untagged enum " ++ name

end FanControl.Json
