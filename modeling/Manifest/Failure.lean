import Manifest.Field
import Manifest.Json.Refusal
import Manifest.Kind

/-!
# Failures

Why a manifest cannot be loaded at all.
-/

namespace Manifest

open Json (Value)

/-- Why a document is not a manifest of a JSON format. -/
inductive Malformation where
  /-- It is not JSON. -/
  | notJson (fault : Json.Fault)
  /-- It denotes something other than an object. -/
  | notObject (found : Value)

namespace Malformation

/-- How a message names the type of a value. -/
def typeName : Value → String
  | .null => "null"
  | .bool _ => "a boolean"
  | .number _ => "a number"
  | .string _ => "a string"
  | .array _ => "an array"
  | .object _ => "an object"

/-- What a malformation says. -/
def message : Malformation → String
  | notJson fault => fault.message
  | notObject found => "expected a JSON object at the top level, got " ++ typeName found

end Malformation

/-- Why a manifest cannot be loaded. -/
inductive Failure where
  /-- The declared kind is none of the five. -/
  | unknownKind (declared : String)
  /-- The document does not have the form that its kind asks for. -/
  | malformed (kind : Kind) (cause : Malformation)
  /-- The package is for a target that is not supported. -/
  | unsupportedPlatform (target : String)
  /-- Strict validation ended at a field. -/
  | field (cause : FieldError)

/-- What a failure says. -/
def Failure.message : Failure → String
  | unknownKind declared => "unknown manifest kind: '" ++ declared ++ "'"
  | malformed kind cause => "malformed " ++ kind.name ++ " document: " ++ cause.message
  | unsupportedPlatform target =>
    "unsupported platform: Particle targets are not supported ('" ++ target ++ "')"
  | field cause => "manifest validation failed: " ++ cause.message

end Manifest
