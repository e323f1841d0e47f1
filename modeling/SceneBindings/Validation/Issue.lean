/-!
What can be wrong with a stored document, and where.
-/

namespace SceneBindings

/-- Rules on a value that has the right type. -/
inductive Rule where
  | separatorInName (name : String)
  | componentWithoutType
  | malformedPath (path : String)
  | unknownVersion
  | blankSetting
  deriving DecidableEq, Repr

def Rule.message : Rule → String
  | separatorInName name => "Node name '" ++ name ++ "' must not contain '/'"
  | componentWithoutType => "Component mapping is missing 'type'"
  | malformedPath path => "Malformed canonical path '" ++ path ++ "'"
  | unknownVersion => "Unsupported registry schema version"
  | blankSetting => "must not be empty"

inductive Issue.Cause where
  | missing
  | notString
  | tooShort
  | notBool
  | unreadableBool
  | notFloat
  | unreadableFloat
  | negative
  | notInt
  | unreadableInt
  | oversizedInt
  | fractionalInt
  | infiniteInt
  | notList
  | notRecord
  | notObject
  | notInEnum
  | broken (rule : Rule)
  deriving DecidableEq, Repr

/-- A fault at a place of a document, the place given by field names and list positions. -/
structure Issue where
  place : List String
  cause : Issue.Cause
  deriving DecidableEq, Repr

def Issue.Cause.code : Issue.Cause → String
  | missing => "missing"
  | notString => "string_type"
  | tooShort => "string_too_short"
  | notBool => "bool_type"
  | unreadableBool => "bool_parsing"
  | notFloat => "float_type"
  | unreadableFloat => "float_parsing"
  | negative => "greater_than_equal"
  | notInt => "int_type"
  | unreadableInt => "int_parsing"
  | oversizedInt => "int_parsing_size"
  | fractionalInt => "int_from_float"
  | infiniteInt => "finite_number"
  | notList => "list_type"
  | notRecord => "model_type"
  | notObject => "dict_type"
  | notInEnum => "enum"
  | broken _ => "value_error"

def Issue.message? (i : Issue) : Option String :=
  match i.cause with
  | .broken rule => some ("Value error, " ++ rule.message)
  | _ => none

end SceneBindings
