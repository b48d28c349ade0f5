/-
Why a filter request is refused. Every refusal names the field it is about; the one for a missing
relation names the relation, and is not the client's fault.
-/
import RowSieve.Filter.Operator

namespace RowSieve.Filter

/-- Why a value does not suit a field or an operator. -/
inductive Reason where
  | takesNoValue (op : Operator)
  | needsValue (op : Operator)
  | needsList (op : Operator)
  | needsSingle (op : Operator)
  | emptyList
  | notNumber
  | notDate
  | notDatetime
  | notBoolean
  | noLabels
  | stated (text : String)
deriving DecidableEq

def Reason.message : Reason → String
  | takesNoValue op => s!"operator '{op.token}' does not take a value"
  | needsValue op => s!"operator '{op.token}' requires a value"
  | needsList op => s!"operator '{op.token}' requires a list of values"
  | needsSingle op => s!"operator '{op.token}' requires a single value"
  | emptyList => "list must contain at least one value"
  | notNumber => "expected a number"
  | notDate => "expected a date (YYYY-MM-DD)"
  | notDatetime => "expected a datetime (YYYY-MM-DD HH:MM:SS or RFC 3339)"
  | notBoolean => "expected true, false, 1 or 0"
  | noLabels => "no enum mapping configured"
  | stated text => text

/-- Why a request is refused. -/
inductive Error where
  | unsupportedOperator (field operator : String) (allowed : List String)
  | invalidValue (field value : String) (reason : Reason)
  | unknownLabel (field value : String) (allowed : List String)
  | unknownKey (field : String)
  | unknownRelation (relation table : String)
deriving DecidableEq

namespace Error

def message : Error → String
  | unsupportedOperator field operator allowed =>
    s!"Operator '{operator}' is not supported for filter '{field}'. Valid operators: " ++
      ", ".intercalate allowed
  | invalidValue field value reason =>
    s!"Invalid value '{value}' for filter '{field}': {reason.message}"
  | unknownLabel field value allowed =>
    s!"Unknown value '{value}' for filter '{field}'. Valid values: " ++ ", ".intercalate allowed
  | unknownKey field => s!"Cannot filter by '{field}'"
  | unknownRelation relation table => s!"Relation '{relation}' is not defined on '{table}'"

/-- The field the refusal is about, or the missing relation. -/
def field : Error → String
  | unsupportedOperator field _ _ | invalidValue field _ _ | unknownLabel field _ _
  | unknownKey field => field
  | unknownRelation relation _ => relation

/-- The code that clients see. -/
def code : Error → String
  | unsupportedOperator .. => "UNSUPPORTED_FILTER_OPERATOR"
  | invalidValue .. => "INVALID_FILTER_VALUE"
  | unknownLabel .. => "UNKNOWN_ENUM_VALUE"
  | unknownKey .. => "INVALID_FILTER_KEY"
  | unknownRelation .. => "UNKNOWN_RELATION"

/-- Whether the request itself is at fault. -/
def isClientError : Error → Bool
  | unknownRelation .. => false
  | _ => true

end Error

end RowSieve.Filter
