/-
From the value of a request to the operand of a comparison: the shape has to suit the operator,
and every scalar has to be of the field's kind. Errors come in that order, those of scalars in the
order of the list.
-/
import RowSieve.Calendar.Reading
import RowSieve.Calendar.Storage
import RowSieve.Filter.Error
import RowSieve.Filter.Field
import RowSieve.Filter.Request
import RowSieve.Number.Decimal
import RowSieve.Number.Integer
import RowSieve.Sql.Cell

namespace RowSieve.Filter

open RowSieve.Sql (Datum)

/-- What a column is compared with. -/
inductive Operand where
  | none
  | one (d : Datum)
  | many (ds : List Datum)
deriving DecidableEq

/-- All values of an operand. -/
def Operand.values : Operand → List Datum
  | none => []
  | one d => [d]
  | many ds => ds

namespace Scalar

/-- The number of a text: an integer of 64 bits, or else a finite binary number. -/
def numberOfText? (s : String) : Option Datum :=
  let s := Text.trim s.toList
  match Number.readInteger .signed64 s with
  | .ok n => some (.integer n)
  | .error _ => ((Binary64.read? s).filter Binary64.isFinite).map .real

/-- The scalar as a number. -/
def toNumber? : Scalar → Option Datum
  | number n => match n.toInt64? with
    | some n => some (.integer n)
    | none => (some n.toBinary64 |>.filter Binary64.isFinite).map .real
  | text s => numberOfText? s
  | bool _ => none

/-- The scalar as a truth value. -/
def toBool? : Scalar → Option Bool
  | bool b => some b
  | number n => match n.toInt64? with
    | some 1 => some true
    | some 0 => some false
    | _ => none
  | text "true" | text "1" => some true
  | text "false" | text "0" => some false
  | text _ => none

/-- The stored form of the day that a text names. -/
def toDay? : Scalar → Option Datum
  | text s => (Day.read? s).map (.text ·.stored)
  | _ => none

/-- The stored form of the instant that a text names. -/
def toInstant? : Scalar → Option Datum
  | text s => (Instant.read? s).map (.text ·.stored)
  | _ => none

end Scalar

namespace Field

/-- The scalar as a value of the field's kind. -/
def datum (f : Field) (s : Scalar) : Except Error Datum :=
  let valid (reason : Reason) : Option Datum → Except Error Datum
    | some d => .ok d
    | none => .error (.invalidValue f.key s.asText reason)
  match f.kind with
  | .text => .ok (.text s.asText)
  | .number => valid .notNumber s.toNumber?
  | .date => valid .notDate s.toDay?
  | .datetime => valid .notDatetime s.toInstant?
  | .boolean => valid .notBoolean (s.toBool?.map .bool)
  | .choice => match f.labels? with
    | none => .error (.invalidValue f.key s.asText .noLabels)
    | some m => match m.code? s.asText with
      | some code => .ok (.text code)
      | none => .error (.unknownLabel f.key s.asText m.labels)

/-- The scalars as values of the field's kind; the first that is none decides the error. -/
def data (f : Field) : List Scalar → Except Error (List Datum)
  | [] => .ok []
  | s :: rest => do
    let d ← f.datum s
    let ds ← f.data rest
    return d :: ds

/-- The operand that a value gives an operator. -/
def operand (f : Field) (op : Operator) (value? : Option RequestValue) : Except Error Operand :=
  let refuse (shown : String) (reason : Reason) : Except Error Operand :=
    .error (.invalidValue f.key shown reason)
  match op.arity, value? with
  | .none, none => .ok .none
  | .none, some v => refuse v.shown (.takesNoValue op)
  | _, none => refuse "" (.needsValue op)
  | .list, some (.scalar s) => refuse s.asText (.needsList op)
  | .scalar, some (.list items) => refuse (RequestValue.list items).shown (.needsSingle op)
  | _, some (.list []) => refuse "[]" .emptyList
  | _, some (.list (s :: rest)) => (f.data (s :: rest)).map .many
  | _, some (.scalar s) => (f.datum s).map .one

end Field

end RowSieve.Filter
