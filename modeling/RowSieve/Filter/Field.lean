/-
Fields that requests may filter by: a key for clients, a path to a column, a kind of value, the
operators allowed, and labels for stored codes.
-/
import RowSieve.Filter.Operator
import RowSieve.Filter.Path

namespace RowSieve.Filter

/-- The kind of value a field holds. -/
inductive Kind where
  | text
  | number
  | date
  | datetime
  | boolean
  | choice
deriving DecidableEq

namespace Kind

def all : List Kind := [text, number, date, datetime, boolean, choice]

def name : Kind → String
  | text => "string"
  | number => "number"
  | date => "date"
  | datetime => "datetime"
  | boolean => "boolean"
  | choice => "enum"

/-- Whether values of the kind have an order that requests can use. -/
def isOrdered : Kind → Bool
  | number | date | datetime => true
  | text | boolean | choice => false

/-- Whether an operator makes sense for the kind. -/
def supports (k : Kind) (op : Operator) : Bool :=
  match op.family with
  | .nullability | .equality => true
  | .membership => k != boolean
  | .pattern => k == text
  | .ordering => k.isOrdered

/-- The operators that make sense for the kind, in their order. -/
def operators (k : Kind) : List Operator := Operator.all.filter k.supports

end Kind

/-- Codes as stored and the labels that clients see instead, in the order of declaration. -/
structure Labels where
  entries : List (String × String)
deriving DecidableEq

namespace Labels

/-- The code of a label; the first entry wins. -/
def code? (m : Labels) (label : String) : Option String :=
  (m.entries.find? (·.2 == label)).map (·.1)

/-- The label of a code; the first entry wins. -/
def label? (m : Labels) (code : String) : Option String :=
  (m.entries.find? (·.1 == code)).map (·.2)

def labels (m : Labels) : List String := m.entries.map (·.2)

def isEmpty (m : Labels) : Bool := m.entries.isEmpty

end Labels

/-- A field that requests may filter by. -/
structure Field where
  key : String
  columnPath : String
  kind : Kind
  allows : Operator → Bool
  labels? : Option Labels

namespace Field

/-- A field with all operators of its kind; its path is its key. -/
def ofKind (key : String) (kind : Kind) : Field := ⟨key, key, kind, kind.supports, none⟩

/-- The field with another path. -/
def withPath (f : Field) (path : String) : Field := { f with columnPath := path }

/-- The field with these operators only. -/
def only (f : Field) (ops : List Operator) : Field := { f with allows := (ops.contains ·) }

/-- The field with labels for stored codes. -/
def labelled (f : Field) (m : Labels) : Field := { f with labels? := some m }

/-- The relations and the column that the field tests. -/
def path (f : Field) : Path := .ofText f.columnPath

/-- The operators allowed, in their order. -/
def operators (f : Field) : List Operator := Operator.all.filter f.allows

def operatorTokens (f : Field) : List String := f.operators.map Operator.token

end Field

end RowSieve.Filter
