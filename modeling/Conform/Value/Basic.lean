import Conform.Number.Basic
import Conform.Calendar.DateTime

/-!
# Values

The data that a schema is about: scalars, lists, tuples, sets and maps, nested to any depth, and the
columnar forms in which tables of data arrive. A map keeps its entries in the order in which they
came, and any hashable value may be a key, so a map is a list of pairs. Keys are compared by
`Value.sameKey`, under which a truth value is the number 0 or 1 and an integer equals the
floating-point number of the same size.

`Value.absent` marks a declared key that the data does not hold. It is different from
`Value.null`, which is a null that was observed.
-/

namespace Conform

/-- **The unit of typed points in time**: how finely a column or an array counts them.
`asWritten` takes the unit from the text of the point. -/
inductive MomentUnit where
  | asWritten
  | day
  | second
  | nanosecond
deriving DecidableEq, Repr

/-- **The element type of columnar data.** The first types have elements of one sort, and how these
are converted is said in `Value.element`. Every other type counts as `object`: what its elements
hold is what their conversion gives, so that a record is an `object` that holds a tuple, and a
number wider than double precision one that holds a `Value.foreign`. -/
inductive ElementType where
  | integer
  | double
  | single
  | truth
  | text
  | object
  | moment (unit : MomentUnit)
deriving DecidableEq, Repr

/-- **A value.** The last seven constructors are columnar data, its scalars and what comes out of
it, and they only ever come in from outside. -/
inductive Value where
  | null
  | bool (b : Bool)
  | number (n : Number)
  | text (s : String)
  | bytes (octets : List UInt8)
  | date (d : Date)
  | dateTime (t : DateTime)
  /-- The mark of a declared key that is missing. -/
  | absent
  | list (items : List Value)
  | tuple (items : List Value)
  /-- A set, its items in the order in which they came. Only documents hold sets. -/
  | set (items : List Value)
  | map (entries : List (Value × Value))
  /-- The missing point in time. -/
  | noMoment
  | timestamp (t : DateTime)
  | scalar (type : ElementType) (value : Value)
  /-- An array, its dimensions being nested lists; without a list it has no dimension. -/
  | array (type : ElementType) (value : Value)
  /-- A column without a name. -/
  | series (type : ElementType) (items : List Value)
  /-- Named columns of equal length. -/
  | table (columns : List (String × ElementType × List Value))
  /-- An item of a column that has no plain form, such as a span of time, a period, an interval or
  the missing item of an extension type; of which type it is. -/
  | foreign (typeName : String)
deriving Inhabited

namespace Value

/-- An integer. -/
abbrev int (n : Int) : Value := .number (.int n)

/-- A floating-point number. -/
abbrev float (x : Binary64) : Value := .number (.float x)

/-- The number that a value counts as in a comparison of keys. -/
def asNumber? : Value → Option Number
  | .bool b => some (.int (if b then 1 else 0))
  | .number n => some n
  | _ => none

/-- Whether two date-times are equal: both without an offset and alike, or both with one and
naming the same point in time. -/
def sameDateTime (t u : DateTime) : Bool :=
  t.offset.isSome == u.offset.isSome && t.count == u.count

mutual
/-- **Equality of keys.** -/
def sameKey : Value → Value → Bool
  | .null, .null => true
  | .bool a, b => match b.asNumber? with
    | some n => Number.same (.int (if a then 1 else 0)) n
    | none => false
  | .number m, b => match b.asNumber? with
    | some n => m.alike n
    | none => false
  | .text s, .text t => s == t
  | .bytes s, .bytes t => s == t
  | .date d, .date e => d == e
  | .dateTime t, .dateTime u => sameDateTime t u
  | .absent, .absent => true
  | .tuple xs, .tuple ys => sameKeys xs ys
  | _, _ => false

/-- Equality of tuples of keys. -/
def sameKeys : List Value → List Value → Bool
  | [], [] => true
  | x :: xs, y :: ys => sameKey x y && sameKeys xs ys
  | _, _ => false
end

/-- What stands at a key. -/
def entry? {α : Type} (entries : List (Value × α)) (key : Value) : Option α :=
  (entries.find? fun e => e.1.sameKey key).map (·.2)

/-- Sets what stands at a key. A key that is there keeps its place and its spelling; a new one
comes last. -/
def setEntry {α : Type} (entries : List (Value × α)) (key : Value) (value : α) :
    List (Value × α) :=
  if entries.any fun e => e.1.sameKey key then
    entries.map fun e => if e.1.sameKey key then (e.1, value) else e
  else entries ++ [(key, value)]

/-- A map from pairs in order, a repeated key taking the last value. -/
def ofEntries (entries : List (Value × Value)) : Value :=
  .map (entries.foldl (fun es e => setEntry es e.1 e.2) [])

/-- The name of a value's type, as messages give it. -/
def typeName : Value → String
  | .null => "NoneType"
  | .bool _ => "bool"
  | .number (.int _) => "int"
  | .number (.float _) => "float"
  | .text _ => "str"
  | .bytes _ => "bytes"
  | .date _ => "date"
  | .dateTime _ => "datetime"
  | .absent => "_Absent"
  | .list _ => "list"
  | .tuple _ => "tuple"
  | .set _ => "set"
  | .map _ => "dict"
  | .noMoment => "NaTType"
  | .timestamp _ => "Timestamp"
  | .scalar .. => "generic"
  | .array .. => "ndarray"
  | .series .. => "Series"
  | .table _ => "DataFrame"
  | .foreign name => name

/-- **The kind of a value** in the vocabulary of schemas; a value that no node describes is
called by the name of its type. -/
def kindName : Value → String
  | .null => "null"
  | .bool _ => "boolean"
  | .number _ => "number"
  | .text _ => "string"
  | .list _ => "array"
  | .map _ => "object"
  | .date _ | .dateTime _ | .timestamp _ | .noMoment => "date"
  | v => v.typeName

/-- Whether a value is a number. -/
def isNumber : Value → Bool
  | .number _ => true
  | _ => false

/-- Whether a value is a date or a point in time. -/
def isDateLike : Value → Bool
  | .date _ | .dateTime _ | .timestamp _ | .noMoment => true
  | _ => false

end Value

end Conform
