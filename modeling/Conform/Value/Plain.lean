import Conform.Value.Display

/-!
# Working copies

Validation works on a copy of the caller's data in which only plain containers are left: tuples,
arrays and columns are lists, a table is a list of its rows, each a map from column names, typed
scalars are plain scalars, timestamps are date-times, and a missing point in time is null.
`Value.plain` makes this copy.

The elements of columnar data are converted to the element type (`Value.element`). This covers
signed and unsigned integers, floating-point numbers of single and double precision, truth values,
texts, points in time and objects. What an element of any other type is converted to stands in the
data already, as an element of the type of objects: the fields of a record as a tuple, and a number
wider than double precision, a span of time, a period, an interval or a missing item as a
`Value.foreign`. The copy has it as it is, so a working copy may hold foreign values.

An array without dimensions is the one value that has no copy: it has no elements to list.
-/

namespace Conform

/-- **The failure to copy**: a scalar of this type stands where elements are to be listed. -/
structure NotIterable where
  typeName : String
deriving Repr, DecidableEq

/-- The wording of the failure. -/
def NotIterable.message (e : NotIterable) : String :=
  "'" ++ e.typeName ++ "' object is not iterable"

namespace Value

/-- The date-time that a text spells, a final `Z` standing for no offset from universal time. -/
def dateTimeOfText? (s : String) : Option DateTime :=
  let cs := s.toList
  if cs.getLast? = some 'Z' then Iso.readDateTime (cs.dropLast ++ "+00:00".toList)
  else Iso.readDateTime cs

/-- Nanoseconds since the start of 1970. -/
def nanosecondCount (t : DateTime) : Int :=
  (t.count - (719163 : Int) * dayLength) * 1000

/-- A point in time given as text, in the form that an element of the unit has. -/
def momentOfText (unit : MomentUnit) (s : String) : Value :=
  match dateTimeOfText? s with
  | none => .null
  | some t =>
    match unit with
    | .day => .date t.date
    | .second => .dateTime ⟨t.date, t.time, none⟩
    | .nanosecond => .int (nanosecondCount t)
    | .asWritten =>
      if s.length ≤ 10 then .date t.date else .dateTime ⟨t.date, t.time, none⟩

/-- A number of an integer type: a fraction is cut off. -/
def integerElement : Value → Value
  | .bool b => .int (if b then 1 else 0)
  | .number (.float x) => (x.truncate?.map Value.int).getD (.float x)
  | v => v

/-- A number of a floating-point type; null is the datum that is no number. -/
def doubleElement : Value → Value
  | .bool b => .float (.ofInt (if b then 1 else 0))
  | .number (.int n) => .float (.ofInt n)
  | .number (.float (.notANumber _)) => .float .nan
  | .null => .float .nan
  | v => v

/-- A truth value: a number is true unless it is zero, a text unless it is empty. -/
def truthElement : Value → Value
  | .number n => .bool !(n.same (.int 0))
  | .text s => .bool (s != "")
  | .null => .bool false
  | v => v

/-- **An element of columnar data**, converted to the element type. -/
def element : ElementType → Value → Value
  | .integer, v => integerElement v
  | .double, v => doubleElement v
  | .single, v =>
    match doubleElement v with
    | .number (.float x) => .float x.toSingle
    | v => v
  | .truth, v => truthElement v
  | .text, v => .text v.plainText
  | .object, v => v
  | .moment unit, .text s => momentOfText unit s
  | .moment _, _ => .null

/-- A point in time of a column, to the microsecond. -/
def columnElement (type : ElementType) (v : Value) : Value :=
  match type, v with
  | .moment _, .text s =>
    match dateTimeOfText? s with
    | some t => .dateTime t
    | none => .null
  | type, v => element type v

/-- The characters of a text, each as a text. -/
def charactersOf (s : String) : List Value := s.toList.map fun c => .text c.toString

/-- An item of a table's column of objects: there the datum that is no number means that the item
is missing. -/
def tableItem (type : ElementType) (v : Value) : Value :=
  match type, v with
  | .object, .number (.float (.notANumber _)) => .null
  | _, v => v

/-- The rows of a table, from its columns of plain values: as many as the first column has
items. -/
def rows (columns : List (String × List Value)) : List Value :=
  match columns with
  | [] => []
  | (_, first) :: _ =>
    (List.range first.length).map fun i =>
      ofEntries (columns.map fun (name, items) => (.text name, (items[i]?).getD .null))

mutual
/-- **The working copy of a value.** -/
def plain : Value → Except NotIterable Value
  | .list items => return .list (← plainItems items)
  | .tuple items => return .list (← plainItems items)
  | .map entries => return .map (← plainEntries entries)
  | .noMoment => return .null
  | .timestamp t => return .dateTime t
  | .scalar type v => return element type v
  | .array type (.list items) => return .list (← plainElements type items)
  | .array type (.tuple items) => return .list (← plainElements type items)
  | .array .object (.map entries) => return .list (← plainKeys entries)
  | .array type v =>
    match element type v with
    | .text s => return .list (charactersOf s)
    | v => throw ⟨v.typeName⟩
  | .series type items => return .list (← plainColumn type items)
  | .table columns => return .list (rows (← plainColumns columns))
  | v => return v

/-- The working copies of a list of values. -/
def plainItems : List Value → Except NotIterable (List Value)
  | [] => return []
  | v :: vs => return (← plain v) :: (← plainItems vs)

/-- The working copies of the values of a map; its keys stay. -/
def plainEntries : List (Value × Value) → Except NotIterable (List (Value × Value))
  | [] => return []
  | (k, v) :: es => return (k, ← plain v) :: (← plainEntries es)

/-- The working copies of the keys of a map. -/
def plainKeys : List (Value × Value) → Except NotIterable (List Value)
  | [] => return []
  | (k, _) :: es => return (← plain k) :: (← plainKeys es)

/-- The elements of an array, one dimension after another. -/
def plainElements (type : ElementType) : List Value → Except NotIterable (List Value)
  | [] => return []
  | .list items :: vs =>
    return .list (← plainElements type items) :: (← plainElements type vs)
  | v :: vs => do
    let first ← if type = .object then plain v else pure (element type v)
    return first :: (← plainElements type vs)

/-- The items of a column. -/
def plainColumn (type : ElementType) : List Value → Except NotIterable (List Value)
  | [] => return []
  | v :: vs => do
    let first ← if type = .object then plain v else pure (columnElement type v)
    return first :: (← plainColumn type vs)

/-- The items of each column of a table. -/
def plainColumns :
    List (String × ElementType × List Value) → Except NotIterable (List (String × List Value))
  | [] => return []
  | (name, type, items) :: cs =>
    return (name, (← plainColumn type items).map (tableItem type)) :: (← plainColumns cs)
end

end Value

end Conform
