import Upsert.Decimal.Binary
import Upsert.Text.Quoted

/-!
# Column types, cells and frames

A frame is a list of named columns of equal height. A column has a column type and one cell per
row. Column types are flat (integers of each width, floats, booleans, texts, temporal types and
so on) or carry parameters: a decimal type its precision and scale, a list type the type of its
items, and a struct type its named fields.

A column type is written four ways, each for its own reader:

* `name`, the name of its kind (`Decimal`, `List`);
* `valueText`, the full form with parameters (`Decimal(precision=38, scale=0)`);
* `debugText`, the form in messages about building a column (`Decimal(38, 0)`);
* `shortText`, the short form over the cells of a printed column (`decimal[38,0]`).
-/

namespace Upsert

/-- The column types of a frame. -/
inductive DType where
  | int8 | int16 | int32 | int64 | int128
  | uint8 | uint16 | uint32 | uint64 | uint128
  | float32 | float64
  | boolean | string | binary
  | date | datetime | duration | time
  | null | object | categorical
  | decimal (precision scale : Nat)
  | list (inner : DType)
  | struct (fields : List (Text × DType))
deriving BEq, Inhabited

namespace DType

/-- The decimal type a bare `Decimal` stands for. -/
def decimalDefault : DType := .decimal 38 0

/-- Every column type that a bare name stands for; `Utf8` is a second name of `String`. -/
def names : List (String × DType) :=
  [("Int8", .int8), ("Int16", .int16), ("Int32", .int32), ("Int64", .int64), ("Int128", .int128),
   ("UInt8", .uint8), ("UInt16", .uint16), ("UInt32", .uint32), ("UInt64", .uint64),
   ("UInt128", .uint128), ("Float32", .float32), ("Float64", .float64),
   ("Boolean", .boolean), ("String", .string), ("Utf8", .string), ("Binary", .binary),
   ("Date", .date), ("Datetime", .datetime), ("Duration", .duration), ("Time", .time),
   ("Null", .null), ("Object", .object), ("Categorical", .categorical),
   ("Decimal", decimalDefault)]

/-- The column type of a name. -/
def ofName? (t : Text) : Option DType :=
  (names.find? fun p => Text.ofString p.1 = t).map (·.2)

/-- The name of the kind of a column type. -/
def name : DType → Text
  | .int8 => "Int8" | .int16 => "Int16" | .int32 => "Int32" | .int64 => "Int64"
  | .int128 => "Int128"
  | .uint8 => "UInt8" | .uint16 => "UInt16" | .uint32 => "UInt32" | .uint64 => "UInt64"
  | .uint128 => "UInt128"
  | .float32 => "Float32" | .float64 => "Float64"
  | .boolean => "Boolean" | .string => "String" | .binary => "Binary"
  | .date => "Date" | .datetime => "Datetime" | .duration => "Duration" | .time => "Time"
  | .null => "Null" | .object => "Object" | .categorical => "Categorical"
  | .decimal _ _ => "Decimal"
  | .list _ => "List"
  | .struct _ => "Struct"

/-- The short name of a flat column type over a printed column. -/
def shortName : DType → Text
  | .int8 => "i8" | .int16 => "i16" | .int32 => "i32" | .int64 => "i64" | .int128 => "i128"
  | .uint8 => "u8" | .uint16 => "u16" | .uint32 => "u32" | .uint64 => "u64"
  | .uint128 => "u128"
  | .float32 => "f32" | .float64 => "f64"
  | .boolean => "bool" | .string => "str" | .binary => "binary"
  | .date => "date" | .datetime => "datetime[μs]" | .duration => "duration[μs]"
  | .time => "time"
  | .null => "null" | .object => "object" | .categorical => "cat"
  | .decimal p s => "decimal[" ++ Text.ofNat p ++ "," ++ Text.ofNat s ++ "]"
  | .list _ => "list"
  | .struct fs => "struct[" ++ Text.ofNat fs.length ++ "]"

mutual

/-- The full form of a column type, parameters spelled out. -/
def valueText : DType → Text
  | .datetime => "Datetime(time_unit='us', time_zone=None)"
  | .duration => "Duration(time_unit='us')"
  | .decimal p s => "Decimal(precision=" ++ Text.ofNat p ++ ", scale=" ++ Text.ofNat s ++ ")"
  | .list d => "List(" ++ valueText d ++ ")"
  | .struct fs => "Struct(\x7b" ++ Text.join ", " (fieldValueTexts fs) ++ "\x7d)"
  | d => d.name

/-- The fields of a struct type as `'name': type`. -/
def fieldValueTexts : List (Text × DType) → List Text
  | [] => []
  | (n, d) :: rest => (Text.quote n ++ ": " ++ valueText d) :: fieldValueTexts rest

end

mutual

/-- The form of a column type in messages about building a column. -/
def debugText : DType → Text
  | .datetime => "Datetime(Microseconds, None)"
  | .duration => "Duration(Microseconds)"
  | .decimal p s => "Decimal(" ++ Text.ofNat p ++ ", " ++ Text.ofNat s ++ ")"
  | .list d => "List(" ++ debugText d ++ ")"
  | .struct fs => "Struct([" ++ Text.join ", " (fieldDebugTexts fs) ++ "])"
  | d => d.name

/-- The fields of a struct type as `Field { name: "a", dtype: Int64 }`. -/
def fieldDebugTexts : List (Text × DType) → List Text
  | [] => []
  | (n, d) :: rest =>
    ("Field \x7b name: \"" ++ n ++ "\", dtype: " ++ debugText d ++ " \x7d") :: fieldDebugTexts rest

end

/-- The short form of a column type over a printed column. -/
def shortText : DType → Text
  | .list d => "list[" ++ shortText d ++ "]"
  | d => d.shortName

/-- Whether a column type is the boolean type. -/
def isBoolean : DType → Bool
  | .boolean => true
  | _ => false

/-- Whether a column type is one of the four temporal types. -/
def isTemporal : DType → Bool
  | .date | .datetime | .duration | .time => true
  | _ => false

/-- The integer types with the least and greatest value each holds. -/
def intRange? : DType → Option (Int × Int)
  | .int8 => some (-128, 127)
  | .int16 => some (-32768, 32767)
  | .int32 => some (-2147483648, 2147483647)
  | .int64 => some (-9223372036854775808, 9223372036854775807)
  | .int128 => some (-(Int.ofNat (Nat.pow 2 127)), Int.ofNat (Nat.pow 2 127) - 1)
  | .uint8 => some (0, 255)
  | .uint16 => some (0, 65535)
  | .uint32 => some (0, 4294967295)
  | .uint64 => some (0, 18446744073709551615)
  | .uint128 => some (0, Int.ofNat (Nat.pow 2 128) - 1)
  | _ => Option.none

/-- Whether a column type is one of the integer types. -/
def isInteger (d : DType) : Bool := d.intRange?.isSome

/-- Whether a column type is a float type. -/
def isFloat : DType → Bool
  | .float32 | .float64 => true
  | _ => false

/-- Whether a column type is numeric. -/
def isNumeric (d : DType) : Bool := d.isInteger || d.isFloat

/-- Whether a column type is flat and holds numbers, booleans, texts or bytes. -/
def isPrimitive (d : DType) : Bool :=
  d.isNumeric || match d with
    | .boolean | .string | .binary => true
    | _ => false

/-- Whether a bare name of this kind stands for no column type until it is given parameters:
the decimal, list and struct types, and the kinds whose type takes options. -/
def needsParameters : DType → Bool
  | .decimal _ _ | .list _ | .struct _ | .datetime | .duration | .categorical => true
  | _ => false

end DType

/-- A cell of a column: a null, a boolean, an integer, a float, a text, a decimal
`mantissa * 10^-scale`, a list of cells of one type, or named cells. -/
inductive Cell where
  | null
  | flag (b : Bool)
  | whole (i : Int)
  | real (x : Binary64)
  | text (t : Text)
  | decimal (mantissa : Int) (scale : Nat)
  | list (inner : DType) (items : List Cell)
  | record (fields : List (Text × Cell))
deriving Inhabited

/-- Whether a cell is null. -/
def Cell.isNull : Cell → Bool
  | .null => true
  | _ => false

/-- A column: its name, its type and its cells. -/
structure Column where
  name : Text
  dtype : DType
  cells : List Cell
deriving Inhabited

/-- Number of rows of a column. -/
def Column.height (c : Column) : Nat := c.cells.length

/-- Number of null rows of a column. -/
def Column.nullCount (c : Column) : Nat := c.cells.countP Cell.isNull

/-- A frame: columns of equal height. -/
structure Frame where
  columns : List Column

/-- The column names with their types, in order. -/
def Frame.schema (f : Frame) : List (Text × DType) := f.columns.map fun c => (c.name, c.dtype)

/-- The height of a frame, that of its first column. -/
def Frame.height (f : Frame) : Nat :=
  match f.columns with
  | [] => 0
  | c :: _ => c.height

end Upsert
