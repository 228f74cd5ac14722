import Upsert.Calendar
import Upsert.Frame
import Upsert.Model.Basic

/-!
# Values

The builder and the settings hold values of any kind: whatever a caller stages is carried
through untouched, and configuration files bring numbers, texts, dates, arrays and tables.
`Value` is that universe. Besides the plain kinds (none, booleans, integers of any size, floats,
texts, bytes, lists, tuples, one-shot iterators, tables from text keys) it holds the domain's
own objects: filesystem paths and objects standing for one, opaque handles, members of the three
choices, column types, column-type maps, frames and their columns, and the validated table
records.

This module also gives each value its type name, its truth value, and the fields of a record as
values.
-/

namespace Upsert

/-- A value of any kind. -/
inductive Value where
  | none
  | bool (b : Bool)
  | int (i : Int)
  | float (x : Binary64)
  | str (t : Text)
  | bytes (octets : List Nat)
  | list (items : List Value)
  | tuple (items : List Value)
  /-- An iterator over the items that it has not yet produced. -/
  | iter (items : List Value)
  | dict (entries : List (Text × Value))
  /-- A filesystem path, kept in normal form. -/
  | path (p : Text)
  /-- An object that stands for the path it returns when asked. -/
  | pathLike (target : Value)
  /-- An opaque handle, known by a label. -/
  | token (label : Text)
  | member (m : Member)
  /-- A column type itself. -/
  | dtype (d : DType)
  /-- A value of a column type. -/
  | dtypeValue (d : DType)
  /-- An ordered map from column names to column types. -/
  | columnTypes (cols : List (Text × DType))
  | frame (f : Frame)
  | lazyFrame (f : Frame)
  /-- A column on its own, as iterating a frame yields. -/
  | series (c : Column)
  | schema (s : Schema)
  | section (u : UpsertSection)
  | table (t : TableConfig)
  | date (d : Date)
  | clock (c : Clock)
  | moment (t : Moment)
deriving Inhabited

namespace Value

/-- A text value from a `String`. -/
def ofString (s : String) : Value := .str (Text.ofString s)

/-- The name of a value's type. -/
def typeName : Value → Text
  | .none => "NoneType"
  | .bool _ => "bool"
  | .int _ => "int"
  | .float _ => "float"
  | .str _ => "str"
  | .bytes _ => "bytes"
  | .list _ => "list"
  | .tuple _ => "tuple"
  | .iter _ => "list_iterator"
  | .dict _ => "dict"
  | .path _ => "PosixPath"
  | .pathLike _ => "PathLikeObject"
  | .token _ => "Opaque"
  | .member m => m.choice.name
  | .dtype _ => "DataTypeClass"
  | .dtypeValue d => d.name
  | .columnTypes _ => "Schema"
  | .frame _ => "DataFrame"
  | .lazyFrame _ => "LazyFrame"
  | .series _ => "Series"
  | .schema _ => RecordKind.schema.title
  | .section _ => RecordKind.upsertSection.title
  | .table _ => RecordKind.tableConfig.title
  | .date _ => "date"
  | .clock _ => "time"
  | .moment _ => "datetime"

/-- The type name qualified by its module where the type is not built in. -/
def qualifiedTypeName : Value → Text
  | .date _ => "datetime.date"
  | .clock _ => "datetime.time"
  | .moment _ => "datetime.datetime"
  | v => v.typeName

/-- The truth value: false for none, false, zeros, and empty texts, bytes and collections.
Frames, lazy frames and columns have none of their own (see `Value.truth`); they count as true
here. -/
def truthy : Value → Bool
  | .none => false
  | .bool b => b
  | .int i => i ≠ 0
  | .float x => x != 0.0
  | .str t => !t.isEmpty
  | .bytes b => !b.isEmpty
  | .list xs | .tuple xs => !xs.isEmpty
  | .dict kvs => !kvs.isEmpty
  | .columnTypes cols => !cols.isEmpty
  | _ => true

/-- A column type map as a table of column type values. -/
def ofColumnTypes (cols : List (Text × DType)) : List (Text × Value) :=
  cols.map fun (n, d) => (n, .dtypeValue d)

/-- A list of texts as a list value. -/
def ofTexts (ts : List Text) : Value := .list (ts.map .str)

/-- An optional text, none when absent. -/
def ofOptionText : Option Text → Value
  | some t => .str t
  | Option.none => .none

end Value

/-- The fields of a schema, in declaration order. -/
def Schema.fields (s : Schema) : List (Text × Value) :=
  [("schema_name", .str s.name),
   ("columns", .dict (s.columns.map fun (n, d) => (n, .str d))),
   ("primary_key_columns", Value.ofTexts s.primaryKey)]

/-- The fields of an upsert section, in declaration order. -/
def UpsertSection.fields (u : UpsertSection) : List (Text × Value) :=
  [("mode", .member (.mode u.mode)),
   ("comparison_columns", match u.comparison with | some cs => Value.ofTexts cs | none => .none),
   ("delete_record_column", Value.ofOptionText u.deleteColumn),
   ("hash_function", .member (.hash u.hashFunction)),
   ("enable_snapshot", .bool u.snapshot),
   ("enable_preload", .bool u.preload),
   ("metadata_ttl", .float u.metadataTtl),
   ("deleted_keys_ttl", .float u.deletedKeysTtl),
   ("consistency_mode", match u.consistency with | some c => .member (.consistency c) | none => .none),
   ("upsert_view_refresh_interval_ms", .int u.refreshInterval),
   ("drop_out_of_order_record", .bool u.dropOutOfOrder),
   ("enable_deleted_keys_compaction_consistency", .bool u.compaction)]

/-- The fields of a table config, in declaration order. -/
def TableConfig.fields (t : TableConfig) : List (Text × Value) :=
  [("table_name", .str t.name),
   ("time_column_name", Value.ofOptionText t.timeColumn),
   ("upsert_config", match t.upsert with | some u => .section u | none => .none)]

namespace Value

/-- The kind of a record value and its fields, for the three records. -/
def recordFields? : Value → Option (RecordKind × List (Text × Value))
  | .schema s => some (.schema, s.fields)
  | .section u => some (.upsertSection, u.fields)
  | .table t => some (.tableConfig, t.fields)
  | _ => Option.none

end Value

end Upsert
