import Upsert.Choice.Basic
import Upsert.Decimal.Round

/-!
# The table records

Three records describe an upsert table: its `Schema` (columns with their type names and the
primary key), its `UpsertSection` (how records are upserted) and its `TableConfig` (the table's
name, its time column and its upsert section). They are the results of validation, so their
fields have their final types.
-/

namespace Upsert

/-- The column type names a schema may use. -/
def columnTypeNames : List Text := ["bool", "bytes", "f32", "f64", "i32", "i64", "str"]

/-- The record schema of a table: its name, columns with type names, and primary key columns. -/
structure Schema where
  name : Text
  columns : List (Text × Text)
  primaryKey : List Text

/-- The upsert section of a table config. -/
structure UpsertSection where
  mode : UpsertMode := .full
  comparison : Option (List Text) := none
  deleteColumn : Option Text := none
  hashFunction : HashFunction := .none
  snapshot : Bool := false
  preload : Bool := false
  metadataTtl : Binary64 := 0.0
  deletedKeysTtl : Binary64 := 0.0
  consistency : Option ConsistencyMode := none
  refreshInterval : Int := 0
  dropOutOfOrder : Bool := false
  compaction : Bool := false

/-- A table config: the name, the time column and the upsert section, if any. -/
structure TableConfig where
  name : Text
  timeColumn : Option Text := none
  upsert : Option UpsertSection := none

/-- The three records. -/
inductive RecordKind where
  | schema | upsertSection | tableConfig
deriving DecidableEq, Repr

/-- The title of a record kind. -/
def RecordKind.title : RecordKind → Text
  | .schema => "Schema"
  | .upsertSection => "UpsertConfig"
  | .tableConfig => "TableConfig"

end Upsert
