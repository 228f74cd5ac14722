import Upsert.Model.Lax
import Upsert.Choice.Read

/-!
# Validating the table records

A record is validated from a table of entries. Its fields are read in declaration order, each by
its lenient reader (`Upsert.Lax`); a field that is absent takes its default, or is reported
missing when it has none. Every issue of every field is reported, in field order, followed by
one issue for each entry that names no field, in entry order. A record given as itself is taken
as it is; any other input is no record.

Each record adds its own rules:

* the columns of a schema must have known type names, checked once the table of columns has
  been read; the primary key columns must be among the columns, checked once every field has
  been read;
* a choice field of an upsert section reads a text as a choice (`Choice.read`), whose refusal is
  reported as a failed rule of the field, and otherwise takes only a member of its choice;
* the lifetimes and the refresh interval of an upsert section must not be negative (a NaN
  lifetime is not at least zero either).
-/

namespace Upsert

/-- The entries of a record's input, in order. -/
abbrev Entries := List (Text × Value)

namespace Entries

/-- The value of the entry with this key. -/
def lookup (kvs : Entries) (key : Text) : Option Value :=
  (kvs.find? fun (k, _) => k = key).map Prod.snd

/-- A field read from its entry and located by its name; an absent field takes its default, or
is missing. -/
def field {α : Type} (kvs : Entries) (name : String) (default : Option α)
    (read : Value → Checked α) : Checked α :=
  Checked.within (.name name) <|
    match kvs.lookup name, default with
    | some v, _ => read v
    | Option.none, some d => pure d
    | Option.none, Option.none => Checked.fail .missing

/-- One issue for each entry that names none of the fields, in entry order. -/
def extras (kvs : Entries) (names : List String) : List Issue :=
  kvs.filterMap fun (k, _) =>
    if names.any fun n => Text.ofString n = k then Option.none
    else some ⟨[.name k], .extraForbidden⟩

end Entries

/-- The fields read, unless they or the extra entries have issues. -/
def Checked.closed {α : Type} (c : Checked α) (extra : List Issue) : Checked α :=
  match c, extra with
  | .ok a, [] => .ok a
  | .ok _, e => .error e
  | .error e, e' => .error (e ++ e')

namespace Lax

open Checked

/-! ### Choices and bounds -/

/-- A member of a choice: a text is read as one, and the result must belong to the choice. -/
def member (c : Choice) (v : Value) : Checked Member := do
  let v ← match v with
    | .str _ =>
      match c.read v with
      | .ok m => pure (Value.member m)
      | .error e => fail (.rule e.message)
    | v => pure v
  match v with
  | .member m => if m.choice = c then pure m else fail (.notMember c)
  | _ => fail (.notMember c)

/-- A way to upsert. -/
def upsertMode (v : Value) : Checked UpsertMode := do
  match ← member .upsertMode v with
  | .mode m => pure m
  | _ => fail (.notMember .upsertMode)

/-- A hash of primary keys. -/
def hashFunction (v : Value) : Checked HashFunction := do
  match ← member .hashFunction v with
  | .hash h => pure h
  | _ => fail (.notMember .hashFunction)

/-- A consistency mode. -/
def consistencyMode (v : Value) : Checked ConsistencyMode := do
  match ← member .consistencyMode v with
  | .consistency m => pure m
  | _ => fail (.notMember .consistencyMode)

/-- A float that is at least zero. -/
def nonNegativeReal (v : Value) : Checked Binary64 := do
  let x ← real v
  if x ≥ 0 then pure x else fail .greaterThanEqual

/-- An integer that is at least zero. -/
def nonNegativeWhole (v : Value) : Checked Int := do
  let i ← whole v
  if i ≥ 0 then pure i else fail .greaterThanEqual

end Lax

/-! ### Schemas -/

namespace Schema

/-- The field names of a schema, in order. -/
def fieldNames : List String := ["schema_name", "columns", "primary_key_columns"]

/-- Columns whose type names are all known. -/
def knownTypes (cols : List (Text × Text)) : Checked (List (Text × Text)) :=
  let bad := cols.filter fun (_, d) => !columnTypeNames.contains d
  if bad.isEmpty then pure cols
  else Checked.fail (.rule ("unknown column dtypes " ++
    (Value.dict (bad.map fun (n, d) => (n, .str d))).repr ++ "; allowed " ++
    (Value.ofTexts columnTypeNames).repr))

/-- A schema from its entries. -/
def ofEntries (kvs : Entries) : Checked Schema := do
  let read := (kvs.field "schema_name" Option.none Lax.text).and
    ((kvs.field "columns" Option.none fun v => Lax.textTable v >>= knownTypes).and
      (kvs.field "primary_key_columns" (some []) Lax.texts))
  let (name, columns, primaryKey) ← read.closed (kvs.extras fieldNames)
  let absent := primaryKey.filter fun c => !(columns.any fun (n, _) => n = c)
  if absent.isEmpty then pure ⟨name, columns, primaryKey⟩
  else Checked.fail (.rule ("primary key columns not in schema: " ++ (Value.ofTexts absent).repr))

end Schema

/-! ### Upsert sections and table configs -/

namespace UpsertSection

/-- The field names of an upsert section, in order. -/
def fieldNames : List String :=
  ["mode", "comparison_columns", "delete_record_column", "hash_function", "enable_snapshot",
   "enable_preload", "metadata_ttl", "deleted_keys_ttl", "consistency_mode",
   "upsert_view_refresh_interval_ms", "drop_out_of_order_record",
   "enable_deleted_keys_compaction_consistency"]

/-- An upsert section from its entries. -/
def ofEntries (kvs : Entries) : Checked UpsertSection := do
  let read :=
    (kvs.field "mode" (some .full) Lax.upsertMode).and <|
    (kvs.field "comparison_columns" (some Option.none) (Lax.optional Lax.texts)).and <|
    (kvs.field "delete_record_column" (some Option.none) (Lax.optional Lax.text)).and <|
    (kvs.field "hash_function" (some .none) Lax.hashFunction).and <|
    (kvs.field "enable_snapshot" (some false) Lax.flag).and <|
    (kvs.field "enable_preload" (some false) Lax.flag).and <|
    (kvs.field "metadata_ttl" (some 0.0) Lax.nonNegativeReal).and <|
    (kvs.field "deleted_keys_ttl" (some 0.0) Lax.nonNegativeReal).and <|
    (kvs.field "consistency_mode" (some Option.none) (Lax.optional Lax.consistencyMode)).and <|
    (kvs.field "upsert_view_refresh_interval_ms" (some 0) Lax.nonNegativeWhole).and <|
    (kvs.field "drop_out_of_order_record" (some false) Lax.flag).and <|
    (kvs.field "enable_deleted_keys_compaction_consistency" (some false) Lax.flag)
  let (mode, comparison, deleteColumn, hashFunction, snapshot, preload, metadataTtl,
      deletedKeysTtl, consistency, refreshInterval, dropOutOfOrder, compaction) ←
    read.closed (kvs.extras fieldNames)
  pure { mode, comparison, deleteColumn, hashFunction, snapshot, preload, metadataTtl,
         deletedKeysTtl, consistency, refreshInterval, dropOutOfOrder, compaction }

/-- An upsert section from a table of entries, or as itself. -/
def read : Value → Checked UpsertSection
  | .dict kvs => ofEntries kvs
  | .columnTypes cols => ofEntries (cols.map fun (k, d) => (k, .dtypeValue d))
  | .section u => pure u
  | _ => Checked.fail (.recordType .upsertSection)

end UpsertSection

namespace TableConfig

/-- The field names of a table config, in order. -/
def fieldNames : List String := ["table_name", "time_column_name", "upsert_config"]

/-- A table config from its entries. -/
def ofEntries (kvs : Entries) : Checked TableConfig := do
  let read := (kvs.field "table_name" Option.none Lax.text).and
    ((kvs.field "time_column_name" (some Option.none) (Lax.optional Lax.text)).and
      (kvs.field "upsert_config" (some Option.none) (Lax.optional UpsertSection.read)))
  let (name, timeColumn, upsert) ← read.closed (kvs.extras fieldNames)
  pure { name, timeColumn, upsert }

end TableConfig

/-! ### Records of any kind -/

namespace RecordKind

/-- A record of the kind from entries. -/
def ofEntries (kvs : Entries) : RecordKind → Checked Value
  | .schema => Value.schema <$> Schema.ofEntries kvs
  | .upsertSection => Value.section <$> UpsertSection.ofEntries kvs
  | .tableConfig => Value.table <$> TableConfig.ofEntries kvs

/-- Whether a value is a record of the kind. -/
def holds : RecordKind → Value → Bool
  | .schema, .schema _ | .upsertSection, .section _ | .tableConfig, .table _ => true
  | _, _ => false

/-- A record of the kind from a table of entries, or as itself; any other input fails as a
whole. -/
def validate (k : RecordKind) (v : Value) : Except Fault Value :=
  let outcome : Checked Value :=
    if k.holds v then pure v
    else match v with
      | .dict kvs => k.ofEntries kvs
      | .columnTypes cols => k.ofEntries (cols.map fun (n, d) => (n, .dtypeValue d))
      | _ => Checked.fail (.recordType k)
  outcome.mapError (Fault.invalid k)

end RecordKind

end Upsert
