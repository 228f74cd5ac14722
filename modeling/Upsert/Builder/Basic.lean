import Upsert.Settings.Basic

/-!
# Builders and contexts

A builder stages one value for each of the seventeen fields of an upsert context, and remembers
whether a build has succeeded (`finalized`). Setting a field stores the value as it is given;
nothing is checked before a build. A fresh builder holds the defaults: no hash of keys, all
flags off, lifetimes and refresh interval zero, everything else none. A builder seeded from
settings starts with the nine settings values instead.

A context is what a successful build returns: the staged values, with the two column fields
frozen into lists of column names.
-/

namespace Upsert

/-- Values staged for the fields of a context. -/
structure Builder where
  tableConfig : Value := .none
  schema : Value := .none
  primaryKeyColumns : Value := .none
  comparisonColumns : Value := .none
  deleteRecordColumn : Value := .none
  hashFunction : Value := .member (.hash .none)
  partialUpsertHandler : Value := .none
  enableSnapshot : Value := .bool false
  enablePreload : Value := .bool false
  metadataTtl : Value := .float 0.0
  deletedKeysTtl : Value := .float 0.0
  consistencyMode : Value := .none
  refreshInterval : Value := .int 0
  tableIndexDir : Value := .none
  dropOutOfOrderRecord : Value := .bool false
  compaction : Value := .bool false
  tableDataManager : Value := .none
  /-- True once a build has succeeded. -/
  finalized : Bool := false

namespace Builder

/-- The staged value of a field. -/
def get (b : Builder) : Field → Value
  | .tableConfig => b.tableConfig
  | .schema => b.schema
  | .primaryKeyColumns => b.primaryKeyColumns
  | .comparisonColumns => b.comparisonColumns
  | .deleteRecordColumn => b.deleteRecordColumn
  | .hashFunction => b.hashFunction
  | .partialUpsertHandler => b.partialUpsertHandler
  | .enableSnapshot => b.enableSnapshot
  | .enablePreload => b.enablePreload
  | .metadataTtl => b.metadataTtl
  | .deletedKeysTtl => b.deletedKeysTtl
  | .consistencyMode => b.consistencyMode
  | .upsertViewRefreshIntervalMs => b.refreshInterval
  | .tableIndexDir => b.tableIndexDir
  | .dropOutOfOrderRecord => b.dropOutOfOrderRecord
  | .enableDeletedKeysCompactionConsistency => b.compaction
  | .tableDataManager => b.tableDataManager

/-- The builder with a value staged for a field. -/
def set (b : Builder) : Field → Value → Builder
  | .tableConfig, v => { b with tableConfig := v }
  | .schema, v => { b with schema := v }
  | .primaryKeyColumns, v => { b with primaryKeyColumns := v }
  | .comparisonColumns, v => { b with comparisonColumns := v }
  | .deleteRecordColumn, v => { b with deleteRecordColumn := v }
  | .hashFunction, v => { b with hashFunction := v }
  | .partialUpsertHandler, v => { b with partialUpsertHandler := v }
  | .enableSnapshot, v => { b with enableSnapshot := v }
  | .enablePreload, v => { b with enablePreload := v }
  | .metadataTtl, v => { b with metadataTtl := v }
  | .deletedKeysTtl, v => { b with deletedKeysTtl := v }
  | .consistencyMode, v => { b with consistencyMode := v }
  | .upsertViewRefreshIntervalMs, v => { b with refreshInterval := v }
  | .tableIndexDir, v => { b with tableIndexDir := v }
  | .dropOutOfOrderRecord, v => { b with dropOutOfOrderRecord := v }
  | .enableDeletedKeysCompactionConsistency, v => { b with compaction := v }
  | .tableDataManager, v => { b with tableDataManager := v }

@[simp] theorem get_set_self (b : Builder) (f : Field) (v : Value) : (b.set f v).get f = v := by
  cases f <;> rfl

@[simp] theorem get_set_of_ne (b : Builder) {f g : Field} (v : Value) (h : g ≠ f) :
    (b.set f v).get g = b.get g := by
  cases f <;> cases g <;> first | rfl | exact absurd rfl h

@[simp] theorem finalized_set (b : Builder) (f : Field) (v : Value) :
    (b.set f v).finalized = b.finalized := by
  cases f <;> rfl

/-- A fresh builder seeded with the nine values of settings. -/
def ofSettings (s : Settings) : Builder :=
  SettingsField.all.foldl (fun b f => b.set f.builderField (s.get f)) {}

end Builder

/-- A built upsert context. -/
structure Context where
  tableConfig : Value
  schema : Value
  primaryKeyColumns : List Value
  comparisonColumns : List Value
  deleteRecordColumn : Value
  hashFunction : Value
  partialUpsertHandler : Value
  enableSnapshot : Value
  enablePreload : Value
  metadataTtl : Value
  deletedKeysTtl : Value
  consistencyMode : Value
  refreshInterval : Value
  tableIndexDir : Value
  dropOutOfOrderRecord : Value
  compaction : Value
  tableDataManager : Value

namespace Context

/-- The value of a field; a column field as the list of its column names. -/
def get (c : Context) : Field → Value
  | .tableConfig => c.tableConfig
  | .schema => c.schema
  | .primaryKeyColumns => .tuple c.primaryKeyColumns
  | .comparisonColumns => .tuple c.comparisonColumns
  | .deleteRecordColumn => c.deleteRecordColumn
  | .hashFunction => c.hashFunction
  | .partialUpsertHandler => c.partialUpsertHandler
  | .enableSnapshot => c.enableSnapshot
  | .enablePreload => c.enablePreload
  | .metadataTtl => c.metadataTtl
  | .deletedKeysTtl => c.deletedKeysTtl
  | .consistencyMode => c.consistencyMode
  | .upsertViewRefreshIntervalMs => c.refreshInterval
  | .tableIndexDir => c.tableIndexDir
  | .dropOutOfOrderRecord => c.dropOutOfOrderRecord
  | .enableDeletedKeysCompactionConsistency => c.compaction
  | .tableDataManager => c.tableDataManager

/-- The fields in order, then the four flags again under the names that ask about them. -/
def fields (c : Context) : List (Text × Value) :=
  Field.all.map (fun f => (f.name, c.get f)) ++
    [((("is_snapshot_enabled" : String) : Text), c.enableSnapshot),
     (("is_preload_enabled" : String), c.enablePreload),
     (("is_drop_out_of_order_record" : String), c.dropOutOfOrderRecord),
     (("is_deleted_keys_compaction_consistency_enabled" : String), c.compaction)]

/-- Assigning to a field of a built context always fails: a context is frozen. -/
def assign (_c : Context) (name : Text) : Fault :=
  if (Field.ofName? name).isSome then .frozenField name else .noSuchField

end Context

end Upsert
