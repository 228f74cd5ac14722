import Upsert.Text.Basic

/-!
# The fields of an upsert context

An upsert context has seventeen fields; a builder stages a value for each. This module names them
and fixes their order, which is the order in which a built context lists them.
-/

namespace Upsert

/-- A field of an upsert context. -/
inductive Field where
  | tableConfig | schema | primaryKeyColumns | comparisonColumns | deleteRecordColumn
  | hashFunction | partialUpsertHandler | enableSnapshot | enablePreload | metadataTtl
  | deletedKeysTtl | consistencyMode | upsertViewRefreshIntervalMs | tableIndexDir
  | dropOutOfOrderRecord | enableDeletedKeysCompactionConsistency | tableDataManager
deriving DecidableEq, Repr

namespace Field

/-- All fields, in order. -/
def all : List Field :=
  [.tableConfig, .schema, .primaryKeyColumns, .comparisonColumns, .deleteRecordColumn,
   .hashFunction, .partialUpsertHandler, .enableSnapshot, .enablePreload, .metadataTtl,
   .deletedKeysTtl, .consistencyMode, .upsertViewRefreshIntervalMs, .tableIndexDir,
   .dropOutOfOrderRecord, .enableDeletedKeysCompactionConsistency, .tableDataManager]

/-- The name of a field. -/
def name : Field → Text
  | .tableConfig => "table_config"
  | .schema => "schema"
  | .primaryKeyColumns => "primary_key_columns"
  | .comparisonColumns => "comparison_columns"
  | .deleteRecordColumn => "delete_record_column"
  | .hashFunction => "hash_function"
  | .partialUpsertHandler => "partial_upsert_handler"
  | .enableSnapshot => "enable_snapshot"
  | .enablePreload => "enable_preload"
  | .metadataTtl => "metadata_ttl"
  | .deletedKeysTtl => "deleted_keys_ttl"
  | .consistencyMode => "consistency_mode"
  | .upsertViewRefreshIntervalMs => "upsert_view_refresh_interval_ms"
  | .tableIndexDir => "table_index_dir"
  | .dropOutOfOrderRecord => "drop_out_of_order_record"
  | .enableDeletedKeysCompactionConsistency => "enable_deleted_keys_compaction_consistency"
  | .tableDataManager => "table_data_manager"

/-- The field of a name. -/
def ofName? (t : Text) : Option Field := all.find? (·.name = t)

/-- What a refusal to build says when a required field is missing. -/
def missingText : Field → Text
  | .tableConfig => "Table config must be set"
  | .schema => "Schema must be set"
  | .primaryKeyColumns => "Primary key columns must be set"
  | .comparisonColumns => "Comparison columns must be set"
  | .hashFunction => "Hash function must be set"
  | .tableIndexDir => "Table index directory must be set"
  | f => f.name ++ " must be set"

end Field

end Upsert
