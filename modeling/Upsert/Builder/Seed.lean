import Upsert.Builder.Basic

/-!
# Builders seeded from a table

A table config and its schema seed a builder with every field of a context. The table must
upsert: it needs an upsert section whose mode is not none, and a table that upserts column-wise
needs a handler. The primary key columns come from the schema; the comparison columns from the
upsert section, or, when it names none, from the table's time column, if it has one.
-/

namespace Upsert

namespace TableConfig

/-- The comparison columns a table compares records by: those of its upsert section, or its
time column when the section names none. -/
def comparisonColumns (tc : TableConfig) (u : UpsertSection) : Option (List Text) :=
  match u.comparison, tc.timeColumn with
  | some (_ :: _), _ => u.comparison
  | _, some t => if t.isEmpty then u.comparison else some [t]
  | _, Option.none => u.comparison

end TableConfig

namespace Builder

/-- A builder seeded from a table config, its schema, the index directory, and the handler and
manager the context carries; refused when the table does not upsert, or upserts column-wise
without a handler. -/
def ofTable (tc : TableConfig) (s : Schema) (dir handler manager : Value) :
    Except Fault Builder :=
  match tc.upsert with
  | Option.none => throw (.upsertDisabled tc.name)
  | some u =>
    if u.mode = .none then throw (.upsertDisabled tc.name)
    else if u.mode = .partialMerge && handler matches .none then throw (.handlerMissing tc.name)
    else pure
      { tableConfig := .table tc, schema := .schema s,
        primaryKeyColumns := Value.ofTexts s.primaryKey,
        comparisonColumns := ((tc.comparisonColumns u).map Value.ofTexts).getD .none,
        deleteRecordColumn := Value.ofOptionText u.deleteColumn,
        hashFunction := .member (.hash u.hashFunction),
        partialUpsertHandler := handler,
        enableSnapshot := .bool u.snapshot, enablePreload := .bool u.preload,
        metadataTtl := .float u.metadataTtl, deletedKeysTtl := .float u.deletedKeysTtl,
        consistencyMode := (u.consistency.map fun m => Value.member (.consistency m)).getD .none,
        refreshInterval := .int u.refreshInterval,
        tableIndexDir := dir,
        dropOutOfOrderRecord := .bool u.dropOutOfOrder,
        compaction := .bool u.compaction,
        tableDataManager := manager }

end Builder

end Upsert
