import Upsert.Builder.Basic

/-!
# Building a context

A build checks the staged fields in a fixed order and reports the first that fails:

1. the table config and the schema must not be none;
2. the primary key columns are frozen, then must not be empty;
3. the comparison columns are frozen, then must not be empty;
4. the hash function must not be none;
5. the table index directory must not be none, must stand for a path (a text, bytes, a path,
   or an object standing for a text or bytes), and that path must not be empty.

Freezing a column field turns its value into the list of column names it stands for: none
stands for no column, a non-empty text for the one column it names, and any other value for
the items it yields when iterated (the empty text yields none, a table its keys, bytes their
numbers, a frame its columns, a struct type its fields with their types). A value that cannot be iterated, such as a lazy frame, which
cannot be indexed, stops the build with a type error. The frozen list is stored back in the
builder (none stays none), so an iterator used up by one build is seen as its items by the
next. A successful build marks the builder finalized.
-/

namespace Upsert

namespace Value

/-- The items a value yields when iterated, or the type error of a value that yields none. -/
def items : Value → Except Fault (List Value)
  | .str t => pure (t.points.map fun c => .str (.single c))
  | .bytes b => pure (b.map fun (n : Nat) => Value.int (Int.ofNat n))
  | .list xs | .tuple xs | .iter xs => pure xs
  | .dict kvs => pure (kvs.map fun (k, _) => .str k)
  | .columnTypes cols => pure (cols.map fun (k, _) => .str k)
  | .frame f => pure (f.columns.map .series)
  | .lazyFrame _ => throw .lazyIndexed
  | .dtypeValue (.struct fs) => pure (fs.map fun (n, d) => .tuple [.str n, .dtypeValue d])
  | v =>
    match v.recordFields? with
    | some (_, fs) => pure (fs.map fun (k, w) => .tuple [.str k, w])
    | Option.none => throw (.notIterable v.qualifiedTypeName)

/-- The column names a column field stands for. -/
def freeze (v : Value) : Except Fault (List Value) :=
  match v with
  | .none => pure []
  | .str t => if t.isEmpty then pure [] else pure [v]
  | v => v.items

/-- The path text a value stands for, as a text or bytes, or none when it stands for no path. -/
def pathText? : Value → Option Value
  | .str t => some (.str t)
  | .bytes b => some (.bytes b)
  | .path p => some (.str p)
  | .pathLike (.str t) => some (.str t)
  | .pathLike (.bytes b) => some (.bytes b)
  | _ => Option.none

end Value

namespace Builder

/-- Freezes a column field: the frozen names are stored back in the builder, unless the field
holds none, which stays as it is. -/
def freezeField (b : Builder) (f : Field) : Except Fault (Builder × List Value) :=
  match b.get f with
  | .none => pure (b, [])
  | v => do
    let cols ← v.freeze
    pure (b.set f (.tuple cols), cols)

/-- The first required field that fails, after freezing the column fields, or the frozen
columns when none fails. Freezing happens as far as the checks get. -/
def check (b : Builder) : Builder × Except Fault (List Value × List Value) :=
  match b.tableConfig, b.schema with
  | .none, _ => (b, .error (.missingField .tableConfig))
  | _, .none => (b, .error (.missingField .schema))
  | _, _ =>
    match b.freezeField .primaryKeyColumns with
    | .error e => (b, .error e)
    | .ok (b, pk) =>
      if pk.isEmpty then (b, .error (.missingField .primaryKeyColumns))
      else match b.freezeField .comparisonColumns with
        | .error e => (b, .error e)
        | .ok (b, cmp) =>
          if cmp.isEmpty then (b, .error (.missingField .comparisonColumns))
          else
            let outcome : Except Fault (List Value × List Value) :=
              match b.hashFunction, b.tableIndexDir with
              | .none, _ => .error (.missingField .hashFunction)
              | _, .none => .error (.missingField .tableIndexDir)
              | _, dir =>
                match dir.pathText? with
                | none => .error (.notAPath dir.typeName)
                | some p => if p.truthy then .ok (pk, cmp) else .error (.missingField .tableIndexDir)
            (b, outcome)

/-- The context of a builder whose checks passed. -/
def toContext (b : Builder) (pk cmp : List Value) : Context :=
  { tableConfig := b.tableConfig, schema := b.schema, primaryKeyColumns := pk,
    comparisonColumns := cmp, deleteRecordColumn := b.deleteRecordColumn,
    hashFunction := b.hashFunction, partialUpsertHandler := b.partialUpsertHandler,
    enableSnapshot := b.enableSnapshot, enablePreload := b.enablePreload,
    metadataTtl := b.metadataTtl, deletedKeysTtl := b.deletedKeysTtl,
    consistencyMode := b.consistencyMode, refreshInterval := b.refreshInterval,
    tableIndexDir := b.tableIndexDir, dropOutOfOrderRecord := b.dropOutOfOrderRecord,
    compaction := b.compaction, tableDataManager := b.tableDataManager }

/-- A build: the builder after it (frozen columns stored, finalized on success) and the context
or the fault. -/
def build (b : Builder) : Builder × Except Fault Context :=
  match b.check with
  | (b', .ok (pk, cmp)) => ({ b' with finalized := true }, .ok (b'.toContext pk cmp))
  | (b', .error e) => (b', .error e)

end Builder

/-- The debug record a build writes: the built context's directory and columns, or the reason a
required field refused the build; a type error from freezing writes none. -/
def buildLog : Except Fault Context → Option Log
  | .ok c =>
    some ⟨.debug, .builder,
      "Built upsert context for " ++ c.tableIndexDir.repr ++ " (primary_key_columns=" ++
        (Value.list c.primaryKeyColumns).repr ++ ", comparison_columns=" ++
        (Value.list c.comparisonColumns).repr ++ ")"⟩
  | .error e =>
    if e.field.isSome then some ⟨.debug, .builder, "Refusing to build upsert context: " ++ e.message⟩
    else none

end Upsert
