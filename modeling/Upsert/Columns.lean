import Upsert.Builder.Basic
import Upsert.Text.Pattern

/-!
# Columns of a context against a schema

A built context names columns: the primary key, the comparison columns and, optionally, a
delete-record column. These checks hold those names against the columns a schema has, after
the build, when a table is brought up or a frame arrives.

A schema is read as an ordered list of column names with their data types from any of its
shapes: a schema record (its type names mapped to data types), a frame or a lazy frame, a
schema of column types, or a table from names to types. The checks run in a fixed order:

1. every primary key column is in the schema (those that are not are listed, in order);
2. every comparison column is in the schema;
3. the delete-record column, if there is one, is in the schema and its type is boolean. The type
   is compared with the boolean type, and a lazy frame standing as the type refuses the comparison.

A frame must further hold no null in any primary key column. A primary key name selects columns
of the frame the way column selectors do: `*` selects all of them and a name between `^` and `$`
is a regular expression over the column names.

Looking a name up hashes it first, so a name that cannot be hashed, such as a list, stops the
check with a type error even when earlier names are missing.
-/

namespace Upsert

/-! ### Hashing -/

namespace Value

/-- The type that makes a value unhashable: the value's own, or that of the first unhashable
value it holds. `none` for a hashable value. -/
def unhashableType? : Value → Option Text
  | .list _ => some "list"
  | .dict _ => some "dict"
  | .columnTypes _ => some "Schema"
  | .frame _ => some "DataFrame"
  | .lazyFrame _ => some "LazyFrame"
  | .series _ => some "Series"
  | .tuple xs => tupleUnhashable? xs
  | .schema _ => some "dict"
  | .section u => if u.comparison.isSome then some "list" else Option.none
  | .table t =>
    match t.upsert with
    | some u => if u.comparison.isSome then some "list" else Option.none
    | Option.none => Option.none
  | _ => Option.none
where
  /-- The first unhashable type among the items of a tuple. -/
  tupleUnhashable? : List Value → Option Text
    | [] => Option.none
    | x :: xs => (unhashableType? x).orElse fun _ => tupleUnhashable? xs

end Value

/-! ### Reading a schema -/

/-- The data type a schema record's type name stands for. -/
def DType.ofColumnTypeName (n : Text) : Option DType :=
  [("i64", DType.int64), ("i32", .int32), ("f64", .float64), ("f32", .float32),
   ("str", .string), ("bool", .boolean), ("bytes", .binary)].findSome? fun (k, d) =>
    if Text.ofString k = n then some d else Option.none

/-- The columns of a schema with their types, in order. -/
def schemaColumns : Value → Except Fault (List (Text × Value))
  | .schema s =>
    pure (s.columns.filterMap fun (n, d) => (DType.ofColumnTypeName d).map fun d => (n, .dtype d))
  | .frame f | .lazyFrame f => pure (f.schema.map fun (n, d) => (n, .dtypeValue d))
  | .columnTypes cols => pure (cols.map fun (n, d) => (n, .dtypeValue d))
  | .dict kvs => pure kvs
  | v => throw (.unreadableSchema v.typeName)

/-! ### Checks -/

/-- Whether a value names one of the columns. -/
def namesColumn (columns : List (Text × Value)) : Value → Bool
  | .str t => columns.any fun (n, _) => n = t
  | _ => false

/-- The names of a group that are not columns; a name that cannot be hashed stops the search. -/
def absentColumns (columns : List (Text × Value)) : List Value → Except Fault (List Value)
  | [] => pure []
  | c :: cs =>
    match c.unhashableType? with
    | some t => throw (.unhashable t)
    | Option.none => do
      let rest ← absentColumns columns cs
      pure (if namesColumn columns c then rest else c :: rest)

/-- Every name of a group is a column. -/
def ensurePresent (columns : List (Text × Value)) (g : ColumnGroup) (needed : List Value) :
    Except Fault Unit := do
  let absent ← absentColumns columns needed
  if absent.isEmpty then pure () else throw (.missingColumns g absent)

/-- Whether a column type is the boolean type. -/
def isBooleanType : Value → Bool
  | .dtype d | .dtypeValue d => d.isBoolean
  | _ => false

/-- Whether the type found for a column differs from the boolean type, as the check compares the
two. A frame compares its columns with the boolean type taken as a literal, and no type makes a
literal; a column compares its cells with it and answers a column, which has no truth value; a lazy
frame refuses to be compared with anything. -/
def differsFromBoolean : Value → Except Fault Bool
  | .frame _ => throw (.noLiteral "DataTypeClass")
  | .series _ => throw (.ambiguousTruth .column)
  | .lazyFrame _ => throw (.lazyCompared "!=")
  | ty => pure !(isBooleanType ty)

/-- The type a name is mapped to among the columns. -/
def columnType (columns : List (Text × Value)) : Value → Value
  | .str t => ((columns.find? fun (n, _) => n = t).map Prod.snd).getD .none
  | _ => .none

/-- The check of a delete-record column: it is a column, and its type is the boolean type. -/
def deleteRecordCheck (columns : List (Text × Value)) (col : Value) : Except Fault Unit := do
  ensurePresent columns .deleteRecord [col]
  let ty := columnType columns col
  if (← differsFromBoolean ty) then throw (.notBoolean col ty) else pure ()

/-- The columns of a frame that a column selector selects: `*` selects them all, a selector
between `^` and `$` those whose names its pattern matches, and any other the column of that
name. -/
def Frame.select (f : Frame) (selector : Text) : Except Fault (List Column) :=
  if selector = "*" then pure f.columns
  else if selector.points.head? = some 94 && selector.points.getLast? = some 36 then
    match Pattern.read? selector with
    | some p => pure (f.columns.filter fun c => p.isMatch c.name)
    | Option.none => throw .badPattern
  else pure (f.columns.filter fun c => c.name = selector)

namespace Context

/-- The three checks of a context's columns, in order, against given columns. -/
def checkColumns (ctx : Context) (columns : List (Text × Value)) : Except Fault Unit := do
  ensurePresent columns .primaryKey ctx.primaryKeyColumns
  ensurePresent columns .comparison ctx.comparisonColumns
  match ctx.deleteRecordColumn with
  | .none => pure ()
  | col => deleteRecordCheck columns col

/-- The checks of a context's columns against its own schema. -/
def validateColumns (ctx : Context) : Except Fault Unit := do
  ctx.checkColumns (← schemaColumns ctx.schema)

/-- The primary key columns of a frame that hold nulls, in key order. The null counts of the
columns the keys select are taken in order and paired with the keys one by one, so a key that
selects several columns or none shifts the pairing. Selecting a column twice, or no column at
all, is refused. -/
def nullKeys (ctx : Context) (f : Frame) : Except Fault (List Value) := do
  let selected ← ctx.primaryKeyColumns.mapM fun c =>
    match c with
    | .str t => f.select t
    | _ => pure []
  let cols := selected.flatten
  if !(cols.map (·.name)).Nodup then throw .duplicateColumns
  else if cols.isEmpty then throw .noRow
  else
    let counts := cols.map (·.nullCount)
    pure ((ctx.primaryKeyColumns.zip counts).filterMap fun (c, n) =>
      if n ≠ 0 then some c else Option.none)

/-- The checks of a context's columns against an incoming frame, then the check that no primary
key column holds nulls. A lazy frame passes the column checks but has no rows to count. -/
def validateFrame (ctx : Context) : Value → Except Fault Unit
  | .frame f => do
    ctx.checkColumns (f.schema.map fun (n, d) => (n, .dtypeValue d))
    let nulls ← ctx.nullKeys f
    if nulls.isEmpty then pure () else throw (.nullKeys nulls)
  | .lazyFrame f => do
    ctx.checkColumns (f.schema.map fun (n, d) => (n, .dtypeValue d))
    throw (.noAttribute "LazyFrame" "row")
  | v =>
    match v.recordFields? with
    | some _ => throw (.notIterable "method")
    | Option.none => throw (.noAttribute v.qualifiedTypeName "schema")

end Context

end Upsert
