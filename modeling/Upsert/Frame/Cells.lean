import Upsert.Fault
import Upsert.Value.Convert

/-!
# Building columns from values

A frame is assembled from named columns of values, each with its column type given or not.
Building a column is strict: a value that does not fit the column's type refuses the column.

## Direct reading

A column is first read directly, by the kind of its first value that is not none (or by its
given type): integers as 64-bit integers (booleans counting as `0` and `1`), floats as floats
(integers and booleans converted), booleans as booleans only, texts as texts only. A value of
another kind stops the direct reading; so does an integer out of range, in which case a column
of integers is tried once more as unsigned 64-bit integers.

## Reading cell by cell

When direct reading fails, or the values are lists or tables, every value is first turned into
a cell on its own: integers take the first of `Int64`, `UInt64`, `Int128`, `UInt128` that holds
them, lists become list cells whose item type is the common type of their items, tables become
record cells. The column then takes the type of its first cell that tells a type (not null, nor
a list or record of nulls only) unless its type is given, and every cell must fit that type
exactly; a list cell of another item type fits when its items convert without loss.

## Given types

A temporal type given for values whose first is not an integer builds the column from the cells
as they are (a float there is refused); a given null type makes every row null; a bare decimal
type takes integers at scale `0` and precision `38`, and floats at the least scale and precision
that hold them exactly as written.
-/

namespace Upsert

namespace DType

/-- The rank of an integer type's width, from `1` for 8 bits to `5` for 128 bits, and whether
it is signed. -/
def intRank : DType → Option (Nat × Bool)
  | .int8 => some (1, true) | .int16 => some (2, true) | .int32 => some (3, true)
  | .int64 => some (4, true) | .int128 => some (5, true)
  | .uint8 => some (1, false) | .uint16 => some (2, false) | .uint32 => some (3, false)
  | .uint64 => some (4, false) | .uint128 => some (5, false)
  | _ => Option.none

/-- The signed integer type of a rank. -/
def signedOfRank : Nat → DType
  | 1 => .int8 | 2 => .int16 | 3 => .int32 | 4 => .int64 | _ => .int128

/-- The unsigned integer type of a rank. -/
def unsignedOfRank : Nat → DType
  | 1 => .uint8 | 2 => .uint16 | 3 => .uint32 | 4 => .uint64 | _ => .uint128

/-- The common type of two integer types: the wider of two of one signedness, else the
narrowest signed type wider than the unsigned one, else `Float64`. -/
def intCommon (a b : DType) : Option DType :=
  match a.intRank, b.intRank with
  | some (ra, sa), some (rb, sb) =>
    if sa = sb then some (if sa then signedOfRank (max ra rb) else unsignedOfRank (max ra rb))
    else
      let (rs, ru) := if sa then (ra, rb) else (rb, ra)
      if ru < rs then some (signedOfRank rs)
      else if ru < 5 then some (signedOfRank (ru + 1))
      else some .float64
  | _, _ => Option.none

/-- The common type of two flat types: null gives way to anything, booleans to numbers and texts,
numbers to texts; integers meet as `intCommon` says and meet floats at `Float64`. -/
def flatCommon? (a b : DType) : Option DType :=
  if a == b then some a
  else match a, b with
    | .null, x | x, .null => some x
    | .boolean, x | x, .boolean => if x.isNumeric || x == .string then some x else Option.none
    | .string, x | x, .string => if x.isNumeric then some .string else Option.none
    | a, b =>
      if a.isInteger && b.isInteger then intCommon a b
      else if a.isNumeric && b.isNumeric then some .float64
      else Option.none

mutual

/-- The common type of two column types: lists meet item-wise, structs field by field (the
fields of the second that the first lacks coming last), flat types as `flatCommon?` says. -/
def common? : DType → DType → Option DType
  | .list a, .list b => (common? a b).map .list
  | .struct fa, .struct fb =>
    (commonFields fa fb).map fun fs =>
      .struct (fs ++ fb.filter fun (n, _) => !fa.any (·.1 == n))
  | .list _, _ => Option.none
  | .struct _, _ => Option.none
  | a, b => flatCommon? a b

/-- The fields of a struct type, each met with the field of that name among `fb`, if any. -/
def commonFields : List (Text × DType) → List (Text × DType) → Option (List (Text × DType))
  | [], _ => some []
  | (n, d) :: rest, fb => do
    let d' ← match fb.find? (·.1 == n) with
      | some (_, e) => common? d e
      | Option.none => some d
    let r ← commonFields rest fb
    pure ((n, d') :: r)

end

mutual

/-- How deeply a column type nests lists and structs. -/
def depth : DType → Nat
  | .list d => depth d + 1
  | .struct fs => fieldsDepth fs + 1
  | _ => 0

/-- The greatest depth among the fields of a struct type. -/
def fieldsDepth : List (Text × DType) → Nat
  | [] => 0
  | (_, d) :: rest => max (depth d) (fieldsDepth rest)

end

/-- How a temporal type is named in the message refusing a float for it. -/
def temporalKind : DType → Text
  | .date => "date"
  | .datetime => "datetime"
  | .duration => "timedelta"
  | _ => "time"

end DType

namespace Cell

mutual

/-- Whether a cell tells nothing of its column's type: a null, or a list or record of such
cells only. -/
def isNestedNull : Cell → Bool
  | .null => true
  | .list _ items => allNestedNull items
  | .record fs => fieldsNestedNull fs
  | _ => false

/-- Whether every cell of a list tells nothing of its type. -/
def allNestedNull : List Cell → Bool
  | [] => true
  | c :: rest => isNestedNull c && allNestedNull rest

/-- Whether every named cell tells nothing of its type. -/
def fieldsNestedNull : List (Text × Cell) → Bool
  | [] => true
  | (_, c) :: rest => isNestedNull c && fieldsNestedNull rest

end

mutual

/-- How deeply a cell nests lists and records. -/
def depth : Cell → Nat
  | .list _ items => itemsDepth items + 1
  | .record fs => fieldsDepth fs + 1
  | _ => 0

/-- The greatest depth among cells. -/
def itemsDepth : List Cell → Nat
  | [] => 0
  | c :: rest => max (depth c) (itemsDepth rest)

/-- The greatest depth among named cells. -/
def fieldsDepth : List (Text × Cell) → Nat
  | [] => 0
  | (_, c) :: rest => max (depth c) (fieldsDepth rest)

end

/-- The integer a text spells: an optional sign, then ASCII digits. -/
def wholeOfText? (cs : List Nat) : Option Int :=
  let (neg, ds) := match cs with
    | 45 :: r => (true, r)
    | 43 :: r => (false, r)
    | r => (false, r)
  if ds.isEmpty || !ds.all NumberText.isDigit then Option.none
  else
    let v : Int := NumberText.digitsValue ds
    some (if neg then -v else v)

/-- A flat cell converted to a flat type; none when it has no value of that type. -/
def flatCast (d : DType) (c : Cell) : Option Cell :=
  match d.intRange? with
  | some (lo, hi) =>
    let inRange (i : Int) : Option Cell := if lo ≤ i && i ≤ hi then some (.whole i) else Option.none
    match c with
    | .whole i => inRange i
    | .flag b => inRange (if b then 1 else 0)
    | .real x => if x.isNaN || x.isInf then Option.none else inRange (Value.floatTruncate x)
    | .text t => (wholeOfText? t.points).bind inRange
    | _ => Option.none
  | Option.none =>
    match d, c with
    | .float32, .whole i | .float64, .whole i => some (.real (Decimal.ofInt i))
    | .float32, .flag b | .float64, .flag b => some (.real (if b then 1.0 else 0.0))
    | .float32, .real x | .float64, .real x => some (.real x)
    | .float32, .text t | .float64, .text t => (NumberText.plainFloat? t.points).map .real
    | .string, .text t | .categorical, .text t => some (.text t)
    | .string, .whole i | .categorical, .whole i => some (.text (Text.ofInt i))
    | .string, .flag b | .categorical, .flag b => some (.text (if b then "true" else "false"))
    | .string, .real x | .categorical, .real x => some (.text (Value.floatText x))
    | .boolean, .flag b => some (.flag b)
    | .boolean, .whole i => some (.flag (i ≠ 0))
    | .boolean, .real x => some (.flag (x != 0.0))
    | _, _ => Option.none

mutual

/-- A cell converted to a column type; none when it has no value of that type. A null stays
null, a list converts item by item. -/
def cast (d : DType) : Cell → Option Cell
  | .null => some .null
  | .list e items =>
    match d with
    | .list d' => if e == d' then some (.list e items) else (castAll d' items).map (.list d')
    | _ => Option.none
  | c => flatCast d c

/-- Cells converted to a column type, all or none. -/
def castAll (d : DType) : List Cell → Option (List Cell)
  | [] => some []
  | c :: rest => do
    let c' ← cast d c
    let r ← castAll d rest
    pure (c' :: r)

end

/-- The value of a named cell of a record cell; null for a missing name or a cell that is no
record. -/
def field (name : Text) : Cell → Cell
  | .record fs => ((fs.find? (·.1 == name)).map (·.2)).getD .null
  | _ => .null

end Cell

/-- The type a column of cells takes when none is given: that of the first cell that tells a
type, else that of the first cell that is not null, else the null type. -/
def firstType (cs : List Cell) : DType :=
  match cs.find? fun c => !c.isNestedNull with
  | some c => c.dtype
  | Option.none =>
    match cs.find? fun c => !c.isNull with
    | some c => c.dtype
    | Option.none => .null

/-- The items of list cells brought to the item type `inner`: a list of that item type is kept,
a list of another is converted, and refused when an item does not convert; a null stays null and
any other cell is refused. -/
def listItemsAs (inner : DType) : Cell → Option Cell
  | .null => some .null
  | .list d items =>
    if inner == .null || d == inner then some (.list d items)
    else (Cell.castAll inner items).map (.list inner)
  | _ => Option.none

/-- A column of cells built strictly as type `d`; the fuel bounds the depth of the cells and
the type. -/
def fromCellsAs : Nat → Text → List Cell → DType → Except Fault Column
  | 0, name, cells, d => pure ⟨name, d, cells⟩
  | fuel + 1, name, cells, d =>
    let keepIf (ok : Cell → Bool) : Except Fault Column := do
      let cs ← cells.mapM fun c =>
        if c.isNull || ok c then pure c else throw (.unexpectedCell name d (some c))
      pure ⟨name, d, cs⟩
    match d with
    | .null => pure ⟨name, .null, cells.map fun _ => .null⟩
    | .boolean => keepIf fun | .flag _ => true | _ => false
    | .string | .categorical => keepIf fun | .text _ => true | _ => false
    | .float32 | .float64 => keepIf fun | .real _ => true | _ => false
    | .list inner =>
      match cells.mapM (listItemsAs inner) with
      | some cs => pure ⟨name, d, cs⟩
      | Option.none => throw (.unexpectedCell name d Option.none)
    | .struct fields =>
      if fields.isEmpty then pure ⟨name, d, cells.map fun _ => .null⟩
      else do
        let cols ← fields.mapM fun (fname, fd) =>
          let fcells := cells.map (Cell.field fname)
          fromCellsAs fuel fname fcells (if fd == .null then firstType fcells else fd)
        let rows := (List.range cells.length).zip cells |>.map fun (i, c) =>
          match c with
          | .record _ => Cell.record (cols.map fun col => (col.name, col.cells.getD i .null))
          | _ => .null
        pure ⟨name, .struct (cols.map fun col => (col.name, col.dtype)), rows⟩
    | d =>
      match d.intRange? with
      | some (lo, hi) => keepIf fun
        | .whole i => lo ≤ i && i ≤ hi
        | _ => false
      | Option.none => keepIf fun _ => false

/-- Enough fuel for `fromCellsAs` over these cells and this type. -/
def cellsFuel (cs : List Cell) (d : DType) : Nat := Cell.itemsDepth cs + d.depth + 2

/-- A column of cells built strictly as type `d`. -/
def Column.ofCellsAs (name : Text) (cs : List Cell) (d : DType) : Except Fault Column :=
  fromCellsAs (cellsFuel cs d) name cs d

/-- A column of cells built strictly as the type its cells call for. -/
def Column.ofCells (name : Text) (cs : List Cell) : Except Fault Column :=
  Column.ofCellsAs name cs (firstType cs)

/-! ### Direct reading -/

/-- Why direct reading stopped: a value of the wrong kind, or a number out of range. -/
inductive Stop where
  | wrongKind | outOfRange

/-- How one value reads directly. -/
abbrev DirectRead := Value → Except Stop Cell

/-- Integers between `lo` and `hi`, booleans as `0` and `1`. -/
def readWhole (lo hi : Int) : DirectRead
  | .none => pure .null
  | .bool b => pure (.whole (if b then 1 else 0))
  | .int i => if lo ≤ i && i ≤ hi then pure (.whole i) else throw .outOfRange
  | _ => throw .wrongKind

/-- Floats, with integers and booleans converted; an integer too large for a float is out of
range. -/
def readReal : DirectRead
  | .none => pure .null
  | .bool b => pure (.real (if b then 1.0 else 0.0))
  | .int i =>
    let x := Decimal.ofInt i
    if x.isInf then throw .outOfRange else pure (.real x)
  | .float x => pure (.real x)
  | _ => throw .wrongKind

/-- Booleans only. -/
def readFlag : DirectRead
  | .none => pure .null
  | .bool b => pure (.flag b)
  | _ => throw .wrongKind

/-- Texts only. -/
def readText : DirectRead
  | .none => pure .null
  | .str t => pure (.text t)
  | _ => throw .wrongKind

/-- A decimal column: integers at scale `0` and precision `38` when there is no float, else
at the least scale that writes every float exactly in its shortest form and the least precision
that holds every value at that scale. Booleans, texts and the like are refused. -/
def decimalColumn (name : Text) (values : List Value) (cells : List (Except Fault Cell)) :
    Except Fault Column := do
  let parts ← values.mapM fun v =>
    match v with
    | .none => pure Option.none
    | .int i => pure (some (i, (0 : Int)))
    | .float x =>
      match Decimal.Binary.ofFloat x with
      | .finite neg m q =>
        if m = 0 then pure (some (0, 0))
        else
          let s := Decimal.shortest m q
          pure (some (if neg then -(Int.ofNat s.digits) else Int.ofNat s.digits, s.exponent))
      | _ => throw (.notDecimal .float64)
    | .bool _ => throw (.notDecimal .boolean)
    | .str _ => throw (.notDecimal .string)
    | _ => do
      let c ← (cells.getD 0 (pure .null))
      throw (.notDecimal c.dtype)
  let hasFloat := values.any fun | .float _ => true | _ => false
  let scale : Nat := parts.foldl (fun acc p => match p with
    | some (_, e) => max acc (-e).toNat
    | Option.none => acc) 0
  let atScale : Option (Int × Int) → Cell
    | some (m, e) => .decimal (m * Int.ofNat (Nat.pow 10 (e + scale).toNat)) scale
    | Option.none => .null
  let cs := parts.map atScale
  let precision : Nat := if !hasFloat then 38 else
    cs.foldl (fun acc c => match c with
      | .decimal m _ => max acc (Text.ofNat m.natAbs).points.length
      | _ => acc) 1
  pure ⟨name, .decimal precision scale, cs⟩

/-- Reads every value directly, stopping at the first that does not read. -/
def readAll (f : DirectRead) (values : List Value) : Except Stop (List Cell) := values.mapM f

/-- A column built as the frame constructor builds one from values: read directly where the
values allow it, else cell by cell. `cells` are the values taken as cells on their own, each
used only when reading cell by cell. -/
def Column.build (name : Text) (values : List Value) (given : Option DType)
    (cells : List (Except Fault Cell)) : Except Fault Column :=
  let byCells : Except Fault Column := do Column.ofCells name (← cells.mapM id)
  let byCellsAs (d : DType) : Except Fault Column := do Column.ofCellsAs name (← cells.mapM id) d
  let direct (f : DirectRead) (d : DType) (otherwise : Except Fault Column) :
      Except Fault Column :=
    match readAll f values with
    | .ok cs => pure ⟨name, d, cs⟩
    | .error _ => otherwise
  let first := values.find? fun | .none => false | _ => true
  match given with
  | Option.none =>
    if values.isEmpty then pure ⟨name, .null, []⟩
    else match first with
      | some (.int _) =>
        match readAll (readWhole (-9223372036854775808) 9223372036854775807) values with
        | .ok cs => pure ⟨name, .int64, cs⟩
        | .error .outOfRange => direct (readWhole 0 18446744073709551615) .uint64 byCells
        | .error .wrongKind => byCells
      | some (.bool _) => direct readFlag .boolean byCells
      | some (.float _) => direct readReal .float64 byCells
      | some (.str _) => direct readText .string byCells
      | _ => byCells
  | some d =>
    let firstIsWhole := match first with
      | some (.int _) | some (.bool _) | Option.none => true
      | _ => false
    if d.isTemporal && !firstIsWhole then
      match first with
      | some (.float _) => throw (.floatAsTemporal d.temporalKind)
      | _ => byCells
    else match d with
      | .float32 | .float64 => direct readReal d (byCellsAs d)
      | .boolean => direct readFlag d (byCellsAs d)
      | .string | .categorical => direct readText d (byCellsAs d)
      | .null => pure ⟨name, .null, values.map fun _ => .null⟩
      | .decimal _ _ => decimalColumn name values cells
      | .date | .datetime | .duration | .time => do
        let c ← byCells
        pure { c with dtype := d }
      | .object =>
        pure ⟨name, .object, cells.map fun c => match c with | .ok c => c | .error _ => .null⟩
      | d =>
        match d.intRange? with
        | some (lo, hi) => direct (readWhole lo hi) d (byCellsAs d)
        | Option.none => byCellsAs d

/-- The number of distinct types among cells, and their common type; refused when two have no
common type. -/
def commonType (cs : List Cell) : Except Fault (DType × Nat) := do
  let (common, seen) ← cs.foldlM (fun (acc : DType × List DType) c => do
    let d := c.dtype
    match acc.1.common? d with
    | some e => pure (e, if acc.2.contains d then acc.2 else d :: acc.2)
    | Option.none => throw (.noCommonType acc.1 d c)) (DType.null, [])
  pure (common, seen.length)

/-- The cell a list value becomes, given its items as cells on their own: an empty list holds
nulls; a list whose first 25 items share one flat type is built as a column; any other is built
strictly as the common type of those first items. -/
def listCell (items : List Value) (cells : List (Except Fault Cell)) : Except Fault Cell :=
  if items.isEmpty then pure (.list .null [])
  else do
    let head ← (cells.take 25).mapM id
    let (common, kinds) ← commonType head
    if common.isPrimitive && kinds = 1 then
      let col ← Column.build Text.empty items Option.none cells
      pure (.list col.dtype col.cells)
    else
      let col ← Column.ofCellsAs Text.empty (← cells.mapM id) common
      pure (.list col.dtype col.cells)

/-- Whether an integer fits some integer column type. -/
def fitsSomeColumn (i : Int) : Bool :=
  -(Int.ofNat (Nat.pow 2 127)) ≤ i && i < Int.ofNat (Nat.pow 2 128)

mutual

/-- A value taken as a cell on its own. -/
def Value.toCell : Value → Except Fault Cell
  | .none => pure .null
  | .bool b => pure (.flag b)
  | .int i => if fitsSomeColumn i then pure (.whole i) else throw (.intBeyondColumns i)
  | .float x => pure (.real x)
  | .str t => pure (.text t)
  | .list xs => listCell xs (Value.toCells xs)
  | .tuple xs => listCell xs (Value.toCells xs)
  | .dict kvs => Cell.record <$> Value.toFieldCells kvs
  | _ => pure .null

/-- Values taken as cells on their own, each with its own outcome. -/
def Value.toCells : List Value → List (Except Fault Cell)
  | [] => []
  | v :: vs => v.toCell :: Value.toCells vs

/-- The entries of a table taken as named cells. -/
def Value.toFieldCells : List (Text × Value) → Except Fault (List (Text × Cell))
  | [] => pure []
  | (k, v) :: rest => do
    let c ← v.toCell
    let r ← Value.toFieldCells rest
    pure ((k, c) :: r)

end

/-- A schema of column types named by bare kinds, refused at the first kind that stands for no
column type until it is given parameters. -/
def columnTypesOf (cols : List (Text × DType)) : Except Fault (List (Text × DType)) :=
  cols.mapM fun (n, d) => if d.needsParameters then throw (.parametersNeeded d) else pure (n, d)

/-- The description of a column to build: its name, its values, and its type if given. -/
structure ColumnSpec where
  name : Text
  values : List Value
  dtype : Option DType := Option.none

/-- A frame of columns built from their descriptions, in order; the columns must have equal
heights. -/
def Frame.build (specs : List ColumnSpec) : Except Fault Frame := do
  let columns ← specs.mapM fun s => Column.build s.name s.values s.dtype (Value.toCells s.values)
  match columns with
  | [] => pure ⟨[]⟩
  | c :: rest =>
    if rest.all fun r => r.height = c.height then pure ⟨columns⟩ else throw .unevenColumns

end Upsert
