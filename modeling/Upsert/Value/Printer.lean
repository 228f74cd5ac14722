import Upsert.Value.Basic
import Upsert.Decimal.Shortest
import Upsert.Frame.Show
import Upsert.Text.Quoted

/-!
# Printing values

Every value has two printed forms. `Value.repr` is the form that shows what the value is: texts
quoted, collections in brackets with their items in that form, objects as a constructor call.
`Value.toText` is the form meant for reading: a text is itself, a path its path text, a date its
ISO form, a record its fields without the record's name; for the other kinds it is the `repr`.

Floats are written by `floatLayout`, with the shortest digits that read back (`Decimal.shortest`).
-/

namespace Upsert

/-- Where a float is written positionally and how its exponent looks otherwise. -/
structure FloatLayout where
  /-- With the value written `0.d₁d₂… × 10^p`, positional notation is used when
  `lowest < p ≤ highest`. -/
  lowest : Int
  highest : Int
  /-- The least number of exponent digits. -/
  exponentDigits : Nat
  nanText : Text
  infText : Text

/-- Floats are positional from `0.0001` to below `10^16` and always show a fraction there
(`3000.0`); outside, one digit stands before the point and the exponent has a sign and at least
two digits (`1e+16`, `5e-324`). -/
def floatLayout : FloatLayout := ⟨-4, 16, 2, "nan", "inf"⟩

namespace FloatLayout

/-- Zeros. -/
def zeros (n : Nat) : List Nat := List.replicate n 48

/-- Digits `ds` with the point after position `p`, at least one digit on either side. -/
def positional (ds : List Nat) (p : Int) : List Nat :=
  if p ≤ 0 then [48, 46] ++ zeros (-p).toNat ++ ds
  else if p.toNat < ds.length then ds.take p.toNat ++ [46] ++ ds.drop p.toNat
  else ds ++ zeros (p.toNat - ds.length) ++ [46, 48]

/-- Digits `ds` as one digit, a point and the rest, then the exponent. -/
def exponential (l : FloatLayout) (ds : List Nat) (e : Int) : List Nat :=
  let mantissa := match ds with
    | [] => [48]
    | [d] => [d]
    | d :: rest => d :: 46 :: rest
  let expDigits := (Nat.toDigits 10 e.natAbs).map Char.toNat
  mantissa ++ [101, if e < 0 then 45 else 43] ++
    zeros (l.exponentDigits - expDigits.length) ++ expDigits

/-- The text of a float. -/
def render (l : FloatLayout) (x : Binary64) : Text :=
  match Decimal.Binary.ofFloat x with
  | .nan => l.nanText
  | .infinite neg => (if neg then ("-" : Text) else Text.empty) ++ l.infText
  | .finite neg m q =>
    let sign : List Nat := if neg then [45] else []
    if m = 0 then ⟨sign ++ [48, 46, 48]⟩
    else
      let s := Decimal.shortest m q
      let ds := (Nat.toDigits 10 s.digits).map Char.toNat
      let p : Int := ds.length + s.exponent
      if l.lowest < p ∧ p ≤ l.highest then ⟨sign ++ positional ds p⟩
      else ⟨sign ++ l.exponential ds (p - 1)⟩

end FloatLayout

namespace Value

/-- The text of a float. -/
def floatText (x : Binary64) : Text := floatLayout.render x

/-- `<HashFunction.MD5: 'md5'>`. -/
def memberRepr (m : Member) : Text :=
  "<" ++ m.choice.name ++ "." ++ m.name ++ ": " ++ Text.quote m.value ++ ">"

/-- A list of texts, each quoted. -/
def textsRepr (ts : List Text) : Text := "[" ++ Text.join ", " (ts.map Text.quote) ++ "]"

/-- An optional text: quoted, or `None`. -/
def optionTextRepr : Option Text → Text
  | some t => Text.quote t
  | Option.none => "None"

/-- The fields of a schema, each with its value shown. -/
def schemaFields (s : Schema) : List (Text × Text) :=
  [("schema_name", Text.quote s.name),
   ("columns", "\x7b" ++ Text.join ", "
      (s.columns.map fun (n, d) => Text.quote n ++ ": " ++ Text.quote d) ++ "\x7d"),
   ("primary_key_columns", textsRepr s.primaryKey)]

/-- The fields of an upsert section, each with its value shown. -/
def sectionFields (u : UpsertSection) : List (Text × Text) :=
  [("mode", memberRepr (.mode u.mode)),
   ("comparison_columns", match u.comparison with | some cs => textsRepr cs | Option.none => "None"),
   ("delete_record_column", optionTextRepr u.deleteColumn),
   ("hash_function", memberRepr (.hash u.hashFunction)),
   ("enable_snapshot", if u.snapshot then "True" else "False"),
   ("enable_preload", if u.preload then "True" else "False"),
   ("metadata_ttl", floatText u.metadataTtl),
   ("deleted_keys_ttl", floatText u.deletedKeysTtl),
   ("consistency_mode",
      match u.consistency with | some c => memberRepr (.consistency c) | Option.none => "None"),
   ("upsert_view_refresh_interval_ms", Text.ofInt u.refreshInterval),
   ("drop_out_of_order_record", if u.dropOutOfOrder then "True" else "False"),
   ("enable_deleted_keys_compaction_consistency", if u.compaction then "True" else "False")]

/-- A record's name with its fields as `name=value`, between parentheses. -/
def recordRepr (title : Text) (fields : List (Text × Text)) : Text :=
  title ++ "(" ++ Text.join ", " (fields.map fun (k, v) => k ++ "=" ++ v) ++ ")"

/-- The fields of a table config, each with its value shown. -/
def tableFields (t : TableConfig) : List (Text × Text) :=
  [("table_name", Text.quote t.name),
   ("time_column_name", optionTextRepr t.timeColumn),
   ("upsert_config", match t.upsert with
      | some u => recordRepr RecordKind.upsertSection.title (sectionFields u)
      | Option.none => "None")]

/-- A record's fields as `name=value`, separated by blanks. -/
def fieldsText (fields : List (Text × Text)) : Text :=
  Text.join " " (fields.map fun (k, v) => k ++ "=" ++ v)

/-- Items between parentheses; a single item is followed by a comma. -/
def tupleText : List Text → Text
  | [x] => "(" ++ x ++ ",)"
  | xs => "(" ++ Text.join ", " xs ++ ")"

mutual

/-- The form of a value that shows what it is. -/
def repr : Value → Text
  | .none => "None"
  | .bool b => if b then "True" else "False"
  | .int i => Text.ofInt i
  | .float x => floatText x
  | .str t => Text.quote t
  | .bytes b => Text.quoteBytes b
  | .list xs => "[" ++ Text.join ", " (reprItems xs) ++ "]"
  | .tuple xs => tupleText (reprItems xs)
  | .iter _ => "<list_iterator object>"
  | .dict kvs => "\x7b" ++ Text.join ", " (reprEntries kvs) ++ "\x7d"
  | .path p => "PosixPath(" ++ Text.quote p ++ ")"
  | .pathLike v => "PathLikeObject(" ++ repr v ++ ")"
  | .token l => "Opaque(" ++ Text.quote l ++ ")"
  | .member m => memberRepr m
  | .dtype d => d.name
  | .dtypeValue d => d.valueText
  | .columnTypes cols =>
    if cols.isEmpty then "Schema()"
    else
      "Schema([" ++ Text.join ", "
        (cols.map fun (n, d) => "(" ++ Text.quote n ++ ", " ++ d.valueText ++ ")") ++ "])"
  | .frame f => "shape: (" ++ Text.ofNat f.height ++ ", " ++ Text.ofNat f.columns.length ++ ")"
  | .lazyFrame _ => "<LazyFrame>"
  | .series c => c.text
  | .schema s => recordRepr RecordKind.schema.title (schemaFields s)
  | .section u => recordRepr RecordKind.upsertSection.title (sectionFields u)
  | .table t => recordRepr RecordKind.tableConfig.title (tableFields t)
  | .date d => d.construct
  | .clock c => c.construct
  | .moment t => t.construct

/-- The items of a collection, each in the form that shows what it is. -/
def reprItems : List Value → List Text
  | [] => []
  | x :: xs => repr x :: reprItems xs

/-- An entry of a table as `'key': value`. -/
def reprEntry : Text × Value → Text
  | (k, v) => Text.quote k ++ ": " ++ repr v

/-- The entries of a table as `'key': value`. -/
def reprEntries : List (Text × Value) → List Text
  | [] => []
  | e :: kvs => reprEntry e :: reprEntries kvs

end

/-- The form of a value meant for reading. -/
def toText : Value → Text
  | .str t => t
  | .path p => p
  | .member m => m.choice.name ++ "." ++ m.name
  | .date d => d.iso
  | .clock c => c.iso
  | .moment t => t.iso
  | .schema s => fieldsText (schemaFields s)
  | .section u => fieldsText (sectionFields u)
  | .table t => fieldsText (tableFields t)
  | v => repr v

end Value

end Upsert
