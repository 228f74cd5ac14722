import Upsert.Frame
import Upsert.Decimal.Shortest

/-!
# Printing cells and columns

Cells are printed in messages about building a column and in the printed form of a column.
Nulls print as `null`, booleans as `true` and `false`, texts between double quotes, lists with
at most three items shown (`[1, 2, … 9]`), and records as their cells between braces.

Floats follow their own rules, in exact arithmetic on the binary value:

* an integral float below `999999` in size keeps one decimal: `2.0`, `-0.0`;
* otherwise, when its shortest plain form (`2.5`, `1000000`, `0.0000001`) is longer than nine
  characters, a float below `10^-6` or above `999999` in size gets five significant digits and
  an exponent (`1.2346e10`), and any other gets six decimals with the trailing zeros dropped;
* otherwise an integral float is written with an exponent (`1e6`) and any other plainly.

A printed column shows its length, name and short type, then one cell per line, the middle
rows elided past ten rows and texts cut after thirty characters.
-/

namespace Upsert

namespace Decimal

/-- `num / den` with `n` decimals, rounded half to even, as a count of `10^-n`. -/
def fixedCount (num den n : Nat) : Nat := roundHalfEven (num * Nat.pow 10 n) den

/-- The `n + 1` leading significant digits of a positive `num / den`, rounded half to even,
with the decimal exponent of the first digit. -/
def significant (num den n : Nat) : Nat × Int :=
  let e := log10Floor num den
  let (a, b) := scaleTen 1 (e - n)
  let d := roundHalfEven (num * b) (den * a)
  if d ≥ Nat.pow 10 (n + 1) then (d / 10, e + 1) else (d, e)

/-- The shortest digits of a positive binary value in plain notation, without an exponent and
without a point when the value is integral. -/
def plainText (m : Nat) (q : Int) : List Nat :=
  let s := shortest m q
  let ds := (Text.ofNat s.digits).points
  if 0 ≤ s.exponent then ds ++ List.replicate s.exponent.toNat 48
  else
    let k := (-s.exponent).toNat
    if k < ds.length then ds.take (ds.length - k) ++ [46] ++ ds.drop (ds.length - k)
    else [48, 46] ++ List.replicate (k - ds.length) 48 ++ ds

/-- The shortest digits of a positive binary value as one digit, the others after a point, and
an exponent: `1e6`, `1.5e7`. -/
def exponentText (m : Nat) (q : Int) : List Nat :=
  let s := shortest m q
  let ds := (Text.ofNat s.digits).points
  let mantissa := match ds with
    | d :: rest@(_ :: _) => d :: 46 :: rest
    | ds => ds
  mantissa ++ [101] ++ (Text.ofInt (s.exponent + ds.length - 1)).points

/-- Digits without the zeros that end them. -/
def dropTrailingZeros (ds : List Nat) : List Nat :=
  (ds.reverse.dropWhile (· = 48)).reverse

end Decimal

/-- A float as a cell prints. -/
def floatCellText (x : Binary64) : Text :=
  match Decimal.Binary.ofFloat x with
  | .nan => "NaN"
  | .infinite neg => if neg then "-inf" else "inf"
  | .finite neg m q =>
    let sign : List Nat := if neg then [45] else []
    let (num, den) := Decimal.scaleTwo m q
    let integral := num % den = 0
    if integral && Decimal.fracLt (num, den) (999999, 1) then
      ⟨sign ++ (Text.ofNat (num / den)).points ++ [46, 48]⟩
    else
      let plain := Decimal.plainText m q
      if sign.length + plain.length > 9 then
        if Decimal.fracLt (num, den) (1, 1000000) || Decimal.fracLt (999999, 1) (num, den) then
          let (d, e) := Decimal.significant num den 4
          let ds := (Text.ofNat d).points
          ⟨sign ++ ds.take 1 ++ [46] ++ ds.drop 1 ++ [101] ++ (Text.ofInt e).points⟩
        else
          let n := Decimal.fixedCount num den 6
          let frac := (Text.ofNat (n % 1000000)).points
          let frac := Decimal.dropTrailingZeros (List.replicate (6 - frac.length) 48 ++ frac)
          ⟨sign ++ (Text.ofNat (n / 1000000)).points ++ [46] ++
            (if frac.isEmpty then [48] else frac)⟩
      else if integral then ⟨sign ++ Decimal.exponentText m q⟩
      else ⟨sign ++ plain⟩

/-- A decimal `mantissa * 10^-scale` with all its `scale` decimals. -/
def decimalCellText (mantissa : Int) (scale : Nat) : Text :=
  let sign : List Nat := if mantissa < 0 then [45] else []
  let ds := (Text.ofNat mantissa.natAbs).points
  let ds := List.replicate (scale + 1 - ds.length) 48 ++ ds
  if scale = 0 then ⟨sign ++ ds⟩
  else ⟨sign ++ ds.take (ds.length - scale) ++ [46] ++ ds.drop (ds.length - scale)⟩

/-- Items of a list as a list prints them: all of them up to three, else the first two, an
ellipsis and the last. -/
def listCellText (items : List Text) : Text :=
  match items with
  | [] => "[]"
  | a :: b :: _ :: _ :: _ =>
    "[" ++ a ++ ", " ++ b ++ ", … " ++ items.getLast?.getD Text.empty ++ "]"
  | _ => "[" ++ Text.join ", " items ++ "]"

/-- The integer type an integer cell has taken alone: the first of `Int64`, `UInt64`,
`Int128` and `UInt128` that holds it. -/
def wholeType (i : Int) : DType :=
  let fits (d : DType) : Bool := match d.intRange? with
    | some (lo, hi) => lo ≤ i && i ≤ hi
    | Option.none => false
  if fits .int64 then .int64
  else if fits .uint64 then .uint64
  else if fits .int128 then .int128
  else .uint128

namespace Cell

mutual

/-- The type of a cell taken alone. -/
def dtype : Cell → DType
  | .null => .null
  | .flag _ => .boolean
  | .whole i => wholeType i
  | .real _ => .float64
  | .text _ => .string
  | .decimal _ s => .decimal 38 s
  | .list d _ => .list d
  | .record fs => .struct (fieldTypes fs)

/-- The types of named cells. -/
def fieldTypes : List (Text × Cell) → List (Text × DType)
  | [] => []
  | (n, c) :: rest => (n, dtype c) :: fieldTypes rest

end

mutual

/-- A cell as it prints. -/
def display : Cell → Text
  | .null => "null"
  | .flag b => if b then "true" else "false"
  | .whole i => Text.ofInt i
  | .real x => floatCellText x
  | .text t => "\"" ++ t ++ "\""
  | .decimal m s => decimalCellText m s
  | .list _ items => listCellText (displays items)
  | .record fs => "\x7b" ++ Text.join "," (fieldDisplays fs) ++ "\x7d"

/-- Cells as they print. -/
def displays : List Cell → List Text
  | [] => []
  | c :: rest => display c :: displays rest

/-- Named cells as a record prints them, names left out. -/
def fieldDisplays : List (Text × Cell) → List Text
  | [] => []
  | (_, c) :: rest => display c :: fieldDisplays rest

end

end Cell

/-- A count with its digits in groups of three joined by underscores: `1_000`. -/
def groupedCount (n : Nat) : Text :=
  let rev := (Text.ofNat n).points.reverse
  let groups := (List.range ((rev.length + 2) / 3)).map fun i =>
    ((rev.drop (3 * i)).take 3).reverse
  Text.join "_" (groups.reverse.map fun g => (⟨g⟩ : Text))

namespace Column

/-- A row of a printed column: texts past thirty characters are cut and marked. -/
def rowText (textual : Bool) (c : Cell) : Text :=
  match textual, c with
  | true, .text t =>
    if t.points.length ≤ 30 then c.display else "\"" ++ ⟨t.points.take 30⟩ ++ "…"
  | _, c => c.display

/-- The printed form of a column. -/
def text (c : Column) : Text :=
  let textual := match c.dtype with
    | .string | .categorical => true
    | _ => false
  let row (x : Cell) : Text := "\t" ++ rowText textual x ++ "\n"
  let rows : List Text :=
    if c.height > 10 then
      (c.cells.take 5).map row ++ [("\t…\n" : Text)] ++ (c.cells.drop (c.height - 5)).map row
    else c.cells.map row
  "shape: (" ++ groupedCount c.height ++ ",)\nSeries: '" ++ c.name ++ "' [" ++
    c.dtype.shortText ++ "]\n[\n" ++ Text.join Text.empty rows ++ "]"

end Column

end Upsert
