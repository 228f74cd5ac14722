import Upsert.Calendar
import Upsert.Decimal.Round

/-!
# Lexemes of TOML values

Scanners for the lexemes of a TOML document that are recognized by their shape: integers in four
radixes and floats (digits may be grouped by single underscores between them), local dates,
times of day and date-times with an optional offset. Each scanner looks at a document from a
position and returns where the lexeme ends with what it denotes, or nothing when the shape does
not start there.
-/

namespace Upsert.Toml

/-- The code point at a position, or `0` past the end. -/
def pointAt (src : Array Nat) (i : Nat) : Nat := src.getD i 0

/-- True when position `i` holds a code point satisfying `p`. -/
def holds (src : Array Nat) (p : Nat → Bool) (i : Nat) : Bool := i < src.size && p (pointAt src i)

/-- ASCII decimal digits. -/
def isDec (c : Nat) : Bool := 48 ≤ c && c ≤ 57

/-- ASCII hexadecimal digits. -/
def isHex (c : Nat) : Bool := isDec c || (65 ≤ c && c ≤ 70) || (97 ≤ c && c ≤ 102)

/-- The value of an ASCII hexadecimal digit. -/
def hexValue (c : Nat) : Nat := if c ≤ 57 then c - 48 else if c ≤ 70 then c - 55 else c - 87

/-- After a digit, the end of the digits that follow, each possibly after one underscore. -/
def digitsEnd (src : Array Nat) (p : Nat → Bool) (j : Nat) : Nat :=
  j + run (src.toList.drop j)
where
  /-- The length of the digits that `cs` starts with, each possibly after one underscore. -/
  run : List Nat → Nat
    | c :: d :: ds =>
      if p c then run (d :: ds) + 1 else if c = 95 && p d then run ds + 2 else 0
    | [c] => if p c then 1 else 0
    | [] => 0

/-- The digits of `src` from `i` to `j` that satisfy `p`, read in radix `r`. -/
def readDigits (src : Array Nat) (p : Nat → Bool) (r i j : Nat) : Nat :=
  ((src.extract i j).toList.filter p).foldl (fun acc c => acc * r + hexValue c) 0

/-- A number lexeme: an integer, with the count of its digits when it is written in decimal
(`0` otherwise), or a float as a decimal `digits * 10^exponent`. -/
inductive Number where
  | integer (i : Int) (decimalDigits : Nat)
  | real (negative : Bool) (digits : Nat) (exponent : Int)

/-- The number that starts at `i`, with its end. -/
def scanNumber (src : Array Nat) (i : Nat) : Option (Nat × Number) :=
  let c := pointAt src i
  let radix : Option (Nat × (Nat → Bool)) :=
    if c = 48 ∧ i + 1 < src.size then
      match pointAt src (i + 1) with
      | 120 => some (16, isHex)
      | 98 => some (2, fun d => d = 48 || d = 49)
      | 111 => some (8, fun d => 48 ≤ d && d ≤ 55)
      | _ => none
    else none
  match radix with
  | some (r, p) =>
    if holds src p (i + 2) then
      let e := digitsEnd src p (i + 3)
      some (e, .integer (readDigits src p r (i + 2) e) 0)
    else scanDecimal
  | none => scanDecimal
where
  scanDecimal : Option (Nat × Number) :=
    let negative := pointAt src i = 45
    let j := if pointAt src i = 43 || pointAt src i = 45 then i + 1 else i
    let c := pointAt src j
    let intEnd? : Option Nat :=
      if j < src.size && c = 48 then some (j + 1)
      else if j < src.size && 49 ≤ c && c ≤ 57 then some (digitsEnd src isDec (j + 1))
      else none
    match intEnd? with
    | none => none
    | some k =>
      let fracEnd := if pointAt src k = 46 && holds src isDec (k + 1)
        then digitsEnd src isDec (k + 2) else k
      let expEnd :=
        if pointAt src fracEnd = 101 || pointAt src fracEnd = 69 then
          let n := if pointAt src (fracEnd + 1) = 43 || pointAt src (fracEnd + 1) = 45
            then fracEnd + 2 else fracEnd + 1
          if holds src isDec n then digitsEnd src isDec (n + 1) else fracEnd
        else fracEnd
      let intDigits := readDigits src isDec 10 j k
      if expEnd = k then
        some (k, .integer (if negative then -(intDigits : Int) else intDigits)
          ((src.extract j k).toList.filter isDec).length)
      else
        let fracDigits := (src.extract (k + 1) fracEnd).toList.filter isDec
        let frac := if fracEnd = k then [] else fracDigits
        let mantissa := frac.foldl (fun acc d => acc * 10 + (d - 48)) intDigits
        let expValue : Int :=
          if expEnd = fracEnd then 0
          else
            let start := if pointAt src (fracEnd + 1) = 43 || pointAt src (fracEnd + 1) = 45
              then fracEnd + 2 else fracEnd + 1
            let v := readDigits src isDec 10 start expEnd
            if pointAt src (fracEnd + 1) = 45 then -(v : Int) else v
        some (expEnd, .real negative mantissa (expValue - frac.length))

/-- Two ASCII digits at `i` forming a number from `lo` to `hi`. -/
def twoDigits (src : Array Nat) (i lo hi : Nat) : Option Nat :=
  if holds src isDec i && holds src isDec (i + 1) then
    let v := (pointAt src i - 48) * 10 + (pointAt src (i + 1) - 48)
    if lo ≤ v ∧ v ≤ hi then some v else none
  else none

/-- A local date `YYYY-MM-DD` at `i`. -/
def scanDate (src : Array Nat) (i : Nat) : Option (Nat × Date) := do
  let y1 ← twoDigits src i 0 99
  let y2 ← twoDigits src (i + 2) 0 99
  if pointAt src (i + 4) ≠ 45 then none
  let m ← twoDigits src (i + 5) 1 12
  if pointAt src (i + 7) ≠ 45 then none
  let d ← twoDigits src (i + 8) 1 31
  some (i + 10, ⟨y1 * 100 + y2, m, d⟩)

/-- A time of day `HH:MM:SS` with an optional fraction at `i`; digits of the fraction past the
sixth are read over and ignored. -/
def scanClock (src : Array Nat) (i : Nat) : Option (Nat × Clock) := do
  let h ← twoDigits src i 0 23
  if pointAt src (i + 2) ≠ 58 then none
  let m ← twoDigits src (i + 3) 0 59
  if pointAt src (i + 5) ≠ 58 then none
  let s ← twoDigits src (i + 6) 0 59
  let k := i + 8
  if pointAt src k = 46 && holds src isDec (k + 1) then
    let stop := digitsOnly (k + 1)
    let ds := (src.extract (k + 1) stop).toList.take 6
    let micro := (ds ++ List.replicate (6 - ds.length) 48).foldl (fun a d => a * 10 + (d - 48)) 0
    some (stop, ⟨h, m, s, micro⟩)
  else some (k, ⟨h, m, s, 0⟩)
where
  digitsOnly (j : Nat) : Nat := j + ((src.toList.drop j).takeWhile isDec).length

/-- An offset `Z`, `z` or `±HH:MM` at `i`, in minutes. -/
def scanOffset (src : Array Nat) (i : Nat) : Option (Nat × Int) :=
  let c := pointAt src i
  if i < src.size && (c = 90 || c = 122) then some (i + 1, 0)
  else if i < src.size && (c = 43 || c = 45) then
    match twoDigits src (i + 1) 0 23, pointAt src (i + 3) == 58, twoDigits src (i + 4) 0 59 with
    | some h, true, some m =>
      let total : Int := (h * 60 + m : Nat)
      some (i + 6, if c = 45 then -total else total)
    | _, _, _ => none
  else none

/-- A date or date-time at `i`: a date, then optionally `T`, `t` or a blank, a time of day and
an offset. When no time follows the separator, the lexeme is the date alone. -/
def scanDateTime (src : Array Nat) (i : Nat) : Option (Nat × (Date ⊕ Moment)) := do
  let (k, d) ← scanDate src i
  let sep := pointAt src k
  if k < src.size && (sep = 84 || sep = 116 || sep = 32) then
    match scanClock src (k + 1) with
    | some (e, c) =>
      match scanOffset src e with
      | some (e', off) => some (e', .inr ⟨d, c, some off⟩)
      | none => some (e, .inr ⟨d, c, none⟩)
    | none => some (k, .inl d)
  else some (k, .inl d)

end Upsert.Toml
