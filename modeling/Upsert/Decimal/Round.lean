import Upsert.Decimal.Binary

/-!
# Rounding a rational to binary64

`Decimal.round` maps a non-negative rational `num / den` with a sign to the nearest binary64
number, a tie going to the even significand, and to an infinity past the largest finite number.
It is the one reader of numbers in the library: decimal literals (`n * 10^e`) and integers both
go through it, in exact `Nat` arithmetic.
-/

namespace Upsert.Decimal

/-- `a / b` rounded to the nearest natural number, a tie going to the even one. -/
def roundHalfEven (a b : Nat) : Nat :=
  let q := a / b
  let r := a % b
  if 2 * r > b then q + 1
  else if 2 * r < b then q
  else if q % 2 = 0 then q else q + 1

/-- `a * 2^k` for an integer `k`, as a fraction `(num, den)`. -/
def scaleTwo (a : Nat) (k : Int) : Nat × Nat :=
  if 0 ≤ k then (a * Nat.pow 2 k.toNat, 1) else (a, Nat.pow 2 (-k).toNat)

/-- The `b` with `2^b ≤ num / den < 2^(b+1)`, for positive `num` and `den`. -/
def log2Floor (num den : Nat) : Int :=
  let b : Int := (num.log2 : Int) - den.log2
  let (p, q) := scaleTwo den b
  -- `num / den ≥ 2^b` exactly when `num * q ≥ p`
  if num * q ≥ p then b else b - 1

/-- The binary64 number nearest to `(-1)^negative * num / den`, for positive `den`. -/
def round (negative : Bool) (num den : Nat) : Binary64 :=
  if num = 0 then zero negative
  else
    let b := log2Floor num den
    if b < -1022 then
      -- subnormal range: count in units of `2^-1074`; a carry into `2^52` is the least normal
      let (p, q) := scaleTwo num 1074
      ⟨bitsOf negative 0 (roundHalfEven p (q * den))⟩
    else
      let (p, q) := scaleTwo num (52 - b)
      let m := roundHalfEven p (q * den)
      -- rounding may carry into the next binade
      let (m, b) := if m = Nat.pow 2 53 then (Nat.pow 2 52, b + 1) else (m, b)
      if b > 1023 then infinity negative
      else ⟨bitsOf negative (b + 1023).toNat (m - Nat.pow 2 52)⟩

/-- The binary64 number nearest to `(-1)^negative * digits * 10^exponent`. Decimals whose
magnitude is far outside the range of binary64 go to an infinity or a zero at once. -/
def ofScientific (negative : Bool) (digits : Nat) (exponent : Int) : Binary64 :=
  let magnitude : Int := (Nat.toDigits 10 digits).length + exponent
  if digits = 0 then zero negative
  else if magnitude > 400 then infinity negative
  else if magnitude < -400 then zero negative
  else if 0 ≤ exponent then round negative (digits * Nat.pow 10 exponent.toNat) 1
  else round negative digits (Nat.pow 10 (-exponent).toNat)

/-- The binary64 number nearest to an integer. -/
def ofInt (i : Int) : Binary64 := round (i < 0) i.natAbs 1

/-- A decimal literal stands for the binary64 number nearest to it. -/
instance : OfScientific Binary64 := ⟨fun m s e => ofScientific false m (if s then -(e : Int) else e)⟩

/-- A numeral stands for the binary64 number nearest to it. -/
instance {n : Nat} : OfNat Binary64 n := ⟨ofScientific false n 0⟩

end Upsert.Decimal
