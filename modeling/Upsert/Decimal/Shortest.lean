import Upsert.Decimal.Round

/-!
# Shortest decimal of a binary64 number

`shortest m q` is the decimal `digits * 10^exponent` with the fewest digits that reads back as
the positive binary64 number `m * 2^q`, and of those the one nearest to it. The numbers that
read back as `m * 2^q` form the interval between the midpoints to its two neighbours, the ends
included when `m` is even (a tie reads back to the even significand). For `k = 1, 2, …` the
search takes the two multiples of `10^(E - k + 1)` around the value, `E` its decimal magnitude;
the first `k` for which one of them lies in the interval decides, since when any `k`-digit
decimal lies in the interval, so does one of these two.
-/

namespace Upsert.Decimal

/-- A decimal `digits * 10^exponent`. -/
structure Scientific where
  digits : Nat
  exponent : Int
deriving DecidableEq, Repr

/-- `a * 10^k` for an integer `k`, as a fraction `(num, den)`. -/
def scaleTen (a : Nat) (k : Int) : Nat × Nat :=
  if 0 ≤ k then (a * Nat.pow 10 k.toNat, 1) else (a, Nat.pow 10 (-k).toNat)

/-- `a₁ / b₁ ≤ a₂ / b₂` for positive denominators. -/
def fracLe (x y : Nat × Nat) : Bool := x.1 * y.2 ≤ y.1 * x.2

/-- `a₁ / b₁ < a₂ / b₂` for positive denominators. -/
def fracLt (x y : Nat × Nat) : Bool := x.1 * y.2 < y.1 * x.2

/-- The `E` with `10^E ≤ num / den < 10^(E+1)`, for positive `num` and `den`. -/
def log10Floor (num den : Nat) : Int :=
  let e : Int := ((Nat.toDigits 10 num).length : Int) - (Nat.toDigits 10 den).length
  -- the true value is `e` or `e - 1`
  if fracLe (scaleTen 1 e) (num, den) then e else e - 1

/-- Removes trailing zeros of the digits into the exponent. -/
def Scientific.normalize (s : Scientific) : Scientific :=
  go s.digits.log2 s
where
  go : Nat → Scientific → Scientific
    | 0, s => s
    | fuel + 1, s =>
      if s.digits ≠ 0 ∧ s.digits % 10 = 0 then go fuel ⟨s.digits / 10, s.exponent + 1⟩ else s

/-- The shortest decimal that reads back as `m * 2^q` (`m > 0`), the nearest of those. -/
def shortest (m : Nat) (q : Int) : Scientific :=
  let value := scaleTwo m q
  -- the lower neighbour is closer when `m` is the least significand of a binade above it
  let lowerCloser := m = Nat.pow 2 52 ∧ q > Binary.leastExponent
  let low := if lowerCloser then scaleTwo (4 * m - 1) (q - 2) else scaleTwo (2 * m - 1) (q - 1)
  let high := scaleTwo (2 * m + 1) (q - 1)
  let inside (c : Nat × Nat) : Bool :=
    if m % 2 = 0 then fracLe low c && fracLe c high else fracLt low c && fracLt c high
  let mag := log10Floor value.1 value.2
  let rec search : Nat → Nat → Scientific
    | 0, _ => ⟨m, 0⟩
    | fuel + 1, k =>
      let e : Int := mag - k + 1
      let grid := scaleTen 1 e
      -- `d = ⌊value / 10^e⌋`
      let d := (value.1 * grid.2) / (value.2 * grid.1)
      let cLo := scaleTen d e
      let cHi := scaleTen (d + 1) e
      match inside cLo, inside cHi with
      | true, false => (⟨d, e⟩ : Scientific).normalize
      | false, true => (⟨d + 1, e⟩ : Scientific).normalize
      | true, true =>
        -- both read back: the nearer wins, a tie goes to the even digit; the two candidates
        -- share a denominator, so the distances compare by their numerators
        let dLo := value.1 * cLo.2 - cLo.1 * value.2
        let dHi := cHi.1 * value.2 - value.1 * cHi.2
        let pick := if dLo < dHi then d
          else if dLo > dHi then d + 1
          else if d % 2 = 0 then d else d + 1
        (⟨pick, e⟩ : Scientific).normalize
      | false, false => search fuel (k + 1)
  search 17 1

end Upsert.Decimal
