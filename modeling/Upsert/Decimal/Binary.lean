/-!
# Binary64 numbers by their bits

A binary64 float is known by its 64 bits: a sign, an exponent field and a fraction. This module
reads that split off the bits, so that the decimal reader and writer beside it work in exact `Nat`
arithmetic and never in floating point, and it gives the comparisons of IEEE 754 on the bits: a NaN
is unordered and equal to nothing, and the two zeros are equal.
-/

namespace Upsert

/-- A binary64 number, known by its bits. -/
structure Binary64 where
  bits : UInt64
deriving Inhabited

namespace Decimal

/-- What the bits of a binary64 number stand for. -/
inductive Binary where
  /-- Not a number. -/
  | nan
  /-- An infinity. -/
  | infinite (negative : Bool)
  /-- The value `(-1)^negative * significand * 2^exponent`; a zero has significand `0`. -/
  | finite (negative : Bool) (significand : Nat) (exponent : Int)

namespace Binary

/-- Width of the stored fraction. -/
def fractionBits : Nat := 52

/-- The exponent of the least subnormal, `2^-1074`. -/
def leastExponent : Int := -1074

/-- The split of the bits of a binary64 number. -/
def ofBits (b : UInt64) : Binary :=
  let n := b.toNat
  let negative := n ≥ Nat.pow 2 63
  let field : Nat := (n / Nat.pow 2 52) % Nat.pow 2 11
  let fraction : Nat := n % Nat.pow 2 52
  if field = 2047 then (if fraction = 0 then .infinite negative else .nan)
  else if field = 0 then .finite negative fraction leastExponent
  else .finite negative (fraction + Nat.pow 2 52) ((field : Int) - 1075)

/-- The split of a binary64 number. -/
def ofFloat (x : Binary64) : Binary := ofBits x.bits

end Binary

/-- The bits of the binary64 number with the given sign, biased exponent field and fraction. -/
def bitsOf (negative : Bool) (field fraction : Nat) : UInt64 :=
  UInt64.ofNat ((if negative then Nat.pow 2 63 else 0) + field * Nat.pow 2 52 + fraction)

/-- The infinity of the given sign. -/
def infinity (negative : Bool) : Binary64 := ⟨bitsOf negative 2047 0⟩

/-- The zero of the given sign. -/
def zero (negative : Bool) : Binary64 := ⟨bitsOf negative 0 0⟩

/-- The quiet NaN. -/
def nan : Binary64 := ⟨bitsOf false 2047 (Nat.pow 2 51)⟩

end Decimal

namespace Binary64

/-- True for a NaN. -/
def isNaN (x : Binary64) : Bool :=
  match Decimal.Binary.ofFloat x with
  | .nan => true
  | _ => false

/-- True for either infinity. -/
def isInf (x : Binary64) : Bool :=
  match Decimal.Binary.ofFloat x with
  | .infinite _ => true
  | _ => false

/-- The place of a number on the binary64 line: the bits of its magnitude, negated when the sign is
set. Magnitude bits grow with the magnitude, infinities last, and both zeros stand at `0`. -/
def key (x : Binary64) : Int :=
  let n := x.bits.toNat
  let magnitude : Int := n % Nat.pow 2 63
  if n ≥ Nat.pow 2 63 then -magnitude else magnitude

/-- `x < y`, false when either is a NaN. -/
def lt (x y : Binary64) : Bool := !x.isNaN && !y.isNaN && decide (x.key < y.key)

/-- `x ≤ y`, false when either is a NaN. -/
def le (x y : Binary64) : Bool := !x.isNaN && !y.isNaN && decide (x.key ≤ y.key)

/-- `x == y`, false when either is a NaN; the two zeros are equal. -/
def beq (x y : Binary64) : Bool := !x.isNaN && !y.isNaN && x.key == y.key

instance : LT Binary64 := ⟨fun x y => x.lt y = true⟩

instance : LE Binary64 := ⟨fun x y => x.le y = true⟩

instance (x y : Binary64) : Decidable (x < y) := inferInstanceAs (Decidable (x.lt y = true))

instance (x y : Binary64) : Decidable (x ≤ y) := inferInstanceAs (Decidable (x.le y = true))

instance : BEq Binary64 := ⟨beq⟩

end Binary64

end Upsert
