import Upsert.Fault
import Upsert.Text.Blank
import Upsert.Text.Digit

/-!
# Numbers from values

Conversions of values to floats and integers, as settings need them.

Text is read after a first pass that makes every Unicode decimal digit its ASCII digit, every
blank a space and any other code point outside ASCII a `?`, which no number admits. Underscores may
group digits: each must stand between two digits. Blanks around the number are ignored.
A float text is a decimal with an optional exponent, or `inf`, `infinity` or `nan` in any case,
each with an optional sign; it reads as the nearest float, overflowing to an infinity. An integer
text is an optional sign and decimal digits; more than 4300 digits are refused.
-/

namespace Upsert

namespace NumberText

/-- The first pass: ASCII as it is, blanks as spaces, decimal digits as ASCII digits, and `?`
for any other code point. -/
def asciiForm (cs : List Nat) : List Nat :=
  cs.map fun c =>
    if c < 127 then c
    else if Text.isBlank c then 32
    else match Text.digitValue? c with
      | some d => d + 48
      | none => 63

/-- ASCII digits. -/
def isDigit (c : Nat) : Bool := 48 ≤ c && c ≤ 57

/-- ASCII whitespace: space, tab, line feed, vertical tab, form feed, carriage return. -/
def isSpace (c : Nat) : Bool := c = 32 || (9 ≤ c && c ≤ 13)

/-- Digits as a number. -/
def digitsValue (ds : List Nat) : Nat := ds.foldl (fun a d => a * 10 + (d - 48)) 0

/-- True when every underscore stands between two digits. -/
def underscoresBetweenDigits : List Nat → Nat → Bool
  | [], _ => true
  | c :: rest, prev =>
    (c ≠ 95 || (isDigit prev && isDigit (rest.headD 0))) && underscoresBetweenDigits rest c

/-- The text without underscores, when every underscore stands between two digits. -/
def dropUnderscores (cs : List Nat) : Option (List Nat) :=
  if underscoresBetweenDigits cs 0 then some (cs.filter (· ≠ 95)) else none

/-- Lowercase ASCII letters. -/
def lowerAscii (cs : List Nat) : List Nat := cs.map fun c => if 65 ≤ c && c ≤ 90 then c + 32 else c

/-- The sign of a number text and the rest. -/
def sign (cs : List Nat) : Bool × List Nat :=
  match cs with
  | 45 :: rest => (true, rest)
  | 43 :: rest => (false, rest)
  | _ => (false, cs)

/-- A decimal `digits.digits` with an optional exponent, as mantissa and exponent of ten. -/
def decimal (cs : List Nat) : Option (Nat × Int) :=
  let intPart := cs.takeWhile isDigit
  let rest := cs.dropWhile isDigit
  let (fracPart, rest) := match rest with
    | 46 :: r => (r.takeWhile isDigit, r.dropWhile isDigit)
    | r => ([], r)
  if intPart.isEmpty && fracPart.isEmpty then none
  else
    let expPart : Option Int := match rest with
      | [] => some 0
      | e :: r =>
        if e = 101 || e = 69 then
          let (neg, ds) := sign r
          if !ds.isEmpty && ds.all isDigit then
            let v : Int := digitsValue ds
            some (if neg then -v else v)
          else none
        else none
    expPart.map fun e => (digitsValue (intPart ++ fracPart), e - fracPart.length)

/-- The float of a bare number text: an optional sign, then `inf`, `infinity` or `nan` in any
case, or a decimal with an optional exponent, and nothing around it. -/
def plainFloat? (cs : List Nat) : Option Binary64 :=
  let (neg, body) := sign cs
  let word := lowerAscii body
  if word = (Text.ofString "inf").points || word = (Text.ofString "infinity").points then
    some (Decimal.infinity neg)
  else if word = (Text.ofString "nan").points then some Decimal.nan
  else (decimal body).map fun (m, e) => Decimal.ofScientific neg m e

/-- The float a text denotes, if any. -/
def float? (t : Text) : Option Binary64 := do
  let cs := asciiForm t.points
  let cs ← if cs.contains 95 then dropUnderscores cs else some cs
  plainFloat? (Text.trimBy isSpace cs)

/-- The integer a text denotes, or why not. -/
def int? (t : Text) : Except Fault Int :=
  let (neg, body) := sign ((asciiForm t.points).dropWhile isSpace)
  let run := body.takeWhile fun c => isDigit c || c = 95
  let digits := run.filter isDigit
  -- an underscore first, two in a row or one last end the digits in error; the count of the
  -- digits is checked before anything after them
  let badGrouping := run.head? = some 95 || run.getLast? = some 95 ||
    (run.zip run.tail).any fun p => p.1 = 95 && p.2 = 95
  if badGrouping then throw (.notIntText t)
  else if digits.length > 4300 then throw (.tooManyDigits digits.length)
  else if digits.isEmpty || !((body.drop run.length).all isSpace) then throw (.notIntText t)
  else
    let v : Int := digitsValue digits
    pure (if neg then -v else v)

end NumberText

namespace Value

/-- True for a float that is finite and a whole number. -/
def isWholeFloat (x : Binary64) : Bool :=
  match Decimal.Binary.ofFloat x with
  | .finite _ m q => m = 0 || 0 ≤ q || m % Nat.pow 2 (-q).toNat = 0
  | _ => false

/-- The whole number a finite float holds, rounded toward zero. -/
def floatTruncate (x : Binary64) : Int :=
  match Decimal.Binary.ofFloat x with
  | .finite neg m q =>
    let n : Nat := if 0 ≤ q then m * Nat.pow 2 q.toNat else m / Nat.pow 2 (-q).toNat
    if neg then -(n : Int) else n
  | _ => 0

/-- The float a value converts to: numbers and flags directly, texts by the float grammar, and bytes
by the same grammar when they are all ASCII, as no other byte can stand in a number. -/
def toFloat (v : Value) : Except Fault Binary64 :=
  match v with
  | .float x => pure x
  | .int i =>
    let x := Decimal.ofInt i
    if x.isInf then throw .intTooLarge else pure x
  | .bool b => pure (if b then 1.0 else 0.0)
  | .str t =>
    match NumberText.float? t with
    | some x => pure x
    | Option.none => throw (.notFloatText t)
  | .bytes b =>
    match if b.all (· < 128) then NumberText.float? ⟨b⟩ else Option.none with
    | some x => pure x
    | Option.none => throw (.notFloatBytes b)
  | v => throw (.notFloatable v.qualifiedTypeName)

/-- The integer a value converts to: integers and flags directly, floats rounded toward zero,
texts by the integer grammar, and bytes by the same grammar when they are all ASCII. Bytes that
are not a literal are shown as bytes; too many digits are refused as in a text. -/
def toInt (v : Value) : Except Fault Int :=
  match v with
  | .int i => pure i
  | .bool b => pure (if b then 1 else 0)
  | .float x => pure (floatTruncate x)
  | .str t => NumberText.int? t
  | .bytes b =>
    match if b.all (· < 128) then NumberText.int? ⟨b⟩ else throw (.notIntText ⟨b⟩) with
    | .error (.notIntText _) => throw (.notIntBytes b)
    | r => r
  | v => throw (.notIntegral v.qualifiedTypeName)

end Value

end Upsert
