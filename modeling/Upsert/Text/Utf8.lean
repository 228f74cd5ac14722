import Upsert.Text.Basic

/-!
# UTF-8

Decoding bytes as UTF-8 (RFC 3629) stops at the first malformed sequence and reports where it
starts, how many bytes it spans and why: a byte that cannot start a character spans one byte; a
character cut short by a byte that cannot continue it spans the bytes before that byte; a
character cut short by the end of the data spans the rest of the data. Encoding writes every
code point below `0x110000` in the usual one to four bytes.
-/

namespace Upsert.Text

/-- Why decoding stopped. -/
inductive Utf8Reason where
  | invalidStart | invalidContinuation | unexpectedEnd
deriving DecidableEq, Repr

/-- A malformed sequence: its first byte's position, its length and the reason. -/
structure Utf8Error where
  position : Nat
  span : Nat
  firstByte : Nat
  reason : Utf8Reason
deriving DecidableEq, Repr

/-- A continuation byte, `10xxxxxx`. -/
def isContinuation (b : Nat) : Bool := 0x80 ≤ b && b ≤ 0xBF

/-- The range the second byte of a character must lie in, by its first byte. -/
def secondRange (b : Nat) : Nat × Nat :=
  if b = 0xE0 then (0xA0, 0xBF)
  else if b = 0xED then (0x80, 0x9F)
  else if b = 0xF0 then (0x90, 0xBF)
  else if b = 0xF4 then (0x80, 0x8F)
  else (0x80, 0xBF)

/-- The number of bytes of a character by its first byte, or none for a byte that cannot
start one. -/
def charWidth (b : Nat) : Option Nat :=
  if b < 0x80 then some 1
  else if 0xC2 ≤ b ∧ b ≤ 0xDF then some 2
  else if 0xE0 ≤ b ∧ b ≤ 0xEF then some 3
  else if 0xF0 ≤ b ∧ b ≤ 0xF4 then some 4
  else none

/-- How many of the continuation bytes `rest` of a character with first byte `b` and width
`w` are well formed, counted before the first that is not. -/
def validContinuations (b w : Nat) (rest : List Nat) : Nat :=
  match rest with
  | [] => 0
  | c :: cs =>
    let (lo, hi) := secondRange b
    if lo ≤ c ∧ c ≤ hi then 1 + ((cs.take (w - 2)).takeWhile isContinuation).length else 0

/-- The code point of a well-formed character. -/
def pointOf (bs : List Nat) : Nat :=
  match bs with
  | [a] => a
  | [a, b] => (a % 0x20) * 0x40 + b % 0x40
  | [a, b, c] => (a % 0x10) * 0x1000 + (b % 0x40) * 0x40 + c % 0x40
  | [a, b, c, d] => (a % 0x08) * 0x40000 + (b % 0x40) * 0x1000 + (c % 0x40) * 0x40 + d % 0x40
  | _ => 0

/-- Decodes bytes from position `pos` on, the code points so far being `acc` in reverse. -/
def decodeFrom (pos : Nat) (acc : List Nat) : List Nat → Except Utf8Error (List Nat)
  | [] => .ok acc.reverse
  | b :: rest =>
    match charWidth b with
    | none => .error ⟨pos, 1, b, .invalidStart⟩
    | some 1 => decodeFrom (pos + 1) (b :: acc) rest
    | some w =>
      let good := validContinuations b w rest
      if good + 1 = w then
        decodeFrom (pos + w) (pointOf (b :: rest.take (w - 1)) :: acc) (rest.drop (w - 1))
      else if good = rest.length then .error ⟨pos, good + 1, b, .unexpectedEnd⟩
      else .error ⟨pos, good + 1, b, .invalidContinuation⟩
termination_by bs => bs.length

/-- The text that bytes encode in UTF-8, or the first malformed sequence. -/
def decodeUtf8 (bs : List Nat) : Except Utf8Error Text := (decodeFrom 0 [] bs).map Text.mk

/-- The UTF-8 bytes of a code point. -/
def encodePoint (c : Nat) : List Nat :=
  if c < 0x80 then [c]
  else if c < 0x800 then [0xC0 + c / 0x40, 0x80 + c % 0x40]
  else if c < 0x10000 then [0xE0 + c / 0x1000, 0x80 + (c / 0x40) % 0x40, 0x80 + c % 0x40]
  else [0xF0 + c / 0x40000, 0x80 + (c / 0x1000) % 0x40, 0x80 + (c / 0x40) % 0x40, 0x80 + c % 0x40]

/-- The UTF-8 bytes of a text. -/
def encodeUtf8 (t : Text) : List Nat := t.points.flatMap encodePoint

/-- `'utf-8' codec can't decode byte 0xff in position 0: invalid start byte`. -/
def Utf8Error.message (e : Utf8Error) : Text :=
  let reason : Text := match e.reason with
    | .invalidStart => "invalid start byte"
    | .invalidContinuation => "invalid continuation byte"
    | .unexpectedEnd => "unexpected end of data"
  if e.span = 1 then
    "'utf-8' codec can't decode byte 0x" ++ hex 2 e.firstByte ++ " in position " ++
      ofNat e.position ++ ": " ++ reason
  else
    "'utf-8' codec can't decode bytes in position " ++ ofNat e.position ++ "-" ++
      ofNat (e.position + e.span - 1) ++ ": " ++ reason

end Upsert.Text
