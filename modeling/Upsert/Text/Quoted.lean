import Upsert.Text.Printable

/-!
# Quoted texts and bytes

A quoted text stands between single quotes, or between double quotes when it holds a single
quote and no double quote. Inside, the chosen quote and the backslash take a backslash, tab,
newline and carriage return are written `\t`, `\n`, `\r`, and every other code point that is not
printable is written in hexadecimal: `\xNN` below 256, `\uNNNN` below 65536, else
`\UNNNNNNNN`. Quoted bytes follow the same rules with a `b` in front, every byte outside the
printable ASCII range being written `\xNN`.
-/

namespace Upsert.Text

/-- The quote to use: double when the content has a single quote and no double quote. -/
def quoteFor (cs : List Nat) : Nat := if cs.contains 39 && !cs.contains 34 then 34 else 39

/-- A code point as it stands inside a quoted text with quote `q`. -/
def escapePoint (q c : Nat) : List Nat :=
  if c = q ∨ c = 92 then [92, c]
  else if c = 9 then [92, 116]
  else if c = 10 then [92, 110]
  else if c = 13 then [92, 114]
  else if isPrintable c then [c]
  else if c < 0x100 then [92, 120] ++ (hex 2 c).points
  else if c < 0x10000 then [92, 117] ++ (hex 4 c).points
  else [92, 85] ++ (hex 8 c).points

/-- A text between quotes, escaped. -/
def quote (t : Text) : Text :=
  let q := quoteFor t.points
  ⟨q :: t.points.flatMap (escapePoint q) ++ [q]⟩

/-- A byte as it stands inside quoted bytes with quote `q`. -/
def escapeByte (q b : Nat) : List Nat :=
  if b = q ∨ b = 92 then [92, b]
  else if b = 9 then [92, 116]
  else if b = 10 then [92, 110]
  else if b = 13 then [92, 114]
  else if b < 0x20 ∨ b ≥ 0x7F then [92, 120] ++ (hex 2 b).points
  else [b]

/-- Bytes between quotes after a `b`, escaped. -/
def quoteBytes (bs : List Nat) : Text :=
  let q := quoteFor bs
  ⟨98 :: q :: bs.flatMap (escapeByte q) ++ [q]⟩

example : quote "it's" = "\"it's\"" ∧ quote "a\tb" = "'a\\tb'" ∧ quote " " = "'\\xa0'" := by
  decide +kernel

end Upsert.Text
