/-!
# Texts as lists of code points

A `Text` is a list of Unicode code points. Code points are natural numbers rather than `Char`s
because a text may hold a lone surrogate (`0xD800`–`0xDFFF`), which no `Char` can.

Besides the type this module holds the small operations every other module uses: joining,
decimal and hexadecimal digits, prefixes, and membership in a table of code point ranges.
-/

namespace Upsert

/-- A text: a list of code points, lone surrogates allowed. -/
structure Text where
  points : List Nat
deriving DecidableEq, Inhabited, Hashable

namespace Text

/-- The code points of a `String`. -/
def ofString (s : String) : Text := ⟨s.toList.map Char.toNat⟩

instance : Coe String Text := ⟨ofString⟩

instance : Append Text := ⟨fun a b => ⟨a.points ++ b.points⟩⟩

/-- The empty text. -/
def empty : Text := ⟨[]⟩

/-- The text of one code point. -/
def single (c : Nat) : Text := ⟨[c]⟩

/-- Number of code points. -/
def length (t : Text) : Nat := t.points.length

/-- True for the empty text. -/
def isEmpty (t : Text) : Bool := t.points.isEmpty

/-- The parts with `sep` between each two of them. -/
def join (sep : Text) : List Text → Text
  | [] => empty
  | [t] => t
  | t :: ts => t ++ sep ++ join sep ts

/-- Concatenation of all parts. -/
def concat (parts : List Text) : Text := ⟨(parts.map Text.points).flatten⟩

/-- Decimal digits of a natural number. -/
def ofNat (n : Nat) : Text := ⟨(Nat.toDigits 10 n).map Char.toNat⟩

/-- Decimal digits of an integer, with a leading `-` when negative. -/
def ofInt (i : Int) : Text :=
  if i < 0 then "-" ++ ofNat i.natAbs else ofNat i.natAbs

/-- The lowercase hexadecimal digit of `d < 16`. -/
def hexDigit (d : Nat) : Nat := if d < 10 then 48 + d else 87 + d

/-- Lowercase hexadecimal digits of `n`, padded with zeros to at least `width`. -/
def hex (width n : Nat) : Text :=
  let ds := (Nat.toDigits 16 n).map Char.toNat
  ⟨List.replicate (width - ds.length) 48 ++ ds⟩

/-- True when `p` is a prefix of `t`. -/
def startsWith (t p : Text) : Bool := p.points.isPrefixOf t.points

@[simp] theorem points_append (a b : Text) : (a ++ b).points = a.points ++ b.points := rfl

@[simp] theorem length_append (a b : Text) : (a ++ b).length = a.length + b.length := by
  simp [length]

end Text

/-- True when `c` lies in one of the closed ranges of `table`, which are sorted and disjoint.
The search halves the part of the table still in question at every step. -/
def inRanges (table : Array (Nat × Nat)) (c : Nat) : Bool :=
  go 0 table.size
where
  go (lo hi : Nat) : Bool :=
    if h : lo < hi then
      let mid := (lo + hi) / 2
      let r := table.getD mid (0, 0)
      if c < r.1 then go lo mid
      else if r.2 < c then go (mid + 1) hi
      else true
    else false
  termination_by hi - lo

end Upsert
