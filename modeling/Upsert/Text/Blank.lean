import Upsert.Text.Basic

/-!
# Blank code points and stripping

Two sets of blank code points are in use. `isBlank` holds the code points of the bidirectional
classes WS, B and S together with the separators of category Zs; it includes the four
information separators U+001C–U+001F. `isWhiteSpace` is the Unicode property White_Space, which
leaves those four out. `strip` removes blanks at both ends of a text and `trimWhiteSpace`
removes White_Space at both ends.
-/

namespace Upsert.Text

/-- Blank code points: tab to carriage return, the information separators, space, next line,
no-break space and the Unicode spaces and separators. -/
def isBlank (c : Nat) : Bool :=
  (0x09 ≤ c && c ≤ 0x0D) || (0x1C ≤ c && c ≤ 0x20) || c == 0x85 || c == 0xA0 ||
  c == 0x1680 || (0x2000 ≤ c && c ≤ 0x200A) || c == 0x2028 || c == 0x2029 ||
  c == 0x202F || c == 0x205F || c == 0x3000

/-- The Unicode property White_Space: the blank code points less U+001C–U+001F. -/
def isWhiteSpace (c : Nat) : Bool := isBlank c && !(0x1C ≤ c && c ≤ 0x1F)

/-- The code points with those satisfying `p` removed from both ends. -/
def trimBy (p : Nat → Bool) (cs : List Nat) : List Nat :=
  ((cs.dropWhile p).reverse.dropWhile p).reverse

/-- The text without blanks at either end. -/
def strip (t : Text) : Text := ⟨trimBy isBlank t.points⟩

/-- The text without White_Space at either end. -/
def trimWhiteSpace (t : Text) : Text := ⟨trimBy isWhiteSpace t.points⟩

example : (strip "  ab c　").points = [0x61, 0x62, 0x20, 0x63] := by decide

end Upsert.Text
