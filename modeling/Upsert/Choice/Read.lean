import Upsert.Fault
import Upsert.Text.Blank
import Upsert.Text.Case

/-!
# Reading a choice from free text

A member of a choice is read from text leniently: blanks around it are dropped and it is
lowered, then it must be lower_snake (lowercase ASCII letters and digits in words joined by
single underscores, one final line feed allowed), then it must be the value of a member.
A member given as itself is taken as it is.

The readers take any value, since callers pass what they are given: a value that is false is
read as the empty text (a frame, which has no truth value, is refused), bytes are stripped and lowered as bytes and then refused by the
lower_snake check, and any other value is refused for having no way to be stripped.
-/

namespace Upsert

/-- ASCII lowercase letters and digits. -/
def isSnakeChar (c : Nat) : Bool := (97 ≤ c && c ≤ 122) || (48 ≤ c && c ≤ 57)

/-- Words of lowercase ASCII letters and digits joined by single underscores: no underscore at
either end and no two in a row. -/
def isSnakeWords (cs : List Nat) : Bool :=
  !cs.isEmpty && cs.all (fun c => isSnakeChar c || c = 95) && cs.head? ≠ some 95 &&
    cs.getLast? ≠ some 95 && !(cs.zip cs.tail).any (fun p => p.1 = 95 && p.2 = 95)

/-- Lower_snake text: snake words, optionally followed by one line feed. -/
def Text.isLowerSnake (t : Text) : Bool :=
  isSnakeWords t.points || (t.points.getLast? = some 10 && isSnakeWords t.points.dropLast)

namespace Value

/-- The truth value of a value, refused for frames, lazy frames and columns, which have none. -/
def truth : Value → Except Fault Bool
  | .frame _ => throw (.ambiguousTruth .frame)
  | .lazyFrame _ => throw (.ambiguousTruth .lazyFrame)
  | .series _ => throw (.ambiguousTruth .column)
  | v => pure v.truthy

/-- Whether a value is lower_snake text; a false value counts as the empty text, bytes and
values that are no text cannot be matched. -/
def isLowerSnake (v : Value) : Except Fault Bool := do
  if !(← v.truth) then pure false
  else match v with
    | .str t => pure t.isLowerSnake
    | .bytes _ => throw .textPatternOnBytes
    | v => throw (.patternNeedsText v.qualifiedTypeName)

/-- Refuses a value that is not lower_snake, naming it `what`. -/
def assertLowerSnake (v : Value) (what : Text := "value") : Except Fault Unit := do
  if !(← v.isLowerSnake) then throw (.notLowerSnake what v)

/-- ASCII blanks of bytes: space, tab, line feed, vertical tab, form feed, carriage return. -/
def isAsciiBlank (b : Nat) : Bool := b = 32 || (9 ≤ b && b ≤ 13)

/-- Blanks dropped at both ends and lowered: texts by Unicode rules, bytes by ASCII rules; a false
value counts as the empty text. -/
def normalize (v : Value) : Except Fault Value := do
  if !(← v.truth) then pure (.str Text.empty)
  else match v with
    | .str t => pure (.str t.strip.lower)
    | .bytes b =>
      pure (.bytes ((Text.trimBy isAsciiBlank b).map fun c => if 65 ≤ c && c ≤ 90 then c + 32 else c))
    | v => throw (.noAttribute v.qualifiedTypeName "strip")

end Value

/-- The member of a choice that a value names. -/
def Choice.read (c : Choice) (v : Value) : Except Fault Member := do
  match v with
  | .member m => if m.choice = c then return m
  | _ => pure ()
  let n ← v.normalize
  n.assertLowerSnake c.label
  match n with
  | .str t =>
    match c.lookup t with
    | some m => pure m
    | none => throw (.notAMember c t)
  | _ => throw (.notLowerSnake c.label n)

/-- Every member's value is lower_snake, so the lower_snake check never refuses a value that
names a member. -/
theorem Choice.members_lowerSnake :
    ∀ c : Choice, ∀ m ∈ c.members, m.value.isLowerSnake = true := by
  intro c m h
  cases c <;> simp [Choice.members] at h <;> rcases h with rfl | rfl | rfl | rfl <;> decide

end Upsert
