import Upsert.Text.Digit
import Upsert.Text.Word

/-!
# Regular expressions over column names

A column selector that starts with `^` and ends with `$` is a regular expression, and selects
every column whose name it matches somewhere. This module reads such expressions and decides
whether one matches a text.

The syntax read: literal code points, `.` (anything but a line feed), classes `[a-z_]` and
`[^…]`, groups `(…)` and `(?:…)`, alternatives `|`, the repetitions `*`, `+`, `?`, `{n}`, `{n,}`
and `{n,m}` (each may be followed by `?`, which does not change whether a text matches), the
anchors `^`, `$`, `\A`, `\z`, word boundaries `\b` and `\B`, the classes `\d`, `\w`, `\s` and
their complements, and escaped punctuation. Anything else is refused. The classes are those of
Unicode: `\d` the decimal digits, `\w` the word characters and `\s` the white space.

Matching works on sets of positions: a pattern maps the positions it may start from to the
positions it may end at. A set of positions of a text of length `n` is a list of `n + 1`
booleans. A repetition without an upper bound stops growing after at most `n + 1` rounds, as
each round that changes the set adds a position to it.
-/

namespace Upsert

/-- A set of code points: the union of ranges, or everything outside it. -/
structure CharSet where
  negated : Bool
  ranges : List (Nat × Nat)

namespace CharSet

/-- Whether a code point is in the set. -/
def contains (s : CharSet) (c : Nat) : Bool :=
  (s.ranges.any fun (lo, hi) => lo ≤ c && c ≤ hi) != s.negated

/-- The decimal digits. -/
def digits : List (Nat × Nat) := Text.decimalRanges.toList

/-- The word characters: letters, marks, decimal digits and connector punctuation. -/
def wordChars : List (Nat × Nat) := Text.wordRanges.toList

/-- White space: tab to carriage return, space, next line, no-break space and the spaces and
separators of the general punctuation and ideographic blocks. -/
def blanks : List (Nat × Nat) :=
  [(0x9, 0xD), (0x20, 0x20), (0x85, 0x85), (0xA0, 0xA0), (0x1680, 0x1680), (0x2000, 0x200A),
   (0x2028, 0x2029), (0x202F, 0x202F), (0x205F, 0x205F), (0x3000, 0x3000)]

/-- One code point. -/
def single (c : Nat) : CharSet := ⟨false, [(c, c)]⟩

end CharSet

/-- A regular expression. -/
inductive Pattern where
  /-- The empty text. -/
  | empty
  /-- One code point of a set. -/
  | chars (s : CharSet)
  /-- The start of the text. -/
  | textStart
  /-- The end of the text. -/
  | textEnd
  /-- A position between a word character and something else, or, negated, any other. -/
  | wordBoundary (negated : Bool)
  | seq (a b : Pattern)
  | alt (a b : Pattern)
  /-- At least `least` and at most `most` repetitions; no upper bound when `most` is none. -/
  | repeat (a : Pattern) (least : Nat) (most : Option Nat)

namespace Pattern

/-- The positions in either set. -/
def union (s t : List Bool) : List Bool := List.zipWith (· || ·) s t

/-- Whether a position of a text stands between a word character and something else. -/
def atBoundary (t : List Nat) (i : Nat) : Bool :=
  let word (c : Option Nat) : Bool := c.any (CharSet.contains ⟨false, CharSet.wordChars⟩)
  word (if i = 0 then Option.none else t[i - 1]?) != word t[i]?

/-- Applies a step `k` times. -/
def steps (f : List Bool → List Bool) : Nat → List Bool → List Bool
  | 0, s => s
  | k + 1, s => steps f k (f s)

/-- Adds what up to `k` further steps reach. -/
def upTo (f : List Bool → List Bool) : Nat → List Bool → List Bool
  | 0, s => s
  | k + 1, s => union s (upTo f k (f s))

/-- Adds what any number of further steps reach, stopping once a step adds nothing. -/
def closure (f : List Bool → List Bool) : Nat → List Bool → List Bool
  | 0, s => s
  | fuel + 1, s =>
    let s' := union s (f s)
    if s' == s then s else closure f fuel s'

/-- The positions of text `t` at which a match of the pattern may end, having started at one of
the positions marked in `s`. -/
def advance (t : List Nat) : Pattern → List Bool → List Bool
  | .empty, s => s
  | .chars cs, s => false :: (s.zip t).map fun (b, c) => b && cs.contains c
  | .textStart, s => (List.range s.length).zipWith (fun i b => b && i = 0) s
  | .textEnd, s => (List.range s.length).zipWith (fun i b => b && i = t.length) s
  | .wordBoundary neg, s =>
    (List.range s.length).zipWith (fun i b => b && (atBoundary t i != neg)) s
  | .seq a b, s => advance t b (advance t a s)
  | .alt a b, s => union (advance t a s) (advance t b s)
  | .repeat a least most, s =>
    let base := steps (advance t a) least s
    match most with
    | some k => upTo (advance t a) (k - least) base
    | Option.none => closure (advance t a) (t.length + 2) base

/-- Whether the pattern matches somewhere in a text. -/
def isMatch (p : Pattern) (t : Text) : Bool :=
  (advance t.points p (List.replicate (t.points.length + 1) true)).any id

/-! ### Reading a pattern -/

/-- Whether a code point is an ASCII digit. -/
def isDigit (c : Nat) : Bool := 48 ≤ c && c ≤ 57

/-- The value of an ASCII hexadecimal digit. -/
def hexValue? (c : Nat) : Option Nat :=
  if 48 ≤ c && c ≤ 57 then some (c - 48)
  else if 97 ≤ c && c ≤ 102 then some (c - 87)
  else if 65 ≤ c && c ≤ 70 then some (c - 55)
  else Option.none

/-- The value of hexadecimal digits, none when one is not a digit or there are none. -/
def hexDigits? (cs : List Nat) : Option Nat :=
  if cs.isEmpty then Option.none
  else cs.foldlM (fun acc c => (hexValue? c).map (acc * 16 + ·)) 0

/-- A number at the front of a text, with the rest. -/
def readNumber (cs : List Nat) : Option (Nat × List Nat) :=
  let ds := cs.takeWhile isDigit
  if ds.isEmpty then Option.none
  else some (ds.foldl (fun acc d => acc * 10 + (d - 48)) 0, cs.drop ds.length)

/-- What an escape stands for: a set of code points, or an assertion. -/
inductive Escape where
  | set (s : CharSet)
  | assert (p : Pattern)

/-- The escape at the front of a text (after its backslash), with the rest. -/
def readEscape : List Nat → Option (Escape × List Nat)
  | 100 :: r => some (.set ⟨false, CharSet.digits⟩, r)
  | 68 :: r => some (.set ⟨true, CharSet.digits⟩, r)
  | 119 :: r => some (.set ⟨false, CharSet.wordChars⟩, r)
  | 87 :: r => some (.set ⟨true, CharSet.wordChars⟩, r)
  | 115 :: r => some (.set ⟨false, CharSet.blanks⟩, r)
  | 83 :: r => some (.set ⟨true, CharSet.blanks⟩, r)
  | 110 :: r => some (.set (.single 10), r)
  | 116 :: r => some (.set (.single 9), r)
  | 114 :: r => some (.set (.single 13), r)
  | 102 :: r => some (.set (.single 12), r)
  | 118 :: r => some (.set (.single 11), r)
  | 98 :: r => some (.assert (.wordBoundary false), r)
  | 66 :: r => some (.assert (.wordBoundary true), r)
  | 65 :: r => some (.assert .textStart, r)
  | 122 :: r => some (.assert .textEnd, r)
  | 120 :: 123 :: r =>
    let ds := r.takeWhile (· ≠ 125)
    match r.drop ds.length, hexDigits? ds with
    | 125 :: rest, some v => some (.set (.single v), rest)
    | _, _ => Option.none
  | 120 :: a :: b :: r => (hexDigits? [a, b]).map fun v => (.set (.single v), r)
  | c :: r =>
    if (48 ≤ c && c ≤ 57) || (65 ≤ c && c ≤ 90) || (97 ≤ c && c ≤ 122) || c ≥ 128 then
      Option.none
    else some (.set (.single c), r)
  | [] => Option.none

/-- A member of a class starting with code point `lo`: alone, or the start of a range `lo-hi`;
a `-` before the closing bracket is a member of its own. -/
def classMember (lo : Nat) : List Nat → Option ((Nat × Nat) × List Nat)
  | 45 :: hi :: rest =>
    if hi = 93 then some ((lo, lo), 45 :: hi :: rest)
    else if lo ≤ hi then some ((lo, hi), rest)
    else Option.none
  | rest => some ((lo, lo), rest)

/-- The members of a class up to its closing bracket, with the rest after it. The first member
may be a closing bracket. -/
def readClassItems : Nat → Bool → List Nat → Option (List (Nat × Nat) × List Nat)
  | 0, _, _ => Option.none
  | fuel + 1, first, cs =>
    match cs with
    | [] => Option.none
    | 92 :: rest =>
      match readEscape rest with
      | some (.set s, more) =>
        if s.negated then Option.none
        else (readClassItems fuel false more).map fun (rs, r) => (s.ranges ++ rs, r)
      | _ => Option.none
    | c :: rest =>
      if c = 93 && !first then some ([], rest)
      else do
        let (m, more) ← classMember c rest
        let (rs, r) ← readClassItems fuel false more
        pure (m :: rs, r)

/-- A class after its opening bracket, with the rest. -/
def readClass (cs : List Nat) : Option (CharSet × List Nat) :=
  match cs with
  | 94 :: rest => (readClassItems (rest.length + 1) true rest).map fun (rs, r) => (⟨true, rs⟩, r)
  | rest => (readClassItems (rest.length + 1) true rest).map fun (rs, r) => (⟨false, rs⟩, r)

/-- The repetition bounds of a `{…}` after its opening brace, with the rest. -/
def readBounds (cs : List Nat) : Option ((Nat × Option Nat) × List Nat) := do
  let (n, rest) ← readNumber cs
  match rest with
  | 125 :: r => pure ((n, some n), r)
  | 44 :: 125 :: r => pure ((n, Option.none), r)
  | 44 :: more =>
    let (m, r) ← readNumber more
    match r with
    | 125 :: r' => if n ≤ m then pure ((n, some m), r') else Option.none
    | _ => Option.none
  | _ => Option.none

/-- The repetitions following an atom, applied to it; a `?` after one is passed over. -/
def readRepeats : Nat → Pattern → List Nat → Option (Pattern × List Nat)
  | 0, p, cs => some (p, cs)
  | fuel + 1, p, cs =>
    let lazy (r : List Nat) : List Nat := match r with
      | 63 :: r' => r'
      | r => r
    match cs with
    | 42 :: r => readRepeats fuel (.repeat p 0 Option.none) (lazy r)
    | 43 :: r => readRepeats fuel (.repeat p 1 Option.none) (lazy r)
    | 63 :: r => readRepeats fuel (.repeat p 0 (some 1)) (lazy r)
    | 123 :: r =>
      match readBounds r with
      | some ((n, m), r') => readRepeats fuel (.repeat p n m) (lazy r')
      | Option.none => Option.none
    | _ => some (p, cs)

/-- The opening of a group after its parenthesis: a plain group, `?:`, or a named group. -/
def readGroupOpening : List Nat → Option (List Nat)
  | 63 :: 58 :: r => some r
  | 63 :: 80 :: 60 :: r | 63 :: 60 :: r =>
    let name := r.takeWhile (· ≠ 62)
    match r.drop name.length with
    | 62 :: rest => if name.isEmpty then Option.none else some rest
    | _ => Option.none
  | 63 :: _ => Option.none
  | r => some r

mutual

/-- Alternatives separated by `|`, up to a closing parenthesis or the end. -/
def readAlternatives : Nat → List Nat → Option (Pattern × List Nat)
  | 0, _ => Option.none
  | fuel + 1, cs => do
    let (a, rest) ← readSequence fuel cs
    match rest with
    | 124 :: more =>
      let (b, r) ← readAlternatives fuel more
      pure (.alt a b, r)
    | r => pure (a, r)

/-- Atoms with their repetitions, one after another, up to `|`, `)` or the end. -/
def readSequence : Nat → List Nat → Option (Pattern × List Nat)
  | 0, _ => Option.none
  | fuel + 1, cs =>
    match cs with
    | [] => some (.empty, [])
    | 124 :: _ | 41 :: _ => some (.empty, cs)
    | _ => do
      let (a, rest) ← readAtom fuel cs
      let (a, rest) ← readRepeats (rest.length + 1) a rest
      let (b, r) ← readSequence fuel rest
      pure (.seq a b, r)

/-- One atom: a group, a class, an escape, an anchor, the dot or a code point. -/
def readAtom : Nat → List Nat → Option (Pattern × List Nat)
  | 0, _ => Option.none
  | fuel + 1, cs =>
    match cs with
    | 40 :: r => do
      let r ← readGroupOpening r
      let (p, rest) ← readAlternatives fuel r
      match rest with
      | 41 :: more => pure (p, more)
      | _ => Option.none
    | 91 :: r => (readClass r).map fun (s, rest) => (.chars s, rest)
    | 92 :: r =>
      (readEscape r).map fun (e, rest) => match e with
        | .set s => (.chars s, rest)
        | .assert p => (p, rest)
    | 46 :: r => some (.chars ⟨true, [(10, 10)]⟩, r)
    | 94 :: r => some (.textStart, r)
    | 36 :: r => some (.textEnd, r)
    | 42 :: _ | 43 :: _ | 63 :: _ | 123 :: _ | 41 :: _ | [] => Option.none
    | c :: r => some (.chars (.single c), r)

end

/-- The pattern a text spells, none when it is not a regular expression. -/
def read? (t : Text) : Option Pattern :=
  match readAlternatives (3 * t.points.length + 5) t.points with
  | some (p, []) => some p
  | _ => Option.none

end Pattern

end Upsert
