import Upsert.Model.Issue
import Upsert.Value.Convert
import Upsert.Text.Utf8

/-!
# Lenient reading of field values

Record fields accept more than their own type, as long as the input reads unambiguously:

* a text field takes a text, UTF-8 bytes, or a member of a choice (its value);
* a flag takes a flag, the words `0 f n no off false` and `1 t y yes on true` (letters in any
  case), or the numbers 0 and 1, also as whole floats;
* a float takes a float, an integer or a flag, or a number text: blanks around it are ignored,
  and underscores may stand anywhere but first and last;
* an integer takes an integer or a flag, a whole float strictly inside the 64-bit range, or an
  integer text, which may also have a plus sign, leading zeros, a fraction of zeros and
  underscores;
* a list takes a list, a tuple, an iterator or another iterable that is neither text, bytes nor
  a table, and reads its items one by one.

Each reader gives the value or the issues found; a collection gathers the issues of all its
items, each located by the item's index or key.
-/

namespace Upsert

/-- The outcome of validating an input: its value, or every issue found. -/
abbrev Checked (α : Type) := Except (List Issue) α

namespace Checked

/-- One issue at the input itself. -/
def fail {α : Type} (k : IssueKind) : Checked α := .error [⟨[], k⟩]

/-- The issues of a part, located under the part's name or index. -/
def within {α : Type} (p : LocPart) (c : Checked α) : Checked α :=
  c.mapError fun issues => issues.map fun i => { i with loc := p :: i.loc }

/-- Both results, or the issues of both, the first one's first. -/
def and {α β : Type} : Checked α → Checked β → Checked (α × β)
  | .ok a, .ok b => .ok (a, b)
  | .ok _, .error e => .error e
  | .error e, .ok _ => .error e
  | .error e, .error e' => .error (e ++ e')

/-- All results, or the issues of all, in order. -/
def all {α : Type} : List (Checked α) → Checked (List α)
  | [] => .ok []
  | c :: cs => ((c.and (all cs)).map fun (a, as) => a :: as)

end Checked

namespace Lax

open Checked

/-! ### Texts -/

/-- A text as a field reads it. -/
def text : Value → Checked Text
  | .str t => pure t
  | .bytes b =>
    match Text.decodeUtf8 b with
    | .ok t => pure t
    | .error _ => fail .stringUnicode
  | .member m => pure m.value
  | _ => fail .stringType

/-- The text of a value read as text first by a numeric or flag field, which reports undecodable
bytes as the given issue. -/
def textual? (k : IssueKind) : Value → Option (Checked Text)
  | .str t => some (pure t)
  | .bytes b =>
    match Text.decodeUtf8 b with
    | .ok t => some (pure t)
    | .error _ => some (fail k)
  | _ => Option.none

/-! ### Flags -/

/-- The flag a word stands for. -/
def flagWord? (cs : List Nat) : Option Bool :=
  let w := NumberText.lowerAscii cs
  let is (s : String) : Bool := w == (Text.ofString s).points
  if cs == [48] || is "f" || is "n" || is "no" || is "off" || is "false" then some false
  else if cs == [49] || is "t" || is "y" || is "on" || is "yes" || is "true" then some true
  else Option.none

/-- `2^63`, the bound of 64-bit integers. -/
def wordBound : Int := Int.ofNat (Nat.pow 2 63)

/-- The integer a float stands for: finite, whole and strictly between `-2^63` and `2^63`. -/
def floatWhole (x : Binary64) : Except IssueKind Int :=
  if x.isNaN || x.isInf then .error .finiteNumber
  else if !Value.isWholeFloat x then .error .intFromFloat
  else
    let i := Value.floatTruncate x
    if -wordBound < i && i < wordBound then .ok i else .error .intParsingSize

/-- A flag of an integer: 0 and 1 are flags, any other 64-bit integer is a failed reading, and a
wider integer is no flag at all. -/
def flagOfInt (i : Int) : Checked Bool :=
  if i = 0 then pure false
  else if i = 1 then pure true
  else if -wordBound ≤ i && i < wordBound then fail .boolParsing
  else fail .boolType

/-- A flag as a field reads it. -/
def flag (v : Value) : Checked Bool :=
  match textual? .boolParsing v with
  | some t => do
    match flagWord? (← t).points with
    | some b => pure b
    | Option.none => fail .boolParsing
  | Option.none =>
    match v with
    | .bool b => pure b
    | .int i => flagOfInt i
    | .float x =>
      match floatWhole x with
      | .ok i => flagOfInt i
      | .error _ => fail .boolType
    | _ => fail .boolType

/-! ### Floats -/

/-- A text without its underscores, unless one stands first or last or two stand together. -/
def dropUnderscores (cs : List Nat) : Option (List Nat) :=
  if cs.head? = some 95 || cs.getLast? = some 95 || (cs.zip cs.tail).any (· = (95, 95)) then
    Option.none
  else some (cs.filter (· ≠ 95))

/-- The float of a number text: blanks around it are ignored; failing that, underscores are
dropped from the text as given. -/
def floatOfText (t : Text) : Option Binary64 :=
  (NumberText.plainFloat? (Text.trimWhiteSpace t).points).orElse fun _ =>
    (dropUnderscores t.points).bind NumberText.plainFloat?

/-- A float as a field reads it. -/
def real (v : Value) : Checked Binary64 :=
  match textual? .floatParsing v with
  | some t => do
    match floatOfText (← t) with
    | some x => pure x
    | Option.none => fail .floatParsing
  | Option.none =>
    match v with
    | .float x => pure x
    | .bool b => pure (if b then 1.0 else 0.0)
    | .int i =>
      let x := Decimal.ofInt i
      if x.isInf then fail .floatType else pure x
    | _ => fail .floatType

/-! ### Integers -/

/-- An integer in its one canonical spelling: an optional minus, then `0` or digits not starting
with `0`. -/
def canonicalInt? (cs : List Nat) : Option Int :=
  let (neg, ds) := match cs with
    | 45 :: r => (true, r)
    | r => (false, r)
  match ds with
  | [] => Option.none
  | d :: rest =>
    if ds.all NumberText.isDigit && (d ≠ 48 || rest.isEmpty) then
      let v : Int := NumberText.digitsValue ds
      some (if neg then -v else v)
    else Option.none

/-- Digits without the zeros that lead them; underscores among the zeros go too. A run of zeros
that reaches the end keeps its last character, and one that runs into a minus sign keeps the
minus. Refused when the text starts with anything but a digit, or the zeros run into anything but
a digit or a minus. -/
def dropLeadingZeros (cs : List Nat) : Option (List Nat) :=
  match cs with
  | 48 :: rest =>
    let lead := rest.takeWhile fun c => c = 48 || c = 95
    match rest.drop lead.length with
    | [] => some [cs.getLast?.getD 48]
    | c :: more =>
      if (49 ≤ c && c ≤ 57) || c = 45 then some (c :: more) else Option.none
  | c :: _ => if 49 ≤ c && c ≤ 57 then some cs else Option.none
  | [] => Option.none

/-- A text whose part after its first point is made of zeros, at least one, loses that part and
the point. -/
def dropZeroFraction (cs : List Nat) : List Nat :=
  match cs.idxOf? 46 with
  | some i =>
    let frac := cs.drop (i + 1)
    if !frac.isEmpty && frac.all (· = 48) then cs.take i else cs
  | Option.none => cs

/-- The second spelling of an integer text: without a zero fraction, with a plus sign dropped,
without leading zeros and without underscores; none when nothing was dropped. -/
def cleanInt? (cs : List Nat) : Option (List Nat) := do
  let s := dropZeroFraction cs
  let (sign, s) := match s with
    | 43 :: r => ([], r)
    | 45 :: r => ([45], r)
    | r => ([], r)
  let s ← dropLeadingZeros s
  let s ← if s.contains 95 then dropUnderscores s else some s
  let s := sign ++ s
  if s.length = cs.length then Option.none else some s

/-- The number of digits in an integer spelling, its sign not counted. -/
def digitCount (cs : List Nat) : Nat :=
  (cs.filter NumberText.isDigit).length

/-- An integer from a spelling, refused as too long past 4300 digits. -/
def boundedInt (cs : List Nat) (i : Int) : Checked Int :=
  if digitCount cs > 4300 then fail .intParsingSize else pure i

/-- An integer text, blanks around it ignored: its canonical spelling, or failing that its
cleaned spelling. -/
def intOfText (t : Text) : Checked Int :=
  let cs := (Text.trimWhiteSpace t).points
  match canonicalInt? cs with
  | some i => boundedInt cs i
  | Option.none =>
    match cleanInt? cs with
    | some s =>
      match canonicalInt? s with
      | some i => boundedInt s i
      | Option.none => fail .intParsing
    | Option.none => fail .intParsing

/-- An integer as a field reads it. -/
def whole (v : Value) : Checked Int :=
  match textual? .intParsing v with
  | some t => t >>= intOfText
  | Option.none =>
    match v with
    | .int i => pure i
    | .bool b => pure (if b then 1 else 0)
    | .float x =>
      match floatWhole x with
      | .ok i => pure i
      | .error k => fail k
    | _ => fail .intType

/-! ### Collections -/

/-- The items a list field reads from a value: those of a list, tuple or iterator, the field
pairs of a record, and the columns of a frame, which no text field accepts. A lazy frame fails
at its first item, since it cannot be indexed. -/
def listItems : Value → Checked (List Value)
  | .list xs | .tuple xs | .iter xs => pure xs
  | .frame f => pure (f.columns.map .series)
  | .lazyFrame _ =>
    Checked.within (.index 0) (fail (.iteration ("TypeError: " ++ Fault.lazyIndexed.message)))
  | v =>
    match v.recordFields? with
    | some (_, fs) => pure (fs.map fun (k, w) => .tuple [.str k, w])
    | Option.none => fail .listType

/-- A list of texts, each item located by its index. -/
def texts (v : Value) : Checked (List Text) := do
  let xs ← listItems v
  Checked.all ((List.range xs.length).zip xs |>.map fun (i, x) => Checked.within (.index i) (text x))

/-- A table from texts to texts, each value located by its key. -/
def textTable : Value → Checked (List (Text × Text))
  | .dict kvs => Checked.all (kvs.map fun (k, v) => Checked.within (.name k) ((text v).map (k, ·)))
  | .columnTypes cols =>
    Checked.all (cols.map fun (k, d) => Checked.within (.name k) ((text (.dtypeValue d)).map (k, ·)))
  | _ => fail .dictType

/-- A value that may be none. -/
def optional {α : Type} (read : Value → Checked α) : Value → Checked (Option α)
  | .none => pure Option.none
  | v => some <$> read v

end Lax

end Upsert
