import Upsert.Toml.Scan
import Upsert.Toml.Flags
import Upsert.Value.Printer

/-!
# Reading a TOML document

`Toml.read` turns the text of a TOML document into a table of values, or into the first error
with its place: `Cannot overwrite a value (at line 2, column 6)`, or `(at end of document)` when
the error lies at the end. Carriage-return line feeds count as line feeds throughout.

The reader works statement by statement: a key/value pair, a `[table]` header or an
`[[array of tables]]` header, each followed by an optional comment and the end of the line. The
namespace flags of `Toml.Flags` decide which tables a statement may still open or extend.
Recursion into arrays and inline tables is bounded by a fuel that the length of the document
gives, since every nested value takes at least one code point. Nesting is also bounded the way a
reader that recurses on a stack of 1000 frames is: the items of an array are read two frames
deeper than the array and the values of an inline table three, each kind of value reaches a few
frames beyond its own while it is read, and a document that reaches past the stack fails as too
deep rather than as malformed. A decimal integer of more than 4300 digits fails too.
-/

namespace Upsert.Toml

/-- An error of a document: what is wrong, and the line and column, or none at the end. -/
structure TomlError where
  message : Text
  coord : Option (Nat × Nat)

/-- Why a document could not be read: it is malformed; it nests arrays and inline tables deeper
than the reader's stack allows; or it writes a decimal integer with more digits than may be
converted. -/
inductive Failure where
  | malformed (e : TomlError)
  | tooDeep
  | tooManyDigits (count : Nat)

/-- `msg (at line L, column C)` or `msg (at end of document)`. -/
def TomlError.text (e : TomlError) : Text :=
  e.message ++ " (at " ++
    (match e.coord with
     | some (l, c) => "line " ++ Text.ofNat l ++ ", column " ++ Text.ofNat c
     | none => "end of document") ++ ")"

/-- A table under construction: entries in insertion order. -/
abbrev Table := List (Text × Value)

/-- What the reader knows between statements. -/
structure Doc where
  data : Table := []
  flags : FlagLevel := []
  pending : List (List Text × Flag) := []

/-- The value of a key in a table. -/
def Table.get? (t : Table) (k : Text) : Option Value := t.lookup k

/-- The table with the value of `k` replaced, or appended when absent. -/
def Table.put (t : Table) (k : Text) (v : Value) : Table :=
  if t.any (·.1 = k) then t.map fun (k', v') => if k' = k then (k', v) else (k', v')
  else t ++ [(k, v)]

/-- The table at a key path, empty where the path is missing; with `lists`, an array stands for
its last table. None when a value that is no table is in the way. -/
def Table.nestAt? (lists : Bool) (t : Table) : List Text → Option Table
  | [] => some t
  | k :: rest =>
    match t.get? k with
    | none => some []
    | some (.dict d) => Table.nestAt? lists d rest
    | some (.list xs) =>
      if lists then
        match xs.getLast? with
        | some (.dict d) => Table.nestAt? lists d rest
        | _ => none
      else none
    | some _ => none

/-- The table with `f` applied to the table at a key path, creating empty tables on the way. -/
def Table.update (lists : Bool) (f : Table → Table) (t : Table) : List Text → Option Table
  | [] => some (f t)
  | k :: rest =>
    match t.get? k with
    | none => (Table.update lists f [] rest).map fun d => t.put k (.dict d)
    | some (.dict d) => (Table.update lists f d rest).map fun d' => t.put k (.dict d')
    | some (.list xs) =>
      if lists then
        match xs.getLast? with
        | some (.dict d) =>
          (Table.update lists f d rest).map fun d' => t.put k (.list (xs.dropLast ++ [.dict d']))
        | _ => none
      else none
    | some _ => none

/-- A key path in the form of a tuple of texts, as messages show it. -/
def keyText (key : List Text) : Text := Value.repr (.tuple (key.map .str))

/-- True for an inline table or array, whose inside is frozen. -/
def Value.isContainer : Value → Bool
  | .dict _ | .list _ => true
  | _ => false

section Reading

variable (src : Array Nat)

/-- The error `msg` at position `pos`. -/
def errorAt (pos : Nat) (msg : Text) : Failure :=
  if pos ≥ src.size then .malformed ⟨msg, none⟩
  else
    let before := (src.extract 0 pos).toList
    let line := before.count 10 + 1
    let column := if line = 1 then pos + 1 else pos - (before.length - 1 - before.reverse.idxOf 10)
    .malformed ⟨msg, some (line, column)⟩

/-- The first position from `pos` on whose code point fails `p`. -/
def skipWhile (p : Nat → Bool) (pos : Nat) : Nat :=
  pos + ((src.toList.drop pos).takeWhile p).length

/-- Blanks within a line. -/
def isBlankInLine (c : Nat) : Bool := c = 32 || c = 9

/-- Blanks and line feeds. -/
def isBlankOrNewline (c : Nat) : Bool := c = 32 || c = 9 || c = 10

/-- Control code points: below 32, and 127. -/
def isControl (c : Nat) : Bool := c < 32 || c = 127

/-- Code points that may not stand in a one-line string or a comment: controls but tab. -/
def illegalInLine (c : Nat) : Bool := isControl c && c ≠ 9

/-- Code points that may not stand in a multi-line string: controls but tab and line feed. -/
def illegalInLines (c : Nat) : Bool := isControl c && c ≠ 9 && c ≠ 10

/-- Letters, digits, `-` and `_`: the code points of a bare key. -/
def isBareKey (c : Nat) : Bool :=
  (65 ≤ c && c ≤ 90) || (97 ≤ c && c ≤ 122) || (48 ≤ c && c ≤ 57) || c = 45 || c = 95

/-- True when the code points `s` stand at `pos`. -/
def startsAt (pos : Nat) (s : List Nat) : Bool := (src.extract pos (pos + s.length)).toList == s

/-- The first position from `pos` on where `s` stands, if any. -/
def findFrom (s : List Nat) (pos : Nat) : Option Nat :=
  (List.range' pos (src.size - pos)).find? fun q => startsAt src q s

/-- The position of the first occurrence of `expect` from `pos`, or the end of the document when
there is none (an error if `mustFind`); an error at the first code point before it that
`illegal` refuses. -/
def skipUntil (pos : Nat) (expect : Text) (illegal : Nat → Bool) (mustFind : Bool) :
    Except Failure Nat := do
  let stop ← match findFrom src expect.points pos with
    | some p => pure p
    | none =>
      if mustFind then throw (errorAt src src.size ("Expected " ++ Text.quote expect))
      else pure src.size
  let between := (src.extract pos stop).toList
  match between.findIdx? illegal with
  | some i =>
    throw (errorAt src (pos + i) ("Found invalid character " ++ Text.quote (.single between[i]!)))
  | none => pure stop

/-- Past a comment, if one starts at `pos`. -/
def skipComment (pos : Nat) : Except Failure Nat :=
  if pos < src.size && src[pos]! = 35 then skipUntil src (pos + 1) "\n" illegalInLine false
  else pure pos

/-- Past blanks, line feeds and comments, as between the items of an array. -/
def skipArrayGaps (fuel pos : Nat) : Except Failure Nat :=
  match fuel with
  | 0 => pure pos
  | fuel + 1 => do
    let p ← skipComment src (skipWhile src isBlankOrNewline pos)
    if p = pos then pure pos else skipArrayGaps fuel p

/-- A hexadecimal escape of `width` digits at `pos`, as its code point. -/
def hexEscape (pos width : Nat) : Except Failure (Nat × Nat) :=
  let digits := (src.extract pos (pos + width)).toList
  if digits.length ≠ width || !digits.all isHex then throw (errorAt src pos "Invalid hex value")
  else
    let v := digits.foldl (fun a d => a * 16 + hexValue d) 0
    if v ≤ 0xD7FF || (0xE000 ≤ v && v ≤ 0x10FFFF) then pure (v, pos + width)
    else throw (errorAt src (pos + width) "Escaped character is not a Unicode scalar value")

/-- An escape at `pos` (on the backslash) in a basic string, as the code points it stands for.
In a multi-line string a backslash before blanks and a line feed removes them and the blanks and
line feeds that follow. -/
def escape (pos : Nat) (multiline : Bool) : Except Failure (List Nat × Nat) :=
  let e := pointAt src (pos + 1)
  let after := pos + 2
  let shortLen := if pos + 1 < src.size then 2 else 1
  if multiline && shortLen = 2 && (e = 32 || e = 9 || e = 10) then
    if e ≠ 10 then
      let p := skipWhile src isBlankInLine after
      if p ≥ src.size then pure ([], p)
      else if src[p]! ≠ 10 then throw (errorAt src p "Unescaped '\\' in a string")
      else pure ([], skipWhile src isBlankOrNewline (p + 1))
    else pure ([], skipWhile src isBlankOrNewline after)
  else if shortLen = 2 && e = 117 then (hexEscape src after 4).map fun (c, p) => ([c], p)
  else if shortLen = 2 && e = 85 then (hexEscape src after 8).map fun (c, p) => ([c], p)
  else
    let simple : Option Nat :=
      if shortLen ≠ 2 then none
      else match e with
        | 98 => some 8 | 116 => some 9 | 110 => some 10 | 102 => some 12 | 114 => some 13
        | 34 => some 34 | 92 => some 92 | _ => none
    match simple with
    | some c => pure ([c], after)
    | none => throw (errorAt src (pos + 2) "Unescaped '\\' in a string")

/-- The body of a basic string from `pos` (after the opening quotes) to its closing quotes. -/
def basicBody (fuel : Nat) (multiline : Bool) (acc : List Nat) (pos : Nat) : Except Failure (List Nat × Nat) :=
  match fuel with
  | 0 => throw (errorAt src pos "Unterminated string")
  | fuel + 1 =>
    if h : pos < src.size then
      let c := src[pos]
      if c = 34 then
        if !multiline then pure (acc.reverse, pos + 1)
        else if startsAt src pos [34, 34, 34] then pure (acc.reverse, pos + 3)
        else basicBody fuel multiline (c :: acc) (pos + 1)
      else if c = 92 then do
        let (cs, p) ← escape src pos multiline
        basicBody fuel multiline (cs.reverse ++ acc) p
      else if (if multiline then illegalInLines c else illegalInLine c) then
        throw (errorAt src pos ("Illegal character " ++ Text.quote (.single c)))
      else basicBody fuel multiline (c :: acc) (pos + 1)
    else throw (errorAt src pos "Unterminated string")

/-- A one-line literal string at `pos` (on the quote). -/
def literalString (pos : Nat) : Except Failure (Text × Nat) := do
  let stop ← skipUntil src (pos + 1) "'" illegalInLine true
  pure (⟨(src.extract (pos + 1) stop).toList⟩, stop + 1)

/-- A multi-line string at `pos` (on the first of three quotes); a line feed right after the
opening quotes is dropped, and one or two quotes right before the closing ones belong to it. -/
def multilineString (pos : Nat) (literal : Bool) : Except Failure (Text × Nat) := do
  let start := if startsAt src (pos + 3) [10] then pos + 4 else pos + 3
  let (body, p) ← if literal then do
      let stop ← skipUntil src start "'''" illegalInLines true
      pure ((src.extract start stop).toList, stop + 3)
    else basicBody src (src.size + 1) true [] start
  let delim := if literal then 39 else 34
  if !startsAt src p [delim] then pure (⟨body⟩, p)
  else if !startsAt src (p + 1) [delim] then pure (⟨body ++ [delim]⟩, p + 1)
  else pure (⟨body ++ [delim, delim]⟩, p + 2)

/-- One part of a key at `pos`: bare, literal or basic. -/
def keyPart (pos : Nat) : Except Failure (Text × Nat) :=
  let c := pointAt src pos
  if pos < src.size && isBareKey c then
    let stop := skipWhile src isBareKey pos
    pure (⟨(src.extract pos stop).toList⟩, stop)
  else if pos < src.size && c = 39 then literalString src pos
  else if pos < src.size && c = 34 then
    (basicBody src (src.size + 1) false [] (pos + 1)).map fun (cs, p) => (⟨cs⟩, p)
  else throw (errorAt src pos "Invalid initial character for a key part")

/-- The remaining dotted parts of a key from `pos`. -/
def keyRest (fuel pos : Nat) (acc : List Text) : Except Failure (List Text × Nat) :=
  match fuel with
  | 0 => pure (acc.reverse, pos)
  | fuel + 1 =>
    if pointAt src pos = 46 && pos < src.size then do
      let (k, p) ← keyPart src (skipWhile src isBlankInLine (pos + 1))
      keyRest fuel (skipWhile src isBlankInLine p) (k :: acc)
    else pure (acc.reverse, pos)

/-- A key at `pos`: parts separated by dots, blanks allowed around them. -/
def key (pos : Nat) : Except Failure (List Text × Nat) := do
  let (k, p) ← keyPart src pos
  keyRest src (src.size + 1) (skipWhile src isBlankInLine p) [k]

/-- A number lexeme as a value. -/
def numberValue : Number → Value
  | .integer i _ => .int i
  | .real neg d e => .float (Decimal.ofScientific neg d e)

/-- The most decimal digits an integer may be written with. -/
def digitLimit : Nat := 4300

/-- A scalar value at `pos`: a date, a date-time, a time of day, a number, an infinity or a
nan. -/
def scalar (pos : Nat) : Except Failure (Value × Nat) :=
  match scanDateTime src pos with
  | some (p, .inl d) =>
    if d.isValid then pure (.date d, p) else throw (errorAt src pos "Invalid date or datetime")
  | some (p, .inr t) =>
    if t.date.isValid then pure (.moment t, p)
    else throw (errorAt src pos "Invalid date or datetime")
  | none =>
    match scanClock src pos with
    | some (p, t) => pure (.clock t, p)
    | none =>
      match scanNumber src pos with
      | some (p, .integer i digits) =>
        if digits > digitLimit then throw (.tooManyDigits digits) else pure (.int i, p)
      | some (p, n) => pure (numberValue n, p)
      | none =>
        let three := (src.extract pos (pos + 3)).toList
        let four := (src.extract pos (pos + 4)).toList
        if three = (Text.ofString "inf").points then pure (.float (Decimal.infinity false), pos + 3)
        else if three = (Text.ofString "nan").points then pure (.float Decimal.nan, pos + 3)
        else if four = (Text.ofString "+inf").points then pure (.float (Decimal.infinity false), pos + 4)
        else if four = (Text.ofString "-inf").points then pure (.float (Decimal.infinity true), pos + 4)
        else if four = (Text.ofString "+nan").points || four = (Text.ofString "-nan").points then
          pure (.float Decimal.nan, pos + 4)
        else throw (errorAt src pos "Invalid value")

/-- The deepest stack frame the reader may reach; the stack stands for the one the reader would
recurse on. -/
def frameLimit : Nat := 999

/-- The frame in which the value of a top-level pair is read. -/
def topFrames : Nat := 11

/-- The frames a basic string reaches beyond the frame of its value, from the code points of its
lexeme: two for a one-line string and three for a multi-line one; an escape reaches one frame
further, and in a one-line string a `\u` or `\U` escape four. In a multi-line string an escape
reaches four frames, a backslash ending a line five and a `\u` or `\U` escape seven. -/
def stringFrames (multiline : Bool) : List Nat → Nat
  | [] => if multiline then 3 else 2
  | 92 :: e :: rest =>
    let here :=
      if e = 117 || e = 85 then (if multiline then 7 else 6)
      else if multiline && (e = 32 || e = 9 || e = 10) then 5
      else if multiline then 4 else 3
    max here (stringFrames multiline rest)
  | _ :: rest => stringFrames multiline rest

/-- The frames that reading a key from `pos` to `stop` in an inline table reaches beyond the
frame of the table: five for bare parts, seven for a literal part, and four more than a
one-line string for a basic part. -/
def keyFrames (pos stop : Nat) : Nat :=
  let cs := (src.extract pos stop).toList
  let literal := if cs.contains 39 then 7 else 5
  if cs.contains 34 then max literal (4 + stringFrames false cs) else literal

/-- The frames a scalar lexeme from `pos` to `stop` reaches beyond the frame of its value: none
for an infinity or a nan, one for a boolean, four for a date-time with a numeric offset, and two
for any other number, date or time. -/
def scalarFrames (pos stop : Nat) : Value → Nat
  | .bool _ => 1
  | .moment t => if t.offset.isSome && isDec (pointAt src (stop - 1)) then 4 else 2
  | .float _ => if isDec (pointAt src stop.pred) then 2 else 0
  | _ => if pos < stop then 2 else 0

/-- Fails as too deep when a frame past the limit is reached. -/
def reach (frame : Nat) : Except Failure Unit :=
  if frame > frameLimit then throw .tooDeep else pure ()

/-- The gaps of an array from `pos`, in an array read in frame `frame`: a comment among them
reaches five frames beyond the array, blanks alone three. -/
def arrayGaps (frame pos : Nat) : Except Failure Nat := do
  let p ← skipArrayGaps src (src.size + 1) pos
  if (src.extract pos p).toList.contains 35 then reach (frame + 5)
  pure p

mutual

/-- A value at `pos`, read in stack frame `frame`. The items of an array are read two frames
deeper and the values of an inline table three; each kind of value reaches some frames beyond
its own while it is read, and fails as too deep when that passes the limit. Each member of this
block takes one unit of fuel a call, so the block recurses on the fuel alone. -/
def value (fuel frame pos : Nat) : Except Failure (Value × Nat) :=
  match fuel with
  | 0 => throw (errorAt src pos "Invalid value")
  | fuel + 1 =>
    let c := pointAt src pos
    let here := pos < src.size
    if here && c = 34 then do
      let multiline := startsAt src pos [34, 34, 34]
      let (t, p) ← if multiline then multilineString src pos false
        else (basicBody src (src.size + 1) false [] (pos + 1)).map fun (cs, p) => (⟨cs⟩, p)
      reach (frame + stringFrames multiline (src.extract pos p).toList)
      pure (.str t, p)
    else if here && c = 39 then do
      let (t, p) ← if startsAt src pos [39, 39, 39] then multilineString src pos true
        else literalString src pos
      reach (frame + 3)
      pure (.str t, p)
    else if here && c = 116 && startsAt src pos (Text.ofString "true").points then pure (.bool true, pos + 4)
    else if here && c = 102 && startsAt src pos (Text.ofString "false").points then pure (.bool false, pos + 5)
    else if here && c = 91 then do
      reach (frame + 3)
      let p ← arrayGaps src frame (pos + 1)
      if startsAt src p [93] then pure (.list [], p + 1) else arrayItems fuel frame p []
    else if here && c = 123 then do
      reach (frame + 3)
      let p := skipWhile src isBlankInLine (pos + 1)
      if startsAt src p [125] then pure (.dict [], p + 1) else inlinePairs fuel frame p [] []
    else do
      let (v, p) ← scalar src pos
      reach (frame + scalarFrames src pos p v)
      pure (v, p)
termination_by structural fuel

/-- The items of an array from `pos`, past the opening bracket and the gaps after it, the items so
far being `acc` in reverse. -/
def arrayItems (fuel frame pos : Nat) (acc : List Value) : Except Failure (Value × Nat) :=
  match fuel with
  | 0 => throw (errorAt src pos "Unclosed array")
  | fuel + 1 => do
    let (v, p) ← value fuel (frame + 2) pos
    let p ← arrayGaps src frame p
    if startsAt src p [93] then pure (.list (v :: acc).reverse, p + 1)
    else if !startsAt src p [44] then throw (errorAt src p "Unclosed array")
    else
      let p ← arrayGaps src frame (p + 1)
      if startsAt src p [93] then pure (.list (v :: acc).reverse, p + 1)
      else arrayItems fuel frame p (v :: acc)
termination_by structural fuel

/-- The pairs of an inline table from `pos`, past the opening brace and the blanks after it, with
the table and the flags so far. -/
def inlinePairs (fuel frame pos : Nat) (t : Table) (flags : FlagLevel) :
    Except Failure (Value × Nat) :=
  match fuel with
  | 0 => throw (errorAt src pos "Unclosed inline table")
  | fuel + 1 => do
    let (k, p) ← key src pos
    reach (frame + keyFrames src pos p)
    if pointAt src p ≠ 61 || p ≥ src.size then
      throw (errorAt src p "Expected '=' after a key in a key/value pair")
    let (v, p) ← value fuel (frame + 3) (skipWhile src isBlankInLine (p + 1))
    let parent := k.dropLast
    let stem := k.getLast?.getD Text.empty
    if flags.has k .frozen then
      throw (errorAt src p ("Cannot mutate immutable namespace " ++ keyText k))
    match t.nestAt? false parent with
    | none => throw (errorAt src p "Cannot overwrite a value")
    | some nest =>
      if (nest.get? stem).isSome then
        throw (errorAt src p ("Duplicate inline table key " ++ Text.quote stem))
      match t.update false (fun n => n ++ [(stem, v)]) parent with
      | none => throw (errorAt src p "Cannot overwrite a value")
      | some t =>
        let p := skipWhile src isBlankInLine p
        if startsAt src p [125] then pure (.dict t, p + 1)
        else if !startsAt src p [44] then throw (errorAt src p "Unclosed inline table")
        else
          let flags := if Value.isContainer v then flags.set k .frozen true else flags
          inlinePairs fuel frame (skipWhile src isBlankInLine (p + 1)) t flags
termination_by structural fuel

end

/-- A key/value pair at `pos`. -/
def pair (pos : Nat) : Except Failure (List Text × Value × Nat) := do
  let (k, p) ← key src pos
  if pointAt src p ≠ 61 || p ≥ src.size then
    throw (errorAt src p "Expected '=' after a key in a key/value pair")
  let (v, p) ← value src (src.size + 1) topFrames (skipWhile src isBlankInLine (p + 1))
  pure (k, v, p)

/-- A key/value statement at `pos` under the table `header`. -/
def keyValueRule (pos : Nat) (doc : Doc) (header : List Text) : Except Failure (Nat × Doc) := do
  let (k, v, p) ← pair src pos
  let parent := k.dropLast
  let stem := k.getLast?.getD Text.empty
  let absParent := header ++ parent
  -- every table that the dotted key passes through becomes explicit after this statement
  let mut doc := doc
  for i in List.range (k.length - 1) do
    let contKey := header ++ k.take (i + 1)
    if doc.flags.has contKey .explicit then
      throw (errorAt src p ("Cannot redefine namespace " ++ keyText contKey))
    doc := { doc with pending := doc.pending ++ [(contKey, .explicit)] }
  if doc.flags.has absParent .frozen then
    throw (errorAt src p ("Cannot mutate immutable namespace " ++ keyText absParent))
  match doc.data.nestAt? true absParent with
  | none => throw (errorAt src p "Cannot overwrite a value")
  | some nest =>
    if (nest.get? stem).isSome then throw (errorAt src p "Cannot overwrite a value")
    match doc.data.update true (fun n => n ++ [(stem, v)]) absParent with
    | none => throw (errorAt src p "Cannot overwrite a value")
    | some data =>
      let flags := if Value.isContainer v then doc.flags.set (header ++ k) .frozen true
        else doc.flags
      pure (p, { doc with data := data, flags := flags })

/-- Sets the pending flags. -/
def Doc.settle (doc : Doc) : Doc :=
  { doc with
    flags := doc.pending.foldl (fun fl (k, f) => fl.set k f false) doc.flags
    pending := [] }

/-- A `[table]` header at `pos` (on the bracket). -/
def tableHeader (pos : Nat) (doc : Doc) : Except Failure (Nat × Doc × List Text) := do
  let (k, p) ← key src (skipWhile src isBlankInLine (pos + 1))
  if doc.flags.has k .explicit || doc.flags.has k .frozen then
    throw (errorAt src p ("Cannot declare " ++ keyText k ++ " twice"))
  let flags := doc.flags.set k .explicit false
  match doc.data.update true id k with
  | none => throw (errorAt src p "Cannot overwrite a value")
  | some data =>
    if !startsAt src p [93] then
      throw (errorAt src p "Expected ']' at the end of a table declaration")
    pure (p + 1, { doc with data := data, flags := flags }, k)

/-- An `[[array of tables]]` header at `pos` (on the first bracket). -/
def arrayHeader (pos : Nat) (doc : Doc) : Except Failure (Nat × Doc × List Text) := do
  let (k, p) ← key src (skipWhile src isBlankInLine (pos + 2))
  if doc.flags.has k .frozen then
    throw (errorAt src p ("Cannot mutate immutable namespace " ++ keyText k))
  let flags := (doc.flags.unsetAll k).set k .explicit false
  let stem := k.getLast?.getD Text.empty
  let appended : Table → Option Table := fun cont =>
    match cont.get? stem with
    | some (.list xs) => some (cont.put stem (.list (xs ++ [.dict []])))
    | some _ => none
    | none => some (cont.put stem (.list [.dict []]))
  let data? := match doc.data.nestAt? true k.dropLast with
    | none => none
    | some cont =>
      match appended cont with
      | none => none
      | some cont' => doc.data.update true (fun _ => cont') k.dropLast
  match data? with
  | none => throw (errorAt src p "Cannot overwrite a value")
  | some data =>
    if !startsAt src p [93, 93] then
      throw (errorAt src p "Expected ']]' at the end of an array declaration")
    pure (p + 2, { doc with data := data, flags := flags }, k)

/-- Statements from `pos` to the end of the document. -/
def statements (fuel pos : Nat) (doc : Doc) (header : List Text) : Except Failure Table :=
  match fuel with
  | 0 => pure doc.data
  | fuel + 1 => do
    let pos := skipWhile src isBlankInLine pos
    if h : pos < src.size then
      let c := src[pos]
      if c = 10 then statements fuel (pos + 1) doc header
      else
        let (p, doc, header) ← (
          if isBareKey c || c = 34 || c = 39 then do
            let (p, doc) ← keyValueRule src pos doc header
            pure (skipWhile src isBlankInLine p, doc, header)
          else if c = 91 then do
            let doc := doc.settle
            let (p, doc, header) ← if pointAt src (pos + 1) = 91 && pos + 1 < src.size
              then arrayHeader src pos doc else tableHeader src pos doc
            pure (skipWhile src isBlankInLine p, doc, header)
          else if c ≠ 35 then throw (errorAt src pos "Invalid statement")
          else pure (pos, doc, header) : Except Failure (Nat × Doc × List Text))
        let p ← skipComment src p
        if p ≥ src.size then pure doc.data
        else if src[p]! ≠ 10 then
          throw (errorAt src p "Expected newline or end of document after a statement")
        else statements fuel (p + 1) doc header
    else pure doc.data

end Reading

/-- Line feeds in place of carriage-return line feeds. -/
def unifyNewlines : List Nat → List Nat
  | 13 :: 10 :: rest => 10 :: unifyNewlines rest
  | c :: rest => c :: unifyNewlines rest
  | [] => []

/-- The table of a TOML document, or its first error. -/
def read (t : Text) : Except Failure Table :=
  let src := (unifyNewlines t.points).toArray
  statements src (src.size + 1) 0 {} []

end Upsert.Toml
