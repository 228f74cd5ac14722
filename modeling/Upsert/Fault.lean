import Upsert.Builder.Field
import Upsert.Model.Issue
import Upsert.Toml.Reader
import Upsert.Text.Utf8

/-!
# Faults

Every way an operation of the library can fail, one constructor per cause, the sentence that
reports it (`Fault.message`) and the class of the exception that carries it (`Fault.className`). Faults that concern a field of the builder or of a table
config also name that field (`Fault.field`).

The causes fall into groups: reading a choice from free text, building a context, checking
columns against a schema or a frame, converting values to numbers and flags, reading
configuration files, and validating records.
-/

namespace Upsert

/-- The three groups of columns a context names. -/
inductive ColumnGroup where
  | primaryKey | comparison | deleteRecord
deriving DecidableEq, Repr

/-- How messages name a column group. -/
def ColumnGroup.label : ColumnGroup → Text
  | .primaryKey => "primary key columns"
  | .comparison => "comparison columns"
  | .deleteRecord => "delete record column"

/-- The values that have no truth value: frames, lazy frames and columns. -/
inductive Tabular where
  | frame | lazyFrame | column
deriving DecidableEq, Repr

/-- A cause of failure. -/
inductive Fault where
  /-- A text is not lower_snake; `what` names it. -/
  | notLowerSnake (what : Text) (got : Value)
  /-- No member of the choice has this value. -/
  | notAMember (c : Choice) (got : Text)
  /-- A value of this type has no such attribute. -/
  | noAttribute (typeName name : Text)
  /-- A text pattern was matched against bytes. -/
  | textPatternOnBytes
  /-- A text pattern was matched against a value that is neither text nor bytes. -/
  | patternNeedsText (typeName : Text)
  /-- A required field of the builder is missing or empty. -/
  | missingField (f : Field)
  /-- The table index directory does not stand for a path. -/
  | notAPath (typeName : Text)
  /-- A value of this type cannot be iterated. -/
  | notIterable (typeName : Text)
  /-- A built context is frozen. -/
  | frozenField (name : Text)
  /-- A built context has no such field to assign. -/
  | noSuchField
  /-- No context has been built yet. -/
  | noContext
  /-- The table has no upsert section, or its mode is none. -/
  | upsertDisabled (table : Text)
  /-- The table upserts column-wise and no handler is given. -/
  | handlerMissing (table : Text)
  /-- The value is no schema of a known shape. -/
  | unreadableSchema (typeName : Text)
  /-- Columns of a group are missing from the schema. -/
  | missingColumns (g : ColumnGroup) (names : List Value)
  /-- The delete-record column is not boolean. -/
  | notBoolean (column got : Value)
  /-- Primary key columns hold nulls. -/
  | nullKeys (names : List Value)
  /-- A value of this type cannot be looked up. -/
  | unhashable (typeName : Text)
  /-- A projection names a column twice. -/
  | duplicateColumns
  /-- The columns of a frame differ in height. -/
  | unevenColumns
  /-- A cell does not fit the type of the column being built; with no cell when the items of
  a list cell do not fit its item type. -/
  | unexpectedCell (column : Text) (dtype : DType) (found : Option Cell)
  /-- The cells of a list have no common type. -/
  | noCommonType (common found : DType) (cell : Cell)
  /-- A float is given for a column of a temporal type, named as in the message. -/
  | floatAsTemporal (kind : Text)
  /-- A cell of this type is given for a decimal column. -/
  | notDecimal (dtype : DType)
  /-- An integer is beyond every integer column type. -/
  | intBeyondColumns (i : Int)
  /-- A frame, lazy frame or column is asked for its truth value. -/
  | ambiguousTruth (kind : Tabular)
  /-- A lazy frame is compared, with the operator `op`. -/
  | lazyCompared (op : Text)
  /-- A value of this type is taken as the literal of an expression. -/
  | noLiteral (typeName : Text)
  /-- A lazy frame is indexed, as iterating it does. -/
  | lazyIndexed
  /-- A bare kind of column type that needs parameters stands where a column type must. -/
  | parametersNeeded (dtype : DType)
  /-- A column selector is no regular expression. -/
  | badPattern
  /-- A row is asked of a selection with no columns. -/
  | noRow
  /-- A text does not denote a float. -/
  | notFloatText (t : Text)
  /-- Bytes do not denote a float. -/
  | notFloatBytes (b : List Nat)
  /-- A value of this type does not convert to a float. -/
  | notFloatable (typeName : Text)
  /-- A text does not denote an integer. -/
  | notIntText (t : Text)
  /-- Bytes do not denote an integer. -/
  | notIntBytes (b : List Nat)
  /-- A value of this type does not convert to an integer. -/
  | notIntegral (typeName : Text)
  /-- An integer text has more digits than allowed. -/
  | tooManyDigits (count : Nat)
  /-- An integer is too large for a float. -/
  | intTooLarge
  /-- A number of a setting must be finite and not negative. -/
  | notFiniteNonNegative (v : Value)
  /-- A setting must be an integer. -/
  | notInteger (v : Value)
  /-- A setting must not be negative. -/
  | negative (v : Value)
  /-- A setting must be a flag. -/
  | notAFlag (v : Value)
  /-- A configuration file is malformed. -/
  | malformedToml (e : Toml.TomlError)
  /-- A configuration file nests values too deeply to be read. -/
  | nestedTooDeep
  /-- An integer has too many digits to be written out. -/
  | intTextTooLong
  /-- A configuration file is not UTF-8. -/
  | undecodable (e : Text.Utf8Error)
  /-- A configuration path names a directory. -/
  | isDirectory (path : Text)
  /-- A record failed validation. -/
  | invalid (k : RecordKind) (issues : List Issue)

namespace Fault

/-- A list of values as shown in messages. -/
def listText (vs : List Value) : Text := Value.repr (.list vs)

/-- The sentence that reports a fault. -/
def message : Fault → Text
  | .notLowerSnake what got => what ++ " must be lower_snake (got: " ++ got.repr ++ ")"
  | .notAMember c got => Text.quote got ++ " is not a valid " ++ c.name
  | .noAttribute t a => "'" ++ t ++ "' object has no attribute '" ++ a ++ "'"
  | .textPatternOnBytes => "cannot use a string pattern on a bytes-like object"
  | .patternNeedsText t => "expected string or bytes-like object, got '" ++ t ++ "'"
  | .missingField f => f.missingText
  | .notAPath t => "Table index directory must be a filesystem path, got " ++ t
  | .notIterable t => "'" ++ t ++ "' object is not iterable"
  | .frozenField n => "cannot assign to field " ++ Text.quote n
  | .noSuchField => "super(type, obj): obj must be an instance or subtype of type"
  | .noContext => "no context built"
  | .upsertDisabled t => "Upsert must be enabled for table " ++ Text.quote t
  | .handlerMissing t => "Partial upsert handler must be set for table " ++ Text.quote t
  | .unreadableSchema t => "cannot read columns from schema of type " ++ t
  | .missingColumns g ns => g.label ++ " not in schema: " ++ listText ns
  | .notBoolean c got =>
    "delete record column " ++ c.repr ++ " must be boolean; got " ++ got.toText
  | .nullKeys ns => "primary key columns contain nulls: " ++ listText ns
  | .unhashable t => "unhashable type: '" ++ t ++ "'"
  | .duplicateColumns => "the name is duplicate"
  | .unevenColumns => "could not create a new DataFrame: columns differ in height"
  | .unexpectedCell name d found =>
    "unexpected value while building Series of type " ++ d.debugText ++
      (match found with
       | some c => "; found value of type " ++ c.dtype.debugText ++ ": " ++ c.display
       | none => Text.empty) ++
      "\n\nThis error occurred with the following context stack:\n\t[1] while constructing Series '" ++
      name ++ "'\n\n\nHint: Try setting `strict=False` to allow passing data with mixed types."
  | .noCommonType common found c =>
    "failed to infer supertype of values; partial supertype is " ++ common.debugText ++
      ", found value of type " ++ found.debugText ++ ": " ++ c.display
  | .floatAsTemporal k => "'float' object cannot be interpreted as a '" ++ k ++ "'"
  | .notDecimal d => "can't convert " ++ d.debugText ++ " to Decimal"
  | .intBeyondColumns i => "int value too large for Polars integer types: " ++ Text.ofInt i
  | .ambiguousTruth .frame =>
    "the truth value of a DataFrame is ambiguous\n\nHint: to check if a DataFrame contains any " ++
      "values, use `is_empty()`."
  | .ambiguousTruth .lazyFrame =>
    "the truth value of a LazyFrame is ambiguous\n\nLazyFrames cannot be used in boolean " ++
      "context with and/or/not operators."
  | .ambiguousTruth .column =>
    "the truth value of a Series is ambiguous\n\nHint: use '&' or '|' to chain Series boolean " ++
      "results together, not and/or; to check if a Series contains any values, use `is_empty()`."
  | .lazyCompared op => "\"'" ++ op ++ "'\" comparison not supported for LazyFrame objects"
  | .noLiteral t =>
    "cannot create expression literal for value of type " ++ t ++ ".\n\nHint: Pass " ++
      "`allow_object=True` to accept any value and create a literal of type Object."
  | .lazyIndexed =>
    "LazyFrame is not subscriptable (aside from slicing)\n\nUse `select()` or `filter()` instead."
  | .parametersNeeded d => "dtypes must be fully-specified, got: " ++ d.name
  | .badPattern => "invalid regular expression"
  | .noRow => "index 0 is out of bounds for sequence of length 0"
  | .notFloatText t => "could not convert string to float: " ++ Text.quote t
  | .notFloatBytes b => "could not convert string to float: " ++ Text.quoteBytes b
  | .notFloatable t => "float() argument must be a string or a real number, not '" ++ t ++ "'"
  | .notIntText t =>
    let shown := Text.quote t
    "invalid literal for int() with base 10: " ++ ⟨shown.points.take 200⟩
  | .notIntBytes b =>
    -- the literal is shown from its first 200 bytes, and cut to 200 code points
    let shown := Text.quoteBytes (b.take 200)
    "invalid literal for int() with base 10: " ++ ⟨shown.points.take 200⟩
  | .notIntegral t =>
    "int() argument must be a string, a bytes-like object or a real number, not '" ++ t ++ "'"
  | .tooManyDigits n =>
    "Exceeds the limit (4300 digits) for integer string conversion: value has " ++ Text.ofNat n ++
      " digits; use sys.set_int_max_str_digits() to increase the limit"
  | .intTooLarge => "int too large to convert to float"
  | .notFiniteNonNegative v => "must be a finite number >= 0: " ++ v.repr
  | .notInteger v => "not an integer: " ++ v.repr
  | .negative v => "must be >= 0: " ++ v.repr
  | .notAFlag v => "not a boolean: " ++ v.repr
  | .malformedToml e => e.text
  | .nestedTooDeep => "maximum recursion depth exceeded"
  | .intTextTooLong =>
    "Exceeds the limit (4300 digits) for integer string conversion; use " ++
      "sys.set_int_max_str_digits() to increase the limit"
  | .undecodable e => e.message
  | .isDirectory path => "[Errno 21] Is a directory: " ++ Text.quote path
  | .invalid _ issues =>
    Text.join "; " (issues.map fun i => LocPart.joined i.loc ++ ": " ++ i.kind.message)

/-- The class of the exception that reports a fault. -/
def className : Fault → Text
  | .notLowerSnake .. | .notAMember .. | .notFloatText _ | .notIntText _ | .notFloatBytes _
  | .notIntBytes _ | .tooManyDigits _
  | .notFiniteNonNegative _ | .notInteger _ | .negative _ | .notAFlag _
  | .intTextTooLong => "ValueError"
  | .nestedTooDeep => "RecursionError"
  | .noAttribute .. => "AttributeError"
  | .missingField _ | .notAPath _ | .upsertDisabled _ | .handlerMissing _ => "ConfigurationError"
  | .frozenField _ => "FrozenInstanceError"
  | .noContext => "NoContext"
  | .unreadableSchema _ | .missingColumns .. | .notBoolean .. | .nullKeys _ => "SchemaMismatchError"
  | .duplicateColumns => "DuplicateError"
  | .unevenColumns => "ShapeError"
  | .intTooLarge | .intBeyondColumns _ => "OverflowError"
  | .badPattern => "ComputeError"
  | .noRow => "OutOfBoundsError"
  | .malformedToml _ => "TOMLDecodeError"
  | .undecodable _ => "UnicodeDecodeError"
  | .isDirectory _ => "IsADirectoryError"
  | .invalid .. => "ValidationError"
  | _ => "TypeError"

/-- The field a fault concerns, for faults about a field of the builder or a table config. -/
def field : Fault → Option Text
  | .missingField f => some f.name
  | .notAPath _ => some Field.tableIndexDir.name
  | .upsertDisabled _ => some "upsert_config"
  | .handlerMissing _ => some "partial_upsert_handler"
  | _ => none

end Fault

/-- Where a log record comes from: reading settings, or building contexts. -/
inductive LogSource where
  | settings | builder
deriving DecidableEq, Repr

/-- The level of a log record. -/
inductive LogLevel where
  | debug | warning
deriving DecidableEq, Repr

/-- A log record. -/
structure Log where
  level : LogLevel
  source : LogSource
  message : Text

end Upsert
