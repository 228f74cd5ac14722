import Upsert.Choice.Read
import Upsert.Value.Convert

/-!
# Settings

Settings are the defaults a new builder starts from: a hash function, four flags, two lifetimes,
a consistency mode and a refresh interval. Built directly, settings hold whatever values they are
given. Read from a configuration table, every entry is coerced to its field's type, and an entry
that cannot be coerced is reported in a warning and leaves the field as it was.

The coercions: the hash function and the consistency mode are read as choices from the text of
the entry (an empty entry clears the consistency mode); a flag is a boolean, a number (true when
not zero) or one of the words `1 true t yes y on` / `0 false f no n off` in any case with blanks
around; a lifetime is a finite float not below zero; the refresh interval is an integer not below
zero, given as an integer, a whole float or integer text, but never as a boolean.

Warnings are written by the log handler of the caller. Writing one out fails when the refused
value holds an integer of more than 4300 digits. The handlers of the standard library report such a
failure on the error stream and go on, and the warning is lost; a handler that raises it again, as
the test suite's log capture does, ends the reading of the table. The settings here follow a handler
that raises again: such a value stops the reading (`Settings.applyField`).
-/

namespace Upsert

/-- The defaults a builder starts from. -/
structure Settings where
  hashFunction : Value := .member (.hash .none)
  enableSnapshot : Value := .bool false
  enablePreload : Value := .bool false
  metadataTtl : Value := .float 0.0
  deletedKeysTtl : Value := .float 0.0
  consistencyMode : Value := .none
  refreshInterval : Value := .int 0
  dropOutOfOrder : Value := .bool false
  compaction : Value := .bool false

/-- The settings fields. -/
inductive SettingsField where
  | hashFunction | enableSnapshot | enablePreload | metadataTtl | deletedKeysTtl
  | consistencyMode | refreshInterval | dropOutOfOrder | compaction
deriving DecidableEq, Repr

namespace SettingsField

/-- All fields in declaration order. -/
def all : List SettingsField :=
  [.hashFunction, .enableSnapshot, .enablePreload, .metadataTtl, .deletedKeysTtl,
   .consistencyMode, .refreshInterval, .dropOutOfOrder, .compaction]

/-- The field of the builder that a settings field seeds. -/
def builderField : SettingsField → Field
  | .hashFunction => .hashFunction
  | .enableSnapshot => .enableSnapshot
  | .enablePreload => .enablePreload
  | .metadataTtl => .metadataTtl
  | .deletedKeysTtl => .deletedKeysTtl
  | .consistencyMode => .consistencyMode
  | .refreshInterval => .upsertViewRefreshIntervalMs
  | .dropOutOfOrder => .dropOutOfOrderRecord
  | .compaction => .enableDeletedKeysCompactionConsistency

/-- The name of a field, that of the builder field it seeds. -/
def name (f : SettingsField) : Text := f.builderField.name

/-- The field of a name. -/
def ofName? (t : Text) : Option SettingsField := all.find? (·.name = t)

/-- The four flags, in the order they are read. -/
def flags : List SettingsField := [.enableSnapshot, .enablePreload, .dropOutOfOrder, .compaction]

/-- The two lifetimes. -/
def lifetimes : List SettingsField := [.metadataTtl, .deletedKeysTtl]

end SettingsField

namespace Settings

/-- The value of a field. -/
def get (s : Settings) : SettingsField → Value
  | .hashFunction => s.hashFunction
  | .enableSnapshot => s.enableSnapshot
  | .enablePreload => s.enablePreload
  | .metadataTtl => s.metadataTtl
  | .deletedKeysTtl => s.deletedKeysTtl
  | .consistencyMode => s.consistencyMode
  | .refreshInterval => s.refreshInterval
  | .dropOutOfOrder => s.dropOutOfOrder
  | .compaction => s.compaction

/-- The settings with one field replaced. -/
def set (s : Settings) : SettingsField → Value → Settings
  | .hashFunction, v => { s with hashFunction := v }
  | .enableSnapshot, v => { s with enableSnapshot := v }
  | .enablePreload, v => { s with enablePreload := v }
  | .metadataTtl, v => { s with metadataTtl := v }
  | .deletedKeysTtl, v => { s with deletedKeysTtl := v }
  | .consistencyMode, v => { s with consistencyMode := v }
  | .refreshInterval, v => { s with refreshInterval := v }
  | .dropOutOfOrder, v => { s with dropOutOfOrder := v }
  | .compaction, v => { s with compaction := v }

/-- The fields with their values, in declaration order. -/
def fields (s : Settings) : List (Text × Value) := SettingsField.all.map fun f => (f.name, s.get f)

@[simp] theorem get_set_self (s : Settings) (f : SettingsField) (v : Value) :
    (s.set f v).get f = v := by
  cases f <;> rfl

theorem get_set_of_ne (s : Settings) {f g : SettingsField} (v : Value) (h : g ≠ f) :
    (s.set f v).get g = s.get g := by
  cases f <;> cases g <;> first | rfl | exact absurd rfl h

end Settings

/-! ### Coercions -/

namespace Settings

/-- The words read as true. -/
def trueWords : List Text := ["1", "true", "t", "yes", "y", "on"]

/-- The words read as false. -/
def falseWords : List Text := ["0", "false", "f", "no", "n", "off"]

/-- A flag from a boolean, a number or a word. -/
def coerceFlag (v : Value) : Except Fault Value :=
  match v with
  | .bool b => pure (.bool b)
  | .int i => pure (.bool (i ≠ 0))
  | .float x => pure (.bool (x != 0.0))
  | .str t =>
    let w := t.strip.lower
    if trueWords.contains w then pure (.bool true)
    else if falseWords.contains w then pure (.bool false)
    else throw (.notAFlag v)
  | v => throw (.notAFlag v)

/-- A finite float not below zero. -/
def coerceLifetime (v : Value) : Except Fault Value := do
  let x ← v.toFloat
  if x.isInf || x.isNaN || x < 0.0 then throw (.notFiniteNonNegative v)
  pure (.float x)

/-- An integer not below zero; booleans and floats with a fraction are refused. -/
def coerceInterval (v : Value) : Except Fault Value := do
  match v with
  | .bool _ => throw (.notInteger v)
  | .float x => if !Value.isWholeFloat x then throw (.notInteger v)
  | _ => pure ()
  let i ← v.toInt
  if i < 0 then throw (.negative v)
  pure (.int i)

/-- An interval is refused as no integer, or it is the integer the value reads as, refused when
below zero. -/
theorem coerceInterval_cases (v : Value) :
    coerceInterval v = .error (.notInteger v) ∨
      coerceInterval v =
        (v.toInt >>= fun i => if i < 0 then .error (.negative v) else .ok (.int i)) := by
  cases v
  case bool b => exact .inl rfl
  case float x =>
    cases hw : Value.isWholeFloat x
    · exact .inl (by simp only [coerceInterval, hw, Bool.not_false, ↓reduceIte]; rfl)
    · exact .inr (by
        simp only [coerceInterval, hw, Bool.not_true, Bool.false_eq_true, ↓reduceIte]
        rfl)
  all_goals exact .inr rfl

/-- A member of a choice, read from the text of the value. -/
def coerceChoice (c : Choice) (v : Value) : Except Fault Value :=
  (c.read (.str v.toText)).map .member

/-- The consistency mode: cleared by none or the empty text, else read as a choice. -/
def coerceConsistency (v : Value) : Except Fault Value :=
  match v with
  | .none => pure .none
  | .str t => if t.isEmpty then pure .none else coerceChoice .consistencyMode v
  | v => coerceChoice .consistencyMode v

end Settings

/-- A result with the log records written on the way to it. -/
structure Logged (α : Type) where
  result : Except Fault α
  logs : List Log

namespace Value

mutual

/-- Whether a value holds an integer of more than 4300 digits, which cannot be written out. -/
def hasLongInt : Value → Bool
  | .int i => (Text.ofNat i.natAbs).points.length > 4300
  | .list xs | .tuple xs | .iter xs => anyLongInt xs
  | .dict kvs => entriesLongInt kvs
  | _ => false

/-- Whether one of the values holds an integer too long to write out. -/
def anyLongInt : List Value → Bool
  | [] => false
  | v :: vs => hasLongInt v || anyLongInt vs

/-- Whether one of the entries holds an integer too long to write out. -/
def entriesLongInt : List (Text × Value) → Bool
  | [] => false
  | (_, v) :: rest => hasLongInt v || entriesLongInt rest

end

end Value

/-- The warning that an entry was ignored. -/
def ignoredWarning (name : Text) (v : Value) (why : Fault) : Log :=
  ⟨.warning, .settings, "Ignoring " ++ name ++ "=" ++ v.repr ++ ": " ++ why.message⟩

namespace Settings

/-- The coercion of a field. -/
def coercion : SettingsField → Value → Except Fault Value
  | .hashFunction => coerceChoice .hashFunction
  | .consistencyMode => coerceConsistency
  | .metadataTtl | .deletedKeysTtl => coerceLifetime
  | .refreshInterval => coerceInterval
  | _ => coerceFlag

/-- The order in which the entries of a configuration table are applied. -/
def applyOrder : List SettingsField :=
  [.hashFunction, .consistencyMode] ++ SettingsField.flags ++ SettingsField.lifetimes ++
    [.refreshInterval]

/-- Applies the entry of one field, if the table has one: a coerced value replaces the field,
a refused one is reported. Only a number too large for a float escapes, and a refused value
holding an integer too long to write out, since the report cannot be written; the latter assumes a
log handler that raises the failure again rather than reporting it and going on. -/
def applyField (cfg : List (Text × Value)) (f : SettingsField) (s : Settings) :
    Except Fault (Settings × List Log) :=
  match cfg.lookup f.name with
  | none => pure (s, [])
  | some v =>
    match coercion f v with
    | .ok w => pure (s.set f w, [])
    | .error .intTooLarge => throw .intTooLarge
    | .error why =>
      if v.hasLongInt then throw .intTextTooLong else pure (s, [ignoredWarning f.name v why])

/-- Applies a configuration table to settings, field by field in `applyOrder`; a value that is
no table changes nothing. -/
def applyTable (s : Settings) (cfg : Value) : Logged Settings :=
  match cfg with
  | .dict entries => go entries applyOrder s []
  | _ => ⟨.ok s, []⟩
where
  go (entries : List (Text × Value)) : List SettingsField → Settings → List Log → Logged Settings
    | [], s, logs => ⟨.ok s, logs⟩
    | f :: fs, s, logs =>
      match applyField entries f s with
      | .ok (s', new) => go entries fs s' (logs ++ new)
      | .error e => ⟨.error e, logs⟩

/-- The order in which environment variables are read. -/
def environmentOrder : List SettingsField :=
  [.hashFunction, .consistencyMode, .refreshInterval] ++ SettingsField.flags ++
    SettingsField.lifetimes

/-- ASCII upper case. -/
def upperAscii (t : Text) : Text := ⟨t.points.map fun c => if 97 ≤ c && c ≤ 122 then c - 32 else c⟩

/-- The settings with the environment applied: the variable of a field is the prefix followed by
the field's name in upper case, and only variables set to a non-empty text count. -/
def fromEnvironment (env : List (Text × Text)) (base : Settings) (pre : Text) :
    Logged Settings :=
  let entries := environmentOrder.filterMap fun f =>
    match env.lookup (pre ++ upperAscii f.name) with
    | some v => if v.isEmpty then none else some (f.name, Value.str v)
    | none => none
  base.applyTable (.dict entries)

end Settings

end Upsert
