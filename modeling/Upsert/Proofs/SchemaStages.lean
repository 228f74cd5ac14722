import Upsert.Proofs.ColumnChecks

/-!
# Validating a schema in two stages

A schema is validated in two stages. Its table of columns is read first, and the type names in it
are checked as soon as it has been read; the primary key columns are checked against the columns
only once every field has been read. So a schema with an unknown type name is refused for that
alone, and its primary key is never looked at.

For a plain input (a name, a table from column names to type names, perhaps a list of primary key
columns, and no other entry: `Schema.PlainInput`) validation answers as follows
(`schema_checks_types_before_keys`):

* the schema is accepted exactly when every type name is known and every primary key column is
  declared, and it is then the input as given, with no primary key columns when none were given;
* when some type name is unknown, the one issue is a failed rule at `columns`, whose text lists
  the columns with unknown type names in order and then the allowed names, which are sorted;
* otherwise, when some primary key column is not declared, the one issue is a failed rule of the
  schema itself, whose text lists the undeclared key columns in order, repeats kept.
-/

namespace Upsert

/-! ### Reading fields that hold what they should -/

namespace Checked

variable {α β : Type}

@[simp] theorem within_ok (p : LocPart) (a : α) : within p (.ok a : Checked α) = .ok a := rfl

@[simp] theorem within_error (p : LocPart) (e : List Issue) :
    within p (.error e : Checked α) = .error (e.map fun i => { i with loc := p :: i.loc }) := rfl

@[simp] theorem closed_nil (c : Checked α) : c.closed [] = c := by
  cases c <;> simp [closed]

@[simp] theorem ok_and (a : α) (c : Checked β) : (Checked.and (.ok a) c) = c.map (a, ·) := by
  cases c <;> rfl

@[simp] theorem and_ok (c : Checked α) (b : β) : c.and (.ok b) = c.map (·, b) := by
  cases c <;> rfl

/-- Parts that all succeed give the list of their results. -/
@[simp] theorem all_map_ok {γ : Type} (xs : List γ) (f : γ → α) :
    all (xs.map fun x => .ok (f x)) = .ok (xs.map f) := by
  induction xs with
  | nil => rfl
  | cons x xs ih => simp [all, ih]

end Checked

namespace Entries

variable {α : Type} {kvs : Entries} {name : String} {read : Value → Checked α}

/-- A field with an entry is read from it, its issues located under its name. -/
theorem field_of_lookup {v : Value} (d : Option α) (h : kvs.lookup name = some v) :
    kvs.field name d read = Checked.within (.name name) (read v) := by
  simp [field, h]

/-- A field with no entry takes its default. -/
theorem field_of_lookup_none {d : α} (h : kvs.lookup name = Option.none) :
    kvs.field name (some d) read = .ok d := by
  simp [field, h]

/-- Entries that all name fields have no extra entry. -/
theorem extras_eq_nil {names : List String} (h : ∀ e ∈ kvs, e.1 ∈ names.map Text.ofString) :
    kvs.extras names = [] := by
  rw [extras, List.filterMap_eq_nil_iff]
  rintro ⟨k, v⟩ hkv
  obtain ⟨n, hn, hk⟩ := List.mem_map.mp (h _ hkv)
  have hany : (names.any fun n => Text.ofString n = k) = true :=
    List.any_eq_true.mpr ⟨n, hn, by simpa using hk⟩
  simp [hany]

end Entries

namespace Lax

@[simp] theorem text_str (t : Text) : text (.str t) = .ok t := rfl

/-- A table from texts to texts reads as its pairs. -/
theorem textTable_dict (cols : List (Text × Text)) :
    textTable (.dict (cols.map fun c => (c.1, .str c.2))) = .ok cols := by
  simp only [textTable, List.map_map, Function.comp_def, text_str, except_map_ok, Checked.within_ok]
  rw [Checked.all_map_ok, List.map_id']

/-- A list of texts reads as its texts. -/
theorem texts_ofTexts (ts : List Text) : texts (Value.ofTexts ts) = .ok ts := by
  -- every item is a text, so each reads as itself whatever its index
  simp only [texts, Value.ofTexts, listItems, except_pure, except_ok_bind, List.length_map,
    List.zip_map_right, List.map_map, Function.comp_def, Prod.map_fst, Prod.map_snd, id, text_str,
    Checked.within_ok]
  rw [Checked.all_map_ok, List.map_snd_zip (by simp)]

end Lax

/-! ### The two stages -/

namespace Schema

/-- The entries of a plain schema input: a name, a table from column names to type names, perhaps
a list of primary key columns (none when `keys` is none), and no other entry. -/
structure PlainInput (kvs : Entries) (name : Text) (cols : List (Text × Text))
    (keys : Option (List Text)) : Prop where
  onlyFields : ∀ e ∈ kvs, e.1 ∈ fieldNames.map Text.ofString
  name : kvs.lookup "schema_name" = some (.str name)
  columns : kvs.lookup "columns" = some (.dict (cols.map fun c => (c.1, .str c.2)))
  primaryKey : kvs.lookup "primary_key_columns" = keys.map Value.ofTexts

/-- The text refusing columns with unknown type names: those columns with their type names, then
the allowed names. -/
def unknownTypesText (bad : List (Text × Text)) : Text :=
  "unknown column dtypes " ++ (Value.dict (bad.map fun c => (c.1, .str c.2))).repr ++
    "; allowed " ++ (Value.ofTexts columnTypeNames).repr

/-- The text refusing primary key columns that are not declared. -/
def undeclaredKeysText (missing : List Text) : Text :=
  "primary key columns not in schema: " ++ (Value.ofTexts missing).repr

/-- The allowed type names are listed in order, each before every greater one. -/
theorem columnTypeNames_sorted : columnTypeNames.Pairwise fun a b => a.points < b.points := by
  decide

/-- The columns the type check picks out are those whose type name is not allowed. -/
theorem knownTypes_bad (cols : List (Text × Text)) :
    (cols.filter fun (_, d) => !columnTypeNames.contains d) =
      cols.filter fun c => c.2 ∉ columnTypeNames := by
  apply List.filter_congr
  rintro ⟨n, d⟩ -
  simp

/-- No column is picked out exactly when every type name is allowed. -/
theorem unknown_eq_nil_iff (cols : List (Text × Text)) :
    (cols.filter fun c => c.2 ∉ columnTypeNames) = [] ↔ ∀ c ∈ cols, c.2 ∈ columnTypeNames := by
  simp [List.filter_eq_nil_iff]

theorem knownTypes_of_known {cols : List (Text × Text)} (h : ∀ c ∈ cols, c.2 ∈ columnTypeNames) :
    knownTypes cols = .ok cols := by
  simp only [knownTypes, knownTypes_bad, (unknown_eq_nil_iff cols).mpr h, List.isEmpty_nil, if_true,
    except_pure]

theorem knownTypes_of_unknown {cols : List (Text × Text)}
    (h : (cols.filter fun c => c.2 ∉ columnTypeNames) ≠ []) :
    knownTypes cols =
      Checked.fail (.rule (unknownTypesText (cols.filter fun c => c.2 ∉ columnTypeNames))) := by
  simp only [knownTypes, knownTypes_bad, List.isEmpty_iff, h, if_false]
  rfl

variable {kvs : Entries} {name : Text} {cols : List (Text × Text)} {keys : Option (List Text)}

/-- The primary key of a plain input reads as the keys given, or as none. -/
theorem PlainInput.primaryKey_field (h : PlainInput kvs name cols keys) :
    kvs.field "primary_key_columns" (some []) Lax.texts = .ok (keys.getD []) := by
  cases keys with
  | none => exact Entries.field_of_lookup_none h.primaryKey
  | some ks => simp [Entries.field_of_lookup _ h.primaryKey, Lax.texts_ofTexts]

/-- An unknown type name stops a plain input at its columns, before its keys are looked at. -/
theorem ofEntries_of_unknown (h : PlainInput kvs name cols keys)
    (hu : (cols.filter fun c => c.2 ∉ columnTypeNames) ≠ []) :
    ofEntries kvs = .error [⟨[.name "columns"],
      .rule (unknownTypesText (cols.filter fun c => c.2 ∉ columnTypeNames))⟩] := by
  simp only [ofEntries, Entries.field_of_lookup _ h.name, Entries.field_of_lookup _ h.columns,
    h.primaryKey_field, Entries.extras_eq_nil h.onlyFields, Lax.textTable_dict, Lax.text_str,
    Checked.within_ok, except_ok_bind, Checked.closed_nil, Checked.ok_and, Checked.and_ok,
    knownTypes_of_unknown hu, Checked.fail, Checked.within_error, except_map_error,
    except_error_bind, List.map_cons, List.map_nil]

/-- With known type names, a plain input stands or falls by its primary key columns: accepted as
given when all are declared, and otherwise refused for the undeclared ones, in order. -/
theorem ofEntries_of_known (h : PlainInput kvs name cols keys)
    (hk : ∀ c ∈ cols, c.2 ∈ columnTypeNames) :
    ofEntries kvs =
      let missing := (keys.getD []).filter fun k => k ∉ cols.map Prod.fst
      if missing = [] then .ok ⟨name, cols, keys.getD []⟩
      else Checked.fail (.rule (undeclaredKeysText missing)) := by
  have hmissing : ((keys.getD []).filter fun k => !(cols.any fun (n, _) => n = k)) =
      (keys.getD []).filter fun k => k ∉ cols.map Prod.fst := by
    apply List.filter_congr
    intro k _
    simp only [decide_not, Bool.not_inj_iff, List.any_eq, List.mem_map]
    grind
  simp only [ofEntries, Entries.field_of_lookup _ h.name, Entries.field_of_lookup _ h.columns,
    h.primaryKey_field, Entries.extras_eq_nil h.onlyFields, Lax.textTable_dict, Lax.text_str,
    Checked.within_ok, except_ok_bind, Checked.closed_nil, Checked.and_ok, knownTypes_of_known hk,
    except_map_ok, hmissing, List.isEmpty_iff]
  rfl

/-- A plain input with known type names and declared key columns is accepted as given. -/
theorem ofEntries_accepts (h : PlainInput kvs name cols keys)
    (hk : ∀ c ∈ cols, c.2 ∈ columnTypeNames) (hd : ∀ k ∈ keys.getD [], k ∈ cols.map Prod.fst) :
    ofEntries kvs = .ok ⟨name, cols, keys.getD []⟩ := by
  rw [ofEntries_of_known h hk]
  exact if_pos ((filter_not_mem_eq_nil_iff _ _).mpr hd)

/-- A plain input with known type names and undeclared key columns is refused for those, by the
schema itself. -/
theorem ofEntries_of_undeclared (h : PlainInput kvs name cols keys)
    (hk : ∀ c ∈ cols, c.2 ∈ columnTypeNames)
    (hm : ((keys.getD []).filter fun k => k ∉ cols.map Prod.fst) ≠ []) :
    ofEntries kvs = .error [⟨[],
      .rule (undeclaredKeysText ((keys.getD []).filter fun k => k ∉ cols.map Prod.fst))⟩] := by
  rw [ofEntries_of_known h hk]
  exact if_neg hm

/-- A plain input is accepted exactly when it passes both stages. -/
theorem ofEntries_succeeds_iff (h : PlainInput kvs name cols keys) :
    (∃ s, ofEntries kvs = .ok s) ↔
      (∀ c ∈ cols, c.2 ∈ columnTypeNames) ∧ ∀ k ∈ keys.getD [], k ∈ cols.map Prod.fst := by
  refine ⟨?_, fun ⟨hk, hd⟩ => ⟨_, ofEntries_accepts h hk hd⟩⟩
  -- an input that fails either stage is refused, so an accepted one passed both
  rintro ⟨s, hs⟩
  by_cases hk : ∀ c ∈ cols, c.2 ∈ columnTypeNames
  · refine ⟨hk, (filter_not_mem_eq_nil_iff _ _).mp ?_⟩
    by_contra hm
    rw [ofEntries_of_undeclared h hk hm] at hs
    cases hs
  · rw [ofEntries_of_unknown h (mt (unknown_eq_nil_iff cols).mp hk)] at hs
    cases hs

end Schema

/-- A table is validated as a schema by reading the schema from its entries. -/
theorem validate_schema_dict (kvs : Entries) :
    RecordKind.validate .schema (.dict kvs) =
      ((Schema.ofEntries kvs).map Value.schema).mapError (Fault.invalid .schema) := rfl

/-- Validating a table as a schema succeeds exactly when reading the schema from it does. -/
theorem validate_schema_dict_succeeds_iff (kvs : Entries) :
    (∃ v, RecordKind.validate .schema (.dict kvs) = .ok v) ↔ ∃ s, Schema.ofEntries kvs = .ok s := by
  rw [validate_schema_dict]
  cases Schema.ofEntries kvs with
  | error e => simp [Except.mapError]
  | ok s => simp [Except.mapError]

/-- Validating a plain schema input checks the type names first and the primary key columns only
after. It accepts the input as given exactly when every type name is known and every key column is
declared. An unknown type name is then the one issue, at `columns`, listing the columns with unknown
type names in order and the allowed names, which are sorted. With known type names, the undeclared
key columns are the one issue, of the schema itself, listed in order with repeats. -/
theorem schema_checks_types_before_keys {kvs : Entries} {name : Text} {cols : List (Text × Text)}
    {keys : Option (List Text)} (h : Schema.PlainInput kvs name cols keys) :
    ((∃ s, RecordKind.validate .schema (.dict kvs) = .ok s) ↔
      (∀ c ∈ cols, c.2 ∈ columnTypeNames) ∧ ∀ k ∈ keys.getD [], k ∈ cols.map Prod.fst) ∧
    ((∀ c ∈ cols, c.2 ∈ columnTypeNames) → (∀ k ∈ keys.getD [], k ∈ cols.map Prod.fst) →
      RecordKind.validate .schema (.dict kvs) = .ok (.schema ⟨name, cols, keys.getD []⟩)) ∧
    ((cols.filter fun c => c.2 ∉ columnTypeNames) ≠ [] →
      RecordKind.validate .schema (.dict kvs) = .error (.invalid .schema [⟨[.name "columns"],
        .rule (Schema.unknownTypesText (cols.filter fun c => c.2 ∉ columnTypeNames))⟩])) ∧
    columnTypeNames.Pairwise (fun a b => a.points < b.points) ∧
    ((∀ c ∈ cols, c.2 ∈ columnTypeNames) →
      ((keys.getD []).filter fun k => k ∉ cols.map Prod.fst) ≠ [] →
      RecordKind.validate .schema (.dict kvs) = .error (.invalid .schema [⟨[], .rule
        (Schema.undeclaredKeysText ((keys.getD []).filter fun k => k ∉ cols.map Prod.fst))⟩])) := by
  refine ⟨(validate_schema_dict_succeeds_iff kvs).trans (Schema.ofEntries_succeeds_iff h),
    fun hk hd => ?_, fun hu => ?_, Schema.columnTypeNames_sorted, fun hk hm => ?_⟩
  · rw [validate_schema_dict, Schema.ofEntries_accepts h hk hd]
    rfl
  · rw [validate_schema_dict, Schema.ofEntries_of_unknown h hu]
    rfl
  · rw [validate_schema_dict, Schema.ofEntries_of_undeclared h hk hm]
    rfl

/-- An input with an unknown type name and an undeclared primary key column is refused for the type
name alone, at `columns`. -/
theorem unknown_type_hides_undeclared_key :
    Schema.PlainInput [("schema_name", .str "s"), ("columns", .dict [("a", .str "decimal")]),
        ("primary_key_columns", .list [.str "b"])] "s" [("a", "decimal")] (some ["b"]) ∧
      RecordKind.validate .schema (.dict [("schema_name", .str "s"),
        ("columns", .dict [("a", .str "decimal")]), ("primary_key_columns", .list [.str "b"])]) =
        .error (.invalid .schema [⟨[.name "columns"], .rule ("unknown column dtypes \x7b'a': " ++
          "'decimal'\x7d; allowed ['bool', 'bytes', 'f32', 'f64', 'i32', 'i64', 'str']")⟩]) := by
  have h : Schema.PlainInput [("schema_name", .str "s"), ("columns", .dict [("a", .str "decimal")]),
      ("primary_key_columns", .list [.str "b"])] "s" [("a", "decimal")] (some ["b"]) :=
    ⟨by decide, rfl, rfl, rfl⟩
  exact ⟨h, ((schema_checks_types_before_keys h).2.2.1 (by decide)).trans rfl⟩

end Upsert
