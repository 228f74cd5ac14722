import Mathlib.Data.List.Forall2
import Upsert.Builder.Seed
import Upsert.Builder.Session
import Upsert.Model.Validate
import Upsert.Proofs.Rebuild

/-!
# Seeded contexts against their schema

A schema that passed validation is well formed (`Schema.wellFormed_of_ofEntries`): every column has
a known type name, and every primary key column is declared. A builder seeded from a table and such
a schema holds the schema and its keys, and keeps them through every step that stages neither a
schema nor primary key columns (`Session.run_keyed`), so every context a session builds holds them.

Against such a context the column checks answer from the schema's declarations alone
(`checks_of_builtOn`):

* the schema's columns are read as the declared columns in order, each with the data type of its
  type name, and the delete-record check sees the type bool as boolean and no other;
* the primary key columns are always present;
* the checks pass exactly when every comparison column is declared and the delete-record column is
  none or declared, where first declared, with type name bool;
* otherwise they report the missing comparison or delete-record columns, or a delete-record column
  that is not boolean, unless a comparison or delete-record value cannot be hashed: looking it up
  then stops the check with a type error.
-/

namespace Upsert

/-! ### Validated schemas -/

namespace Checked

variable {α β : Type}

theorem within_eq_ok {p : LocPart} {c : Checked α} {a : α} : within p c = .ok a ↔ c = .ok a := by
  cases c <;> simp [within, Except.mapError]

theorem and_eq_ok {c : Checked α} {c' : Checked β} {a : α} {b : β} :
    c.and c' = .ok (a, b) ↔ c = .ok a ∧ c' = .ok b := by
  cases c <;> cases c' <;> simp [and]

/-- Fields read without issues are closed without issues only if they read that way. -/
theorem eq_ok_of_closed {c : Checked α} {extra : List Issue} {a : α} (h : c.closed extra = .ok a) :
    c = .ok a := by
  unfold closed at h
  split at h
  · exact h
  · cases h
  · cases h

end Checked

/-- A field with no default that reads without issues has an entry, read without issues. -/
theorem Entries.field_eq_ok {α : Type} {kvs : Entries} {name : String} {read : Value → Checked α}
    {a : α} (h : kvs.field name Option.none read = .ok a) :
    ∃ v, kvs.lookup name = some v ∧ read v = .ok a := by
  unfold Entries.field at h
  rw [Checked.within_eq_ok] at h
  split at h
  · next _ v hl => exact ⟨v, hl, h⟩
  · next hd => cases hd
  · cases h

namespace Schema

/-- A schema as validation leaves it: every column has a known type name, and every primary key
column is declared. -/
structure WellFormed (s : Schema) : Prop where
  knownTypes : ∀ c ∈ s.columns, c.2 ∈ columnTypeNames
  keysDeclared : ∀ k ∈ s.primaryKey, k ∈ s.columns.map Prod.fst

/-- Columns that pass the type check are kept as they are, and all their type names are known. -/
theorem knownTypes_eq_ok {cols cols' : List (Text × Text)} (h : knownTypes cols = .ok cols') :
    cols' = cols ∧ ∀ c ∈ cols, c.2 ∈ columnTypeNames := by
  unfold knownTypes at h
  simp only at h
  split at h
  · next hbad =>
    cases h
    refine ⟨rfl, fun c hc => ?_⟩
    have hnil := List.isEmpty_iff.mp hbad
    have hknown := List.filter_eq_nil_iff.mp hnil c hc
    simpa using hknown
  · cases h

/-- A schema validated from entries is well formed. -/
theorem wellFormed_of_ofEntries {kvs : Entries} {s : Schema} (h : ofEntries kvs = .ok s) :
    s.WellFormed := by
  unfold ofEntries at h
  obtain ⟨⟨name, columns, primaryKey⟩, hread, h⟩ := except_bind_eq_ok.mp h
  simp only at h
  split at h
  · next habsent =>
    cases h
    obtain ⟨-, hrest⟩ := Checked.and_eq_ok.mp (Checked.eq_ok_of_closed hread)
    obtain ⟨hcols, -⟩ := Checked.and_eq_ok.mp hrest
    obtain ⟨v, -, hv⟩ := Entries.field_eq_ok hcols
    obtain ⟨cols', -, hk⟩ := except_bind_eq_ok.mp hv
    obtain ⟨rfl, hknown⟩ := knownTypes_eq_ok hk
    refine ⟨hknown, fun k hk => ?_⟩
    -- a key left out of the absent ones names a column
    have hdecl := List.filter_eq_nil_iff.mp (List.isEmpty_iff.mp habsent) k hk
    simp only [Bool.not_eq_true', Bool.not_eq_false, List.any_eq_true, decide_eq_true_eq] at hdecl
    obtain ⟨⟨n, d⟩, hmem, rfl⟩ := hdecl
    exact List.mem_map.mpr ⟨(n, d), hmem, rfl⟩
  · cases h

/-- The name of a declared column, as a context names a column. -/
def Declares (s : Schema) (x : Value) : Prop := x ∈ s.columns.map fun c => Value.str c.1

/-- A delete-record column the schema accepts: none, or a column whose first declaration has the
type name bool. -/
def AcceptsDelete (s : Schema) (x : Value) : Prop :=
  x = .none ∨ ∃ t, x = .str t ∧ s.columns.lookup t = some (Text.ofString "bool")

end Schema

/-! ### The data types of type names -/

/-- Every known type name has a data type. -/
theorem DType.ofColumnTypeName_of_mem {d : Text} (h : d ∈ columnTypeNames) :
    ∃ dt, DType.ofColumnTypeName d = some dt := by
  simp only [columnTypeNames, List.mem_cons, List.not_mem_nil, or_false] at h
  rcases h with rfl | rfl | rfl | rfl | rfl | rfl | rfl <;> exact ⟨_, rfl⟩

/-- Only the type name bool stands for the boolean type. -/
theorem DType.ofColumnTypeName_eq_boolean {d : Text} :
    DType.ofColumnTypeName d = some .boolean ↔ d = Text.ofString "bool" := by
  constructor
  · intro h
    obtain ⟨⟨k, dk⟩, hmem, hk⟩ := List.exists_of_findSome?_eq_some h
    simp only [Option.ite_none_right_eq_some, Option.some.injEq] at hk
    simp only [List.mem_cons, Prod.mk.injEq, List.not_mem_nil, or_false] at hmem
    obtain ⟨hkd, rfl⟩ := hk
    rcases hmem with ⟨rfl, h⟩ | ⟨rfl, h⟩ | ⟨rfl, h⟩ | ⟨rfl, h⟩ | ⟨rfl, h⟩ | ⟨rfl, h⟩ | ⟨rfl, h⟩ <;>
      first | exact hkd.symm | cases h
  · rintro rfl
    rfl

theorem DType.isBoolean_iff {dt : DType} : dt.isBoolean = true ↔ dt = .boolean := by
  cases dt <;> simp [DType.isBoolean]

/-! ### Reading a schema's columns -/

/-- The column a declaration is read as: its name, with the data type of its type name. -/
def DeclaredAs (decl : Text × Text) (col : Text × Value) : Prop :=
  ∃ dt, DType.ofColumnTypeName decl.2 = some dt ∧ col = (decl.1, .dtype dt)

/-- Declarations of known type names are read one for one. -/
theorem forall₂_declaredAs {decls : List (Text × Text)} (h : ∀ c ∈ decls, c.2 ∈ columnTypeNames) :
    List.Forall₂ DeclaredAs decls
      (decls.filterMap fun (n, d) => (DType.ofColumnTypeName d).map fun d => (n, .dtype d)) := by
  induction decls with
  | nil => exact .nil
  | cons c decls ih =>
    obtain ⟨n, d⟩ := c
    obtain ⟨dt, hdt⟩ := DType.ofColumnTypeName_of_mem (h (n, d) (List.mem_cons_self ..))
    simp only at hdt
    simp only [List.filterMap_cons, hdt, Option.map_some]
    exact .cons ⟨dt, hdt, rfl⟩ (ih fun c hc => h c (List.mem_cons_of_mem _ hc))

/-- The columns of a well-formed schema are its declarations, in order, each with its data type. -/
theorem schemaColumns_of_wellFormed {s : Schema} (hs : s.WellFormed) :
    ∃ cols, schemaColumns (.schema s) = .ok cols ∧ List.Forall₂ DeclaredAs s.columns cols :=
  ⟨_, rfl, forall₂_declaredAs hs.knownTypes⟩

section Declared

variable {decls : List (Text × Text)} {cols : List (Text × Value)}

/-- A value names one of the columns read from declarations exactly when it names a declaration. -/
theorem namesColumn_iff (h : List.Forall₂ DeclaredAs decls cols) (x : Value) :
    namesColumn cols x = true ↔ x ∈ decls.map fun c => Value.str c.1 := by
  cases x
  case str t =>
    simp only [namesColumn, List.any_eq_true, decide_eq_true_eq, List.mem_map, Value.str.injEq]
    induction h with
    | nil => simp
    | cons hd _ ih =>
      obtain ⟨dt, -, rfl⟩ := hd
      simp [ih]
  all_goals
    simp only [namesColumn, Bool.false_eq_true, false_iff, List.mem_map, not_exists, not_and]
    intro _ _ h
    cases h

/-- The type the checks find for a column read from declarations is boolean exactly when the first
declaration of that name has the type name bool. -/
theorem isBooleanType_columnType_iff (h : List.Forall₂ DeclaredAs decls cols) (t : Text) :
    isBooleanType (columnType cols (.str t)) = true ↔
      decls.lookup t = some (Text.ofString "bool") := by
  induction h with
  | nil => simp [columnType, isBooleanType]
  | @cons decl col decls cols hd _ ih =>
    obtain ⟨dt, hdt, rfl⟩ := hd
    obtain ⟨n, d⟩ := decl
    simp only at hdt
    simp only [columnType] at ih ⊢
    by_cases hn : n = t
    · -- the first declaration of the name is this one
      subst hn
      simp only [List.find?_cons, decide_true, List.lookup_cons, beq_self_eq_true, Option.map_some,
        Option.getD_some, isBooleanType, DType.isBoolean_iff, Option.some.injEq]
      rw [← DType.ofColumnTypeName_eq_boolean, hdt, Option.some.injEq]
    · have hne : (t == n) = false := by
        simp only [beq_eq_false_iff_ne, ne_eq]
        exact fun h => hn h.symm
      simp only [List.find?_cons, hn, decide_false, List.lookup_cons, hne]
      exact ih

end Declared

/-! ### The checks -/

theorem Value.unhashableType?_of_namesColumn {cols : List (Text × Value)} {x : Value}
    (h : namesColumn cols x = true) : x.unhashableType? = Option.none := by
  cases x <;> first | rfl | cases h

/-- A group whose names are all hashable has as absent names those that name no column. -/
theorem absentColumns_eq_ok {cols : List (Text × Value)} {xs absent : List Value}
    (h : absentColumns cols xs = .ok absent) : absent = xs.filter fun x => !namesColumn cols x := by
  induction xs generalizing absent with
  | nil => cases h; rfl
  | cons x xs ih =>
    unfold absentColumns at h
    split at h
    · cases h
    · obtain ⟨rest, hrest, h⟩ := except_bind_eq_ok.mp h
      cases h
      rw [ih hrest, List.filter_cons]
      cases namesColumn cols x <;> rfl

/-- A group fails to be looked up only on a name that cannot be hashed. -/
theorem unhashable_of_absentColumns {cols : List (Text × Value)} {xs : List Value} {e : Fault}
    (h : absentColumns cols xs = .error e) :
    ∃ x ∈ xs, ∃ t, x.unhashableType? = some t ∧ e = .unhashable t := by
  induction xs with
  | nil => cases h
  | cons x xs ih =>
    unfold absentColumns at h
    split at h
    · next t ht =>
      cases h
      exact ⟨x, List.mem_cons_self .., t, ht, rfl⟩
    · cases hrest : absentColumns cols xs with
      | error e' =>
        rw [hrest] at h
        cases h
        obtain ⟨y, hy, t, ht, rfl⟩ := ih hrest
        exact ⟨y, List.mem_cons_of_mem x hy, t, ht, rfl⟩
      | ok rest => rw [hrest] at h; cases h

theorem absentColumns_of_names {cols : List (Text × Value)} {xs : List Value}
    (h : ∀ x ∈ xs, namesColumn cols x = true) : absentColumns cols xs = .ok [] := by
  induction xs with
  | nil => rfl
  | cons x xs ih =>
    have hx := h x (List.mem_cons_self ..)
    unfold absentColumns
    rw [Value.unhashableType?_of_namesColumn hx]
    simp [ih fun y hy => h y (List.mem_cons_of_mem x hy), hx]

section Present

variable {cols : List (Text × Value)} {g : ColumnGroup} {xs : List Value}

/-- A group is present exactly when each of its names names a column. -/
theorem ensurePresent_eq_ok_iff :
    ensurePresent cols g xs = .ok () ↔ ∀ x ∈ xs, namesColumn cols x = true := by
  constructor
  · intro h
    unfold ensurePresent at h
    obtain ⟨absent, habsent, h⟩ := except_bind_eq_ok.mp h
    split at h
    · next hempty =>
      rw [absentColumns_eq_ok habsent] at hempty
      intro x hx
      have hn := List.filter_eq_nil_iff.mp (List.isEmpty_iff.mp hempty) x hx
      simpa using hn
    · cases h
  · intro h
    simp [ensurePresent, absentColumns_of_names h]

/-- A group that is not present is reported missing, unless one of its names cannot be hashed. -/
theorem ensurePresent_error {e : Fault} (h : ensurePresent cols g xs = .error e) :
    (∃ ns, e = .missingColumns g ns) ∨ ∃ x ∈ xs, ∃ t, x.unhashableType? = some t ∧ e = .unhashable t := by
  unfold ensurePresent at h
  cases habsent : absentColumns cols xs with
  | error e' =>
    rw [habsent] at h
    cases h
    exact .inr (unhashable_of_absentColumns habsent)
  | ok absent =>
    rw [habsent, except_ok_bind] at h
    split at h
    · cases h
    · cases h
      exact .inl ⟨absent, rfl⟩

end Present

/-- A name whose column type is boolean names a column. -/
theorem namesColumn_of_isBooleanType {cols : List (Text × Value)} {x : Value}
    (h : isBooleanType (columnType cols x) = true) : namesColumn cols x = true := by
  cases x
  case str t =>
    simp only [columnType] at h
    cases hf : cols.find? (fun c => decide (c.1 = t)) with
    | none => simp [hf, isBooleanType] at h
    | some p =>
      have hp := List.find?_some hf
      simp only [decide_eq_true_eq] at hp
      simp only [namesColumn, List.any_eq_true, decide_eq_true_eq]
      exact ⟨p, List.mem_of_find?_eq_some hf, hp⟩
  all_goals cases h

section DeleteRecord

variable {decls : List (Text × Text)} {cols : List (Text × Value)}

/-- A data type, or none, is compared with the boolean type without fault. -/
theorem differsFromBoolean_of_declared {ty : Value} (h : ty = .none ∨ ∃ d, ty = .dtype d) :
    differsFromBoolean ty = .ok !(isBooleanType ty) := by
  rcases h with rfl | ⟨d, rfl⟩ <;> rfl

/-- The columns read from declarations give a name a data type, or none when no column has it. -/
theorem columnType_declared (hcols : List.Forall₂ DeclaredAs decls cols) (x : Value) :
    columnType cols x = .none ∨ ∃ d, columnType cols x = .dtype d := by
  cases x
  case str t =>
    induction hcols with
    | nil => simp [columnType]
    | cons hd _ ih =>
      obtain ⟨dt, -, rfl⟩ := hd
      simp only [columnType, List.find?_cons] at ih ⊢
      split
      · simp
      · exact ih
  all_goals simp [columnType]

/-- The check of a delete-record column against columns read from declarations passes exactly when
the column's first declaration has the type name bool. -/
theorem deleteCheck_eq_ok_iff (hcols : List.Forall₂ DeclaredAs decls cols) (col : Value) :
    deleteRecordCheck cols col = .ok () ↔
      ∃ t, col = .str t ∧ decls.lookup t = some (Text.ofString "bool") := by
  have hty := differsFromBoolean_of_declared (columnType_declared hcols col)
  constructor
  · intro h
    obtain ⟨u, hd, h⟩ := except_bind_eq_ok.mp h
    simp only [hty, except_ok_bind] at h
    split at h
    · cases h
    · next hb =>
      have hb' : isBooleanType (columnType cols col) = true := by simpa using hb
      have hn := (ensurePresent_eq_ok_iff.mp hd) col (List.mem_singleton_self col)
      obtain ⟨⟨t, d⟩, -, rfl⟩ := List.mem_map.mp ((namesColumn_iff hcols col).mp hn)
      exact ⟨t, rfl, (isBooleanType_columnType_iff hcols t).mp hb'⟩
  · rintro ⟨t, rfl, hl⟩
    have hb := (isBooleanType_columnType_iff hcols t).mpr hl
    have hd : ensurePresent cols .deleteRecord [.str t] = .ok () :=
      ensurePresent_eq_ok_iff.mpr fun x hx => by
        rw [List.mem_singleton.mp hx]
        exact namesColumn_of_isBooleanType hb
    simp [deleteRecordCheck, hd, hty, hb]

/-- The check of a delete-record column against columns read from declarations fails by reporting
it missing or not boolean, or because it cannot be hashed. -/
theorem deleteCheck_error (hcols : List.Forall₂ DeclaredAs decls cols) (col : Value) {e : Fault}
    (h : deleteRecordCheck cols col = .error e) :
    (∃ ns, e = .missingColumns .deleteRecord ns) ∨ (∃ got, e = .notBoolean col got) ∨
      ∃ t, col.unhashableType? = some t ∧ e = .unhashable t := by
  unfold deleteRecordCheck at h
  cases hd : ensurePresent cols .deleteRecord [col] with
  | error e' =>
    rw [hd] at h
    cases h
    rcases ensurePresent_error hd with hm | ⟨x, hx, t, ht, rfl⟩
    · exact .inl hm
    · rw [List.mem_singleton.mp hx] at ht
      exact .inr (.inr ⟨t, ht, rfl⟩)
  | ok u =>
    rw [hd, except_ok_bind] at h
    simp only [differsFromBoolean_of_declared (columnType_declared hcols col),
      except_ok_bind] at h
    split at h
    · cases h
      exact .inr (.inl ⟨_, rfl⟩)
    · cases h

end DeleteRecord

/-! ### Contexts built on a schema -/

/-- A context built on schema `s`: it holds `s`, and the schema's primary key columns. -/
structure Context.BuiltOn (s : Schema) (c : Context) : Prop where
  schema : c.schema = .schema s
  primaryKey : c.primaryKeyColumns = s.primaryKey.map .str

section Built

variable {s : Schema} {c : Context} {cols : List (Text × Value)}

/-- The primary key columns of a context built on a well-formed schema are present among the
columns read from its declarations. -/
theorem primaryKey_present (hs : s.WellFormed) (hc : c.BuiltOn s)
    (hcols : List.Forall₂ DeclaredAs s.columns cols) :
    ensurePresent cols .primaryKey c.primaryKeyColumns = .ok () := by
  rw [ensurePresent_eq_ok_iff, hc.primaryKey]
  intro x hx
  obtain ⟨k, hk, rfl⟩ := List.mem_map.mp hx
  obtain ⟨⟨n, d⟩, hmem, rfl⟩ := List.mem_map.mp (hs.keysDeclared k hk)
  exact (namesColumn_iff hcols _).mpr (List.mem_map.mpr ⟨(n, d), hmem, rfl⟩)

/-- The checks of a context against columns read from the declarations of a well-formed schema it
is built on pass exactly when its comparison columns are declared and its delete-record column is
accepted. -/
theorem checkColumns_eq_ok_iff (hs : s.WellFormed) (hc : c.BuiltOn s)
    (hcols : List.Forall₂ DeclaredAs s.columns cols) :
    c.checkColumns cols = .ok () ↔
      (∀ x ∈ c.comparisonColumns, s.Declares x) ∧ s.AcceptsDelete c.deleteRecordColumn := by
  have hcmp : ensurePresent cols .comparison c.comparisonColumns = .ok () ↔
      ∀ x ∈ c.comparisonColumns, s.Declares x := by
    rw [ensurePresent_eq_ok_iff]
    exact forall₂_congr fun x _ => namesColumn_iff hcols x
  unfold Context.checkColumns
  rw [primaryKey_present hs hc hcols, except_ok_bind]
  cases hp : ensurePresent cols .comparison c.comparisonColumns with
  | error e =>
    have hnot : ¬∀ x ∈ c.comparisonColumns, s.Declares x := fun hall => by
      rw [hcmp.mpr hall] at hp
      cases hp
    simp [hnot]
  | ok u =>
    rw [except_ok_bind]
    have hall := hcmp.mp hp
    split
    · next hnone => exact iff_of_true rfl ⟨hall, .inl hnone⟩
    · next hne =>
      generalize c.deleteRecordColumn = col at hne ⊢
      rw [deleteCheck_eq_ok_iff hcols col]
      have hne' : col ≠ .none := hne
      simp only [Schema.AcceptsDelete, hne', false_or]
      exact (and_iff_right hall).symm

/-- When the checks of such a context fail, they report missing comparison or delete-record
columns, or a delete-record column that is not boolean, or a comparison or delete-record value that
cannot be hashed; never missing primary key columns. -/
theorem checkColumns_error (hs : s.WellFormed) (hc : c.BuiltOn s)
    (hcols : List.Forall₂ DeclaredAs s.columns cols) {e : Fault} (h : c.checkColumns cols = .error e) :
    (∃ ns, e = .missingColumns .comparison ns) ∨ (∃ ns, e = .missingColumns .deleteRecord ns) ∨
      (∃ col got, e = .notBoolean col got) ∨
      ∃ x ∈ c.comparisonColumns ++ [c.deleteRecordColumn], ∃ t,
        x.unhashableType? = some t ∧ e = .unhashable t := by
  unfold Context.checkColumns at h
  rw [primaryKey_present hs hc hcols, except_ok_bind] at h
  cases hp : ensurePresent cols .comparison c.comparisonColumns with
  | error e' =>
    rw [hp] at h
    cases h
    rcases ensurePresent_error hp with hm | ⟨x, hx, t, ht, rfl⟩
    · exact .inl hm
    · exact .inr (.inr (.inr ⟨x, List.mem_append_left _ hx, t, ht, rfl⟩))
  | ok u =>
    rw [hp, except_ok_bind] at h
    split at h
    · cases h
    · generalize c.deleteRecordColumn = col at h ⊢
      rcases deleteCheck_error hcols col h with hm | ⟨got, rfl⟩ | ⟨t, ht, rfl⟩
      · exact .inr (.inl hm)
      · exact .inr (.inr (.inl ⟨col, got, rfl⟩))
      · exact .inr (.inr (.inr ⟨col, List.mem_append_right _ (List.mem_singleton_self col), t, ht, rfl⟩))

theorem validateColumns_of_builtOn (hc : c.BuiltOn s) (hsch : schemaColumns (.schema s) = .ok cols) :
    c.validateColumns = c.checkColumns cols := by
  unfold Context.validateColumns
  rw [hc.schema, hsch, except_ok_bind]

/-- The column checks of a context built on a well-formed schema answer from the schema's
declarations. -/
theorem checks_of_builtOn (hs : s.WellFormed) (hc : c.BuiltOn s) :
    (∃ cols, schemaColumns c.schema = .ok cols ∧ List.Forall₂ DeclaredAs s.columns cols) ∧
    (c.validateColumns = .ok () ↔
      (∀ x ∈ c.comparisonColumns, s.Declares x) ∧ s.AcceptsDelete c.deleteRecordColumn) ∧
    (∀ e, c.validateColumns = .error e →
      (∃ ns, e = .missingColumns .comparison ns) ∨ (∃ ns, e = .missingColumns .deleteRecord ns) ∨
      (∃ col got, e = .notBoolean col got) ∨
      ∃ x ∈ c.comparisonColumns ++ [c.deleteRecordColumn], ∃ t,
        x.unhashableType? = some t ∧ e = .unhashable t) := by
  obtain ⟨cols, hsch, hcols⟩ := schemaColumns_of_wellFormed hs
  have hv := validateColumns_of_builtOn hc hsch
  refine ⟨⟨cols, by rw [hc.schema]; exact hsch, hcols⟩, ?_, fun e he => ?_⟩
  · rw [hv]
    exact checkColumns_eq_ok_iff hs hc hcols
  · rw [hv] at he
    exact checkColumns_error hs hc hcols he

end Built

/-! ### Builders seeded from a table -/

namespace Builder

variable {s : Schema} {b : Builder}

/-- A builder holding schema `s`, whose primary key columns freeze to the schema's keys. -/
structure KeyedBy (s : Schema) (b : Builder) : Prop where
  schema : b.schema = .schema s
  primaryKey : b.primaryKeyColumns.freeze = .ok (s.primaryKey.map .str)

theorem keyedBy_ofTable {tc : TableConfig} {dir handler manager : Value}
    (h : ofTable tc s dir handler manager = .ok b) : b.KeyedBy s := by
  obtain ⟨u, -, rfl⟩ := ofTable_eq_ok h
  exact ⟨rfl, rfl⟩

theorem KeyedBy.set (h : b.KeyedBy s) {f : Field} (hs : f ≠ .schema) (hp : f ≠ .primaryKeyColumns)
    (v : Value) : (b.set f v).KeyedBy s where
  schema := (get_set_of_ne b v (Ne.symm hs)).trans h.schema
  primaryKey := by
    have hget := get_set_of_ne b v (Ne.symm hp)
    simp only [get] at hget
    rw [hget]
    exact h.primaryKey

/-- A build keeps the schema, and the primary key columns as they freeze. -/
theorem KeyedBy.build (h : b.KeyedBy s) : (b.build).1.KeyedBy s := by
  have ha := build_alike b
  exact ⟨ha.schema.trans h.schema, ha.primaryKey.trans h.primaryKey⟩

/-- A build that succeeds builds on the schema. -/
theorem KeyedBy.context (h : b.KeyedBy s) {c : Context} (hc : (b.build).2 = .ok c) : c.BuiltOn s := by
  rw [build_snd] at hc
  cases hr : b.requiredChecks with
  | error e => rw [hr] at hc; cases hc
  | ok r =>
    obtain ⟨pk, cmp⟩ := r
    rw [hr, except_map_ok] at hc
    cases hc
    have hpk := (freeze_of_requiredChecks hr).1
    rw [h.primaryKey] at hpk
    cases hpk
    exact ⟨h.schema, rfl⟩

end Builder

/-! ### Sessions that keep the keys -/

/-- Whether a step keeps the schema and the primary key columns: it stages neither. -/
def Step.keepsKeys : Step → Bool
  | .set f _ => f != .schema && f != .primaryKeyColumns
  | _ => true

namespace Session

variable {s : Schema} {ss : Session}

/-- A session whose builder holds schema `s` and its keys, and whose last context, if any, is built
on `s`. -/
structure Keyed (s : Schema) (ss : Session) : Prop where
  builder : ss.builder.KeyedBy s
  last : ∀ c, ss.last = some c → c.BuiltOn s

/-- A step that keeps the keys keeps the session keyed, and a context it replies with is built on
the schema. -/
theorem step_keyed (h : ss.Keyed s) {st : Step} (hst : st.keepsKeys = true) :
    (ss.step st).1.Keyed s ∧ ∀ c, (ss.step st).2.reply = .context c → c.BuiltOn s := by
  cases ho : st.onLast
  case true =>
    -- an operation on the last context changes nothing and replies with no context
    obtain ⟨hs, -, hb⟩ := step_onLast ss ho
    rw [hs]
    refine ⟨h, fun c hc => ?_⟩
    rw [hc] at hb
    cases hb
  case false =>
    cases st
    case set f v =>
      simp only [Step.keepsKeys, Bool.and_eq_true, bne_iff_ne, ne_eq] at hst
      exact ⟨⟨h.builder.set hst.1 hst.2 v, h.last⟩, fun c hc => by cases hc⟩
    case build =>
      have hk := h.builder.build
      have hctx := @Builder.KeyedBy.context s _ h.builder
      rcases hb : ss.builder.build with ⟨b1, r⟩
      rw [hb] at hk hctx
      cases r
      case ok c =>
        simp only [step, hb]
        have hc := hctx rfl
        refine ⟨⟨hk, fun c' hc' => ?_⟩, fun c' hc' => ?_⟩
        · cases hc'
          exact hc
        · cases hc'
          exact hc
      case error e =>
        simp only [step, hb]
        exact ⟨⟨hk, h.last⟩, fun c' hc' => by cases hc'⟩
    all_goals cases ho

/-- Along a run of steps that keep the keys, every context replied is built on the schema. -/
theorem run_keyed (h : ss.Keyed s) {steps : List (Except Fault Step)}
    (hsteps : ∀ st, Except.ok st ∈ steps → st.keepsKeys = true) {c : Context}
    (hc : Reply.context c ∈ (ss.run steps).map Outcome.reply) : c.BuiltOn s := by
  induction steps generalizing ss with
  | nil => cases hc
  | cons st rest ih =>
    have hrest : ∀ st', Except.ok st' ∈ rest → st'.keepsKeys = true :=
      fun st' h' => hsteps st' (List.mem_cons_of_mem _ h')
    cases st with
    | error e =>
      simp only [run, List.map_cons, List.mem_cons] at hc
      rcases hc with hc | hc
      · cases hc
      · exact ih h hrest hc
    | ok st =>
      obtain ⟨h1, h2⟩ := step_keyed h (hsteps st (List.mem_cons_self ..))
      simp only [run, List.map_cons, List.mem_cons] at hc
      rcases hc with hc | hc
      · exact h2 c hc.symm
      · exact ih h1 hrest hc

end Session


/-! ### Contexts seeded from a validated schema -/

/-- A context built along any run from a builder seeded with a table and a validated schema, where
no step stages a schema or primary key columns, is checked by the schema's declarations: its schema
is read as the declared columns in order with their data types; its checks pass exactly when every
comparison column is declared and the delete-record column is none or declared as bool; and when
they fail they report the missing comparison or delete-record columns or a delete-record column
that is not boolean, never missing primary key columns, unless a comparison or delete-record value
cannot be hashed. -/
theorem seeded_contexts_check_by_schema {kvs : Entries} {s : Schema}
    (hs : Schema.ofEntries kvs = .ok s) {tc : TableConfig} {dir handler manager : Value}
    {b : Builder} (hb : Builder.ofTable tc s dir handler manager = .ok b)
    {steps : List (Except Fault Step)} (hsteps : ∀ st, Except.ok st ∈ steps → st.keepsKeys = true)
    {c : Context} (hc : Reply.context c ∈ (Session.run ⟨b, Option.none⟩ steps).map Outcome.reply) :
    (∃ cols, schemaColumns c.schema = .ok cols ∧ List.Forall₂ DeclaredAs s.columns cols) ∧
    (c.validateColumns = .ok () ↔
      (∀ x ∈ c.comparisonColumns, s.Declares x) ∧ s.AcceptsDelete c.deleteRecordColumn) ∧
    (∀ e, c.validateColumns = .error e →
      (∃ ns, e = .missingColumns .comparison ns) ∨ (∃ ns, e = .missingColumns .deleteRecord ns) ∨
      (∃ col got, e = .notBoolean col got) ∨
      ∃ x ∈ c.comparisonColumns ++ [c.deleteRecordColumn], ∃ t,
        x.unhashableType? = some t ∧ e = .unhashable t) := by
  have hwf := Schema.wellFormed_of_ofEntries hs
  have hkeyed : Session.Keyed s ⟨b, Option.none⟩ :=
    ⟨Builder.keyedBy_ofTable hb, fun _ hl => nomatch hl⟩
  exact checks_of_builtOn hwf (Session.run_keyed hkeyed hsteps hc)

/-- A table of orders keyed by id and compared by ts: the first build gives a context whose checks
pass. -/
theorem seeded_contexts_check_by_schema_orders :
    ((({ tableConfig := .table { name := "orders", upsert := some { comparison := some ["ts"] } },
          schema := .schema ⟨"orders", [("id", "str"), ("ts", "i64")], ["id"]⟩,
          primaryKeyColumns := Value.ofTexts ["id"], comparisonColumns := Value.ofTexts ["ts"],
          tableIndexDir := .str "/data/orders" } : Builder).toContext [.str "id"] [.str "ts"]).validateColumns =
        .ok ()) ↔
      (∀ x ∈ [Value.str "ts"], Schema.Declares ⟨"orders", [("id", "str"), ("ts", "i64")], ["id"]⟩ x) ∧
        Schema.AcceptsDelete ⟨"orders", [("id", "str"), ("ts", "i64")], ["id"]⟩ .none :=
  (@seeded_contexts_check_by_schema
    [("schema_name", .str "orders"), ("columns", .dict [("id", .str "str"), ("ts", .str "i64")]),
      ("primary_key_columns", .list [.str "id"])]
    ⟨"orders", [("id", "str"), ("ts", "i64")], ["id"]⟩ rfl
    { name := "orders", upsert := some { comparison := some ["ts"] } } (.str "/data/orders") .none .none
    { tableConfig := .table { name := "orders", upsert := some { comparison := some ["ts"] } },
      schema := .schema ⟨"orders", [("id", "str"), ("ts", "i64")], ["id"]⟩,
      primaryKeyColumns := Value.ofTexts ["id"], comparisonColumns := Value.ofTexts ["ts"],
      tableIndexDir := .str "/data/orders" } rfl
    [.ok .build] (fun st hst => by cases List.mem_singleton.mp hst; rfl)
    _ (List.mem_singleton_self _)).2.1

/-- A comparison column staged as a list cannot be hashed: the checks of the context built with it
stop with a type error, not with a report of missing columns. -/
theorem unhashable_comparison_stops_validation :
    TableConfig.ofEntries [("table_name", .str "t"),
        ("upsert_config", .dict [("comparison_columns", .list [.str "ts"])])] =
        .ok { name := "t", upsert := some { comparison := some ["ts"] } } ∧
      Schema.ofEntries [("schema_name", .str "t"),
        ("columns", .dict [("id", .str "i64"), ("ts", .str "i64")]),
        ("primary_key_columns", .list [.str "id"])] = .ok ⟨"t", [("id", "i64"), ("ts", "i64")], ["id"]⟩ ∧
      ((Builder.ofTable { name := "t", upsert := some { comparison := some ["ts"] } }
          ⟨"t", [("id", "i64"), ("ts", "i64")], ["id"]⟩ (.str "/data/t") .none .none).map fun b =>
        ((Session.run ⟨b, Option.none⟩ [.ok (.set .comparisonColumns (.list [.list [.str "ts"]])),
          .ok .build, .ok .validateColumns]).map Outcome.reply).getLast?) =
        .ok (some (.failed (.unhashable "list"))) :=
  ⟨rfl, rfl, rfl⟩

end Upsert
