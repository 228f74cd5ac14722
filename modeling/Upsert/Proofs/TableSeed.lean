import Upsert.Builder.Seed
import Upsert.Proofs.BuildChecks

/-!
# Builders seeded from a table

A table config and its schema seed a builder (`Builder.ofTable`). Seeding refuses a table that does
not upsert (no upsert section, or the mode none), naming the field `upsert_config`, and then a table
that upserts column-wise without a handler, naming the field `partial_upsert_handler`. Otherwise the
seeded builder is a fresh builder staged field by field (`Builder.stagedFromTable`): with the table
config, the schema and the schema's primary key columns, the comparison columns by the table's rule
(`Builder.seededComparison`), the index directory, the handler and the manager, and every other
field of the upsert section but its mode copied into the builder field of the same name. The main
statement is `table_seeds_builder`.
-/

namespace Upsert

namespace Builder

/-- The value a record's field of the same name as a builder field holds; none when the record has
no such field. -/
def fieldOf (fields : List (Text × Value)) (f : Field) : Value := (fields.lookup f.name).getD .none

/-- The fields of an upsert section that a seeded builder copies by name. -/
def copiedFields : List Field :=
  [.deleteRecordColumn, .hashFunction, .enableSnapshot, .enablePreload, .metadataTtl,
   .deletedKeysTtl, .consistencyMode, .upsertViewRefreshIntervalMs, .dropOutOfOrderRecord,
   .enableDeletedKeysCompactionConsistency]

/-- The comparison columns a table seeds: the section's when it names some, else the table's time
column when that is a non-empty name, else the section's as they are. -/
def seededComparison (tc : TableConfig) (u : UpsertSection) : Value :=
  match fieldOf u.fields .comparisonColumns, tc.timeColumn with
  | .list (c :: cs), _ => .list (c :: cs)
  | given, some t => if t.isEmpty then given else .list [.str t]
  | given, none => given

/-- A fresh builder staged the way a table seeds it. -/
def stagedFromTable (tc : TableConfig) (s : Schema) (dir handler manager : Value)
    (u : UpsertSection) : Builder :=
  let staged := ((((((({} : Builder).set .tableConfig (.table tc)).set .schema (.schema s)).set
    .primaryKeyColumns (fieldOf s.fields .primaryKeyColumns)).set .comparisonColumns
    (seededComparison tc u)).set .tableIndexDir dir).set .partialUpsertHandler handler).set
    .tableDataManager manager
  copiedFields.foldl (fun b f => b.set f (fieldOf u.fields f)) staged

/-- The section's comparison columns, read by name. -/
theorem fieldOf_comparison (u : UpsertSection) :
    fieldOf u.fields .comparisonColumns = (u.comparison.map Value.ofTexts).getD .none := by
  unfold fieldOf UpsertSection.fields
  cases u.comparison <;> rfl

/-- The section's consistency mode, read by name. -/
theorem fieldOf_consistency (u : UpsertSection) :
    fieldOf u.fields .consistencyMode =
      (u.consistency.map fun m => Value.member (.consistency m)).getD .none := by
  unfold fieldOf UpsertSection.fields
  cases u.consistency <;> rfl

/-- The table's rule for the comparison columns is the seeding rule. -/
theorem comparisonColumns_seeded (tc : TableConfig) (u : UpsertSection) :
    ((tc.comparisonColumns u).map Value.ofTexts).getD .none = seededComparison tc u := by
  unfold TableConfig.comparisonColumns seededComparison
  rw [fieldOf_comparison]
  -- the section's columns decide when it names some
  match u.comparison with
  | some (c :: cs) => rfl
  | none | some [] =>
    -- otherwise the time column does, when it is a non-empty name
    cases tc.timeColumn with
    | none => rfl
    | some t => by_cases ht : t.isEmpty <;> simp [ht, Value.ofTexts]

/-- Seeding from a table, case by case. -/
theorem ofTable_cases (tc : TableConfig) (s : Schema) (dir handler manager : Value) :
    ofTable tc s dir handler manager =
      match tc.upsert with
      | none => .error (.upsertDisabled tc.name)
      | some u =>
        if u.mode = .none then .error (.upsertDisabled tc.name)
        else if (u.mode = .partialMerge && handler.isNone) = true then .error (.handlerMissing tc.name)
        else .ok (stagedFromTable tc s dir handler manager u) := by
  unfold ofTable
  cases tc.upsert with
  | none => rfl
  | some u =>
    -- the record the source builds holds the two fields it computes in the staged forms
    simp only [except_throw, except_pure]
    rw [comparisonColumns_seeded, ← fieldOf_consistency]
    -- the source tests the handler by its constructor, as isNone does
    rfl

/-- A seeded builder is the fresh builder staged from the table's upsert section. -/
theorem ofTable_eq_ok {tc : TableConfig} {s : Schema} {dir handler manager : Value} {b : Builder}
    (h : ofTable tc s dir handler manager = .ok b) :
    ∃ u, tc.upsert = some u ∧ b = stagedFromTable tc s dir handler manager u := by
  rw [ofTable_cases] at h
  cases hu : tc.upsert with
  | none => simp [hu] at h
  | some u =>
    simp only [hu] at h
    -- the two refusals are errors; what is left is the staged builder
    split at h
    · cases h
    split at h
    · cases h
    · cases h
      exact ⟨u, rfl, rfl⟩

/-- A staged builder has not been built. -/
theorem finalized_stagedFromTable (tc : TableConfig) (s : Schema) (dir handler manager : Value)
    (u : UpsertSection) : (stagedFromTable tc s dir handler manager u).finalized = false := by
  simp [stagedFromTable, copiedFields]

/-- Seeding a builder from a table config and its schema. It is refused, naming the field
`upsert_config`, exactly when the table has no upsert section or the section's mode is none; refused,
naming the field `partial_upsert_handler`, exactly when the mode is partial and no handler is given;
otherwise it gives an unfinalized builder, the fresh builder staged with the table config, the
schema, the schema's primary key columns, the comparison columns by the table's rule, the index
directory, the handler, the manager, and each other field of the section but its mode in the
builder field of its name. -/
theorem table_seeds_builder (tc : TableConfig) (s : Schema) (dir handler manager : Value) :
    ((∃ e, ofTable tc s dir handler manager = .error e ∧ e.field = some "upsert_config") ↔
        tc.upsert = none ∨ ∃ u, tc.upsert = some u ∧ u.mode = .none) ∧
    ((∃ e, ofTable tc s dir handler manager = .error e ∧ e.field = some "partial_upsert_handler") ↔
        ∃ u, tc.upsert = some u ∧ u.mode = .partialMerge ∧ handler = .none) ∧
    (∀ u, tc.upsert = some u → u.mode ≠ .none → ¬(u.mode = .partialMerge ∧ handler = .none) →
      ∃ b, ofTable tc s dir handler manager = .ok b ∧ b.finalized = false ∧
        b = stagedFromTable tc s dir handler manager u) := by
  have hfields : Text.ofString "upsert_config" ≠ "partial_upsert_handler" := by decide
  rw [ofTable_cases]
  cases hu : tc.upsert with
  | none => simp [Fault.field, hfields]
  | some u =>
    by_cases hm : u.mode = .none
    · case pos => simp [hm, Fault.field, hfields]
    · case neg =>
      by_cases hp : u.mode = .partialMerge ∧ handler = .none
      · case pos => simp [hp, Fault.field, hfields.symm]
      · case neg =>
        have hb : (u.mode = .partialMerge && handler.isNone) = false := by
          rw [Bool.eq_false_iff]
          intro h
          simp only [Bool.and_eq_true, decide_eq_true_eq, Value.isNone_iff] at h
          exact hp h
        simp [hm, hb, hp, finalized_stagedFromTable]

end Builder

end Upsert
