import Mathlib
import Upsert.Proofs.ColumnChecks

/-!
# Checking a frame against a context

A frame about to be upserted is checked against the context (`Context.validateFrame`): first the
column checks, against the frame's columns and their types, then that no primary key column holds a
null. The nulls are counted by a projection that selects, for each primary key name, the columns the
name selects, and the counts are paired with the names one by one.

A name selects only its own column unless it is `*` or a pattern between `^` and `$`
(`Text.SelectsItself`). For such names, and a frame whose column names are distinct, as a frame's
always are, the check is exactly this (`frame_checked_by_keys`): when the keys are distinct, the
column checks as documented, then a report listing exactly the primary key columns that hold a
null, in key order; when a key is repeated, the projection names that column twice and is refused,
so once the column checks pass the frame is refused whatever its rows hold.
-/

namespace Upsert

/-! ### Selecting columns by name -/

/-- A name that selects only the column of that name: neither `*` nor a pattern between `^`
and `$`. -/
def Text.SelectsItself (t : Text) : Prop :=
  t ≠ "*" ∧ ¬(t.points.head? = some 94 ∧ t.points.getLast? = some 36)

instance : DecidablePred Text.SelectsItself := fun t =>
  inferInstanceAs (Decidable (t ≠ "*" ∧ ¬(t.points.head? = some 94 ∧ t.points.getLast? = some 36)))

namespace Frame

/-- The frame's columns as the column checks read them: each name with its type. -/
def typedColumns (f : Frame) : List (Text × Value) := f.columns.map fun c => (c.name, .dtypeValue c.dtype)

/-- The nulls in the frame's columns of a name. -/
def nullCountOf (f : Frame) (t : Text) : Nat :=
  ((f.columns.filter fun c => c.name = t).map (·.nullCount)).sum

/-- Whether a column of the frame of that name holds a null. -/
def holdsNull (f : Frame) (t : Text) : Bool :=
  f.columns.any fun c => c.name = t && c.nullCount ≠ 0

variable {f : Frame}

theorem typedColumns_names (f : Frame) : f.typedColumns.map Prod.fst = f.columns.map (·.name) := by
  simp [typedColumns]

theorem holdsNull_iff_nullCountOf (f : Frame) (t : Text) :
    f.holdsNull t = true ↔ f.nullCountOf t ≠ 0 := by
  simp [holdsNull, nullCountOf, List.sum_eq_zero_iff_forall_eq_nat]

theorem select_of_selectsItself (f : Frame) {t : Text} (ht : t.SelectsItself) :
    f.select t = .ok (f.columns.filter fun c => c.name = t) := by
  have hpat : ¬(t.points.head? = some 94 && t.points.getLast? = some 36) = true := by
    simpa using ht.2
  rw [select, if_neg ht.1, if_neg hpat]
  rfl

/-- In columns of distinct names, a name selects exactly the column that has it. -/
theorem filter_name_eq_singleton {cols : List Column} (hnd : (cols.map (·.name)).Nodup)
    {col : Column} (hmem : col ∈ cols) : cols.filter (fun c => c.name = col.name) = [col] := by
  induction cols with
  | nil => cases hmem
  | cons c cs ih =>
    rw [List.map_cons, List.nodup_cons] at hnd
    rw [List.filter_cons]
    rcases List.mem_cons.mp hmem with rfl | hmem'
    · -- no later column has the name of the first
      have hrest : cs.filter (fun c' => c'.name = col.name) = [] := by
        rw [List.filter_eq_nil_iff]
        intro c' hc' hname
        exact hnd.1 (List.mem_map.mpr ⟨c', hc', by simpa using hname⟩)
      simp [hrest]
    · have hne : c.name ≠ col.name := fun h => hnd.1 (h ▸ List.mem_map_of_mem hmem')
      simp [hne, ih hnd.2 hmem']

/-- In a frame of distinct names, keys that name columns select one column each, in key order:
the columns selected are named by the keys and hold the keys' nulls. -/
theorem selected_by_keys (hnd : (f.columns.map (·.name)).Nodup) :
    ∀ {ks : List Text}, (∀ t ∈ ks, t ∈ f.columns.map (·.name)) →
      (ks.map fun t => f.columns.filter fun c => c.name = t).flatten.map (·.name) = ks ∧
        (ks.map fun t => f.columns.filter fun c => c.name = t).flatten.map (·.nullCount) =
          ks.map f.nullCountOf := by
  intro ks
  induction ks with
  | nil => intro _; exact ⟨rfl, rfl⟩
  | cons t ks ih =>
    intro hks
    obtain ⟨col, hmem, rfl⟩ := List.mem_map.mp (hks _ (List.mem_cons_self ..))
    obtain ⟨hnames, hcounts⟩ := ih fun t ht => hks t (List.mem_cons_of_mem _ ht)
    have hsingle := filter_name_eq_singleton hnd hmem
    simp [nullCountOf, hsingle, hnames, hcounts]

end Frame

/-! ### Counting nulls by key -/

/-- Pairing counts with the keys one by one and keeping the keys whose count is not zero keeps
them in order. -/
theorem filterMap_zip_counts {g : Value × Nat → Option Value}
    (hg : ∀ x n, g (x, n) = if n ≠ 0 then some x else none) (count : Text → Nat) :
    ∀ ks : List Text, ((ks.map .str).zip (ks.map count)).filterMap g =
      (ks.filter fun t => count t ≠ 0).map .str := by
  intro ks
  induction ks with
  | nil => rfl
  | cons k ks ih =>
    rw [List.map_cons, List.map_cons, List.zip_cons_cons, List.filterMap_cons, hg, List.filter_cons]
    by_cases hk : count k = 0
    · simp [hk, ih]
    · simp [hk, ih]

/-- Selecting by text names that each select a known list of columns. -/
theorem mapM_texts {sel : Value → Except Fault (List Column)} {pick : Text → List Column} :
    ∀ {ks : List Text}, (∀ t ∈ ks, sel (.str t) = .ok (pick t)) →
      (ks.map .str).mapM sel = .ok (ks.map pick) := by
  intro ks
  induction ks with
  | nil => intro _; rfl
  | cons t ks ih =>
    intro h
    rw [List.map_cons, List.mapM_cons, h t (List.mem_cons_self ..), except_ok_bind,
      ih fun t' ht' => h t' (List.mem_cons_of_mem _ ht')]
    rfl

namespace Context

variable {c : Context} {pk : List Text} {f : Frame}

/-- The null check of a frame of distinct names, for keys named by texts that each select only their
own column of the frame: distinct keys give the keys whose column holds a null, in order, and a
repeated key makes the projection refuse. -/
theorem nullKeys_by_keys (hpk : c.primaryKeyColumns = pk.map .str)
    (hnd : (f.columns.map (·.name)).Nodup) (hne : pk ≠ []) (hplain : ∀ t ∈ pk, t.SelectsItself)
    (hks : ∀ t ∈ pk, t ∈ f.columns.map (·.name)) :
    c.nullKeys f =
      if pk.Nodup then .ok ((pk.filter (f.holdsNull ·)).map .str) else .error .duplicateColumns := by
  obtain ⟨hnames, hcounts⟩ := Frame.selected_by_keys hnd hks
  unfold nullKeys
  rw [hpk, mapM_texts fun t ht => Frame.select_of_selectsItself f (hplain t ht), except_ok_bind]
  simp only [hnames]
  by_cases hnodup : pk.Nodup
  · -- the projection holds one column per key, so it is not empty
    have hsome : ((pk.map fun t => f.columns.filter fun c => c.name = t).flatten).isEmpty = false := by
      rw [List.isEmpty_eq_false_iff]
      intro hnil
      rw [hnil] at hnames
      exact hne hnames.symm
    simp only [hnodup, decide_true, Bool.not_true, hsome, Bool.false_eq_true, ↓reduceIte, hcounts]
    rw [filterMap_zip_counts (fun _ _ => rfl) f.nullCountOf pk]
    congr 2
    refine List.filter_congr fun t _ => ?_
    rw [Bool.eq_iff_iff, decide_eq_true_iff, Frame.holdsNull_iff_nullCountOf]
  · simp [hnodup]

/-- The check of a frame: the column checks against its typed columns, then the null check. -/
theorem validateFrame_frame (c : Context) (f : Frame) :
    c.validateFrame (.frame f) =
      (c.checkColumns f.typedColumns >>= fun _ => c.nullKeys f >>= fun nulls =>
        if nulls.isEmpty then .ok () else .error (.nullKeys nulls)) := by
  simp [validateFrame, Frame.typedColumns, Frame.schema]
  rfl

end Context

/-! ### The frame check -/

/-- The check of a frame of distinct column names against a context whose columns are named by
texts, when every primary key name selects only its own column. The column checks run first, as
documented, against the frame's columns and their types. When they pass, distinct keys let the frame
pass exactly when no key's column holds a null, and otherwise refuse it with exactly the keys whose
column holds one, in key order; a repeated key makes the projection refuse the frame, whatever its
rows hold. -/
theorem frame_checked_by_keys {c : Context} {pk cmp : List Text} {del : Option Text}
    (hpk : c.primaryKeyColumns = pk.map .str) (hcmp : c.comparisonColumns = cmp.map .str)
    (hdel : c.deleteRecordColumn = Value.ofOptionText del) (hne : pk ≠ [])
    (hplain : ∀ t ∈ pk, t.SelectsItself) {f : Frame} (hnd : (f.columns.map (·.name)).Nodup) :
    c.validateFrame (.frame f) =
      (statedColumnChecks f.typedColumns pk cmp del >>= fun _ =>
        if pk.Nodup then
          if pk.filter (f.holdsNull ·) = [] then .ok ()
          else .error (.nullKeys ((pk.filter (f.holdsNull ·)).map .str))
        else .error .duplicateColumns) := by
  rw [Context.validateFrame_frame, checkColumns_eq_stated hpk hcmp hdel]
  cases hcheck : statedColumnChecks f.typedColumns pk cmp del with
  | error e => rfl
  | ok u =>
    cases u
    -- the column checks passed, so every key names a column of the frame
    have hks : ∀ t ∈ pk, t ∈ f.columns.map (·.name) := by
      intro t ht
      rw [← Frame.typedColumns_names]
      exact ((statedColumnChecks_eq_ok_iff _ _ _ _).mp hcheck).1 t ht
    rw [except_ok_bind, except_ok_bind, Context.nullKeys_by_keys hpk hnd hne hplain hks]
    by_cases hnodup : pk.Nodup
    · simp only [hnodup, ↓reduceIte, except_ok_bind, List.isEmpty_iff, List.map_eq_nil_iff]
    · simp only [hnodup, ↓reduceIte, except_error_bind]

/-- A context keyed by `id` and compared by `ts`: a frame whose `id` column holds a null is refused
with a report naming `id`. -/
theorem frame_with_null_key_reported :
    (({ tableConfig := .dict [], schema := .dict [("id", .dtype .int64), ("ts", .dtype .int64)],
        tableIndexDir := .str "/data/t" } : Builder).toContext [.str "id"] [.str "ts"]).validateFrame
      (.frame ⟨[⟨"id", .int64, [.whole 1, .null]⟩, ⟨"ts", .int64, [.whole 1, .whole 2]⟩]⟩) =
      .error (.nullKeys [.str "id"]) := by
  rw [@frame_checked_by_keys _ ["id"] ["ts"] none rfl rfl rfl (List.cons_ne_nil _ _) (by decide) _
    (by decide)]
  rfl

/-- A key named twice: a context built with the primary key `id, id` refuses a frame whose `id`
column holds no null, since the projection that counts the nulls names `id` twice. -/
theorem twice_named_key_refuses_frame :
    (({ tableConfig := .dict [], schema := .dict [("id", .dtype .int64)],
        primaryKeyColumns := .list [.str "id", .str "id"], comparisonColumns := .list [.str "id"],
        tableIndexDir := .str "/data/t" } : Builder).build.2.map fun c =>
      c.validateFrame (.frame ⟨[⟨"id", .int64, [.whole 1, .whole 2]⟩]⟩)) =
      .ok (.error .duplicateColumns) := rfl

end Upsert
