import Upsert.Builder.Build
import Upsert.Proofs.Basic

/-!
# The ordered checks of a build

`Builder.requiredChecks` lists the checks of a build in their order, read straight off the staged
values: the table config and the schema are set; the primary key columns, then the comparison
columns, freeze to lists that are not empty (a value that cannot be iterated stops the build with
its type error); the hash function and the table index directory are set, the directory stands for
a path, and that path is not empty. A build answers as these checks do: with the fault of the first
check that fails, or with a context that holds the frozen columns and every other staged value as it
is; and it logs a refusal unless a column value could not be frozen
(`build_answers_requiredChecks`).

A build also writes the frozen columns back into the builder. A frozen list freezes to itself, so
the builder after a build is `Alike` the one before: the same staged values, up to column values
that freeze alike (`build_alike`). The checks read a column field only through `Value.freeze`, so
alike builders answer every build alike (`requiredChecks_congr`, `toContext_congr`).
-/

namespace Upsert

/-! ### Freezing -/

namespace Value

/-- True for none. -/
def isNone : Value → Bool
  | .none => true
  | _ => false

@[simp] theorem isNone_none : Value.none.isNone = true := rfl

@[simp] theorem isNone_iff {v : Value} : v.isNone = true ↔ v = .none := by
  cases v <;> simp [isNone]

@[simp] theorem freeze_none : Value.freeze .none = .ok [] := rfl

/-- A frozen list freezes to itself. -/
@[simp] theorem freeze_tuple (xs : List Value) : Value.freeze (.tuple xs) = .ok xs := rfl

/-- Freezing fails only as iterating does: on a lazy frame, or on a value that has no items. -/
theorem freeze_error_cases {v : Value} {e : Fault} (h : v.freeze = .error e) :
    e = .lazyIndexed ∨ ∃ t, e = .notIterable t := by
  cases v <;> simp [freeze, items, recordFields?] at h
  case str t => split at h <;> cases h
  case lazyFrame => exact .inl h.symm
  case dtypeValue d =>
    -- a struct type yields its fields; any other type is not iterable
    cases d <;> simp at h
    all_goals exact .inr ⟨_, h.symm⟩
  all_goals exact .inr ⟨_, h.symm⟩

/-- The faults of freezing are type errors: they concern no field of the builder. -/
theorem field_of_freeze_error {v : Value} {e : Fault} (h : v.freeze = .error e) :
    e.field = Option.none := by
  rcases freeze_error_cases h with rfl | ⟨t, rfl⟩ <;> rfl

end Value

namespace Builder

variable {b b' b'' : Builder}

/-! ### The ordered checks -/

/-- The checks of a build in their order, on the staged values: the first check that fails gives
the fault; when none fails, the frozen primary key and comparison columns. -/
def requiredChecks (b : Builder) : Except Fault (List Value × List Value) := do
  if b.tableConfig.isNone then throw (.missingField .tableConfig)
  if b.schema.isNone then throw (.missingField .schema)
  let pk ← b.primaryKeyColumns.freeze
  if pk.isEmpty then throw (.missingField .primaryKeyColumns)
  let cmp ← b.comparisonColumns.freeze
  if cmp.isEmpty then throw (.missingField .comparisonColumns)
  if b.hashFunction.isNone then throw (.missingField .hashFunction)
  if b.tableIndexDir.isNone then throw (.missingField .tableIndexDir)
  let some path := b.tableIndexDir.pathText? | throw (.notAPath b.tableIndexDir.typeName)
  if !path.truthy then throw (.missingField .tableIndexDir)
  pure (pk, cmp)

/-- Every check that is not a freeze refuses with a fault that names a field, so a fault that names
none is the type error of a freeze. -/
theorem freeze_error_of_requiredChecks {e : Fault} (h : b.requiredChecks = .error e)
    (hn : e.field = Option.none) :
    b.primaryKeyColumns.freeze = .error e ∨ b.comparisonColumns.freeze = .error e := by
  simp only [requiredChecks, except_throw, except_pure, except_error_bind] at h
  split at h
  · cases h; cases hn
  split at h
  · cases h; cases hn
  cases hp : b.primaryKeyColumns.freeze with
  | error e' => rw [hp] at h; cases h; exact .inl rfl
  | ok pk =>
  rw [hp, except_ok_bind] at h
  split at h
  · cases h; cases hn
  cases hc : b.comparisonColumns.freeze with
  | error e' => rw [hc] at h; cases h; exact .inr rfl
  | ok cmp =>
  rw [hc, except_ok_bind] at h
  split at h
  · cases h; cases hn
  split at h
  · cases h; cases hn
  split at h
  · cases h; cases hn
  split at h
  · split at h
    · cases h; cases hn
    · cases h
  · cases h; cases hn

/-- Checks that pass answer with the two column fields as they freeze. -/
theorem freeze_of_requiredChecks {pk cmp : List Value} (h : b.requiredChecks = .ok (pk, cmp)) :
    b.primaryKeyColumns.freeze = .ok pk ∧ b.comparisonColumns.freeze = .ok cmp := by
  simp only [requiredChecks, except_throw, except_pure, except_error_bind] at h
  split at h
  · cases h
  split at h
  · cases h
  cases hp : b.primaryKeyColumns.freeze with
  | error e' => rw [hp] at h; cases h
  | ok pk' =>
  rw [hp, except_ok_bind] at h
  split at h
  · cases h
  cases hc : b.comparisonColumns.freeze with
  | error e' => rw [hc] at h; cases h
  | ok cmp' =>
  rw [hc, except_ok_bind] at h
  split at h
  · cases h
  split at h
  · cases h
  split at h
  · cases h
  split at h
  · split at h
    · cases h
    · cases h; exact ⟨rfl, rfl⟩
  · cases h

/-- The values of the context built from `b` with the frozen columns `pk` and `cmp`: those columns
in the two column fields, the staged value in every other field. -/
def frozenGet (b : Builder) (pk cmp : List Value) : Field → Value
  | .primaryKeyColumns => .tuple pk
  | .comparisonColumns => .tuple cmp
  | f => b.get f

theorem frozenGet_of_ne {f : Field} (hp : f ≠ .primaryKeyColumns) (hc : f ≠ .comparisonColumns)
    (pk cmp : List Value) : b.frozenGet pk cmp f = b.get f := by
  unfold frozenGet
  split
  · exact absurd rfl hp
  · exact absurd rfl hc
  · rfl

/-- A built context holds each value where `frozenGet` puts it. -/
@[simp] theorem toContext_get (b : Builder) (pk cmp : List Value) (f : Field) :
    (b.toContext pk cmp).get f = b.frozenGet pk cmp f := by
  cases f <;> rfl

end Builder

/-- A context is known by the values of its fields. -/
theorem Context.ext_get {c c' : Context} (h : ∀ f, c.get f = c'.get f) : c = c' := by
  cases c; cases c'
  have hpk := h .primaryKeyColumns
  have hcmp := h .comparisonColumns
  simp only [Context.get, Value.tuple.injEq] at hpk hcmp
  simp only [Context.mk.injEq]
  exact ⟨h .tableConfig, h .schema, hpk, hcmp, h .deleteRecordColumn, h .hashFunction,
    h .partialUpsertHandler, h .enableSnapshot, h .enablePreload, h .metadataTtl, h .deletedKeysTtl,
    h .consistencyMode, h .upsertViewRefreshIntervalMs, h .tableIndexDir, h .dropOutOfOrderRecord,
    h .enableDeletedKeysCompactionConsistency, h .tableDataManager⟩

namespace Builder

variable {b b' b'' : Builder}

/-! ### Alike builders -/

/-- Builders that stage alike values: the same value in every field but the two column fields, and
in each column field values that freeze alike. The flag `finalized` is no part of it. -/
structure Alike (b b' : Builder) : Prop where
  get_eq : ∀ f, f ≠ .primaryKeyColumns → f ≠ .comparisonColumns → b.get f = b'.get f
  primaryKey : b.primaryKeyColumns.freeze = b'.primaryKeyColumns.freeze
  comparison : b.comparisonColumns.freeze = b'.comparisonColumns.freeze

namespace Alike

theorem refl (b : Builder) : b.Alike b := ⟨fun _ _ _ => rfl, rfl, rfl⟩

theorem symm (h : b.Alike b') : b'.Alike b :=
  ⟨fun f hp hc => (h.get_eq f hp hc).symm, h.primaryKey.symm, h.comparison.symm⟩

theorem trans (h : b.Alike b') (h' : b'.Alike b'') : b.Alike b'' :=
  ⟨fun f hp hc => (h.get_eq f hp hc).trans (h'.get_eq f hp hc), h.primaryKey.trans h'.primaryKey,
    h.comparison.trans h'.comparison⟩

/-- Staging the same value keeps builders alike. -/
theorem set (h : b.Alike b') (f : Field) (v : Value) : (b.set f v).Alike (b'.set f v) where
  get_eq g hp hc := by
    by_cases hg : g = f
    · subst hg; simp
    · rw [get_set_of_ne _ _ hg, get_set_of_ne _ _ hg]
      exact h.get_eq g hp hc
  primaryKey := by
    show ((b.set f v).get .primaryKeyColumns).freeze = ((b'.set f v).get .primaryKeyColumns).freeze
    by_cases hg : Field.primaryKeyColumns = f
    · subst hg; simp
    · rw [get_set_of_ne _ _ hg, get_set_of_ne _ _ hg]
      exact h.primaryKey
  comparison := by
    show ((b.set f v).get .comparisonColumns).freeze = ((b'.set f v).get .comparisonColumns).freeze
    by_cases hg : Field.comparisonColumns = f
    · subst hg; simp
    · rw [get_set_of_ne _ _ hg, get_set_of_ne _ _ hg]
      exact h.comparison

theorem tableConfig (h : b.Alike b') : b.tableConfig = b'.tableConfig :=
  h.get_eq .tableConfig (by decide) (by decide)

theorem schema (h : b.Alike b') : b.schema = b'.schema :=
  h.get_eq .schema (by decide) (by decide)

theorem hashFunction (h : b.Alike b') : b.hashFunction = b'.hashFunction :=
  h.get_eq .hashFunction (by decide) (by decide)

theorem tableIndexDir (h : b.Alike b') : b.tableIndexDir = b'.tableIndexDir :=
  h.get_eq .tableIndexDir (by decide) (by decide)

end Alike

/-- The flag of a builder is no part of what it stages. -/
theorem alike_finalized (b : Builder) (x : Bool) : ({ b with finalized := x } : Builder).Alike b :=
  ⟨fun f _ _ => by cases f <;> rfl, rfl, rfl⟩

/-- Alike builders pass and fail the same checks. -/
theorem requiredChecks_congr (h : b.Alike b') : b.requiredChecks = b'.requiredChecks := by
  simp only [requiredChecks, h.tableConfig, h.schema, h.primaryKey, h.comparison, h.hashFunction,
    h.tableIndexDir]

/-- Alike builders build the same context from the same frozen columns. -/
theorem toContext_congr (h : b.Alike b') (pk cmp : List Value) :
    b.toContext pk cmp = b'.toContext pk cmp := by
  apply Context.ext_get
  intro f
  rw [toContext_get, toContext_get]
  by_cases hp : f = .primaryKeyColumns
  · subst hp; rfl
  by_cases hc : f = .comparisonColumns
  · subst hc; rfl
  rw [frozenGet_of_ne hp hc, frozenGet_of_ne hp hc]
  exact h.get_eq f hp hc

/-! ### Freezing a column field -/

/-- Storing the frozen form of a column field stages alike values. -/
theorem alike_set_frozen {f : Field} (hf : f = .primaryKeyColumns ∨ f = .comparisonColumns)
    {cols : List Value} (h : (b.get f).freeze = .ok cols) : (b.set f (.tuple cols)).Alike b := by
  rcases hf with rfl | rfl
  · exact ⟨fun g hp _ => get_set_of_ne _ _ hp, h.symm, rfl⟩
  · exact ⟨fun g _ hc => get_set_of_ne _ _ hc, rfl, h.symm⟩

/-- Freezing a field answers as freezing its value. -/
theorem freezeField_snd (b : Builder) (f : Field) :
    (b.freezeField f).map Prod.snd = (b.get f).freeze := by
  unfold freezeField
  split
  · next hv => simp [hv]
  · cases (b.get f).freeze <;> rfl

theorem freeze_of_freezeField_error {f : Field} {e : Fault} (h : b.freezeField f = .error e) :
    (b.get f).freeze = .error e := by
  rw [← freezeField_snd, h]; rfl

theorem freeze_of_freezeField {f : Field} {cols : List Value} (h : b.freezeField f = .ok (b', cols)) :
    (b.get f).freeze = .ok cols := by
  rw [← freezeField_snd, h]; rfl

/-- What freezing a column field leaves in the builder is alike what was there, flag included. -/
theorem alike_of_freezeField {f : Field} (hf : f = .primaryKeyColumns ∨ f = .comparisonColumns)
    {cols : List Value} (h : b.freezeField f = .ok (b', cols)) :
    b'.Alike b ∧ b'.finalized = b.finalized := by
  unfold freezeField at h
  split at h
  · cases h; exact ⟨Alike.refl b, rfl⟩
  · cases hv : (b.get f).freeze with
    | error e => simp [hv] at h
    | ok xs =>
      simp only [hv, except_ok_bind, except_pure, Except.ok.injEq, Prod.mk.injEq] at h
      obtain ⟨rfl, rfl⟩ := h
      exact ⟨alike_set_frozen hf hv, finalized_set b f _⟩

/-! ### Builds -/

/-- The checks of a build answer as `requiredChecks`, and what they leave in the builder is alike
what was there, with the same flag. The proof follows the checks: each freeze either fails, leaving
the builder as it was, or stores a frozen list, which freezes to itself. -/
theorem check_spec (b : Builder) :
    (b.check).1.Alike b ∧ (b.check).1.finalized = b.finalized ∧ (b.check).2 = b.requiredChecks := by
  unfold check
  split
  · next htc => exact ⟨Alike.refl b, rfl, by simp [requiredChecks, htc]⟩
  · next hs htc =>
    have htc : b.tableConfig ≠ .none := htc
    exact ⟨Alike.refl b, rfl, by simp [requiredChecks, htc, hs]⟩
  · next htc hs =>
    have htc : b.tableConfig ≠ .none := htc
    have hs : b.schema ≠ .none := hs
    rcases hpk : b.freezeField .primaryKeyColumns with e | ⟨b1, pk⟩
    · have hpk' : b.primaryKeyColumns.freeze = .error e := freeze_of_freezeField_error hpk
      exact ⟨Alike.refl b, rfl, by simp [requiredChecks, htc, hs, hpk']⟩
    · obtain ⟨h1, hf1⟩ := alike_of_freezeField (.inl rfl) hpk
      have hpk' : b.primaryKeyColumns.freeze = .ok pk := freeze_of_freezeField hpk
      dsimp only
      by_cases hpe : pk.isEmpty
      · rw [if_pos hpe]
        exact ⟨h1, hf1, by simp [requiredChecks, htc, hs, hpk', List.isEmpty_iff.mp hpe]⟩
      rw [if_neg hpe]
      replace hpe : pk ≠ [] := by simpa using hpe
      -- the comparison columns are read from the builder the first freeze left
      rcases hcmp : b1.freezeField .comparisonColumns with e | ⟨b2, cmp⟩
      · have hcmp' : b.comparisonColumns.freeze = .error e := by
          rw [← h1.comparison]; exact freeze_of_freezeField_error hcmp
        exact ⟨h1, hf1, by simp [requiredChecks, htc, hs, hpk', hpe, hcmp']⟩
      obtain ⟨h2, hf2⟩ := alike_of_freezeField (.inr rfl) hcmp
      replace h2 := h2.trans h1
      have hcmp' : b.comparisonColumns.freeze = .ok cmp := by
        rw [← h1.comparison]; exact freeze_of_freezeField hcmp
      dsimp only
      by_cases hce : cmp.isEmpty
      · rw [if_pos hce]
        exact ⟨h2, hf2.trans hf1, by simp [requiredChecks, htc, hs, hpk', hpe, hcmp',
          List.isEmpty_iff.mp hce]⟩
      rw [if_neg hce]
      replace hce : cmp ≠ [] := by simpa using hce
      refine ⟨h2, hf2.trans hf1, ?_⟩
      rw [h2.hashFunction, h2.tableIndexDir]
      dsimp only
      simp only [requiredChecks, Value.isNone_iff, htc, hs, hpk', hcmp', hpe, hce, List.isEmpty_iff,
        if_false, except_ok_bind, except_throw, except_pure, except_error_bind]
      split
      · next hh => simp only [hh, Value.isNone_none, if_true]
      · next hd hh =>
        have hh : b.hashFunction ≠ .none := hh
        simp only [Value.isNone_iff, hh, hd, Value.isNone_none, if_true, if_false]
      · next hh hd =>
        have hh : b.hashFunction ≠ .none := hh
        have hd : b.tableIndexDir ≠ .none := hd
        simp only [Value.isNone_iff, hh, hd, if_false]
        split
        · next hp => simp only [hp]
        · next p hp => by_cases ht : p.truthy <;> simp [hp, ht]

/-- A build answers with the context of the frozen columns when the checks pass, and with their
fault when not. -/
theorem build_snd (b : Builder) :
    (b.build).2 = b.requiredChecks.map fun r => b.toContext r.1 r.2 := by
  obtain ⟨hb, -, hr⟩ := check_spec b
  unfold build
  split
  · next b' pk cmp hc =>
    rw [hc] at hb hr
    simp only at hb hr ⊢
    rw [← hr, except_map_ok, toContext_congr hb]
  · next b' e hc =>
    rw [hc] at hr
    simp only at hr ⊢
    rw [← hr, except_map_error]

/-- Alike builders answer a build alike. -/
theorem build_congr (h : b.Alike b') : (b.build).2 = (b'.build).2 := by
  rw [build_snd, build_snd, requiredChecks_congr h]
  have hc : (fun r : List Value × List Value => b.toContext r.1 r.2) =
      fun r => b'.toContext r.1 r.2 := by
    funext r
    exact toContext_congr h r.1 r.2
  rw [hc]

/-- What a build leaves in the builder is alike what was there. -/
theorem build_alike (b : Builder) : (b.build).1.Alike b := by
  obtain ⟨hb, -, -⟩ := check_spec b
  unfold build
  split
  · next b' pk cmp hc =>
    rw [hc] at hb
    exact (alike_finalized b' true).trans hb
  · next b' e hc =>
    rw [hc] at hb
    exact hb

/-- A build marks the builder finalized when it succeeds, and otherwise leaves the flag alone. -/
theorem finalized_build (b : Builder) :
    (b.build).1.finalized = (b.finalized || (b.build).2.isOk) := by
  obtain ⟨-, hf, -⟩ := check_spec b
  unfold build
  split
  · next b' pk cmp hc => simp [Except.isOk, Except.toBool]
  · next b' e hc =>
    rw [hc] at hf
    simpa [Except.isOk, Except.toBool] using hf

/-- A build answers as its ordered checks: it fails exactly with the fault of the first check that
fails; it succeeds exactly when all pass, with a context holding the frozen columns and every other
staged value as it is; and it logs no refusal exactly when a column value could not be frozen. -/
theorem build_answers_requiredChecks (b : Builder) :
    (∀ e, (b.build).2 = .error e ↔ b.requiredChecks = .error e) ∧
    (∀ c, (b.build).2 = .ok c ↔
      ∃ pk cmp, b.requiredChecks = .ok (pk, cmp) ∧ ∀ f, c.get f = b.frozenGet pk cmp f) ∧
    (buildLog (b.build).2 = Option.none ↔ ∃ e, b.requiredChecks = .error e ∧
      (b.primaryKeyColumns.freeze = .error e ∨ b.comparisonColumns.freeze = .error e)) := by
  rw [build_snd]
  cases hr : b.requiredChecks with
  | error e =>
    refine ⟨fun e' => by simp, fun c => by simp, ?_⟩
    simp only [except_map_error, buildLog, ite_eq_right_iff, reduceCtorEq, imp_false,
      Bool.not_eq_true, Option.isSome_eq_false_iff, Option.isNone_iff_eq_none, Except.error.injEq,
      exists_eq_left']
    exact ⟨freeze_error_of_requiredChecks hr,
      fun h => h.elim Value.field_of_freeze_error Value.field_of_freeze_error⟩
  | ok r =>
    obtain ⟨pk, cmp⟩ := r
    refine ⟨fun e => by simp, fun c => ?_, by simp [buildLog]⟩
    simp only [except_map_ok, Except.ok.injEq]
    constructor
    · rintro rfl
      exact ⟨pk, cmp, rfl, toContext_get b pk cmp⟩
    · rintro ⟨pk', cmp', he, hc⟩
      cases he
      exact Context.ext_get fun f => by rw [toContext_get, hc]

end Builder

end Upsert
