import Upsert.Proofs.Rebuild

/-!
# Each setter stages its own field

A builder has a setter for each of the seventeen fields of a context. A context built after a
setter differs from the one built before it in that field alone, which holds the value given,
frozen into a tuple for a column field (`Builder.set_frames_build`). The bridge is
`Builder.get_of_build`: each field of a built context is read off the value staged in the same
field. A builder is known by its staged values and its flag (`Builder.ext_get`), so staging a field
twice keeps the last value and staging two different fields can be done in either order.

A builder seeded from settings is the fresh builder after the setter of each of the nine settings
fields, called with the value of the settings field of the same name, in declaration order
(`Settings.seedCalls`); from then on it answers every step as the fresh builder that ran those
setters (`Session.run_sets`). The defaults of settings are those of a fresh builder, so seeding
from the defaults changes nothing. `setters_wired_to_their_fields` gathers these.
-/

namespace Upsert

namespace Builder

/-- A builder is known by the values staged in its fields and its flag. -/
theorem ext_get {b b' : Builder} (h : ∀ f, b.get f = b'.get f) (hf : b.finalized = b'.finalized) :
    b = b' := by
  cases b; cases b'
  simp only [mk.injEq]
  exact ⟨h .tableConfig, h .schema, h .primaryKeyColumns, h .comparisonColumns,
    h .deleteRecordColumn, h .hashFunction, h .partialUpsertHandler, h .enableSnapshot,
    h .enablePreload, h .metadataTtl, h .deletedKeysTtl, h .consistencyMode,
    h .upsertViewRefreshIntervalMs, h .tableIndexDir, h .dropOutOfOrderRecord,
    h .enableDeletedKeysCompactionConsistency, h .tableDataManager, hf⟩

/-- Staging a field twice keeps the last value. -/
theorem set_set_self (b : Builder) (f : Field) (v w : Value) :
    (b.set f v).set f w = b.set f w := by
  refine ext_get (fun g => ?_) (by simp)
  by_cases hg : g = f
  · subst hg
    simp
  · simp [get_set_of_ne _ _ hg]

/-- Staging two different fields can be done in either order. -/
theorem set_comm (b : Builder) {f g : Field} (v w : Value) (hfg : f ≠ g) :
    (b.set f v).set g w = (b.set g w).set f v := by
  refine ext_get (fun h => ?_) (by simp)
  by_cases hf : h = f
  · subst hf
    simp [get_set_of_ne _ _ hfg]
  · by_cases hg : h = g
    · subst hg
      simp [get_set_of_ne _ _ (Ne.symm hfg)]
    · simp [get_set_of_ne _ _ hf, get_set_of_ne _ _ hg]

/-- What a built context holds in a field, read off the value staged there: a column field's value
frozen into a tuple, any other field's value as it is. -/
def builtValue (g : Field) (v : Value) : Except Fault Value :=
  if g = .primaryKeyColumns ∨ g = .comparisonColumns then v.freeze.map .tuple else .ok v

/-- Each field of a built context is read off the value staged in the same field. -/
theorem get_of_build {b : Builder} {c : Context} (h : (b.build).2 = .ok c) (g : Field) :
    .ok (c.get g) = builtValue g (b.get g) := by
  rw [build_snd] at h
  cases hr : b.requiredChecks with
  | error e => rw [hr] at h; cases h
  | ok r =>
    obtain ⟨pk, cmp⟩ := r
    rw [hr, except_map_ok, Except.ok.injEq] at h
    subst h
    obtain ⟨hpk, hcmp⟩ := freeze_of_requiredChecks hr
    rw [toContext_get]
    by_cases hp : g = .primaryKeyColumns
    · subst hp
      simp [builtValue, frozenGet, get, hpk]
    by_cases hc : g = .comparisonColumns
    · subst hc
      simp [builtValue, frozenGet, get, hcmp]
    rw [frozenGet_of_ne hp hc, builtValue, if_neg (by simp [hp, hc])]

/-- A setter changes what is built in its own field alone: of two successful builds, before and
after it, the contexts agree on every other field, and the field set holds the value given. -/
theorem set_frames_build {b : Builder} {f : Field} {v : Value} {c c' : Context}
    (h : (b.build).2 = .ok c) (h' : ((b.set f v).build).2 = .ok c') :
    (∀ g, g ≠ f → c'.get g = c.get g) ∧ .ok (c'.get f) = builtValue f v := by
  refine ⟨fun g hg => ?_, by rw [get_of_build h', get_set_self]⟩
  have hg' := get_of_build h' g
  rw [get_set_of_ne _ _ hg, ← get_of_build h g] at hg'
  exact Except.ok.inj hg'

/-- Seeding from the defaults of settings gives a fresh builder. -/
theorem ofSettings_default : ofSettings {} = {} := rfl

end Builder

/-- The setter calls that seed a builder from settings: for each settings field in declaration
order, the setter of the builder field of the same name with the settings field's value. -/
def Settings.seedCalls (s : Settings) : List (Field × Value) :=
  [(.hashFunction, s.hashFunction), (.enableSnapshot, s.enableSnapshot),
   (.enablePreload, s.enablePreload), (.metadataTtl, s.metadataTtl),
   (.deletedKeysTtl, s.deletedKeysTtl), (.consistencyMode, s.consistencyMode),
   (.upsertViewRefreshIntervalMs, s.refreshInterval), (.dropOutOfOrderRecord, s.dropOutOfOrder),
   (.enableDeletedKeysCompactionConsistency, s.compaction)]

/-- Seeding a builder from settings makes the setter calls of `seedCalls` on a fresh builder. -/
theorem Builder.ofSettings_eq_seedCalls (s : Settings) :
    Builder.ofSettings s = s.seedCalls.foldl (fun b p => b.set p.1 p.2) {} := rfl

namespace Session

/-- Steps that stage values reply with the builder, keep its flag and log nothing; after them the
session holds the builder with those values staged in order. -/
theorem run_sets (s : Session) (sets : List (Field × Value)) (rest : List (Except Fault Step)) :
    s.run (sets.map (fun p => .ok (.set p.1 p.2)) ++ rest) =
      sets.map (fun _ => ⟨.builder, s.builder.finalized, []⟩) ++
        Session.run ⟨sets.foldl (fun b p => b.set p.1 p.2) s.builder, s.last⟩ rest := by
  induction sets generalizing s with
  | nil => rfl
  | cons p sets ih =>
    simp only [List.map_cons, List.cons_append, run, step, List.foldl_cons]
    rw [ih]
    simp [Builder.finalized_set]

end Session

/-- The setters are wired to their fields. Of two successful builds, before and after a setter,
the contexts agree on the sixteen other fields, and the field set holds the value given, frozen
into a tuple for a column field. Staging a field twice is staging it once with the last value, and
setters of different fields commute. A builder seeded from settings answers every run of steps as
a fresh builder does after the setter of each settings field with that field's value, and one
seeded from the defaults as a fresh builder. -/
theorem setters_wired_to_their_fields :
    (∀ (b : Builder) (f : Field) (v : Value) (c c' : Context), (b.build).2 = .ok c →
      ((b.set f v).build).2 = .ok c' →
      (∀ g, g ≠ f → c'.get g = c.get g) ∧
        .ok (c'.get f) =
          if f = .primaryKeyColumns ∨ f = .comparisonColumns then v.freeze.map .tuple else .ok v) ∧
    (∀ (b : Builder) (f : Field) (v w : Value), (b.set f v).set f w = b.set f w) ∧
    (∀ (b : Builder) (f g : Field) (v w : Value), f ≠ g →
      (b.set f v).set g w = (b.set g w).set f v) ∧
    (∀ (s : Settings) (last : Option Context) (steps : List (Except Fault Step)),
      Session.run ⟨{}, last⟩ (s.seedCalls.map (fun p => .ok (.set p.1 p.2)) ++ steps) =
        s.seedCalls.map (fun _ => ⟨.builder, false, []⟩) ++
          Session.run ⟨Builder.ofSettings s, last⟩ steps) ∧
    (∀ (last : Option Context) (steps : List (Except Fault Step)),
      Session.run ⟨Builder.ofSettings {}, last⟩ steps = Session.run ⟨{}, last⟩ steps) := by
  refine ⟨fun b f v c c' h h' => Builder.set_frames_build h h', Builder.set_set_self,
    fun b f g v w hfg => Builder.set_comm b v w hfg, fun s last steps => ?_,
    fun last steps => by rw [Builder.ofSettings_default]⟩
  rw [Session.run_sets, Builder.ofSettings_eq_seedCalls]

/-- A builder whose comparison columns are staged as a one-shot iterator builds, and after its
comparison columns are set to a bare column name it builds again: the name is frozen into a
one-column tuple and every other field is as before. -/
theorem bare_comparison_name_frozen_alone :
    ∃ c c' : Context,
      (({ tableConfig := .dict [], schema := .dict [], primaryKeyColumns := .list [.str "id"],
          comparisonColumns := .iter [.str "ts"], tableIndexDir := .str "/data/t" } : Builder).build).2 =
        .ok c ∧
      ((({ tableConfig := .dict [], schema := .dict [], primaryKeyColumns := .list [.str "id"],
           comparisonColumns := .iter [.str "ts"], tableIndexDir := .str "/data/t" } : Builder).set
          .comparisonColumns (.str "updated_at")).build).2 = .ok c' ∧
      (∀ g, g ≠ .comparisonColumns → c'.get g = c.get g) ∧
      c'.get .comparisonColumns = .tuple [.str "updated_at"] := by
  refine ⟨_, _, rfl, rfl, ?_⟩
  have hw := setters_wired_to_their_fields.1
    { tableConfig := .dict [], schema := .dict [], primaryKeyColumns := .list [.str "id"],
      comparisonColumns := .iter [.str "ts"], tableIndexDir := .str "/data/t" }
    .comparisonColumns (.str "updated_at") _ _ rfl rfl
  exact ⟨hw.1, Except.ok.inj (hw.2.trans rfl)⟩

end Upsert
