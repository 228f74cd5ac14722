import Upsert.Settings.Files
import Upsert.Proofs.Choices

/-!
# Settings read from configuration hold values of their kinds

Settings built field by field hold whatever they are given. Read from configuration, each field
holds a value of its kind (`SettingsField.admits`): the hash function a member of its choice, the
consistency mode none or a member of its choice, a flag a boolean, a lifetime a finite float not
below zero, and the refresh interval an integer not below zero. A kind fixes the type of the value
as well as its range, so a lifetime given as an integer or as a numeric text is stored as a float,
and an interval given as a whole float or as a numeric text is stored as an integer.

Every coercion returns a value of its field's kind (`coercion_admits`). Applying the entry of one
field therefore keeps settings `WellTyped` (`applyField_wellTyped`), and so does a run over all
fields, by induction on the fields (`applyTable_go_wellTyped`). The defaults are well typed, and
each way of reading settings applies tables to the defaults or to given settings, which gives
`settings_keep_their_kinds`.
-/

namespace Upsert

/-! ### Finite numbers not below zero -/

namespace Binary64

/-- A number that is neither infinite nor a NaN. -/
def isFinite (x : Binary64) : Bool := !x.isInf && !x.isNaN

/-- A number that is not a NaN is at least zero exactly when it is not below zero; both zeros
count as at least zero. -/
theorem zero_le_iff_not_lt {x : Binary64} (hx : x.isNaN = false) : 0 ≤ x ↔ ¬x < 0.0 := by
  have h0 : (0 : Binary64).isNaN = false ∧ (0 : Binary64).key = 0 := by decide
  have h0' : (0.0 : Binary64).isNaN = false ∧ (0.0 : Binary64).key = 0 := by decide
  show le 0 x = true ↔ ¬lt x 0.0 = true
  simp only [le, lt, hx, h0.1, h0'.1, h0.2, h0'.2, Bool.not_false, Bool.true_and,
    decide_eq_true_eq]
  omega

end Binary64

/-! ### The kind of each field -/

namespace SettingsField

/-- Whether a value is of the kind a field holds once read from configuration. -/
def admits : SettingsField → Value → Bool
  | .hashFunction, .member m => decide (m.choice = .hashFunction)
  | .consistencyMode, .none => true
  | .consistencyMode, .member m => decide (m.choice = .consistencyMode)
  | .enableSnapshot, .bool _ | .enablePreload, .bool _ | .dropOutOfOrder, .bool _
  | .compaction, .bool _ => true
  | .metadataTtl, .float x | .deletedKeysTtl, .float x => x.isFinite && decide (0 ≤ x)
  | .refreshInterval, .int i => decide (0 ≤ i)
  | _, _ => false

theorem mem_all (f : SettingsField) : f ∈ all := by
  cases f <;> decide

end SettingsField

namespace Settings

/-- Settings whose every field holds a value of its kind. -/
def WellTyped (s : Settings) : Prop := ∀ f : SettingsField, f.admits (s.get f) = true

instance : DecidablePred WellTyped := fun s =>
  decidable_of_iff (SettingsField.all.all fun f => f.admits (s.get f)) (by
    rw [List.all_eq_true]
    exact ⟨fun h f => h f (SettingsField.mem_all f), fun h f _ => h f⟩)

/-- Replacing a field by a value of its kind keeps settings well typed. -/
theorem WellTyped.set {s : Settings} (hs : s.WellTyped) {f : SettingsField} {v : Value}
    (hv : f.admits v = true) : (s.set f v).WellTyped := by
  intro g
  by_cases hg : g = f
  · subst hg
    rwa [get_set_self]
  · rw [get_set_of_ne _ _ hg]
    exact hs g

/-- The defaults are well typed: no hash, flags off, lifetimes and refresh interval zero, no
consistency mode. -/
theorem wellTyped_default : ({} : Settings).WellTyped := by decide

/-! ### Each coercion returns a value of its kind -/

theorem coerceChoice_eq_ok {c : Choice} {v w : Value} (h : coerceChoice c v = .ok w) :
    ∃ m, m.choice = c ∧ w = .member m := by
  unfold coerceChoice at h
  cases hr : c.read (.str v.toText) with
  | error e => rw [hr] at h; cases h
  | ok m =>
    rw [hr, except_map_ok, Except.ok.injEq] at h
    exact ⟨m, Choice.read_str_choice hr, h.symm⟩

theorem coerceConsistency_eq_ok {v w : Value} (h : coerceConsistency v = .ok w) :
    w = .none ∨ ∃ m, m.choice = .consistencyMode ∧ w = .member m := by
  unfold coerceConsistency at h
  split at h
  · cases h; exact .inl rfl
  · split at h
    · cases h; exact .inl rfl
    · exact .inr (coerceChoice_eq_ok h)
  · exact .inr (coerceChoice_eq_ok h)

theorem coerceFlag_eq_ok {v w : Value} (h : coerceFlag v = .ok w) : ∃ b, w = .bool b := by
  cases v
  case bool b => exact ⟨b, (Except.ok.inj h).symm⟩
  case int i => exact ⟨_, (Except.ok.inj h).symm⟩
  case float x => exact ⟨_, (Except.ok.inj h).symm⟩
  case str t =>
    -- a text is a flag only when it is one of the words for true or for false
    simp only [coerceFlag] at h
    split at h
    · exact ⟨true, (Except.ok.inj h).symm⟩
    · split at h
      · exact ⟨false, (Except.ok.inj h).symm⟩
      · cases h
  all_goals cases h

/-- A lifetime is read as a float, from a number or a numeric text, and kept only when finite and
not below zero. -/
theorem coerceLifetime_eq_ok {v w : Value} (h : coerceLifetime v = .ok w) :
    ∃ x, w = .float x ∧ x.isFinite = true ∧ 0 ≤ x := by
  unfold coerceLifetime at h
  cases hx : v.toFloat with
  | error e => rw [hx] at h; cases h
  | ok x =>
    rw [hx, except_ok_bind] at h
    split at h
    · cases h
    · next hbad =>
      cases h
      -- the guard refused infinities, NaNs and numbers below zero
      simp only [Bool.or_eq_true, decide_eq_true_eq, not_or, Bool.not_eq_true] at hbad
      obtain ⟨⟨hinf, hnan⟩, hneg⟩ := hbad
      refine ⟨x, rfl, by simp [Binary64.isFinite, hinf, hnan], ?_⟩
      exact (Binary64.zero_le_iff_not_lt hnan).mpr hneg

/-- An interval is read as an integer, from an integer, a whole float or a numeric text, and kept
only when not below zero. -/
theorem coerceInterval_eq_ok {v w : Value} (h : coerceInterval v = .ok w) :
    ∃ i, w = .int i ∧ 0 ≤ i := by
  rcases coerceInterval_cases v with hc | hc <;> rw [hc] at h
  · cases h
  · -- the value read as an integer passed the sign check
    obtain ⟨i, -, hi⟩ := except_bind_eq_ok.mp h
    split at hi
    · cases hi
    · cases hi
      exact ⟨i, rfl, by omega⟩

/-- Every coercion returns a value of its field's kind. -/
theorem coercion_admits {f : SettingsField} {v w : Value} (h : coercion f v = .ok w) :
    f.admits w = true := by
  cases f
  case hashFunction =>
    obtain ⟨m, hm, rfl⟩ := coerceChoice_eq_ok h
    simp [SettingsField.admits, hm]
  case consistencyMode =>
    rcases coerceConsistency_eq_ok h with rfl | ⟨m, hm, rfl⟩
    · rfl
    · simp [SettingsField.admits, hm]
  case metadataTtl | deletedKeysTtl =>
    obtain ⟨x, rfl, hfin, hnn⟩ := coerceLifetime_eq_ok h
    simp [SettingsField.admits, hfin, hnn]
  case refreshInterval =>
    obtain ⟨i, rfl, hi⟩ := coerceInterval_eq_ok h
    simp [SettingsField.admits, hi]
  all_goals
    obtain ⟨b, rfl⟩ := coerceFlag_eq_ok h
    rfl

/-! ### Reading keeps settings well typed -/

/-- The step: applying the entry of one field keeps settings well typed, whether the entry is
absent, coerced or refused. -/
theorem applyField_wellTyped {cfg : List (Text × Value)} {f : SettingsField} {s s' : Settings}
    {logs : List Log} (hs : s.WellTyped) (h : applyField cfg f s = .ok (s', logs)) :
    s'.WellTyped := by
  unfold applyField at h
  split at h
  · cases h; exact hs
  · split at h
    · next w hw =>
      cases h
      exact hs.set (coercion_admits hw)
    · cases h
    · split at h
      · cases h
      · cases h; exact hs

/-- The run: applying the fields one after another keeps settings well typed. -/
theorem applyTable_go_wellTyped (entries : List (Text × Value)) :
    ∀ (fs : List SettingsField) (s : Settings) (logs : List Log) {s' : Settings}, s.WellTyped →
      (applyTable.go entries fs s logs).result = .ok s' → s'.WellTyped := by
  intro fs
  induction fs with
  | nil =>
    intro s logs s' hs h
    cases h
    exact hs
  | cons f fs ih =>
    intro s logs s' hs h
    simp only [applyTable.go] at h
    split at h
    · next s1 new hr => exact ih s1 _ (applyField_wellTyped hs hr) h
    · cases h

/-- Applying a configuration table to well-typed settings, when it ends well, leaves them well
typed; a value that is no table changes nothing. -/
theorem applyTable_wellTyped {s s' : Settings} {cfg : Value} (hs : s.WellTyped)
    (h : (s.applyTable cfg).result = .ok s') : s'.WellTyped := by
  cases cfg
  case dict entries => exact applyTable_go_wellTyped entries applyOrder s [] hs h
  all_goals
    cases h
    exact hs

theorem fromEnvironment_wellTyped {env : List (Text × Text)} {base s : Settings} {pre : Text}
    (hb : base.WellTyped) (h : (fromEnvironment env base pre).result = .ok s) : s.WellTyped :=
  applyTable_wellTyped hb h

theorem fromFiles_wellTyped {sr : Search} {dir : Folder} {explicit : Option Text} {s : Settings}
    (h : (fromFiles sr dir explicit).result = .ok s) : s.WellTyped := by
  unfold fromFiles at h
  simp only at h
  split at h
  · exact applyTable_wellTyped wellTyped_default h
  · cases h

theorem load_wellTyped {sr : Search} {dir : Folder} {explicit : Option Text}
    {env : List (Text × Text)} {pre : Text} {s : Settings}
    (h : (load sr dir explicit env pre).result = .ok s) : s.WellTyped := by
  unfold load at h
  simp only at h
  split at h
  · next s1 h1 => exact fromEnvironment_wellTyped (fromFiles_wellTyped h1) h
  · cases h

end Settings

/-- Settings read from configuration hold values of their kinds: a configuration table applied to
well-typed settings leaves them well typed when it ends well, whatever its entries; the defaults are
well typed; and so are the settings read from the files, from the files and then the environment,
and from the environment over well-typed base settings. -/
theorem settings_keep_their_kinds (sr : Search) (dir : Folder) (explicit : Option Text)
    (env : List (Text × Text)) (pre : Text) :
    (∀ (s : Settings) (cfg : Value) (s' : Settings), s.WellTyped →
      (s.applyTable cfg).result = .ok s' → s'.WellTyped) ∧
    ({} : Settings).WellTyped ∧
    (∀ s, (Settings.fromFiles sr dir explicit).result = .ok s → s.WellTyped) ∧
    (∀ s, (Settings.load sr dir explicit env pre).result = .ok s → s.WellTyped) ∧
    (∀ base s, base.WellTyped → (Settings.fromEnvironment env base pre).result = .ok s →
      s.WellTyped) :=
  ⟨fun _ _ _ hs h => Settings.applyTable_wellTyped hs h, Settings.wellTyped_default,
    fun _ h => Settings.fromFiles_wellTyped h, fun _ h => Settings.load_wellTyped h,
    fun _ _ hb h => Settings.fromEnvironment_wellTyped hb h⟩

/-- A lifetime given as an integer is stored as a float, and an interval given as a numeric text
with blanks around it as an integer, so the defaults with such a table applied are well typed. -/
theorem numeric_entries_keep_their_kinds :
    ({} : Settings).WellTyped ∧
      (({} : Settings).applyTable (.dict [("metadata_ttl", .int 3),
          ("upsert_view_refresh_interval_ms", .str " 250 ")])).result =
        .ok { metadataTtl := .float 3.0, refreshInterval := .int 250 } ∧
      Settings.WellTyped { metadataTtl := .float 3.0, refreshInterval := .int 250 } :=
  have hd : ({} : Settings).WellTyped := Settings.wellTyped_default
  have hr : (({} : Settings).applyTable (.dict [("metadata_ttl", .int 3),
      ("upsert_view_refresh_interval_ms", .str " 250 ")])).result =
      .ok { metadataTtl := .float 3.0, refreshInterval := .int 250 } := by rfl
  ⟨hd, hr, (settings_keep_their_kinds ⟨[], "", [], ""⟩ [] none [] "").1 {} _ _ hd hr⟩

end Upsert
