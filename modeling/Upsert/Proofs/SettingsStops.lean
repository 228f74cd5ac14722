import Mathlib
import Upsert.Proofs.SettingsLayers

/-!
# What stops the reading of a settings table

Reading a settings table lays its entries over the settings below, and an entry that its field's
coercion refuses is reported and skipped (`Settings.applyTable_eq`). Two kinds of entry stop the
reading instead (`Settings.StopsReading`): a lifetime given an integer beyond the range of a float,
whose conversion overflows, and a refused entry holding an integer of more than 4300 digits, which
its warning cannot write out. These are the only ones: only the lifetimes convert to floats, so no
other coercion overflows (`Settings.coercion_eq_intTooLarge_iff`), and a reading that stops, stops
with one of these two faults (`Settings.applyTable_go_error`). The main statement is
`settings_table_stops_only_on_large_integers`.
-/

namespace Upsert

namespace Settings

/-- The entry `v` of field `f` stops the reading of a table: a lifetime given an integer beyond the
range of a float, or a refused entry holding an integer too long to write into its warning. The
second holds under a log handler that raises a failure to write a record again; under the handlers
of the standard library the warning is lost and the reading goes on. -/
def StopsReading (f : SettingsField) (v : Value) : Prop :=
  (f ∈ SettingsField.lifetimes ∧ ∃ i, v = .int i ∧ (Decimal.ofInt i).isInf = true) ∨
    ((∃ e, coercion f v = .error e) ∧ v.hasLongInt = true)

/-! ### The entries that stop the reading -/

theorem escapes_some_iff (f : SettingsField) (v : Value) :
    escapes f (some v) = true ↔ StopsReading f v := by
  unfold escapes StopsReading
  rw [← coercion_eq_intTooLarge_iff]
  cases hc : coercion f v with
  | ok w => simp [hc]
  | error e =>
    -- an overflow stops the reading whatever the value holds
    by_cases he : e = .intTooLarge
    · subst he
      simp [hc]
    · simp [hc, he]

theorem escapes_eq_false_iff (entry : SettingsField → Option Value) :
    (∀ f, escapes f (entry f) = false) ↔ ∀ f v, entry f = some v → ¬StopsReading f v := by
  constructor
  · intro h f v hv hstop
    have := h f
    rw [hv, ← Bool.not_eq_true, escapes_some_iff] at this
    exact this hstop
  · intro h f
    cases hv : entry f with
    | none => rfl
    | some v => rw [← Bool.not_eq_true, escapes_some_iff]; exact h f v hv

/-- Applying the entry of one field fails only with the two faults that stop the reading. -/
theorem applyField_error {cfg : List (Text × Value)} {f : SettingsField} {s : Settings}
    {e : Fault} (h : applyField cfg f s = .error e) : e = .intTooLarge ∨ e = .intTextTooLong := by
  unfold applyField at h
  split at h
  · cases h
  · split at h
    · cases h
    · cases h
      exact .inl rfl
    · split at h
      · cases h
        exact .inr rfl
      · cases h

/-- A run over the fields fails only as one of its steps does. -/
theorem applyTable_go_error {entries : List (Text × Value)} :
    ∀ {fs : List SettingsField} {s : Settings} {logs : List Log} {e : Fault},
      (applyTable.go entries fs s logs).result = .error e → e = .intTooLarge ∨ e = .intTextTooLong := by
  intro fs
  induction fs with
  | nil => intro _ _ _ h; cases h
  | cons f fs ih =>
    intro s logs e h
    simp only [applyTable.go] at h
    split at h
    · exact ih h
    · next e' he' =>
      cases h
      exact applyField_error he'

/-- An entry whose coercion overflows stops the reading with the overflow, over any settings. -/
theorem applyField_of_overflow {cfg : List (Text × Value)} {f : SettingsField} {v : Value}
    (hv : cfg.lookup f.name = some v) (hc : coercion f v = .error .intTooLarge) (s : Settings) :
    applyField cfg f s = .error .intTooLarge := by
  simp [applyField, hv, hc]

/-- A run over the fields stops at a field that fails over any settings, with that field's fault,
when no field before it stops the reading. -/
theorem applyTable_go_stops {entries : List (Text × Value)} {f : SettingsField} {e : Fault}
    (hf : ∀ s, applyField entries f s = .error e) (rest : List SettingsField) :
    ∀ (pre : List SettingsField) (s : Settings) (logs : List Log),
      (∀ g ∈ pre, escapes g (entries.lookup g.name) = false) →
      (applyTable.go entries (pre ++ f :: rest) s logs).result = .error e := by
  intro pre
  induction pre with
  | nil => intro s logs _; simp [applyTable.go, hf]
  | cons g pre ih =>
    intro s logs h
    -- a field before `f` is applied without fault, and the run goes on from its settings
    simp only [List.cons_append, applyTable.go, applyField_eq s (h g (List.mem_cons_self ..))]
    exact ih _ _ fun g' hg' => h g' (List.mem_cons_of_mem g hg')

end Settings

/-- Reading a settings table over any settings fails exactly when an entry stops it: a lifetime given
an integer beyond the range of a float, or a refused entry holding an integer too long to write into
its warning. A reading that fails, fails with one of those two faults; a reading none of whose entries
stops it lays every entry over the settings, keeping the value below for each refused entry, and
reports the refused entries in field order. -/
theorem settings_table_stops_only_on_large_integers (s : Settings) (cfg : Value) :
    ((∃ s', (s.applyTable cfg).result = .ok s') ↔
      ∀ f v, Settings.tableEntry cfg f = some v → ¬Settings.StopsReading f v) ∧
    (∀ e, (s.applyTable cfg).result = .error e → e = .intTooLarge ∨ e = .intTextTooLong) ∧
    ((∀ f v, Settings.tableEntry cfg f = some v → ¬Settings.StopsReading f v) →
      s.applyTable cfg =
        ⟨.ok (s.overlay (Settings.tableEntry cfg)), Settings.refusals (Settings.tableEntry cfg)⟩) := by
  have hlaid : (∀ f v, Settings.tableEntry cfg f = some v → ¬Settings.StopsReading f v) →
      s.applyTable cfg =
        ⟨.ok (s.overlay (Settings.tableEntry cfg)), Settings.refusals (Settings.tableEntry cfg)⟩ :=
    fun h => Settings.applyTable_eq s ((Settings.escapes_eq_false_iff _).mpr h)
  refine ⟨⟨?_, ?_⟩, ?_, hlaid⟩
  · rintro ⟨s', h⟩
    exact (Settings.escapes_eq_false_iff _).mp (Settings.escapes_eq_false_of_applyTable h)
  · intro h
    exact ⟨_, by rw [hlaid h]⟩
  · intro e h
    cases cfg
    case dict m => exact Settings.applyTable_go_error h
    all_goals cases h

/-- Both kinds of entry stop the reading. A lifetime given 2 ^ 1024, which TOML reads as an
integer, overflows a float: the hash function, the consistency mode and the flags come first and
have no entry, so the reading stops there. A flag given a list holding an integer of 4301 digits is
refused, and its warning cannot write the integer out. -/
theorem large_integers_stop_table :
    (({} : Settings).applyTable (.dict [("metadata_ttl", .int ((2 ^ 256) ^ 4))])).result =
      .error .intTooLarge ∧
    (({} : Settings).applyTable (.dict [("enable_snapshot", .list [.int ((10 ^ 100) ^ 43)])])).result =
      .error .intTextTooLong := by
  constructor
  · have hv : ([("metadata_ttl", .int ((2 ^ 256) ^ 4))] : List (Text × Value)).lookup
        SettingsField.metadataTtl.name = some (.int ((2 ^ 256) ^ 4)) := rfl
    have hc : Settings.coercion .metadataTtl (.int ((2 ^ 256) ^ 4)) = .error .intTooLarge :=
      (Settings.coercion_eq_intTooLarge_iff _ _).mpr ⟨by decide, _, rfl, by decide +kernel⟩
    have horder : Settings.applyOrder =
        [.hashFunction, .consistencyMode, .enableSnapshot, .enablePreload, .dropOutOfOrder,
          .compaction] ++ .metadataTtl :: [.deletedKeysTtl, .refreshInterval] := rfl
    have hpre : ∀ g ∈ [SettingsField.hashFunction, .consistencyMode, .enableSnapshot, .enablePreload,
        .dropOutOfOrder, .compaction], Settings.escapes g
          (([("metadata_ttl", .int ((2 ^ 256) ^ 4))] : List (Text × Value)).lookup g.name) = false := by
      decide
    have hgo := Settings.applyTable_go_stops (Settings.applyField_of_overflow hv hc)
      [.deletedKeysTtl, .refreshInterval] _ {} [] hpre
    simp only [Settings.applyTable]
    rw [horder]
    exact hgo
  · -- deciding that the integer is too long writes out its 4301 digits
    set_option maxRecDepth 40000 in rfl

end Upsert
