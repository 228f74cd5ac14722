import Upsert.Settings.Files
import Upsert.Proofs.Choices

/-!
# Settings in layers

Settings are read in layers: the defaults, then the settings table of the configuration files, then
the environment. Each layer is laid over the one below field by field (`Settings.overlay`): a field
whose entry its coercion accepts takes the coerced value, and every other field keeps the value of
the layer below, so a refused entry falls back to that layer and not to the default. Each refused
entry is reported once, in the order the fields are applied (`Settings.refusals`).

The main statement `settings_layered_by_field` says this of the three ways to read settings:

* from the environment over any base settings, where a field's entry is its variable when set to a
  non-empty text (`Settings.envEntry`); this always succeeds;
* from the files, where the entries are those of the first candidate that exists and holds a
  non-empty settings table (`Search.firstTable`), or none;
* from the files and then the environment.

The proof goes through one field at a time: applying the entry of a field sets that field alone
(`Settings.applyField_eq`), the fields are applied in an order that names each once, so a run over
them sets each field from the value it had at the start (`Settings.get_foldl_layerField_of_mem`).
-/

namespace Upsert

/-! ### The fields -/

namespace SettingsField

theorem name_eq_name {f g : SettingsField} : f.name = g.name ↔ f = g := by
  constructor
  · intro h
    cases f <;> cases g <;> first | rfl | exact absurd h (by decide)
  · rintro rfl; rfl

theorem mem_applyOrder (f : SettingsField) : f ∈ Settings.applyOrder := by
  cases f <;> decide

theorem nodup_applyOrder : Settings.applyOrder.Nodup := by decide

theorem mem_environmentOrder (f : SettingsField) : f ∈ Settings.environmentOrder := by
  cases f <;> decide

theorem nodup_environmentOrder : Settings.environmentOrder.Nodup := by decide

/-- Looking a field's name up in a table built from the fields finds the field's own entry. -/
theorem lookup_name_filterMap (E : SettingsField → Option Value) (g : SettingsField) :
    ∀ fs : List SettingsField, fs.Nodup →
      (fs.filterMap fun f => (E f).map (f.name, ·)).lookup g.name = if g ∈ fs then E g else none := by
  intro fs
  induction fs with
  | nil => intro _; rfl
  | cons f fs ih =>
    intro hnd
    rw [List.nodup_cons] at hnd
    rw [List.filterMap_cons]
    by_cases hg : g = f
    · subst hg
      cases hE : E g with
      | none => simp [ih hnd.2, hnd.1]
      | some v => simp
    · have hn : (g.name == f.name) = false := by
        simpa [beq_iff_eq, name_eq_name] using hg
      cases E f with
      | none => simp [ih hnd.2, hg]
      | some v => simp [List.lookup_cons, hn, ih hnd.2, hg]

end SettingsField

/-- Reading an integer from a text fails only for the text, never because the number overflows. -/
theorem NumberText.int?_ne_intTooLarge (t : Text) : NumberText.int? t ≠ .error .intTooLarge := by
  unfold NumberText.int?
  simp only
  split
  · simp
  split
  · simp
  split
  · simp
  · simp

namespace Settings

/-! ### Settings from their fields -/

/-- The settings whose fields hold the given values. -/
def ofGet (g : SettingsField → Value) : Settings :=
  { hashFunction := g .hashFunction, enableSnapshot := g .enableSnapshot,
    enablePreload := g .enablePreload, metadataTtl := g .metadataTtl,
    deletedKeysTtl := g .deletedKeysTtl, consistencyMode := g .consistencyMode,
    refreshInterval := g .refreshInterval, dropOutOfOrder := g .dropOutOfOrder,
    compaction := g .compaction }

@[simp] theorem get_ofGet (g : SettingsField → Value) (f : SettingsField) : (ofGet g).get f = g f := by
  cases f <;> rfl

/-- Settings are known by the values of their fields. -/
theorem ext_get {s s' : Settings} (h : ∀ f, s.get f = s'.get f) : s = s' := by
  cases s; cases s'
  simp only [mk.injEq]
  exact ⟨h .hashFunction, h .enableSnapshot, h .enablePreload, h .metadataTtl, h .deletedKeysTtl,
    h .consistencyMode, h .refreshInterval, h .dropOutOfOrder, h .compaction⟩

@[simp] theorem set_get_self (s : Settings) (f : SettingsField) : s.set f (s.get f) = s := by
  cases f <;> rfl

/-! ### Laying entries over settings -/

/-- The value field `f` takes when the entry `e` is laid over settings `s`: the coerced entry when
its coercion accepts it, else the value of `s`. -/
def layeredValue (s : Settings) (f : SettingsField) : Option Value → Value
  | some v =>
    match coercion f v with
    | .ok w => w
    | .error _ => s.get f
  | none => s.get f

/-- Settings `s` with entries laid over them, field by field. -/
def overlay (s : Settings) (entry : SettingsField → Option Value) : Settings :=
  ofGet fun f => s.layeredValue f (entry f)

/-- The warning for the entry of a field that its coercion refuses. -/
def refusal (f : SettingsField) : Option Value → Option Log
  | some v =>
    match coercion f v with
    | .ok _ => none
    | .error why => some (ignoredWarning f.name v why)
  | none => none

/-- The warnings for the refused entries, in the order the fields are applied. -/
def refusals (entry : SettingsField → Option Value) : List Log :=
  applyOrder.filterMap fun f => refusal f (entry f)

/-- Whether the entry of a field stops the reading: a number too large for a float, or a refused
value holding an integer too long to be written into its warning. -/
def escapes (f : SettingsField) : Option Value → Bool
  | some v =>
    match coercion f v with
    | .ok _ => false
    | .error .intTooLarge => true
    | .error _ => v.hasLongInt
  | none => false

theorem layeredValue_congr {s s' : Settings} {f : SettingsField} (h : s.get f = s'.get f)
    (e : Option Value) : s.layeredValue f e = s'.layeredValue f e := by
  unfold layeredValue
  split
  · split
    · rfl
    · exact h
  · exact h

/-- With no entries, nothing changes. -/
theorem overlay_none (s : Settings) : s.overlay (fun _ => none) = s :=
  ext_get fun _ => by simp [overlay, layeredValue]

theorem refusals_none : refusals (fun _ => none) = [] := by
  simp [refusals, refusal]

/-! ### Applying a table field by field -/

/-- Applying the entry of a field that does not stop the reading lays it over that field alone. -/
theorem applyField_eq {cfg : List (Text × Value)} {f : SettingsField} (s : Settings)
    (h : escapes f (cfg.lookup f.name) = false) :
    applyField cfg f s =
      .ok (s.set f (s.layeredValue f (cfg.lookup f.name)), (refusal f (cfg.lookup f.name)).toList) := by
  unfold applyField
  generalize cfg.lookup f.name = e at h ⊢
  cases e with
  | none => simp [layeredValue, refusal]
  | some v =>
    simp only [escapes] at h
    simp only [layeredValue, refusal]
    cases hc : coercion f v with
    | ok w => simp
    | error why =>
      -- the overflow of a float stops the reading whatever the value holds
      by_cases hw : why = .intTooLarge
      · subst hw
        simp [hc] at h
      · simp [hc] at h
        simp [h]

/-- A field whose entry stops the reading stops it. -/
theorem escapes_eq_false_of_applyField {cfg : List (Text × Value)} {f : SettingsField} {s : Settings}
    {r : Settings × List Log} (h : applyField cfg f s = .ok r) :
    escapes f (cfg.lookup f.name) = false := by
  unfold applyField at h
  generalize cfg.lookup f.name = e at h ⊢
  cases e with
  | none => rfl
  | some v =>
    simp only [escapes]
    simp only at h
    cases hc : coercion f v with
    | ok w => rfl
    | error why =>
      rw [hc] at h
      by_cases hw : why = .intTooLarge
      · subst hw
        simp at h
      · simp only at h ⊢
        cases hv : v.hasLongInt
        · rfl
        · simp [hv] at h

/-- The settings after the entry of one field is laid over them. -/
def layerField (entry : SettingsField → Option Value) (s : Settings) (f : SettingsField) :
    Settings :=
  s.set f (s.layeredValue f (entry f))

/-- A run over fields none of whose entries stops the reading lays them over one after another, and
reports the refused ones in order. -/
theorem applyTable_go_eq (entries : List (Text × Value)) (fs : List SettingsField) :
    ∀ (s : Settings) (logs : List Log), (∀ f ∈ fs, escapes f (entries.lookup f.name) = false) →
      applyTable.go entries fs s logs =
        ⟨.ok (fs.foldl (layerField fun f => entries.lookup f.name) s),
          logs ++ fs.filterMap fun f => refusal f (entries.lookup f.name)⟩ := by
  induction fs with
  | nil => intro s logs _; simp [applyTable.go]
  | cons f fs ih =>
    intro s logs h
    have hf := applyField_eq s (h f (List.mem_cons_self ..))
    simp only [applyTable.go, hf]
    rw [ih _ _ fun g hg => h g (List.mem_cons_of_mem f hg)]
    cases hr : refusal f (entries.lookup f.name) <;> simp [layerField, hr]

/-- A run that succeeds met no entry that stops the reading. -/
theorem escapes_eq_false_of_applyTable_go {entries : List (Text × Value)} :
    ∀ {fs : List SettingsField} {s : Settings} {logs : List Log} {s' : Settings},
      (applyTable.go entries fs s logs).result = .ok s' →
      ∀ f ∈ fs, escapes f (entries.lookup f.name) = false := by
  intro fs
  induction fs with
  | nil => intro _ _ _ _ f hf; cases hf
  | cons f fs ih =>
    intro s logs s' h g hg
    simp only [applyTable.go] at h
    split at h
    · next r hr =>
      rcases List.mem_cons.mp hg with rfl | hg
      · exact escapes_eq_false_of_applyField hr
      · exact ih h g hg
    · cases h

/-- A field the run does not reach keeps its value. -/
theorem get_foldl_layerField_of_not_mem (entry : SettingsField → Option Value) {g : SettingsField} :
    ∀ (fs : List SettingsField) (s : Settings), g ∉ fs →
      (fs.foldl (layerField entry) s).get g = s.get g := by
  intro fs
  induction fs with
  | nil => intro s _; rfl
  | cons f fs ih =>
    intro s hg
    rw [List.mem_cons, not_or] at hg
    rw [List.foldl_cons, ih _ hg.2, layerField, get_set_of_ne _ _ hg.1]

/-- A run over fields that names each once sets each field it reaches from the value that field
had at the start, since no other field's step touches it. -/
theorem get_foldl_layerField_of_mem (entry : SettingsField → Option Value) {g : SettingsField} :
    ∀ (fs : List SettingsField), fs.Nodup → ∀ s : Settings, g ∈ fs →
      (fs.foldl (layerField entry) s).get g = s.layeredValue g (entry g) := by
  intro fs
  induction fs with
  | nil => intro _ s hg; cases hg
  | cons f fs ih =>
    intro hnd s hg
    rw [List.nodup_cons] at hnd
    rw [List.foldl_cons]
    by_cases hgf : g = f
    · subst hgf
      rw [get_foldl_layerField_of_not_mem entry fs _ hnd.1, layerField, get_set_self]
    · have hg' : g ∈ fs := (List.mem_cons.mp hg).resolve_left hgf
      rw [ih hnd.2 _ hg']
      exact layeredValue_congr (get_set_of_ne _ _ hgf) _

/-- Applying every field in order lays all entries over the settings. -/
theorem foldl_layerField_applyOrder (entry : SettingsField → Option Value) (s : Settings) :
    applyOrder.foldl (layerField entry) s = s.overlay entry := by
  apply ext_get
  intro g
  rw [get_foldl_layerField_of_mem entry applyOrder SettingsField.nodup_applyOrder s
    (SettingsField.mem_applyOrder g), overlay, get_ofGet]

/-- The entries a configuration value gives the fields: those of a table, by field name; any other
value gives none. -/
def tableEntry : Value → SettingsField → Option Value
  | .dict m => fun f => m.lookup f.name
  | _ => fun _ => none

/-- Applying a table none of whose entries stops the reading lays it over the settings. -/
theorem applyTable_eq (s : Settings) {cfg : Value} (h : ∀ f, escapes f (tableEntry cfg f) = false) :
    s.applyTable cfg = ⟨.ok (s.overlay (tableEntry cfg)), refusals (tableEntry cfg)⟩ := by
  cases cfg
  case dict m =>
    simp only [applyTable]
    rw [applyTable_go_eq m applyOrder s [] fun f _ => h f, foldl_layerField_applyOrder]
    rfl
  all_goals simp [applyTable, tableEntry, overlay_none, refusals_none]

/-- Applying a table that succeeds met no entry that stops the reading. -/
theorem escapes_eq_false_of_applyTable {s s' : Settings} {cfg : Value}
    (h : (s.applyTable cfg).result = .ok s') (f : SettingsField) :
    escapes f (tableEntry cfg f) = false := by
  cases cfg
  case dict m => exact escapes_eq_false_of_applyTable_go h f (SettingsField.mem_applyOrder f)
  all_goals rfl

/-- A value that is no table, or an empty table, gives no entries. -/
theorem tableEntry_of_truthy_eq_false {cfg : Value} (h : cfg.truthy = false) :
    tableEntry cfg = fun _ => none := by
  cases cfg
  case dict m =>
    cases m with
    | nil => rfl
    | cons e m => cases h
  all_goals rfl

/-! ### Only a lifetime overflows -/

theorem coerceChoice_ne_intTooLarge (c : Choice) (v : Value) :
    coerceChoice c v ≠ .error .intTooLarge := by
  simp only [coerceChoice, Choice.read_str]
  split
  · split <;> simp
  · simp

theorem coerceConsistency_ne_intTooLarge (v : Value) :
    coerceConsistency v ≠ .error .intTooLarge := by
  unfold coerceConsistency
  split
  · simp
  · split
    · simp
    · exact coerceChoice_ne_intTooLarge _ _
  · exact coerceChoice_ne_intTooLarge _ _

theorem coerceFlag_ne_intTooLarge (v : Value) : coerceFlag v ≠ .error .intTooLarge := by
  unfold coerceFlag
  split
  case h_4 t =>
    simp only
    split
    · simp
    · split <;> simp
  all_goals simp

/-- Reading an integer never overflows a float: texts and bytes are refused by the integer grammar
with faults of their own. -/
theorem toInt_ne_intTooLarge (v : Value) : v.toInt ≠ .error .intTooLarge := by
  cases v
  case str t => exact NumberText.int?_ne_intTooLarge t
  case bytes b =>
    have hread : (if b.all (· < 128) = true then NumberText.int? ⟨b⟩
        else throw (.notIntText ⟨b⟩)) ≠ .error .intTooLarge := by
      split
      · exact NumberText.int?_ne_intTooLarge _
      · simp
    simp only [Value.toInt]
    split
    · simp
    · simpa using hread
  all_goals simp [Value.toInt]

theorem coerceInterval_ne_intTooLarge (v : Value) : coerceInterval v ≠ .error .intTooLarge := by
  rcases coerceInterval_cases v with hc | hc <;> rw [hc]
  · simp
  · -- the faults of the integer read pass through, and the sign check has its own
    cases hi : v.toInt with
    | error e =>
      have he : e ≠ .intTooLarge := fun he => toInt_ne_intTooLarge v (he ▸ hi)
      simpa [except_error_bind] using he
    | ok i =>
      rw [except_ok_bind]
      split <;> simp

theorem toFloat_eq_intTooLarge_iff (v : Value) :
    v.toFloat = .error .intTooLarge ↔ ∃ i, v = .int i ∧ (Decimal.ofInt i).isInf = true := by
  cases v
  case int i => by_cases hi : (Decimal.ofInt i).isInf <;> simp [Value.toFloat, hi]
  case str t => cases h : NumberText.float? t <;> simp [Value.toFloat, h]
  case bytes b =>
    -- bytes are read by the float grammar, or refused as bytes
    simp only [Value.toFloat]
    split <;> simp
  all_goals simp [Value.toFloat]

theorem coerceLifetime_eq_intTooLarge_iff (v : Value) :
    coerceLifetime v = .error .intTooLarge ↔ v.toFloat = .error .intTooLarge := by
  unfold coerceLifetime
  cases v.toFloat with
  | error e => simp
  | ok x => simp; split <;> simp

/-- Only a lifetime overflows, and only when given an integer beyond the range of a float. -/
theorem coercion_eq_intTooLarge_iff (f : SettingsField) (v : Value) :
    coercion f v = .error .intTooLarge ↔
      f ∈ SettingsField.lifetimes ∧ ∃ i, v = .int i ∧ (Decimal.ofInt i).isInf = true := by
  cases f
  case metadataTtl | deletedKeysTtl =>
    simp [coercion, SettingsField.lifetimes, coerceLifetime_eq_intTooLarge_iff,
      toFloat_eq_intTooLarge_iff]
  case hashFunction => simp [coercion, SettingsField.lifetimes, coerceChoice_ne_intTooLarge]
  case consistencyMode => simp [coercion, SettingsField.lifetimes, coerceConsistency_ne_intTooLarge]
  case refreshInterval => simp [coercion, SettingsField.lifetimes, coerceInterval_ne_intTooLarge]
  all_goals simp [coercion, SettingsField.lifetimes, coerceFlag_ne_intTooLarge]

/-! ### The environment -/

/-- No coercion of a text overflows a float: only lifetimes read floats, and they read them from
the text's digits, which are refused when out of range. -/
theorem coercion_str_ne_intTooLarge (f : SettingsField) (t : Text) :
    coercion f (.str t) ≠ .error .intTooLarge := by
  intro h
  obtain ⟨_, i, hi, _⟩ := (coercion_eq_intTooLarge_iff f _).mp h
  cases hi

/-- The entry the environment gives a field: its variable, the prefix followed by the field's name
in upper case, when that variable is set to a non-empty text. -/
def envEntry (env : List (Text × Text)) (pre : Text) (f : SettingsField) : Option Value :=
  match env.lookup (pre ++ upperAscii f.name) with
  | some v => if v.isEmpty then none else some (.str v)
  | none => none

/-- A text entry never stops the reading: its coercion never overflows a float, and the text is
written into its warning. -/
theorem escapes_str (f : SettingsField) (t : Text) : escapes f (some (.str t)) = false := by
  have hne := coercion_str_ne_intTooLarge f t
  simp only [escapes]
  cases hc : coercion f (.str t) with
  | ok w => rfl
  | error why =>
    have hw : why ≠ .intTooLarge := fun hw => hne (hw ▸ hc)
    simp [Value.hasLongInt]

/-- A table built from the fields in environment order gives each field the entry it was built
from. -/
theorem tableEntry_filterMap_environmentOrder {F : SettingsField → Option (Text × Value)}
    {E : SettingsField → Option Value} (hF : ∀ f, F f = (E f).map (f.name, ·)) :
    tableEntry (.dict (environmentOrder.filterMap F)) = E := by
  funext g
  have hF' : F = fun f => (E f).map (f.name, ·) := funext hF
  simp only [hF', tableEntry]
  rw [SettingsField.lookup_name_filterMap _ g _ SettingsField.nodup_environmentOrder,
    if_pos (SettingsField.mem_environmentOrder g)]

/-- The environment gives each field its text or nothing, and a text never stops the reading. -/
theorem escapes_envEntry (env : List (Text × Text)) (pre : Text) (f : SettingsField) :
    escapes f (envEntry env pre f) = false := by
  unfold envEntry
  split
  · split
    · rfl
    · exact escapes_str f _
  · rfl

/-- Applying a table built from the fields in environment order lays the entries it was built from
over the settings, when none of them stops the reading. -/
theorem applyTable_filterMap_environmentOrder (s : Settings) {F : SettingsField → Option (Text × Value)}
    {E : SettingsField → Option Value} (hF : ∀ f, F f = (E f).map (f.name, ·))
    (hE : ∀ f, escapes f (E f) = false) :
    s.applyTable (.dict (environmentOrder.filterMap F)) = ⟨.ok (s.overlay E), refusals E⟩ := by
  have hT := tableEntry_filterMap_environmentOrder hF
  rw [applyTable_eq s (by rw [hT]; exact hE), hT]

/-- Reading the environment over base settings lays its entries over them; it always succeeds. -/
theorem fromEnvironment_eq (env : List (Text × Text)) (base : Settings) (pre : Text) :
    fromEnvironment env base pre = ⟨.ok (base.overlay (envEntry env pre)), refusals (envEntry env pre)⟩ := by
  unfold fromEnvironment
  apply applyTable_filterMap_environmentOrder
  · -- each field's pair is its variable's text, named by the field
    intro f
    unfold envEntry
    cases env.lookup (pre ++ upperAscii f.name) with
    | none => rfl
    | some v => by_cases hv : v.isEmpty <;> simp [hv]
  · exact escapes_envEntry env pre

end Settings

/-! ### The configuration files -/

namespace Search

/-- The names searched: the explicit name alone, else the candidates. -/
def names (sr : Search) : Option Text → List Text
  | some n => [n]
  | none => sr.candidates

/-- What a name yields, if it exists: the settings table of its file, or the fault of reading it;
a directory cannot be read. -/
def fileTable (sr : Search) (dir : Folder) (n : Text) : Option (Except Fault Value) :=
  if namesDirectory n then some (.error (.isDirectory (Text.normalizePath n))) else
  (dir.find? n).map fun content => do
    let text ← content.read
    let doc ← (Toml.read text).mapError Toml.Failure.fault
    sr.extract n doc

/-- The settings table of the first name whose file exists and yields a non-empty one. -/
def firstTable (sr : Search) (dir : Folder) (names : List Text) : Option Value :=
  names.findSome? fun n =>
    match sr.fileTable dir n with
    | some (.ok cfg) => if cfg.truthy then some cfg else none
    | _ => none

/-- The entries the configuration files give the fields. -/
def filesEntry (sr : Search) (dir : Folder) (explicit : Option Text) :
    SettingsField → Option Value :=
  match sr.firstTable dir (sr.names explicit) with
  | some cfg => Settings.tableEntry cfg
  | none => fun _ => none

/-- A search that ends well found the first non-empty table, or found none and ends on an empty
one. The search starts from nothing found, so what it carries is always empty. -/
theorem table_go_spec (sr : Search) (dir : Folder) :
    ∀ (names : List Text) (found cfg : Value), found.truthy = false →
      table.go sr dir names found = .ok cfg →
      sr.firstTable dir names = some cfg ∨ (sr.firstTable dir names = none ∧ cfg.truthy = false) := by
  intro names
  induction names with
  | nil =>
    intro found cfg hf h
    cases h
    exact .inr ⟨rfl, hf⟩
  | cons n ns ih =>
    intro found cfg hf h
    simp only [table.go] at h
    -- a directory ends the search in error, so the name is none
    have hd : namesDirectory n = false := by
      cases hdir : namesDirectory n
      · rfl
      · simp [hdir] at h
    simp only [hd, Bool.false_eq_true, if_false] at h
    split at h
    · next hn =>
      have hfirst : sr.firstTable dir (n :: ns) = sr.firstTable dir ns := by
        simp [firstTable, fileTable, hd, hn]
      rw [hfirst]
      exact ih found cfg hf h
    · next content hn =>
      obtain ⟨text, htext, h⟩ := except_bind_eq_ok.mp h
      obtain ⟨doc, hdoc, h⟩ := except_bind_eq_ok.mp h
      obtain ⟨cfg', hcfg, h⟩ := except_bind_eq_ok.mp h
      have hfile : sr.fileTable dir n = some (.ok cfg') := by
        simp [fileTable, hd, hn, htext, hdoc, hcfg]
      by_cases ht : cfg'.truthy
      · -- a non-empty table ends the search
        simp only [ht, if_true, except_pure, Except.ok.injEq] at h
        subst h
        left
        simp [firstTable, hfile, ht]
      · -- an empty table is carried on, and the rest decides
        simp only [ht, Bool.false_eq_true, if_false] at h
        have hfirst : sr.firstTable dir (n :: ns) = sr.firstTable dir ns := by
          simp [firstTable, hfile, ht]
        rw [hfirst]
        exact ih cfg' cfg (by simpa using ht) h

end Search

namespace Settings

theorem fromFiles_eq_table (sr : Search) (dir : Folder) (explicit : Option Text) :
    fromFiles sr dir explicit =
      match sr.table dir (sr.names explicit) with
      | .ok cfg => ({} : Settings).applyTable cfg
      | .error e => ⟨.error e, []⟩ := by
  cases explicit <;> rfl

/-- Reading settings from the files, when it ends well, lays the entries of the first non-empty
settings table found over the defaults. -/
theorem fromFiles_eq {sr : Search} {dir : Folder} {explicit : Option Text} {s : Settings}
    (h : (fromFiles sr dir explicit).result = .ok s) :
    fromFiles sr dir explicit =
      ⟨.ok (({} : Settings).overlay (sr.filesEntry dir explicit)), refusals (sr.filesEntry dir explicit)⟩ := by
  rw [fromFiles_eq_table] at h ⊢
  cases ht : sr.table dir (sr.names explicit) with
  | error e => rw [ht] at h; cases h
  | ok cfg =>
    rw [ht] at h
    simp only at h ⊢
    have hentry : tableEntry cfg = sr.filesEntry dir explicit := by
      unfold Search.filesEntry
      rcases Search.table_go_spec sr dir _ .none cfg rfl ht with hfirst | ⟨hfirst, hempty⟩
      · rw [hfirst]
      · rw [hfirst, tableEntry_of_truthy_eq_false hempty]
    rw [applyTable_eq {} (escapes_eq_false_of_applyTable h), hentry]

end Settings

/-- Settings are read in layers, field by field: the environment over base settings, the first
non-empty settings table of the files over the defaults, and the environment over the files. A
refused entry keeps the value of the layer below, and each layer reports its refused entries in
field order, the files' before the environment's. Reading the environment always ends well; when
reading the files fails, reading both fails the same way. -/
theorem settings_layered_by_field (sr : Search) (dir : Folder) (explicit : Option Text)
    (env : List (Text × Text)) (pre : Text) (base : Settings) :
    Settings.fromEnvironment env base pre =
        ⟨.ok (base.overlay (Settings.envEntry env pre)), Settings.refusals (Settings.envEntry env pre)⟩ ∧
      (∀ s, (Settings.fromFiles sr dir explicit).result = .ok s →
        Settings.fromFiles sr dir explicit =
          ⟨.ok (({} : Settings).overlay (sr.filesEntry dir explicit)),
            Settings.refusals (sr.filesEntry dir explicit)⟩) ∧
      (∀ s, (Settings.fromFiles sr dir explicit).result = .ok s →
        Settings.load sr dir explicit env pre =
          ⟨.ok ((({} : Settings).overlay (sr.filesEntry dir explicit)).overlay (Settings.envEntry env pre)),
            Settings.refusals (sr.filesEntry dir explicit) ++ Settings.refusals (Settings.envEntry env pre)⟩) ∧
      (∀ e, (Settings.fromFiles sr dir explicit).result = .error e →
        Settings.load sr dir explicit env pre = Settings.fromFiles sr dir explicit) := by
  refine ⟨Settings.fromEnvironment_eq env base pre, fun _ h => Settings.fromFiles_eq h, ?_, ?_⟩
  · intro s h
    unfold Settings.load
    rw [Settings.fromFiles_eq h]
    simp only
    rw [Settings.fromEnvironment_eq]
  · intro e h
    unfold Settings.load
    simp only
    rw [h]
    cases hf : Settings.fromFiles sr dir explicit with
    | mk result logs =>
      rw [hf] at h
      cases h
      rfl

/-- An upsertkit.toml that sets a lifetime and gives a flag a word it cannot read, under an
environment that gives the flag a word it can read and the lifetime a text that is no number: the
flag, refused in the file, is set by the environment, and the lifetime, set by the file, keeps the
file's value when the environment's is refused. Both refusals are reported, the file's first. -/
theorem refused_entries_keep_the_layer_below :
    (Settings.fromFiles Search.usual
        [("upsertkit.toml", .text "[upsert]\nmetadata_ttl = 30\nenable_snapshot = \"maybe\"\n")]
        none).result = .ok { metadataTtl := .float (Decimal.ofInt 30) } ∧
    Settings.load Search.usual
        [("upsertkit.toml", .text "[upsert]\nmetadata_ttl = 30\nenable_snapshot = \"maybe\"\n")] none
        [("UPSERTKIT_ENABLE_SNAPSHOT", "yes"), ("UPSERTKIT_METADATA_TTL", "soon")]
        Settings.usualPrefix =
      ⟨.ok { metadataTtl := .float (Decimal.ofInt 30), enableSnapshot := .bool true },
        [⟨.warning, .settings, "Ignoring enable_snapshot='maybe': not a boolean: 'maybe'"⟩,
          ⟨.warning, .settings,
            "Ignoring metadata_ttl='soon': could not convert string to float: 'soon'"⟩]⟩ := by
  have hfiles : (Settings.fromFiles Search.usual
      [("upsertkit.toml", .text "[upsert]\nmetadata_ttl = 30\nenable_snapshot = \"maybe\"\n")]
      none).result = .ok { metadataTtl := .float (Decimal.ofInt 30) } := by rfl
  refine ⟨hfiles, ?_⟩
  rw [(settings_layered_by_field Search.usual _ none _ Settings.usualPrefix {}).2.2.1 _ hfiles]
  rfl

end Upsert
