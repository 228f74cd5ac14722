import Upsert.Builder.Seed
import Upsert.Builder.Session
import Upsert.Proofs.TableSeed

/-!
# Builds leave nothing a later step can see

A build stores the frozen columns back into its builder, whether it succeeds or not, and a
successful build marks the builder finalized. Neither can be seen by what comes after: the builder
a build leaves is `Alike` the one before, alike sessions answer every step alike
(`Session.step_alike`), and so every run of steps, of any kind, replies and logs the same from
either (`Session.run_alike`). A column staged as a one-shot iterator is no exception, since the
iterator's items are what is stored.

The flag is the one thing that differs: it is set by the first build that succeeds and never
cleared (`Session.run_finalized`), and it starts cleared on a fresh builder, on one seeded from
settings and on one seeded from a table. `build_is_unobservable` gathers these.
-/

namespace Upsert

/-- What an outcome shows besides the flag of the builder: the reply and the records logged. -/
def Outcome.seen (o : Outcome) : Reply × List Log := (o.reply, o.logs)

/-- True for the reply of a build that succeeded. -/
def Reply.built : Reply → Bool
  | .context _ => true
  | _ => false

theorem Reply.built_ofCheck {done : Reply} (hd : done.built = false) (r : Except Fault Unit) :
    (Reply.ofCheck r done).built = false := by
  cases r with
  | ok _ => exact hd
  | error e => rfl

/-- Whether a step operates on the last context: it neither stages a value nor builds. -/
def Step.onLast : Step → Bool
  | .set _ _ | .build => false
  | _ => true

namespace Session

variable {s s' : Session}

/-! ### Alike sessions -/

/-- Sessions whose builders are alike and whose last contexts are the same. -/
structure Alike (s s' : Session) : Prop where
  builder : s.builder.Alike s'.builder
  last : s.last = s'.last

/-- One step from alike sessions leads to alike sessions, with the same reply and records. -/
theorem step_alike (h : s.Alike s') (st : Step) :
    (s.step st).1.Alike (s'.step st).1 ∧ (s.step st).2.seen = (s'.step st).2.seen := by
  cases st with
  | set f v => exact ⟨⟨h.builder.set f v, h.last⟩, rfl⟩
  | build =>
    have hr := Builder.build_congr h.builder
    have hb : (s.builder.build).1.Alike (s'.builder.build).1 :=
      ((Builder.build_alike _).trans h.builder).trans (Builder.build_alike _).symm
    rcases hb1 : s.builder.build with ⟨b1, r1⟩
    rcases hb2 : s'.builder.build with ⟨b2, r2⟩
    rw [hb1, hb2] at hr hb
    simp only at hr hb
    subst hr
    simp only [step, hb1, hb2, h.last]
    exact ⟨⟨hb, rfl⟩, rfl⟩
  | assign name v => exact ⟨h, by simp [step, onContext, Outcome.seen, h.last]⟩
  | validateColumns => exact ⟨h, by simp [step, onContext, Outcome.seen, h.last]⟩
  | schemaColumns => exact ⟨h, by simp [step, onContext, Outcome.seen, h.last]⟩
  | validateFrame v => exact ⟨h, by simp [step, onContext, Outcome.seen, h.last]⟩

/-- Runs from alike sessions reply and log alike at every step. -/
theorem run_alike (h : s.Alike s') (steps : List (Except Fault Step)) :
    (s.run steps).map Outcome.seen = (s'.run steps).map Outcome.seen := by
  induction steps generalizing s s' with
  | nil => rfl
  | cons st rest ih =>
    cases st with
    | error e =>
      simp only [run, List.map_cons, ih h]
      rfl
    | ok st =>
      obtain ⟨h1, h2⟩ := step_alike h st
      simp only [run, List.map_cons, h2, ih h1]

/-! ### The flag -/

theorem onContext_built {op : Context → Reply} (hop : ∀ c, (op c).built = false) (s : Session) :
    (s.onContext op).built = false := by
  unfold onContext
  split
  · exact hop _
  · rfl

/-- An operation on the last context leaves the session and the flag as they are, and replies with
no context. -/
theorem step_onLast (s : Session) {st : Step} (h : st.onLast = true) :
    (s.step st).1 = s ∧ (s.step st).2.finalized = s.builder.finalized ∧
      (s.step st).2.reply.built = false := by
  cases st
  case set => cases h
  case build => cases h
  case assign name v => exact ⟨rfl, rfl, onContext_built (fun _ => rfl) s⟩
  case validateColumns => exact ⟨rfl, rfl, onContext_built (fun _ => Reply.built_ofCheck rfl _) s⟩
  case schemaColumns =>
    exact ⟨rfl, rfl, onContext_built (fun c => by cases schemaColumns c.schema <;> rfl) s⟩
  case validateFrame v => exact ⟨rfl, rfl, onContext_built (fun _ => Reply.built_ofCheck rfl _) s⟩

/-- The flag after a step is the flag before it, set by a build that succeeds; the session the step
leaves carries it. -/
theorem step_finalized (s : Session) (st : Step) :
    (s.step st).2.finalized = (s.builder.finalized || (s.step st).2.reply.built) ∧
      (s.step st).1.builder.finalized = (s.step st).2.finalized := by
  cases ho : st.onLast
  case true =>
    obtain ⟨hs, hf, hb⟩ := step_onLast s ho
    exact ⟨by rw [hf, hb, Bool.or_false], by rw [hs, hf]⟩
  case false =>
    cases st
    case set f v => simp [step, Builder.finalized_set, Reply.built]
    case build =>
      have hf := Builder.finalized_build s.builder
      rcases hb : s.builder.build with ⟨b1, r1⟩
      rw [hb] at hf
      cases r1 <;> simp_all [step, Reply.built, Except.isOk, Except.toBool]
    all_goals cases ho

private theorem scanl_or_eq_cons (x : Bool) (l : List Bool) :
    l.scanl (· || ·) x = x :: (l.scanl (· || ·) x).tail := by
  cases l <;> simp

/-- Along a run the flag is the flag at the start, set by the first build that succeeds and never
cleared. -/
theorem run_finalized (s : Session) (steps : List (Except Fault Step)) :
    (s.run steps).map Outcome.finalized =
      (((s.run steps).map fun o => o.reply.built).scanl (· || ·) s.builder.finalized).tail := by
  induction steps generalizing s with
  | nil => rfl
  | cons st rest ih =>
    cases st with
    | error e =>
      -- a step whose input could not be formed fails and leaves the session as it was
      have hb : (Reply.failed e).built = false := rfl
      simp only [run, List.map_cons, List.scanl_cons, List.tail_cons, hb, Bool.or_false]
      rw [ih s, ← scanl_or_eq_cons]
    | ok st =>
      obtain ⟨hf, hs⟩ := step_finalized s st
      simp only [run, List.map_cons, List.scanl_cons, List.tail_cons]
      rw [ih, hs, hf, ← scanl_or_eq_cons]

end Session

namespace Builder

/-- Seeding a builder from settings stages values only, so it starts unfinalized. -/
theorem finalized_ofSettings (s : Settings) : (ofSettings s).finalized = false := by
  have hfold : ∀ (fs : List SettingsField) (b : Builder),
      (fs.foldl (fun b f => b.set f.builderField (s.get f)) b).finalized = b.finalized := by
    intro fs
    induction fs with
    | nil => intro b; rfl
    | cons f fs ih => intro b; rw [List.foldl_cons, ih, finalized_set]
  exact hfold SettingsField.all {}

/-- A builder seeded from a table starts unfinalized. -/
theorem finalized_of_ofTable {tc : TableConfig} {sch : Schema} {dir handler manager : Value}
    {b : Builder} (h : ofTable tc sch dir handler manager = .ok b) : b.finalized = false := by
  obtain ⟨u, -, rfl⟩ := ofTable_eq_ok h
  exact finalized_stagedFromTable tc sch dir handler manager u

theorem finalized_ofTable (tc : TableConfig) (sch : Schema) (dir handler manager : Value) :
    (ofTable tc sch dir handler manager).map finalized =
      (ofTable tc sch dir handler manager).map fun _ => false := by
  cases h : ofTable tc sch dir handler manager with
  | error e => rfl
  | ok b => simp [finalized_of_ofTable h]

end Builder

/-- A build, whatever it answers, leaves nothing that later steps can see but the flag: from the
builder it leaves, every run of steps replies and logs as from the builder before it (in
particular a second build answers as the first). Along any run the flag is set by the first
build that succeeds and never cleared, and a fresh builder, one seeded from settings and one seeded
from a table all start with it cleared. -/
theorem build_is_unobservable (b : Builder) (last : Option Context)
    (steps : List (Except Fault Step)) :
    (Session.run ⟨(b.build).1, last⟩ steps).map Outcome.seen =
      (Session.run ⟨b, last⟩ steps).map Outcome.seen ∧
    ((b.build).1.build).2 = (b.build).2 ∧
    (Session.run ⟨b, last⟩ steps).map Outcome.finalized =
      (((Session.run ⟨b, last⟩ steps).map fun o => o.reply.built).scanl (· || ·) b.finalized).tail ∧
    ({} : Builder).finalized = false ∧
    (∀ s : Settings, (Builder.ofSettings s).finalized = false) ∧
    (∀ tc sch dir handler manager, (Builder.ofTable tc sch dir handler manager).map
      Builder.finalized = (Builder.ofTable tc sch dir handler manager).map fun _ => false) := by
  have hb : (b.build).1.Alike b := Builder.build_alike b
  have hs : Session.Alike ⟨(b.build).1, last⟩ ⟨b, last⟩ := ⟨hb, rfl⟩
  exact ⟨Session.run_alike hs steps, Builder.build_congr hb, Session.run_finalized _ steps, rfl,
    Builder.finalized_ofSettings, Builder.finalized_ofTable⟩

end Upsert
