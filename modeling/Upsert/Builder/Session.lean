import Upsert.Builder.Build
import Upsert.Columns

/-!
# Sessions with a builder

A session drives one builder through a list of steps: staging a value, building, and the
operations on the context of the last successful build (assigning to it, checking its columns
against its schema, reading its schema's columns, checking a frame). Before any build has
succeeded those operations fail with `Fault.noContext`. Every step reports its answer, whether
the builder is finalized after it, and the records it logged.
-/

namespace Upsert

/-- One step of a session. -/
inductive Step where
  /-- Stage a value for a field. -/
  | set (f : Field) (v : Value)
  /-- Build a context. -/
  | build
  /-- Assign a value to an attribute of the last context. -/
  | assign (name : Text) (v : Value)
  /-- Check the last context's columns against its schema. -/
  | validateColumns
  /-- Read the columns of the last context's schema. -/
  | schemaColumns
  /-- Check a frame against the last context. -/
  | validateFrame (frame : Value)

/-- The answer to a step. -/
inductive Reply where
  /-- The builder itself, to chain further steps. -/
  | builder
  /-- The context built. -/
  | context (c : Context)
  /-- The columns of a schema. -/
  | columns (cols : List (Text × Value))
  /-- The columns passed their checks. -/
  | passed
  /-- The frame passed its checks and is returned unchanged. -/
  | sameFrame
  /-- The step failed. -/
  | failed (e : Fault)

/-- The reply of a check. -/
def Reply.ofCheck (r : Except Fault Unit) (done : Reply) : Reply :=
  match r with
  | .ok () => done
  | .error e => .failed e

/-- A step's answer, with the builder's flag after it and the records it logged. -/
structure Outcome where
  reply : Reply
  finalized : Bool
  logs : List Log

/-- A builder and the context of its last successful build. -/
structure Session where
  builder : Builder
  last : Option Context := Option.none

namespace Session

/-- The reply of an operation on the last context. -/
def onContext (s : Session) (op : Context → Reply) : Reply :=
  match s.last with
  | some c => op c
  | Option.none => .failed .noContext

/-- One step: the session after it, and its outcome. -/
def step (s : Session) : Step → Session × Outcome
  | .set f v =>
    let b := s.builder.set f v
    ({ s with builder := b }, ⟨.builder, b.finalized, []⟩)
  | .build =>
    let (b, r) := s.builder.build
    let last := match r with
      | .ok c => some c
      | .error _ => s.last
    let reply := match r with
      | .ok c => .context c
      | .error e => .failed e
    (⟨b, last⟩, ⟨reply, b.finalized, (buildLog r).toList⟩)
  | .assign name _ =>
    (s, ⟨s.onContext fun c => .failed (c.assign name), s.builder.finalized, []⟩)
  | .validateColumns =>
    (s, ⟨s.onContext fun c => Reply.ofCheck c.validateColumns .passed, s.builder.finalized, []⟩)
  | .schemaColumns =>
    let reply := s.onContext fun c =>
      match schemaColumns c.schema with
      | .ok cols => .columns cols
      | .error e => .failed e
    (s, ⟨reply, s.builder.finalized, []⟩)
  | .validateFrame v =>
    (s, ⟨s.onContext fun c => Reply.ofCheck (c.validateFrame v) .sameFrame,
      s.builder.finalized, []⟩)

/-- The outcomes of steps run in order; a step whose input could not be formed fails and leaves
the session as it was. -/
def run (s : Session) : List (Except Fault Step) → List Outcome
  | [] => []
  | .error e :: rest => ⟨.failed e, s.builder.finalized, []⟩ :: s.run rest
  | .ok st :: rest =>
    let (s', o) := s.step st
    o :: s'.run rest

end Session

end Upsert
