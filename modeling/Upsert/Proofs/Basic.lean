/-!
# Computing in `Except`

The operations of the library answer in `Except Fault`, written with `do`, `pure` and `throw`. These
rewriting rules let `simp` run such a computation on a known first result: a success passes its
value on and a failure stops the rest. With them a definition unfolds to its chain of checks, and
proofs split that chain where its first result is not known.
-/

namespace Upsert

variable {ε α β : Type}

@[simp] theorem except_pure (a : α) : (pure a : Except ε α) = .ok a := rfl

@[simp] theorem except_throw (e : ε) : (throw e : Except ε α) = .error e := rfl

@[simp] theorem except_ok_bind (a : α) (f : α → Except ε β) : (Except.ok a >>= f) = f a := rfl

@[simp] theorem except_error_bind (e : ε) (f : α → Except ε β) :
    (Except.error e >>= f) = .error e := rfl

@[simp] theorem except_map_ok (f : α → β) (a : α) : Except.map f (.ok a : Except ε α) = .ok (f a) :=
  rfl

@[simp] theorem except_map_error (f : α → β) (e : ε) :
    Except.map f (.error e : Except ε α) = .error e := rfl

/-- A computation that succeeds ran its first part to a success, and the rest on that result. -/
theorem except_bind_eq_ok {x : Except ε α} {f : α → Except ε β} {b : β} :
    (x >>= f) = .ok b ↔ ∃ a, x = .ok a ∧ f a = .ok b := by
  cases x with
  | error e => simp
  | ok a => simp

end Upsert
