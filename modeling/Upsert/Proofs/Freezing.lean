import Upsert.Proofs.SetterWiring

/-!
# Freezing a column field

A build reads each column field through `Builder.freezeField`: the staged value is frozen into the
list of column names it stands for (`Value.freeze`), and the list is stored back as a tuple, so that
a one-shot iterator used up by one build is seen as its items by the next.

* none freezes to no column, a non-empty text to the one column it names, and any other value to the
  items it yields, in order, so the empty text and every empty collection freeze to no column;
* a value that yields no items stops the freeze with a type error, and nothing is stored;
* otherwise the frozen list is stored back, except that none stays none, which freezes to no column
  again;
* a stored tuple freezes to its own items, so freezing is idempotent, and freezing a field a second
  time reads the stored list and leaves the builder as it is.

`freezing_is_idempotent` gathers these.
-/

namespace Upsert

namespace Text

@[simp] theorem isEmpty_iff {t : Text} : t.isEmpty = true ↔ t = Text.empty := by
  cases t with
  | mk ps => simp [isEmpty, empty]

end Text

namespace Value

/-- A non-empty text names one column. -/
theorem freeze_str_of_ne {t : Text} (h : t ≠ Text.empty) : (Value.str t).freeze = .ok [.str t] := by
  have ht : t.isEmpty = false := Bool.eq_false_iff.mpr fun he => h (Text.isEmpty_iff.mp he)
  simp [freeze, ht]

/-- Any value but none and a non-empty text freezes to the items it yields. -/
theorem freeze_eq_items {v : Value} (hn : v ≠ .none) (ht : ∀ t, v = .str t → t = Text.empty) :
    v.freeze = v.items := by
  cases v with
  | none => exact absurd rfl hn
  | str t =>
    obtain rfl := ht t rfl
    rfl
  | _ => rfl

/-- A value that yields no items freezes to no column. -/
theorem freeze_of_items_nil {v : Value} (h : v.items = .ok []) : v.freeze = .ok [] := by
  cases v with
  | none => rfl
  | str t =>
    -- a text yields one item per code point, so it yields none only when it is empty
    have hp : t.points = [] := by simpa [items] using h
    simp [freeze, Text.isEmpty, hp]
  | _ => exact h

/-- Freezing fails only with a type error. -/
theorem className_of_freeze_error {v : Value} {e : Fault} (h : v.freeze = .error e) :
    e.className = "TypeError" := by
  rcases freeze_error_cases h with rfl | ⟨t, rfl⟩ <;> rfl

/-- Freezing is idempotent: what a value freezes to freezes to itself. -/
theorem freeze_bind_freeze (v : Value) :
    (v.freeze >>= fun cols => (Value.tuple cols).freeze) = v.freeze := by
  cases v.freeze <;> rfl

end Value

namespace Builder

/-- Freezing a field answers with the frozen list of its value and stores that list back as a
tuple, unless the value is none; a failed freeze answers with its fault and stores nothing. -/
theorem freezeField_eq (b : Builder) (f : Field) :
    b.freezeField f = (b.get f).freeze.map fun cols =>
      (if (b.get f).isNone then b else b.set f (.tuple cols), cols) := by
  unfold freezeField
  split
  · next hv => simp [hv]
  · next hv =>
    have hn : (b.get f).isNone = false :=
      Bool.eq_false_iff.mpr fun he => hv (Value.isNone_iff.mp he)
    cases (b.get f).freeze <;> simp [hn]

/-- Freezing a field a second time reads the list the first stored, and leaves the builder as it
is. -/
theorem freezeField_freezeField {b b' : Builder} {f : Field} {cols : List Value}
    (h : b.freezeField f = .ok (b', cols)) : b'.freezeField f = .ok (b', cols) := by
  rw [freezeField_eq] at h
  cases hv : (b.get f).freeze with
  | error e => simp [hv] at h
  | ok xs =>
    simp only [hv, except_map_ok, Except.ok.injEq, Prod.mk.injEq] at h
    obtain ⟨rfl, rfl⟩ := h
    by_cases hn : (b.get f).isNone
    · simp [hn, freezeField_eq, hv]
    · simp [hn, freezeField_eq, set_set_self]

end Builder

/-- Freezing a column field: none freezes to no column, a non-empty text to the one column it names,
and any other value to the items it yields, so a value yielding none freezes to no column; a freeze
fails only with a type error, and then stores nothing; otherwise the frozen list is stored back as a
tuple, none apart. Freezing is idempotent, so a second freeze of the field reads the stored list and
leaves the builder as it is. -/
theorem freezing_is_idempotent :
    Value.freeze .none = .ok [] ∧
    (∀ t : Text, t ≠ Text.empty → (Value.str t).freeze = .ok [.str t]) ∧
    (∀ v : Value, v ≠ .none → (∀ t, v = .str t → t = Text.empty) → v.freeze = v.items) ∧
    (∀ v : Value, v.items = .ok [] → v.freeze = .ok []) ∧
    (∀ (v : Value) (e : Fault), v.freeze = .error e → e.className = "TypeError") ∧
    (∀ v : Value, (v.freeze >>= fun cols => (Value.tuple cols).freeze) = v.freeze) ∧
    (∀ (b : Builder) (f : Field), b.freezeField f = (b.get f).freeze.map fun cols =>
      (if (b.get f).isNone then b else b.set f (.tuple cols), cols)) ∧
    (∀ (b b' : Builder) (f : Field) (cols : List Value),
      b.freezeField f = .ok (b', cols) → b'.freezeField f = .ok (b', cols)) :=
  ⟨Value.freeze_none, fun _ => Value.freeze_str_of_ne, fun _ => Value.freeze_eq_items,
    fun _ => Value.freeze_of_items_nil, fun _ _ => Value.className_of_freeze_error,
    Value.freeze_bind_freeze, Builder.freezeField_eq,
    fun _ _ _ _ => Builder.freezeField_freezeField⟩

/-- A bare name freezes to itself alone, and a primary key staged as a one-shot iterator over one
name is frozen once: the stored tuple is what a second freeze reads. -/
theorem iterator_key_frozen_once :
    (Value.str "id").freeze = .ok [.str "id"] ∧
    ({ primaryKeyColumns := .iter [.str "id"] } : Builder).freezeField .primaryKeyColumns =
      .ok (({ primaryKeyColumns := .tuple [.str "id"] } : Builder), [.str "id"]) ∧
    ({ primaryKeyColumns := .tuple [.str "id"] } : Builder).freezeField .primaryKeyColumns =
      .ok (({ primaryKeyColumns := .tuple [.str "id"] } : Builder), [.str "id"]) :=
  ⟨freezing_is_idempotent.2.1 "id" (by decide), rfl,
    freezing_is_idempotent.2.2.2.2.2.2.2 { primaryKeyColumns := .iter [.str "id"] } _ _ _ rfl⟩

end Upsert
