import Upsert.Choice.Read
import Upsert.Proofs.Basic

/-!
# Reading choices from texts

A text is read as a member of a choice by stripping and lowering it, checking that the result is
lower_snake, and looking it up among the members' values (`Choice.read_str`). The empty text,
which counts as false, takes the same path, since stripping and lowering leave it empty.

No two members of a choice share a value, and every value is lower_snake, so the lower_snake check
refuses only texts that the lookup would refuse too: the reading gives the member whose value is
the text's normal form, and fails exactly when there is none (`Choice.read_str_lookup`). Its
failure is a value error whose message tells a normal form that is not lower_snake from one that
names no member (`choice_read_by_normal_form`).
-/

namespace Upsert

theorem Text.eq_empty_of_isEmpty {t : Text} (h : t.isEmpty = true) : t = Text.empty := by
  cases t with
  | mk ps =>
    cases ps with
    | nil => rfl
    | cons p ps => cases h

namespace Value

/-- Normalizing a text strips and lowers it. -/
theorem normalize_str (t : Text) : (Value.str t).normalize = .ok (.str t.strip.lower) := by
  by_cases ht : t.isEmpty
  · rw [Text.eq_empty_of_isEmpty ht]; rfl
  · simp [normalize, truth, truthy, ht]

/-- A text is lower_snake as a value exactly when it is as a text. -/
theorem isLowerSnake_str (t : Text) : (Value.str t).isLowerSnake = .ok t.isLowerSnake := by
  by_cases ht : t.isEmpty
  · rw [Text.eq_empty_of_isEmpty ht]; rfl
  · simp [isLowerSnake, truth, truthy, ht]

end Value

/-- A choice read from a text: the text stripped and lowered must be lower_snake, and then the value
of a member. -/
theorem Choice.read_str (c : Choice) (t : Text) :
    c.read (.str t) =
      if t.strip.lower.isLowerSnake then
        match c.lookup t.strip.lower with
        | some m => .ok m
        | none => .error (.notAMember c t.strip.lower)
      else .error (.notLowerSnake c.label (.str t.strip.lower)) := by
  simp only [Choice.read, Value.normalize_str, except_ok_bind]
  simp only [Value.assertLowerSnake, Value.isLowerSnake_str, except_ok_bind]
  by_cases hs : t.strip.lower.isLowerSnake
  · simp only [hs]
    cases c.lookup t.strip.lower <;> rfl
  · simp [hs]

/-- A member found by value belongs to the choice searched. -/
theorem Choice.lookup_choice {c : Choice} {t : Text} {m : Member} (h : c.lookup t = some m) :
    m.choice = c :=
  choice_of_mem_members (List.mem_of_find?_eq_some h)

/-- A choice read from a text is a member of that choice. -/
theorem Choice.read_str_choice {c : Choice} {t : Text} {m : Member} (h : c.read (.str t) = .ok m) :
    m.choice = c := by
  rw [read_str] at h
  split at h
  · split at h
    · next m' hm =>
      cases h
      exact lookup_choice hm
    · cases h
  · cases h

namespace Choice

/-- No two members of a choice share a value. -/
theorem eq_of_value_eq {c : Choice} {m m' : Member} (hm : m ∈ c.members) (hm' : m' ∈ c.members)
    (h : m.value = m'.value) : m = m' := by
  have hinj : ∀ m ∈ c.members, ∀ m' ∈ c.members, m.value = m'.value → m = m' := by
    cases c <;> decide
  exact hinj m hm m' hm' h

/-- The lookup finds the one member of the choice whose value the text is. -/
theorem lookup_eq_some_iff {c : Choice} {n : Text} {m : Member} :
    c.lookup n = some m ↔ m ∈ c.members ∧ m.value = n := by
  constructor
  · intro h
    exact ⟨List.mem_of_find?_eq_some h, by simpa using List.find?_some h⟩
  · rintro ⟨hm, rfl⟩
    have hsome : (c.lookup m.value).isSome := List.find?_isSome.mpr ⟨m, hm, by simp⟩
    obtain ⟨m', hm'⟩ := Option.isSome_iff_exists.mp hsome
    have hfound : m' ∈ c.members ∧ m'.value = m.value :=
      ⟨List.mem_of_find?_eq_some hm', by simpa using List.find?_some hm'⟩
    rw [hm', eq_of_value_eq hfound.1 hm hfound.2]

theorem lookup_eq_none_iff {c : Choice} {n : Text} :
    c.lookup n = none ↔ ∀ m ∈ c.members, m.value ≠ n := by
  simp [lookup, List.find?_eq_none]

/-- A text the lookup finds a member by is lower_snake, since every member's value is. -/
theorem isLowerSnake_of_lookup {c : Choice} {n : Text} {m : Member} (h : c.lookup n = some m) :
    n.isLowerSnake = true := by
  obtain ⟨hm, rfl⟩ := lookup_eq_some_iff.mp h
  exact members_lowerSnake c m hm

/-- A text is read as the member whose value is its normal form; when there is none, the reading
reports a normal form that is not lower_snake as such, and any other as no member. -/
theorem read_str_lookup (c : Choice) (t : Text) :
    c.read (.str t) =
      match c.lookup t.strip.lower with
      | some m => .ok m
      | none =>
        .error (if t.strip.lower.isLowerSnake then .notAMember c t.strip.lower
          else .notLowerSnake c.label (.str t.strip.lower)) := by
  rw [read_str]
  cases hl : c.lookup t.strip.lower with
  | none => by_cases hs : t.strip.lower.isLowerSnake <;> simp [hs]
  | some m => simp [isLowerSnake_of_lookup hl]

/-- A member is read as itself. -/
theorem read_member {c : Choice} {m : Member} (hm : m.choice = c) : c.read (.member m) = .ok m := by
  simp [read, hm]

end Choice

/-- Reading a member of a choice from a text. The text's normal form is the text with blanks
stripped at both ends and lowered. The reading gives the member whose value the normal form is,
and fails exactly when no member has that value, with a value error that says so when the normal
form is lower_snake and says that it is not lower_snake otherwise. A member is read as itself.
Every member's value is lower_snake, so the lower_snake check never refuses the value of a
member. -/
theorem choice_read_by_normal_form (c : Choice) (t : Text) :
    (∀ m, c.read (.str t) = .ok m ↔ m ∈ c.members ∧ m.value = t.strip.lower) ∧
    ((∃ e, c.read (.str t) = .error e) ↔ ∀ m ∈ c.members, m.value ≠ t.strip.lower) ∧
    (∀ e, c.read (.str t) = .error e → e.className = "ValueError" ∧
      e.message = if t.strip.lower.isLowerSnake then
          Text.quote t.strip.lower ++ " is not a valid " ++ c.name
        else c.label ++ " must be lower_snake (got: " ++ Text.quote t.strip.lower ++ ")") ∧
    (∀ m ∈ c.members, c.read (.member m) = .ok m) ∧
    (∀ m ∈ c.members, m.value.isLowerSnake = true) := by
  rw [Choice.read_str_lookup]
  have hmember : ∀ m ∈ c.members, c.read (.member m) = .ok m :=
    fun m hm => Choice.read_member (Choice.choice_of_mem_members hm)
  cases hl : c.lookup t.strip.lower with
  | none =>
    -- no member has the normal form as its value: every reading fails, with a value error
    have hnone := Choice.lookup_eq_none_iff.mp hl
    refine ⟨fun m => ?_, by simpa using hnone, ?_, hmember, Choice.members_lowerSnake c⟩
    · simp only [reduceCtorEq, false_iff, not_and]
      exact hnone m
    · rintro e ⟨⟩
      by_cases hs : t.strip.lower.isLowerSnake <;>
        simp [hs, Fault.className, Fault.message, Value.repr]
  | some m' =>
    -- the member found is the one member whose value is the normal form
    obtain ⟨hm', hv⟩ := Choice.lookup_eq_some_iff.mp hl
    refine ⟨fun m => ?_, by simpa using ⟨m', hm', hv⟩, by simp, hmember, Choice.members_lowerSnake c⟩
    simp only [Except.ok.injEq, ← Choice.lookup_eq_some_iff, hl, Option.some.injEq]

/-- Unicode blanks around a name are stripped before it is lowered. -/
example : Choice.hashFunction.read (.str "\u00a0MurMur3\n") = .ok (.hash .murmur3) := by rfl

end Upsert
