import Mathlib.Computability.Language
import Mathlib.Data.List.Chain
import Upsert.Proofs.Choices

/-!
# Lower_snake text and its pattern

Lower_snake text is what the pattern `^[a-z0-9]+(?:_[a-z0-9]+)*$` accepts when matched from the
start of a text. Its classes range over code points, so the only word characters are the ASCII
lowercase letters and digits, and its end anchor matches at the end of the text and also just
before a line feed that ends it. This module gives the pattern its meaning as a language
(`LowerSnake.pattern`, `LowerSnake.anchored`) and proves that the matcher `Text.isLowerSnake`
accepts exactly the texts of that language.

The bridge is `LowerSnake.Shape`, the shape said in words: a non-empty run of letters, digits and
underscores with no underscore at either end and no two in a row. Closing a run with an underscore
on each side turns the last three conditions into one, that no two neighbours are both
underscores (`shape_iff_bracketed`); so a run splits at any of its underscores into two runs of the
shape (`shape_append_underscore`), which is the recursion of the pattern.
-/

namespace Upsert

open Computability

namespace LowerSnake

/-! ### The pattern as a language -/

/-- The class `[lo-hi]`: one code point from `lo` to `hi`. -/
def range (lo hi : Nat) : Language Nat := {w | ∃ c, w = [c] ∧ lo ≤ c ∧ c ≤ hi}

/-- `[a-z0-9]`. -/
def wordChar : Language Nat := range 97 122 + range 48 57

/-- `[a-z0-9]+`. -/
def word : Language Nat := wordChar * wordChar∗

/-- `[a-z0-9]+(?:_[a-z0-9]+)*`. -/
def pattern : Language Nat := word * ({[95]} * word)∗

/-- What a pattern accepts between a start and an end anchor: its words, and its words followed by
one line feed, before which the end anchor also matches. -/
def anchored (P : Language Nat) : Language Nat := P * (1 + {[10]})

/-! ### The shape in words -/

/-- Two neighbours that are not both underscores. -/
def NotDouble (a b : Nat) : Prop := ¬(a = 95 ∧ b = 95)

/-- A non-empty run of ASCII lowercase letters, digits and underscores, with no underscore at
either end and no two underscores in a row. -/
@[mk_iff]
structure Shape (cs : List Nat) : Prop where
  ne_nil : cs ≠ []
  chars : ∀ c ∈ cs, (97 ≤ c ∧ c ≤ 122) ∨ (48 ≤ c ∧ c ≤ 57) ∨ c = 95
  head : cs.head? ≠ some 95
  last : cs.getLast? ≠ some 95
  noDouble : ¬[95, 95] <:+: cs

@[simp]
theorem isSnakeChar_iff {c : Nat} :
    isSnakeChar c = true ↔ (97 ≤ c ∧ c ≤ 122) ∨ (48 ≤ c ∧ c ≤ 57) := by
  simp [isSnakeChar]

/-- A list holds no two underscores in a row exactly when no two neighbours are both underscores. -/
theorem not_double_infix_iff {cs : List Nat} : ¬[95, 95] <:+: cs ↔ cs.IsChain NotDouble := by
  rw [List.isChain_iff_forall_rel_of_append_cons_cons]
  constructor
  · rintro h a b l₁ l₂ rfl ⟨rfl, rfl⟩
    exact h ⟨l₁, l₂, by simp⟩
  · rintro h ⟨l₁, l₂, rfl⟩
    exact h (show l₁ ++ [95, 95] ++ l₂ = l₁ ++ 95 :: 95 :: l₂ by simp) ⟨rfl, rfl⟩

/-- The shape with an underscore added at each end: the underscores at the ends, the one in the
middle and the emptiness of the run all become two underscores in a row. -/
theorem shape_iff_bracketed {cs : List Nat} :
    Shape cs ↔ (∀ c ∈ cs, (97 ≤ c ∧ c ≤ 122) ∨ (48 ≤ c ∧ c ≤ 57) ∨ c = 95) ∧
      (95 :: (cs ++ [95])).IsChain NotDouble := by
  rw [shape_iff, not_double_infix_iff, List.isChain_cons, List.isChain_append]
  cases cs with
  | nil => simp [NotDouble]
  | cons a r =>
    -- a non-empty run has a last code point, and only it meets the closing underscore
    cases hl : (a :: r).getLast? with
    | none => simp at hl
    | some l =>
      simp [NotDouble]
      tauto

/-- A run of the shape splits at any of its underscores into two runs of the shape. -/
theorem shape_append_underscore {s t : List Nat} :
    Shape (s ++ 95 :: t) ↔ Shape s ∧ Shape t := by
  have hsplit : 95 :: (s ++ 95 :: t ++ [95]) = (95 :: s) ++ 95 :: (t ++ [95]) := by simp
  rw [shape_iff_bracketed, shape_iff_bracketed, shape_iff_bracketed, hsplit, List.isChain_split]
  simp only [List.forall_mem_append, List.forall_mem_cons, List.cons_append]
  have h95 : (97 ≤ 95 ∧ 95 ≤ 122) ∨ (48 ≤ 95 ∧ 95 ≤ 57) ∨ 95 = 95 := by omega
  tauto

/-! ### Words of letters and digits -/

theorem mem_wordChar {w : List Nat} : w ∈ wordChar ↔ ∃ c, w = [c] ∧ isSnakeChar c = true := by
  rw [wordChar, Language.mem_add]
  constructor
  · rintro (⟨c, rfl, h⟩ | ⟨c, rfl, h⟩)
    · exact ⟨c, rfl, isSnakeChar_iff.mpr (.inl h)⟩
    · exact ⟨c, rfl, isSnakeChar_iff.mpr (.inr h)⟩
  · rintro ⟨c, rfl, h⟩
    rcases isSnakeChar_iff.mp h with h | h
    · exact .inl ⟨c, rfl, h⟩
    · exact .inr ⟨c, rfl, h⟩

/-- Any number of letters and digits, each its own word of the class. -/
theorem mem_kstar_wordChar {w : List Nat} : w ∈ wordChar∗ ↔ ∀ c ∈ w, isSnakeChar c = true := by
  rw [Language.mem_kstar]
  constructor
  · rintro ⟨parts, rfl, hparts⟩ c hc
    obtain ⟨part, hpart, hc⟩ := List.mem_flatten.mp hc
    obtain ⟨d, rfl, hd⟩ := mem_wordChar.mp (hparts part hpart)
    rw [List.mem_singleton] at hc
    exact hc ▸ hd
  · intro hw
    refine ⟨w.map ([·]), by rw [← List.flatMap_def, List.flatMap_singleton'], fun part hpart => ?_⟩
    obtain ⟨c, hc, rfl⟩ := List.mem_map.mp hpart
    exact mem_wordChar.mpr ⟨c, rfl, hw c hc⟩

theorem mem_word {w : List Nat} : w ∈ word ↔ w ≠ [] ∧ ∀ c ∈ w, isSnakeChar c = true := by
  rw [word, Language.mem_mul]
  constructor
  · rintro ⟨first, hfirst, rest, hrest, rfl⟩
    obtain ⟨c, rfl, hc⟩ := mem_wordChar.mp hfirst
    exact ⟨List.cons_ne_nil c rest, List.forall_mem_cons.mpr ⟨hc, mem_kstar_wordChar.mp hrest⟩⟩
  · rintro ⟨hne, hw⟩
    obtain ⟨c, rest, rfl⟩ := List.exists_cons_of_ne_nil hne
    exact ⟨[c], mem_wordChar.mpr ⟨c, rfl, hw c (by simp)⟩, rest,
      mem_kstar_wordChar.mpr (fun d hd => hw d (by simp [hd])), rfl⟩

theorem mem_underscore_word {p : List Nat} :
    p ∈ ({[95]} * word : Language Nat) ↔ ∃ w ∈ word, p = 95 :: w := by
  rw [Language.mem_mul]
  constructor
  · rintro ⟨u, rfl, w, hw, rfl⟩
    exact ⟨w, hw, rfl⟩
  · rintro ⟨w, hw, rfl⟩
    exact ⟨[95], rfl, w, hw, rfl⟩

/-- A word of letters and digits has the shape, and a run of the shape with no underscore is such
a word. -/
theorem mem_word_iff_shape {w : List Nat} : w ∈ word ↔ Shape w ∧ 95 ∉ w := by
  rw [mem_word]
  constructor
  · rintro ⟨hne, hw⟩
    have h95 : 95 ∉ w := fun h => by simpa using hw 95 h
    refine ⟨⟨hne, fun c hc => ?_, fun h => h95 (List.mem_of_mem_head? h),
      fun h => h95 (List.mem_of_getLast? h), fun h => h95 (h.subset (by simp))⟩, h95⟩
    have := isSnakeChar_iff.mp (hw c hc)
    omega
  · rintro ⟨h, h95⟩
    refine ⟨h.ne_nil, fun c hc => isSnakeChar_iff.mpr ?_⟩
    have hne : c ≠ 95 := fun e => h95 (e ▸ hc)
    have := h.chars c hc
    omega

/-! ### The grammar of the pattern -/

theorem word_mem_pattern {w : List Nat} (hw : w ∈ word) : w ∈ pattern :=
  Language.mem_mul.mpr ⟨w, hw, [], Language.nil_mem_kstar _, List.append_nil w⟩

/-- Two words of the pattern joined by an underscore make a word of the pattern. -/
theorem join_mem_pattern {s t : List Nat} (hs : s ∈ pattern) (ht : t ∈ pattern) :
    s ++ 95 :: t ∈ pattern := by
  obtain ⟨w, hw, r, hr, rfl⟩ := Language.mem_mul.mp hs
  obtain ⟨v, hv, r', hr', rfl⟩ := Language.mem_mul.mp ht
  obtain ⟨parts, rfl, hparts⟩ := Language.mem_kstar.mp hr
  obtain ⟨parts', rfl, hparts'⟩ := Language.mem_kstar.mp hr'
  refine Language.mem_mul.mpr
    ⟨w, hw, (parts ++ (95 :: v) :: parts').flatten, Language.join_mem_kstar ?_, by simp⟩
  intro p hp
  simp only [List.mem_append, List.mem_cons] at hp
  rcases hp with hp | rfl | hp
  · exact hparts p hp
  · exact mem_underscore_word.mpr ⟨v, hv, rfl⟩
  · exact hparts' p hp

/-- A run of the shape followed by underscore-led words keeps the shape. -/
theorem shape_append_flatten {w : List Nat} (hw : Shape w) {parts : List (List Nat)}
    (hparts : ∀ p ∈ parts, p ∈ ({[95]} * word : Language Nat)) : Shape (w ++ parts.flatten) := by
  induction parts generalizing w with
  | nil => simpa using hw
  | cons p parts ih =>
    obtain ⟨v, hv, rfl⟩ := mem_underscore_word.mp (hparts p (by simp))
    have hrest : Shape (v ++ parts.flatten) :=
      ih (mem_word_iff_shape.mp hv).1 (fun q hq => hparts q (by simp [hq]))
    rw [List.flatten_cons, List.cons_append]
    exact shape_append_underscore.mpr ⟨hw, hrest⟩

theorem shape_of_mem_pattern {cs : List Nat} (h : cs ∈ pattern) : Shape cs := by
  obtain ⟨w, hw, r, hr, rfl⟩ := Language.mem_mul.mp h
  obtain ⟨parts, rfl, hparts⟩ := Language.mem_kstar.mp hr
  exact shape_append_flatten (mem_word_iff_shape.mp hw).1 hparts

/-- A run of the shape is a word of the pattern: split at an underscore, or a single word when it
has none. -/
theorem mem_pattern_of_shape {cs : List Nat} (h : Shape cs) : cs ∈ pattern := by
  by_cases hu : 95 ∈ cs
  · obtain ⟨s, t, rfl⟩ := List.append_of_mem hu
    obtain ⟨hs, ht⟩ := shape_append_underscore.mp h
    exact join_mem_pattern (mem_pattern_of_shape hs) (mem_pattern_of_shape ht)
  · exact word_mem_pattern (mem_word_iff_shape.mpr ⟨h, hu⟩)
termination_by cs.length
decreasing_by all_goals subst_vars; simp only [List.length_append, List.length_cons]; omega

theorem mem_pattern_iff_shape {cs : List Nat} : cs ∈ pattern ↔ Shape cs :=
  ⟨shape_of_mem_pattern, mem_pattern_of_shape⟩

theorem mem_anchored {P : Language Nat} {cs : List Nat} :
    cs ∈ anchored P ↔ ∃ w ∈ P, cs = w ∨ cs = w ++ [10] := by
  rw [anchored, Language.mem_mul]
  constructor
  · rintro ⟨w, hw, e, he, rfl⟩
    rcases (Language.mem_add _ _ _).mp he with he | rfl
    · rw [(Language.mem_one _).mp he]
      exact ⟨w, hw, .inl (List.append_nil w)⟩
    · exact ⟨w, hw, .inr rfl⟩
  · rintro ⟨w, hw, h | h⟩
    · exact ⟨w, hw, [], (Language.mem_add _ _ _).mpr (.inl rfl), by rw [h, List.append_nil]⟩
    · exact ⟨w, hw, [10], (Language.mem_add _ _ _).mpr (.inr rfl), h.symm⟩

/-! ### The matcher -/

/-- The matcher's scan of neighbouring pairs finds two underscores exactly where a run holds two in
a row. -/
theorem any_double_iff_infix {cs : List Nat} :
    (cs.zip cs.tail).any (fun p => p.1 = 95 && p.2 = 95) = true ↔ [95, 95] <:+: cs := by
  induction cs with
  | nil => simp
  | cons a rest ih =>
    cases rest with
    | nil => exact ⟨by simp, fun h => absurd h.length_le (by simp)⟩
    | cons b r =>
      rw [List.infix_cons_iff, List.cons_prefix_cons, List.cons_prefix_cons, ← ih]
      simp only [List.tail_cons, List.zip_cons_cons, List.any_cons, Bool.or_eq_true,
        Bool.and_eq_true, decide_eq_true_eq, List.nil_prefix, and_true]
      exact or_congr_left (and_congr eq_comm eq_comm)

theorem isSnakeWords_iff_shape {cs : List Nat} : isSnakeWords cs = true ↔ Shape cs := by
  rw [shape_iff, ← any_double_iff_infix]
  simp only [isSnakeWords, Bool.and_eq_true, List.all_eq_true, Bool.or_eq_true, isSnakeChar_iff,
    decide_eq_true_eq, ne_eq, decide_not, Bool.not_eq_eq_eq_not, Bool.not_true, Bool.eq_false_iff,
    List.isEmpty_iff, or_assoc, and_assoc]

end LowerSnake

/-- The matcher accepts a run of the shape, alone or followed by one line feed. -/
theorem Text.isLowerSnake_iff_shape {t : Text} :
    t.isLowerSnake = true ↔ ∃ w, (t.points = w ∨ t.points = w ++ [10]) ∧ LowerSnake.Shape w := by
  rw [Text.isLowerSnake, Bool.or_eq_true, Bool.and_eq_true]
  constructor
  · rintro (h | ⟨hl, h⟩)
    · exact ⟨t.points, .inl rfl, LowerSnake.isSnakeWords_iff_shape.mp h⟩
    · have hend : t.points.dropLast ++ [10] = t.points :=
        List.dropLast_append_getLast? 10 (by simpa using hl)
      exact ⟨t.points.dropLast, .inr hend.symm, LowerSnake.isSnakeWords_iff_shape.mp h⟩
  · rintro ⟨w, h | h, hw⟩
    · exact .inl (h ▸ LowerSnake.isSnakeWords_iff_shape.mpr hw)
    · right
      rw [h]
      exact ⟨by simp, by simpa using LowerSnake.isSnakeWords_iff_shape.mpr hw⟩

example : ("murmur3\n" : Text).isLowerSnake = true ∧ ("murmur3\n\n" : Text).isLowerSnake = false := by
  decide

theorem Text.isLowerSnake_iff_mem_pattern {t : Text} :
    t.isLowerSnake = true ↔ t.points ∈ LowerSnake.anchored LowerSnake.pattern := by
  rw [isLowerSnake_iff_shape, LowerSnake.mem_anchored]
  exact exists_congr fun w => by rw [LowerSnake.mem_pattern_iff_shape, and_comm]

namespace Value

/-- A false value counts as the empty text, which is not lower_snake. -/
theorem isLowerSnake_of_truth_false {v : Value} (h : v.truth = .ok false) :
    v.isLowerSnake = .ok false := by
  unfold isLowerSnake
  rw [h]
  rfl

/-- The check passes what is lower_snake and refuses the rest, naming it. -/
theorem assertLowerSnake_of_isLowerSnake {v : Value} {b : Bool} (h : v.isLowerSnake = .ok b)
    (what : Text) :
    v.assertLowerSnake what = if b then .ok () else .error (.notLowerSnake what v) := by
  rw [assertLowerSnake, h]
  cases b <;> rfl

end Value

/-- Lower_snake text is what its pattern `^[a-z0-9]+(?:_[a-z0-9]+)*$` accepts from the start of the
text: a text value is lower_snake exactly when its code points are a word of the pattern, possibly
followed by one line feed, that is when they are a non-empty run of ASCII lowercase letters, digits
and underscores with no underscore at either end and no two in a row, possibly followed by one line
feed. A false value is not lower_snake. The lower_snake check passes a text exactly when it is
lower_snake and otherwise refuses it with a value error naming the label and the quoted text. -/
theorem lower_snake_matches_its_pattern :
    (∀ t : Text, (Value.str t).isLowerSnake = .ok t.isLowerSnake ∧
      (t.isLowerSnake = true ↔ t.points ∈ LowerSnake.anchored LowerSnake.pattern) ∧
      (t.isLowerSnake = true ↔
        ∃ w, (t.points = w ∨ t.points = w ++ [10]) ∧ LowerSnake.Shape w)) ∧
    (∀ v : Value, v.truth = .ok false → v.isLowerSnake = .ok false) ∧
    (∀ t what : Text, ((Value.str t).assertLowerSnake what = .ok () ↔ t.isLowerSnake = true) ∧
      (t.isLowerSnake = false → ∃ e, (Value.str t).assertLowerSnake what = .error e ∧
        e.className = "ValueError" ∧
        e.message = what ++ " must be lower_snake (got: " ++ Text.quote t ++ ")")) := by
  refine ⟨fun t => ⟨Value.isLowerSnake_str t, Text.isLowerSnake_iff_mem_pattern,
    Text.isLowerSnake_iff_shape⟩, fun v => Value.isLowerSnake_of_truth_false, fun t what => ?_⟩
  have h := Value.assertLowerSnake_of_isLowerSnake (Value.isLowerSnake_str t) what
  cases hb : t.isLowerSnake with
  | true =>
    rw [hb] at h
    simp [h]
  | false =>
    rw [hb] at h
    exact ⟨by simp [h], fun _ => ⟨_, h, rfl, rfl⟩⟩

/-- `None` is not lower_snake, and a doubled underscore is refused with a value error naming the
label and the text. -/
theorem none_and_double_underscore_not_lower_snake :
    Value.none.isLowerSnake = .ok false ∧
      ∃ e, (Value.str "a__b").assertLowerSnake "hash_function" = .error e ∧
        e.className = "ValueError" ∧
        e.message = "hash_function must be lower_snake (got: 'a__b')" := by
  refine ⟨lower_snake_matches_its_pattern.2.1 .none rfl, ?_⟩
  obtain ⟨e, he, hc, hm⟩ := (lower_snake_matches_its_pattern.2.2 "a__b" "hash_function").2 rfl
  exact ⟨e, he, hc, hm.trans rfl⟩

end Upsert
