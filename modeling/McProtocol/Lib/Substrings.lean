import Mathlib.Data.List.Infix

/-! # Substrings

Where a list first occurs in another one, and how often when occurrences do not overlap. A list
that occurs once splits the other one in a single way.
-/

namespace Substrings

variable {α : Type*} {sub text before after : List α} {x : α}

theorem prefix_append_cons (absent : x ∉ sub) : sub <+: before ++ x :: after ↔ sub <+: before := by
  constructor
  · intro occurs
    induction before generalizing sub with
    | nil =>
        cases sub with
        | nil => exact List.nil_prefix
        | cons a sub =>
            obtain ⟨rfl, -⟩ := List.cons_prefix_cons.mp occurs
            exact absurd List.mem_cons_self absent
    | cons b before ih =>
        cases sub with
        | nil => exact List.nil_prefix
        | cons a sub =>
            obtain ⟨rfl, rest⟩ := List.cons_prefix_cons.mp occurs
            exact List.cons_prefix_cons.mpr ⟨rfl, ih (List.not_mem_of_not_mem_cons absent) rest⟩
  · exact fun occurs => occurs.trans (List.prefix_append _ _)

/-- What does not hold the separator lies on one side of it. -/
theorem infix_append_cons (nonempty : sub ≠ []) (absent : x ∉ sub) :
    sub <:+: before ++ x :: after ↔ sub <:+: before ∨ sub <:+: after := by
  induction before with
  | nil =>
      have nowhere : ¬ sub <+: [] := fun occurs => nonempty (List.prefix_nil.mp occurs)
      rw [List.nil_append, List.infix_cons_iff, ← List.nil_append (x :: after),
        prefix_append_cons absent, List.infix_nil]
      exact ⟨fun occurs => .inr (occurs.resolve_left nowhere),
        fun occurs => .inr (occurs.resolve_left nonempty)⟩
  | cons b before ih =>
      rw [List.cons_append, List.infix_cons_iff, ih, ← List.cons_append, prefix_append_cons absent,
        List.infix_cons_iff, or_assoc]

/-- `sub` does not begin before the place behind `before`. -/
def First (sub before : List α) : Prop := ¬ sub <:+: before ++ sub.dropLast

theorem not_infix_dropLast (nonempty : sub ≠ []) : ¬ sub <:+: sub.dropLast := by
  intro occurs
  have short := occurs.length_le
  have positive := List.length_pos_of_ne_nil nonempty
  rw [List.length_dropLast] at short
  omega

theorem first_nil (nonempty : sub ≠ []) : First sub [] := not_infix_dropLast nonempty

/-- All but the last of `sub` tells whether it begins in front of it. -/
theorem prefix_cons_iff (nonempty : sub ≠ []) :
    sub <+: x :: (before ++ sub ++ after) ↔ sub <+: x :: (before ++ sub.dropLast) := by
  have parts : sub ++ after = sub.dropLast ++ sub.getLast nonempty :: after := by
    rw [List.append_cons, List.dropLast_append_getLast nonempty]
  have split : x :: (before ++ sub ++ after) =
      x :: (before ++ sub.dropLast) ++ sub.getLast nonempty :: after := by
    rw [List.append_assoc, parts, List.cons_append, List.append_assoc]
  have long : sub.length ≤ (x :: (before ++ sub.dropLast)).length := by
    rw [List.length_cons, List.length_append, List.length_dropLast]
    omega
  rw [split]
  exact ⟨fun occurs => List.prefix_of_prefix_length_le occurs (List.prefix_append _ _) long,
    fun occurs => occurs.trans (List.prefix_append _ _)⟩

theorem first_cons_iff (nonempty : sub ≠ []) :
    First sub (x :: before) ↔ ¬ sub <+: x :: (before ++ sub ++ after) ∧ First sub before := by
  rw [First, List.cons_append, List.infix_cons_iff, not_or, prefix_cons_iff nonempty, First]

section decidable

variable [DecidableEq α]

/-- The place of the first occurrence. -/
def index (sub : List α) : List α → Option Nat
  | [] => if sub = [] then some 0 else none
  | a :: text => if sub <+: a :: text then some 0 else (index sub text).map (· + 1)

/-- Occurrences that do not overlap, behind the next `skipped` places. -/
def countFrom (sub : List α) : Nat → List α → Nat
  | _, [] => 0
  | skipped + 1, _ :: text => countFrom sub skipped text
  | 0, a :: text =>
      if sub <+: a :: text then countFrom sub (sub.length - 1) text + 1 else countFrom sub 0 text

/-- Occurrences that do not overlap; the empty list occurs at every place. -/
def count (sub text : List α) : Nat :=
  if sub = [] then text.length + 1 else countFrom sub 0 text

theorem countFrom_skip (skipped : Nat) :
    countFrom sub skipped text = countFrom sub 0 (text.drop skipped) := by
  induction skipped generalizing text with
  | zero => rw [List.drop_zero]
  | succ skipped ih =>
      cases text with
      | nil => rfl
      | cons a text => rw [countFrom, ih, List.drop_succ_cons]

theorem countFrom_eq_zero_iff (nonempty : sub ≠ []) : countFrom sub 0 text = 0 ↔ ¬ sub <:+: text := by
  induction text with
  | nil => simp [countFrom, nonempty]
  | cons a text ih =>
      rw [List.infix_cons_iff, countFrom]
      by_cases here : sub <+: a :: text
      · simp [here]
      · rw [if_neg here, ih]
        simp [here]

/-- Behind the first occurrence the others are counted. -/
theorem countFrom_first (nonempty : sub ≠ []) (first : First sub before) :
    countFrom sub 0 (before ++ sub ++ after) = countFrom sub 0 after + 1 := by
  induction before with
  | nil =>
      obtain ⟨a, rest, rfl⟩ := List.exists_cons_of_ne_nil nonempty
      have here : a :: rest <+: a :: (rest ++ after) := ⟨after, rfl⟩
      rw [List.nil_append, List.cons_append, countFrom, if_pos here, countFrom_skip,
        List.length_cons, Nat.add_sub_cancel, List.drop_left]
  | cons b before ih =>
      have split : First sub (b :: before) ↔
          ¬ sub <+: b :: (before ++ sub ++ after) ∧ First sub before := first_cons_iff nonempty
      obtain ⟨other, rest⟩ := split.mp first
      rw [List.cons_append, List.cons_append, countFrom, if_neg other, ih rest]

theorem index_first (nonempty : sub ≠ []) (first : First sub before) :
    index sub (before ++ sub ++ after) = some before.length := by
  induction before with
  | nil =>
      obtain ⟨a, rest, rfl⟩ := List.exists_cons_of_ne_nil nonempty
      have here : a :: rest <+: a :: (rest ++ after) := ⟨after, rfl⟩
      rw [List.nil_append, List.cons_append, index, if_pos here, List.length_nil]
  | cons b before ih =>
      have split : First sub (b :: before) ↔
          ¬ sub <+: b :: (before ++ sub ++ after) ∧ First sub before := first_cons_iff nonempty
      obtain ⟨other, rest⟩ := split.mp first
      rw [List.cons_append, List.cons_append, index, if_neg other, ih rest, Option.map_some,
        List.length_cons]

/-- What occurs has a first occurrence. -/
theorem exists_first (nonempty : sub ≠ []) (occurs : sub <:+: text) :
    ∃ before after, text = before ++ sub ++ after ∧ First sub before := by
  induction text with
  | nil => exact absurd (List.infix_nil.mp occurs) nonempty
  | cons a text ih =>
      by_cases here : sub <+: a :: text
      · obtain ⟨after, same⟩ := here
        exact ⟨[], after, same.symm, first_nil nonempty⟩
      · obtain ⟨before, after, rfl, first⟩ := ih ((List.infix_cons_iff.mp occurs).resolve_left here)
        exact ⟨a :: before, after, rfl, (first_cons_iff nonempty).mpr ⟨here, first⟩⟩

/-- `sub` occurs between the two parts, and neither before that place nor behind it. -/
structure Once (sub before after : List α) : Prop where
  first : First sub before
  last : ¬ sub <:+: after

theorem count_eq_one_iff (nonempty : sub ≠ []) :
    count sub text = 1 ↔ ∃ before after, text = before ++ sub ++ after ∧ Once sub before after := by
  rw [count, if_neg nonempty]
  constructor
  · intro one
    have occurs : sub <:+: text := by
      by_contra absent
      rw [(countFrom_eq_zero_iff nonempty).mpr absent] at one
      exact absurd one (by decide)
    obtain ⟨before, after, rfl, first⟩ := exists_first nonempty occurs
    rw [countFrom_first nonempty first, Nat.add_eq_right] at one
    exact ⟨before, after, rfl, first, (countFrom_eq_zero_iff nonempty).mp one⟩
  · rintro ⟨before, after, rfl, first, last⟩
    rw [countFrom_first nonempty first, (countFrom_eq_zero_iff nonempty).mpr last]

end decidable

end Substrings
