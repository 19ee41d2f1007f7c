import Mathlib.Data.List.Forall2

/-! # Iterators

An iterator is a state and a function that returns the next item, or nothing, and the state
behind it. What its calls return is compared with the parts of an input that lie in front of
the state: the invariant says which parts these are.
-/

namespace Iteration

variable {σ α ρ : Type} {next : σ → Option α × σ}

/-- Calls that all return an item: the items, and the state behind the last call. -/
inductive Yields (next : σ → Option α × σ) : σ → List α → σ → Prop where
  | nil (s : σ) : Yields next s [] s
  | cons {s t u : σ} {a : α} {items : List α} : next s = (some a, t) → Yields next t items u →
      Yields next s (a :: items) u

/-- All calls return an item up to the state `last`, which no call leaves. -/
structure Drains (next : σ → Option α × σ) (s : σ) (items : List α) (last : σ) : Prop where
  yields : Yields next s items last
  stops : next last = (none, last)

/-- A call the way a C function makes it: what it returns, and what it leaves in the iterator
and in the output argument. -/
def call (next : σ → Option α × σ) (s : σ) (output : α) : Bool × σ × α :=
  match next s with
  | (some a, t) => (true, t, a)
  | (none, t) => (false, t, output)

/-- A call that returns false leaves the output argument as it was. -/
theorem call_unchanged {s : σ} {output : α} (silent : (call next s output).1 = false) :
    (call next s output).2.2 = output := by
  unfold call at silent ⊢
  cases returned : next s with
  | mk item t =>
      rw [returned] at silent
      cases item with
      | none => rfl
      | some a => cases silent

theorem call_of_none {s t : σ} (output : α) (stops : next s = (none, t)) :
    call next s output = (false, t, output) := by
  rw [call, stops]

/-- Calls that all return an item and take a part off the input that is in front of them: the items
with their parts. -/
inductive Takes {β : Type*} (next : σ → Option α × σ) (input : σ → List β) :
    σ → List (α × List β) → σ → Prop where
  | nil (s : σ) : Takes next input s [] s
  | cons {s t u : σ} {a : α} {part : List β} {taken : List (α × List β)} : next s = (some a, t) →
      input s = part ++ input t → Takes next input t taken u →
      Takes next input s ((a, part) :: taken) u

section taken

variable {β : Type*} {input : σ → List β} {s last : σ} {taken : List (α × List β)}

theorem Takes.yields (takes : Takes next input s taken last) :
    Yields next s (taken.map Prod.fst) last := by
  induction takes with
  | nil s => exact .nil s
  | cons run _ _ ih => exact .cons run ih

/-- Where each part makes one call return and take it, the calls go through all parts. -/
theorem takes_of_parts (Inv : List (α × List β) → σ → Prop)
    (step : ∀ a part rest s, Inv ((a, part) :: rest) s →
      ∃ t, next s = (some a, t) ∧ input s = part ++ input t ∧ Inv rest t)
    (start : Inv taken s) : ∃ last, Takes next input s taken last ∧ Inv [] last := by
  induction taken generalizing s with
  | nil => exact ⟨s, .nil s, start⟩
  | cons pair rest ih =>
      obtain ⟨a, part⟩ := pair
      obtain ⟨t, run, split, behind⟩ := step a part rest s start
      obtain ⟨last, takes, stop⟩ := ih behind
      exact ⟨last, .cons run split takes, stop⟩

end taken

section parts

variable (Inv : List ρ → σ → Prop) (R : ρ → α → Prop)

/-- Where each part makes one call return, the calls go through all parts. -/
theorem yields_of_parts
    (step : ∀ part rest s, Inv (part :: rest) s →
      ∃ a t, next s = (some a, t) ∧ R part a ∧ Inv rest t)
    {parts : List ρ} {s : σ} (start : Inv parts s) :
    ∃ items last, Yields next s items last ∧ List.Forall₂ R parts items ∧ Inv [] last := by
  induction parts generalizing s with
  | nil => exact ⟨[], s, .nil s, .nil, start⟩
  | cons part rest ih =>
      obtain ⟨a, t, run, related, behind⟩ := step part rest s start
      obtain ⟨items, last, yields, all, stop⟩ := ih behind
      exact ⟨a :: items, last, .cons run yields, .cons related all, stop⟩

/-- Where a call that returns does so by the first part in front, the items are read off a
front of the parts. -/
theorem Yields.parts
    (step : ∀ part rest s a t, Inv (part :: rest) s → next s = (some a, t) →
      R part a ∧ Inv rest t)
    (stop : ∀ s, Inv [] s → (next s).1 = none)
    {parts : List ρ} {s last : σ} {items : List α} (yields : Yields next s items last)
    (start : Inv parts s) :
    ∃ front back, parts = front ++ back ∧ List.Forall₂ R front items ∧ Inv back last := by
  induction yields generalizing parts with
  | nil s => exact ⟨[], parts, rfl, .nil, start⟩
  | @cons s t u a items run _ ih =>
      cases parts with
      | nil =>
          have silent := stop s start
          rw [run] at silent
          cases silent
      | cons part rest =>
          obtain ⟨related, behind⟩ := step part rest s a t start run
          obtain ⟨front, back, rfl, all, left⟩ := ih behind
          exact ⟨part :: front, back, rfl, .cons related all, left⟩

variable {R} {parts : List ρ} {items : List α}

/-- Every part has an item. -/
theorem exists_item (all : List.Forall₂ R parts items) {part : ρ} (mem : part ∈ parts) :
    ∃ item ∈ items, R part item := by
  induction all with
  | nil => cases mem
  | cons related _ ih =>
      cases mem with
      | head => exact ⟨_, List.mem_cons_self, related⟩
      | tail _ mem =>
          obtain ⟨item, found, related⟩ := ih mem
          exact ⟨item, List.mem_cons_of_mem _ found, related⟩

/-- Every item has a part. -/
theorem exists_part (all : List.Forall₂ R parts items) {item : α} (mem : item ∈ items) :
    ∃ part ∈ parts, R part item :=
  exists_item all.flip mem

end parts

end Iteration
