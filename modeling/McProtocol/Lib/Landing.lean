import McProtocol.Lib.Program

/-! # Where a program ends up

`Lands good bad` says of a program that it leaves a good state good where it returns, and in a bad
one where it refuses. The rules follow the operations of programs.
-/

namespace Prog

variable {σ α β : Type} {good bad worse : σ → Prop}

/-- From a good state to a good one, or on refusal to a bad one. -/
structure Lands (good bad : σ → Prop) (p : Prog σ α) : Prop where
  returns : ∀ s a t, good s → p s = (some a, t) → good t
  refuses : ∀ s t, good s → p s = (none, t) → bad t

namespace Lands

theorem mono {p : Prog σ α} (lands : Lands good bad p) (wider : ∀ s, bad s → worse s) :
    Lands good worse p where
  returns := lands.returns
  refuses s t here run := wider t (lands.refuses s t here run)

theorem pure (a : α) : Lands good bad (Pure.pure a : Prog σ α) where
  returns s b t here run := by
    cases run
    exact here
  refuses s t here run := by cases run

theorem refuse (stays : ∀ s, good s → bad s) : Lands good bad (Prog.refuse : Prog σ α) where
  returns s a t here run := by cases run
  refuses s t here run := by
    cases run
    exact stays s here

theorem observe (g : σ → α) : Lands good bad (Prog.observe g) where
  returns s a t here run := by
    cases run
    exact here
  refuses s t here run := by cases run

theorem check {wrong : σ → Prop} [DecidablePred wrong] {mark : σ → σ}
    (marked : ∀ s, good s → wrong s → bad (mark s)) : Lands good bad (Prog.check wrong mark) where
  returns s a t here run := by
    obtain ⟨-, rfl⟩ := check_eq_some run
    exact here
  refuses s t here run := by
    by_cases wrong : wrong s
    · rw [check_bad wrong] at run
      cases run
      exact marked s here wrong
    · rw [check_good wrong] at run
      cases run

theorem bind {p : Prog σ α} {k : α → Prog σ β} (first : Lands good bad p)
    (rest : ∀ a, Lands good bad (k a)) : Lands good bad (p >>= k) where
  returns s b u here run := by
    obtain ⟨a, t, ran, rerun⟩ := bind_eq_some run
    exact (rest a).returns t b u (first.returns s a t here ran) rerun
  refuses s u here run := by
    obtain stopped | ⟨a, t, ran, stopped⟩ := bind_eq_none run
    · exact first.refuses s u here stopped
    · exact (rest a).refuses t u (first.returns s a t here ran) stopped

/-- On refusal the mark is left on a bad state. -/
theorem rescue {p : Prog σ α} {mark : σ → σ} (lands : Lands good bad p)
    (marked : ∀ s, bad s → worse (mark s)) : Lands good worse (p.rescue mark) where
  returns s a t here run := lands.returns s a t here (rescue_eq_some run)
  refuses s t here run := by
    rw [Prog.rescue] at run
    rcases ran : p s with ⟨_ | a, u⟩
    · rw [ran] at run
      cases run
      exact marked u (lands.refuses s u here ran)
    · rw [ran] at run
      cases run

theorem ite {condition : Prop} [Decidable condition] {p q : Prog σ α}
    (yes : condition → Lands good bad p) (no : ¬ condition → Lands good bad q) :
    Lands good bad (if condition then p else q) := by
  by_cases holds : condition
  · rw [if_pos holds]
    exact yes holds
  · rw [if_neg holds]
    exact no holds

theorem when {condition : Prop} [Decidable condition] {p : Prog σ Unit}
    (lands : condition → Lands good bad p) : Lands good bad (Prog.when condition p) :=
  .ite lands fun _ => .pure ()

theorem iterate {body : α → Prog σ α} (lands : ∀ a, Lands good bad (body a)) (n : Nat) (a : α) :
    Lands good bad (Prog.iterate body n a) := by
  induction n generalizing a with
  | zero => exact .pure a
  | succ n ih => exact .bind (lands a) fun b => ih b

/-- A loop whose rounds bring a measure down does not run out of fuel. -/
theorem loopAtMost {body : Prog σ Bool} (measure : σ → Nat) (lands : Lands good bad body)
    (down : ∀ s t, good s → body s = (some true, t) → measure t < measure s) {n : Nat} {s t : σ}
    (enough : measure s < n) (here : good s) :
    (∀ u, Prog.loopAtMost body n s = (some u, t) → good t) ∧
      (Prog.loopAtMost body n s = (none, t) → bad t) := by
  induction n generalizing s with
  | zero => omega
  | succ n ih =>
      rcases run : body s with ⟨_ | _ | _, u⟩
      · rw [loopAtMost_none run]
        refine ⟨fun _ again => (by cases again), fun again => ?_⟩
        cases again
        exact lands.refuses s _ here run
      · rw [loopAtMost_stop run]
        refine ⟨fun _ again => ?_, fun again => (by cases again)⟩
        cases again
        exact lands.returns s _ _ here run
      · rw [loopAtMost_more run]
        have below := down s u here run
        exact ih (by omega) (lands.returns s _ _ here run)

theorem loop {body : Prog σ Bool} {fuel : σ → Nat} (measure : σ → Nat)
    (lands : Lands good bad body)
    (down : ∀ s t, good s → body s = (some true, t) → measure t < measure s)
    (enough : ∀ s, measure s < fuel s) : Lands good bad (Prog.loop body fuel) where
  returns s a _ here run := (loopAtMost measure lands down (enough s) here).1 a run
  refuses s _ here run := (loopAtMost measure lands down (enough s) here).2 run

/-- A loop that ends has rounds to spare. -/
theorem loopWith {body : α → Prog σ (Bool × α)} (lands : ∀ a, Lands good bad (body a)) {n : Nat}
    {a : α} (ends : ∀ s, Ends body n a s) : Lands good bad (Prog.loopWith body (n + 1) a) := by
  have from_ends {n : Nat} {a : α} {s : σ} (ends : Ends body n a s) (here : good s) :
      (∀ b t, Prog.loopWith body (n + 1) a s = (some b, t) → good t) ∧
        ∀ t, Prog.loopWith body (n + 1) a s = (none, t) → bad t := by
    induction ends with
    | refused run =>
        rw [loopWith_none run]
        refine ⟨fun _ _ again => (by cases again), fun _ again => ?_⟩
        cases again
        exact (lands _).refuses _ _ here run
    | stopped run =>
        rw [loopWith_stop run]
        refine ⟨fun _ _ again => ?_, fun _ again => (by cases again)⟩
        cases again
        exact (lands _).returns _ _ _ here run
    | more run _ ih =>
        rw [loopWith_more run]
        exact ih ((lands _).returns _ _ _ here run)
  exact ⟨fun s b t here run => (from_ends (ends s) here).1 b t run,
    fun s t here run => (from_ends (ends s) here).2 t run⟩

end Lands

end Prog
