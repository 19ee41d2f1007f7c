import McProtocol.Lib.Landing

/-! # What lies ahead of a program

Some refusals are proper and some are not. What has to lie ahead of a program for its refusals to be
proper is said as the program is written: fields that are looked at, and demands that are made of
them. A field that is not there excuses everything behind it.
-/

/-- A condition on the state, told what is asked of what lies behind. -/
def Ahead (σ β : Type) := (β → σ → Bool) → σ → Bool

namespace Ahead

variable {σ β : Type}

instance : Monad (Ahead σ) where
  pure b := fun next s => next b s
  bind ahead k := fun next => ahead fun b => k b next

def field (p : Prog σ β) : Ahead σ β := fun next s =>
  match p s with
  | (some b, t) => next b t
  | (none, _) => true

def skip (p : Prog σ β) : Ahead σ Unit := do
  let _ ← field p
  pure ()

def demand (condition : Prop) [Decidable condition] : Ahead σ Unit := fun next s =>
  decide condition && next () s

def never : Ahead σ β := fun _ _ => false

def times (ahead : Ahead σ Unit) : Nat → Ahead σ Unit
  | 0 => pure ()
  | n + 1 => do
      ahead
      times ahead n

/-- As `Prog.loopWith`. -/
def loopWith (body : β → Ahead σ (Bool × β)) : Nat → β → Ahead σ β
  | 0, _ => never
  | n + 1, b => do
      let turn ← body b
      if turn.1 then loopWith body n turn.2 else pure turn.2

/-- Nothing is asked of what lies behind. -/
def Holds (ahead : Ahead σ Unit) (s : σ) : Prop := ahead (fun _ _ => true) s = true

instance (ahead : Ahead σ Unit) (s : σ) : Decidable (ahead.Holds s) :=
  inferInstanceAs (Decidable (_ = true))

end Ahead

namespace Prog

variable {σ α β γ : Type} {good proper : σ → Prop}

/-- From a good state: where the program returns, the condition comes down to what is asked of the
state behind it; where it refuses, the condition says whether the refusal is a proper one. -/
structure Foresees (good proper : σ → Prop) (p : Prog σ α) (view : α → β) (ahead : Ahead σ β) :
    Prop where
  stays : ∀ s a t, good s → p s = (some a, t) → good t
  returns : ∀ next s a t, good s → p s = (some a, t) → ahead next s = next (view a) t
  refuses : ∀ next s t, good s → p s = (none, t) → (ahead next s = true ↔ proper t)

/-- The same, where nothing is asked of what lies behind. -/
structure Foretells (good proper : σ → Prop) (p : Prog σ α) (ahead : Ahead σ Unit) : Prop where
  returns : ∀ s a t, good s → p s = (some a, t) → ahead.Holds s
  refuses : ∀ s t, good s → p s = (none, t) → (ahead.Holds s ↔ proper t)

namespace Foresees

variable {p : Prog σ α} {view : α → β} {ahead : Ahead σ β}

theorem pure (a : α) : Foresees good proper (Pure.pure a) view (Pure.pure (view a)) where
  stays s b t here run := by
    cases run
    exact here
  returns next s b t here run := by
    cases run
    rfl
  refuses next s t here run := by cases run

theorem bind {k : α → Prog σ γ} {δ : Type} {shown : γ → δ} {behind : β → Ahead σ δ}
    (first : Foresees good proper p view ahead)
    (rest : ∀ a, Foresees good proper (k a) shown (behind (view a))) :
    Foresees good proper (p >>= k) shown (ahead >>= behind) where
  stays s c u here run := by
    obtain ⟨a, t, ran, rerun⟩ := bind_eq_some run
    exact (rest a).stays t c u (first.stays s a t here ran) rerun
  returns next s c u here run := by
    obtain ⟨a, t, ran, rerun⟩ := bind_eq_some run
    exact (first.returns _ s a t here ran).trans
      ((rest a).returns next t c u (first.stays s a t here ran) rerun)
  refuses next s u here run := by
    obtain stopped | ⟨a, t, ran, rerun⟩ := bind_eq_none run
    · exact first.refuses _ s u here stopped
    · have left := first.returns (fun b => behind b next) s a t here ran
      exact (Bool.eq_iff_iff.mp left).trans
        ((rest a).refuses next t u (first.stays s a t here ran) rerun)

/-- Nothing is shown of what is in front. -/
theorem seq {k : α → Prog σ γ} {δ : Type} {shown : γ → δ} {demands : Ahead σ Unit}
    {behind : Ahead σ δ} (first : Foresees good proper p (fun _ => ()) demands)
    (rest : ∀ a, Foresees good proper (k a) shown behind) :
    Foresees good proper (p >>= k) shown (demands >>= fun _ => behind) :=
  bind first rest

/-- What is behind shows what has been seen already. -/
theorem done {k : α → Prog σ γ} {shown : γ → β} (first : Foresees good proper p view ahead)
    (rest : ∀ a, Foresees good proper (k a) shown (Pure.pure (view a))) :
    Foresees good proper (p >>= k) shown ahead :=
  @bind σ α β γ good proper p view ahead k β shown Pure.pure first rest

theorem forget (first : Foresees good proper p view ahead) :
    Foresees good proper p (fun _ => ()) (ahead >>= fun _ => Pure.pure ()) where
  stays := first.stays
  returns next := first.returns fun _ => next ()
  refuses next := first.refuses fun _ => next ()

/-- What is read off the state is not looked at. -/
theorem observe {δ : Type} {g : σ → δ} {k : δ → Prog σ α}
    (rest : ∀ c, Foresees good proper (k c) view ahead) :
    Foresees good proper (Prog.observe g >>= k) view ahead where
  stays s := (rest (g s)).stays s
  returns next s := (rest (g s)).returns next s
  refuses next s := (rest (g s)).refuses next s

/-- What refuses properly asks for nothing. -/
theorem field (lands : Lands good proper p) : Foresees good proper p id (.field p) where
  stays := lands.returns
  returns next s a t here run := by
    rw [Ahead.field, run]
    rfl
  refuses next s t here run := by
    rw [Ahead.field, run]
    exact iff_of_true rfl (lands.refuses s t here run)

theorem skip (lands : Lands good proper p) : Foresees good proper p (fun _ => ()) (.skip p) :=
  .forget (.field lands)

theorem demand {condition : Prop} [Decidable condition] (improper : ∀ s, good s → ¬ proper s) :
    Foresees good proper (check (fun _ => ¬ condition) id) id (.demand condition) where
  stays s a t here run := by
    obtain ⟨-, rfl⟩ := check_eq_some run
    exact here
  returns next s a t here run := by
    obtain ⟨holds, rfl⟩ := check_eq_some run
    rw [Ahead.demand, decide_eq_true (not_not.mp holds)]
    exact Bool.true_and _
  refuses next s t here run := by
    unfold check at run
    by_cases holds : condition
    · rw [if_neg (not_not.mpr holds)] at run
      cases run
    · rw [if_pos holds] at run
      cases run
      rw [Ahead.demand, decide_eq_false holds]
      exact iff_of_false Bool.false_ne_true (improper s here)

theorem refuse (improper : ∀ s, good s → ¬ proper s) :
    Foresees good proper (Prog.refuse : Prog σ α) view (.never : Ahead σ β) where
  stays s a t here run := by cases run
  returns next s a t here run := by cases run
  refuses next s t here run := by
    cases run
    exact iff_of_false Bool.false_ne_true (improper s here)

theorem ite {condition : Prop} [Decidable condition] {q : Prog σ α} {other : Ahead σ β}
    (yes : condition → Foresees good proper p view ahead)
    (no : ¬ condition → Foresees good proper q view other) :
    Foresees good proper (if condition then p else q) view (if condition then ahead else other) := by
  by_cases holds : condition
  · rw [if_pos holds, if_pos holds]
    exact yes holds
  · rw [if_neg holds, if_neg holds]
    exact no holds

/-- A mark that does not make a refusal proper, nor improper. -/
theorem rescue {mark : σ → σ} (foresees : Foresees good proper p view ahead)
    (marks : ∀ s t, good s → p s = (none, t) → (proper (mark t) ↔ proper t)) :
    Foresees good proper (p.rescue mark) view ahead where
  stays s a t here run := foresees.stays s a t here (rescue_eq_some run)
  returns next s a t here run := foresees.returns next s a t here (rescue_eq_some run)
  refuses next s t here run := by
    rcases ran : p s with ⟨_ | a, u⟩
    · rw [Prog.rescue, ran] at run
      cases run
      exact (foresees.refuses next s u here ran).trans (marks s u here ran).symm
    · rw [Prog.rescue, ran] at run
      cases run

theorem times {body : α → Prog σ α} {ahead : Ahead σ Unit}
    (foresees : ∀ a, Foresees good proper (body a) (fun _ => ()) ahead) (n : Nat) (a : α) :
    Foresees good proper (iterate body n a) (fun _ => ()) (.times ahead n) := by
  induction n generalizing a with
  | zero => exact .pure a
  | succ n ih => exact .bind (foresees a) ih

theorem loopWith {body : α → Prog σ (Bool × α)} {turn : β → Ahead σ (Bool × β)}
    (improper : ∀ s, good s → ¬ proper s)
    (foresees : ∀ a, Foresees good proper (body a) (Prod.map id view) (turn (view a))) (n : Nat)
    (a : α) : Foresees good proper (Prog.loopWith body n a) view (.loopWith turn n (view a)) := by
  induction n generalizing a with
  | zero => exact .refuse improper
  | succ n ih =>
      refine .bind (foresees a) fun ⟨more, b⟩ => ?_
      cases more with
      | true => exact ih b
      | false => exact .pure b

end Foresees

namespace Foretells

variable {p q : Prog σ α} {ahead other : Ahead σ Unit}

theorem of_foresees (foresees : Foresees good proper p (fun _ => ()) ahead) :
    Foretells good proper p ahead where
  returns := foresees.returns _
  refuses := foresees.refuses _

/-- Nothing is demanded. -/
theorem anyway (lands : Lands good proper p) : Foretells good proper p (pure ()) where
  returns _ _ _ _ _ := rfl
  refuses s t here run := iff_of_true rfl (lands.refuses s t here run)

theorem bind {view : α → β} {before : Ahead σ β} {k : α → Prog σ γ} {behind : β → Ahead σ Unit}
    (first : Foresees good proper p view before)
    (rest : ∀ a, Foretells good proper (k a) (behind (view a))) :
    Foretells good proper (p >>= k) (before >>= behind) where
  returns s c u here run := by
    obtain ⟨a, t, ran, rerun⟩ := bind_eq_some run
    exact (first.returns _ s a t here ran).trans
      ((rest a).returns t c u (first.stays s a t here ran) rerun)
  refuses s u here run := by
    obtain stopped | ⟨a, t, ran, rerun⟩ := bind_eq_none run
    · exact first.refuses _ s u here stopped
    · have left := first.returns (fun b => behind b fun _ _ => true) s a t here ran
      exact (Bool.eq_iff_iff.mp left).trans
        ((rest a).refuses t u (first.stays s a t here ran) rerun)

theorem seq {k : α → Prog σ γ} (first : Foresees good proper p (fun _ => ()) ahead)
    (rest : ∀ a, Foretells good proper (k a) other) :
    Foretells good proper (p >>= k) (ahead >>= fun _ => other) :=
  bind first rest

/-- Behind the last demand. -/
theorem last {k : α → Prog σ γ} (first : Foresees good proper p (fun _ => ()) ahead)
    (rest : ∀ a, Lands good proper (k a)) : Foretells good proper (p >>= k) ahead :=
  @bind σ α Unit γ good proper p (fun _ => ()) ahead k pure first fun a => anyway (rest a)

/-- The demand comes first, whatever it is about. -/
theorem guarded {condition : Prop} [Decidable condition]
    (yes : condition → Foretells good proper p ahead)
    (no : ¬ condition → ∀ s, good s → ∃ t, p s = (none, t) ∧ ¬ proper t) :
    Foretells good proper p (Ahead.demand condition >>= fun _ => ahead) := by
  by_cases holds : condition
  · have same : (Ahead.demand condition >>= fun _ => ahead) = ahead := by
      funext next s
      change (decide condition && ahead next s) = ahead next s
      rw [decide_eq_true holds, Bool.true_and]
    rw [same]
    exact yes holds
  · constructor
    · intro s a t here run
      obtain ⟨u, refused, -⟩ := no holds s here
      cases refused.symm.trans run
    · intro s t here run
      obtain ⟨u, refused, improper⟩ := no holds s here
      cases refused.symm.trans run
      refine iff_of_false (fun held => ?_) improper
      change (decide condition && _) = true at held
      rw [decide_eq_false holds] at held
      cases held

theorem ite {condition : Prop} [Decidable condition]
    (yes : condition → Foretells good proper p ahead)
    (no : ¬ condition → Foretells good proper q other) :
    Foretells good proper (if condition then p else q) (if condition then ahead else other) := by
  by_cases holds : condition
  · rw [if_pos holds, if_pos holds]
    exact yes holds
  · rw [if_neg holds, if_neg holds]
    exact no holds

end Foretells

end Prog
