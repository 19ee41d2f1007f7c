import Mathlib.Order.Basic

/-! # Programs that refuse

A `Prog` runs on a state and either returns a value or refuses, keeping the
state it reached. A `Discipline` says what every program of a component owes:
an invariant, a preorder along which states move, and a simulation preorder
under which a successful run can be replayed on a more permissive state.
`Program` bundles a program with the proof that it keeps the discipline; the
monad operations carry that proof, so whatever is written with `do` keeps it.
-/

/-- A state-passing program: `none` is a refusal, the state is kept either way. -/
def Prog (σ α : Type) := σ → Option α × σ

namespace Prog

variable {σ α β : Type}

/-- Refuse without touching the state. -/
def refuse : Prog σ α := fun s => (none, s)

/-- Read something off the state. -/
def observe (g : σ → α) : Prog σ α := fun s => (some (g s), s)

/-- Refuse where `bad` holds, leaving a mark on the state. -/
def check (bad : σ → Prop) [DecidablePred bad] (mark : σ → σ) : Prog σ Unit := fun s =>
  if bad s then (none, mark s) else (some (), s)

/-- On refusal let `h` leave its mark on the state, and refuse. -/
def rescue (p : Prog σ α) (h : σ → σ) : Prog σ α := fun s =>
  match p s with
  | (some a, t) => (some a, t)
  | (none, t) => (none, h t)

instance : Monad (Prog σ) where
  pure a := fun s => (some a, s)
  bind p k := fun s =>
    match p s with
    | (some a, t) => k a t
    | (none, t) => (none, t)

/-- Run the program only where the condition holds. -/
def when (condition : Prop) [Decidable condition] (p : Prog σ Unit) : Prog σ Unit :=
  if condition then p else pure ()

@[simp] theorem pure_run (a : α) (s : σ) : (pure a : Prog σ α) s = (some a, s) := rfl

@[simp] theorem refuse_run (s : σ) : (refuse : Prog σ α) s = (none, s) := rfl

@[simp] theorem observe_run (g : σ → α) (s : σ) : observe g s = (some (g s), s) := rfl

theorem check_good {bad : σ → Prop} [DecidablePred bad] {mark : σ → σ} {s : σ}
    (h : ¬ bad s) : check bad mark s = (some (), s) := if_neg h

theorem check_bad {bad : σ → Prop} [DecidablePred bad] {mark : σ → σ} {s : σ}
    (h : bad s) : check bad mark s = (none, mark s) := if_pos h

theorem check_eq_some {bad : σ → Prop} [DecidablePred bad] {mark : σ → σ} {s t : σ} {u : Unit}
    (h : check bad mark s = (some u, t)) : ¬ bad s ∧ t = s := by
  by_cases wrong : bad s
  · rw [check_bad wrong] at h; simp at h
  · rw [check_good wrong] at h
    exact ⟨wrong, by simpa using h.symm⟩

theorem bind_run (p : Prog σ α) (k : α → Prog σ β) (s : σ) :
    (p >>= k) s = match p s with
      | (some a, t) => k a t
      | (none, t) => (none, t) := rfl

theorem bind_some {p : Prog σ α} {k : α → Prog σ β} {s t : σ} {a : α}
    (h : p s = (some a, t)) : (p >>= k) s = k a t := by
  rw [bind_run, h]

theorem bind_none {p : Prog σ α} {k : α → Prog σ β} {s t : σ}
    (h : p s = (none, t)) : (p >>= k) s = (none, t) := by
  rw [bind_run, h]

theorem pure_bind (a : α) (k : α → Prog σ β) : (pure a >>= k) = k a := rfl

theorem bind_pure (p : Prog σ α) : p >>= pure = p := by
  funext s
  rw [bind_run]
  rcases p s with ⟨_ | a, t⟩ <;> rfl

theorem bind_assoc {γ : Type} (p : Prog σ α) (k : α → Prog σ β) (l : β → Prog σ γ) :
    p >>= k >>= l = p >>= fun a => k a >>= l := by
  funext s
  simp only [bind_run]
  rcases p s with ⟨_ | a, t⟩ <;> rfl

/-- A bind that returns did so through its first half. -/
theorem bind_eq_some {p : Prog σ α} {k : α → Prog σ β} {s u : σ} {b : β}
    (h : (p >>= k) s = (some b, u)) : ∃ a t, p s = (some a, t) ∧ k a t = (some b, u) := by
  rw [bind_run] at h
  rcases hp : p s with ⟨_ | a, t⟩
  · simp [hp] at h
  · exact ⟨a, t, rfl, by simpa only [hp] using h⟩

/-- A bind that refuses does so in one of its halves. -/
theorem bind_eq_none {p : Prog σ α} {k : α → Prog σ β} {s u : σ}
    (h : (p >>= k) s = (none, u)) :
    p s = (none, u) ∨ ∃ a t, p s = (some a, t) ∧ k a t = (none, u) := by
  rw [bind_run] at h
  rcases hp : p s with ⟨_ | a, t⟩
  · rw [hp] at h
    cases h
    exact .inl rfl
  · exact .inr ⟨a, t, rfl, by simpa only [hp] using h⟩

theorem rescue_eq_some {p : Prog σ α} {mark : σ → σ} {s t : σ} {a : α}
    (h : p.rescue mark s = (some a, t)) : p s = (some a, t) := by
  rw [rescue] at h
  rcases run : p s with ⟨_ | b, u⟩
  · simp [run] at h
  · simpa only [run] using h

theorem rescue_some {p : Prog σ α} {mark : σ → σ} {s t : σ} {a : α}
    (h : p s = (some a, t)) : p.rescue mark s = (some a, t) := by
  rw [rescue, h]

/-- A program that refuses on no state. -/
def Total (p : Prog σ α) : Prop := ∀ s, ∃ a t, p s = (some a, t)

theorem when_pos {condition : Prop} [Decidable condition] {p : Prog σ Unit} {s : σ}
    (holds : condition) : when condition p s = p s := by
  rw [when, if_pos holds]

theorem when_neg {condition : Prop} [Decidable condition] {p : Prog σ Unit} {s : σ}
    (fails : ¬ condition) : when condition p s = (some (), s) := by
  rw [when, if_neg fails, pure_run]

namespace Total

theorem pure (a : α) : Total (Pure.pure a : Prog σ α) := fun s => ⟨a, s, rfl⟩

theorem observe (g : σ → α) : Total (Prog.observe g) := fun s => ⟨g s, s, rfl⟩

theorem bind {p : Prog σ α} {k : α → Prog σ β} (first : Total p) (rest : ∀ a, Total (k a)) :
    Total (p >>= k) := by
  intro s
  obtain ⟨a, t, run⟩ := first s
  obtain ⟨b, u, last⟩ := rest a t
  exact ⟨b, u, (bind_some run).trans last⟩

end Total

/-- Run the body `n` times, threading an accumulator. -/
def iterate (body : α → Prog σ α) : Nat → α → Prog σ α
  | 0, a => pure a
  | n + 1, a => do iterate body n (← body a)

/-- Run the body while it asks to go on, at most `n` times. -/
def loopAtMost (body : Prog σ Bool) : Nat → Prog σ Unit
  | 0 => refuse
  | n + 1 => do
      let more ← body
      if more then loopAtMost body n else pure ()

/-- Run the body while it asks to go on; the state says how often that can be. -/
def loop (body : Prog σ Bool) (fuel : σ → Nat) : Prog σ Unit := fun s =>
  loopAtMost body (fuel s) s

theorem loopAtMost_stop {body : Prog σ Bool} {n : Nat} {s t : σ}
    (h : body s = (some false, t)) : loopAtMost body (n + 1) s = (some (), t) := by
  rw [loopAtMost, bind_some h]; rfl

theorem loopAtMost_more {body : Prog σ Bool} {n : Nat} {s t : σ}
    (h : body s = (some true, t)) : loopAtMost body (n + 1) s = loopAtMost body n t := by
  rw [loopAtMost, bind_some h]; rfl

theorem loopAtMost_none {body : Prog σ Bool} {n : Nat} {s t : σ}
    (h : body s = (none, t)) : loopAtMost body (n + 1) s = (none, t) := by
  rw [loopAtMost, bind_none h]

/-- A loop that returned needed no more fuel than it had. -/
theorem loopAtMost_mono {body : Prog σ Bool} {n m : Nat} {s t : σ} (more : n ≤ m)
    (h : loopAtMost body n s = (some (), t)) : loopAtMost body m s = (some (), t) := by
  induction n generalizing m s with
  | zero => simp [loopAtMost] at h
  | succ n ih =>
      obtain ⟨k, rfl⟩ : ∃ k, m = k + 1 := ⟨m - 1, by omega⟩
      rcases run : body s with ⟨_ | _ | _, u⟩
      · rw [loopAtMost_none run] at h; simp at h
      · rw [loopAtMost_stop run] at h ⊢; exact h
      · rw [loopAtMost_more run] at h ⊢; exact ih (by omega) h

/-- Run the body while it asks to go on, threading a value, at most `n` times. -/
def loopWith (body : α → Prog σ (Bool × α)) : Nat → α → Prog σ α
  | 0, _ => refuse
  | n + 1, a => do
      let (more, b) ← body a
      if more then loopWith body n b else pure b

/-- From `a` on the body returns at most `n` times before it refuses or does not ask to go on. -/
inductive Ends (body : α → Prog σ (Bool × α)) : Nat → α → σ → Prop where
  | refused {n : Nat} {a : α} {s t : σ} : body a s = (none, t) → Ends body n a s
  | stopped {n : Nat} {a b : α} {s t : σ} : body a s = (some (false, b), t) →
      Ends body (n + 1) a s
  | more {n : Nat} {a b : α} {s t : σ} : body a s = (some (true, b), t) → Ends body n b t →
      Ends body (n + 1) a s

theorem loopWith_stop {body : α → Prog σ (Bool × α)} {n : Nat} {a b : α} {s t : σ}
    (run : body a s = (some (false, b), t)) : loopWith body (n + 1) a s = (some b, t) := by
  rw [loopWith, bind_some run]; rfl

theorem loopWith_more {body : α → Prog σ (Bool × α)} {n : Nat} {a b : α} {s t : σ}
    (run : body a s = (some (true, b), t)) :
    loopWith body (n + 1) a s = loopWith body n b t := by
  rw [loopWith, bind_some run]; rfl

theorem loopWith_none {body : α → Prog σ (Bool × α)} {n : Nat} {a : α} {s t : σ}
    (run : body a s = (none, t)) : loopWith body (n + 1) a s = (none, t) := by
  rw [loopWith, bind_none run]

/-- A measure that every returning round brings down is a bound on the rounds. -/
theorem ends_of_measure {body : α → Prog σ (Bool × α)} (left : α → Nat)
    (down : ∀ a b s t more, body a s = (some (more, b), t) → left b < left a) {n : Nat} {a : α}
    {s : σ} (room : left a ≤ n) : Ends body n a s := by
  induction n generalizing a s with
  | zero =>
      rcases run : body a s with ⟨_ | ⟨more, b⟩, t⟩
      · exact .refused run
      · have below := down a b s t more run
        omega
  | succ n ih =>
      rcases run : body a s with ⟨_ | ⟨_ | _, b⟩, t⟩
      · exact .refused run
      · exact .stopped run
      · have below := down a b s t true run
        exact .more run (ih (by omega))

/-- A loop that ends is not changed by more fuel. -/
theorem Ends.loopWith_eq {body : α → Prog σ (Bool × α)} {n m : Nat} {a : α} {s : σ}
    (ends : Ends body n a s) (enough : n < m) : loopWith body m a s = loopWith body (n + 1) a s := by
  obtain ⟨m, rfl⟩ : ∃ k, m = k + 1 := ⟨m - 1, by omega⟩
  induction ends generalizing m with
  | refused run => rw [loopWith_none run, loopWith_none run]
  | stopped run => rw [loopWith_stop run, loopWith_stop run]
  | more run _ ih =>
      obtain ⟨m, rfl⟩ : ∃ k, m = k + 1 := ⟨m - 1, by omega⟩
      rw [loopWith_more run, loopWith_more run]
      exact ih m (by omega)

end Prog

/-- What every program of a component owes. -/
structure Discipline (σ : Type) where
  /-- Kept by every program. -/
  inv : σ → Prop
  /-- How a program may move the state. -/
  step : σ → σ → Prop
  /-- The right state accepts at least what the left one accepts. -/
  le : σ → σ → Prop
  step_refl : ∀ s, step s s
  step_trans : ∀ {s t u}, step s t → step t u → step s u

namespace Discipline

variable {σ α β : Type} {D : Discipline σ}

/-- A program keeps the discipline. -/
structure Lawful (D : Discipline σ) (p : Prog σ α) : Prop where
  keeps : ∀ s, D.inv s → D.inv (p s).2
  steps : ∀ s, D.inv s → D.step s (p s).2
  replay : ∀ s t a, D.inv s → D.inv t → D.le s t → (p s).1 = some a →
    (p t).1 = some a ∧ D.le (p s).2 (p t).2

/-- The discipline of programs that move the state along a preorder, and owe no more. -/
def moving (step : σ → σ → Prop) (refl : ∀ s, step s s)
    (trans : ∀ s t u, step s t → step t u → step s u) : Discipline σ where
  inv _ := True
  step := step
  le _ _ := False
  step_refl := refl
  step_trans := trans _ _ _

namespace Lawful

theorem of_steps {step : σ → σ → Prop} {refl : ∀ s, step s s}
    {trans : ∀ s t u, step s t → step t u → step s u} {p : Prog σ α}
    (steps : ∀ s, step s (p s).2) : Lawful (moving step refl trans) p where
  keeps _ _ := trivial
  steps s _ := steps s
  replay _ _ _ _ _ below := below.elim

theorem moves {step : σ → σ → Prop} {refl : ∀ s, step s s}
    {trans : ∀ s t u, step s t → step t u → step s u} {p : Prog σ α}
    (lawful : Lawful (moving step refl trans) p) (s : σ) : step s (p s).2 :=
  lawful.steps s trivial

theorem pure (a : α) : Lawful D (Pure.pure a : Prog σ α) where
  keeps _ hs := hs
  steps s _ := D.step_refl s
  replay _ _ _ _ _ hle h := ⟨h, hle⟩

theorem refuse : Lawful D (Prog.refuse : Prog σ α) where
  keeps _ hs := hs
  steps s _ := D.step_refl s
  replay _ _ _ _ _ _ h := by simp at h

theorem observe {g : σ → α} (agree : ∀ s t, D.inv s → D.inv t → D.le s t → g s = g t) :
    Lawful D (Prog.observe g) where
  keeps _ hs := hs
  steps s _ := D.step_refl s
  replay s t a hs ht hle h := by
    simp only [Prog.observe_run, Option.some.injEq] at h ⊢
    exact ⟨(agree s t hs ht hle) ▸ h, hle⟩

/-- A check is lawful when its mark is, and what the left state passes the right
one passes too. -/
theorem check {bad : σ → Prop} [DecidablePred bad] {mark : σ → σ}
    (keeps : ∀ s, D.inv s → D.inv (mark s)) (steps : ∀ s, D.inv s → D.step s (mark s))
    (passes : ∀ s t, D.inv s → D.inv t → D.le s t → ¬ bad s → ¬ bad t) :
    Lawful D (Prog.check bad mark) where
  keeps s hs := by
    by_cases wrong : bad s
    · rw [Prog.check_bad wrong]; exact keeps s hs
    · rw [Prog.check_good wrong]; exact hs
  steps s hs := by
    by_cases wrong : bad s
    · rw [Prog.check_bad wrong]; exact steps s hs
    · rw [Prog.check_good wrong]; exact D.step_refl s
  replay s t a hs ht hle h := by
    by_cases wrong : bad s
    · rw [Prog.check_bad wrong] at h; simp at h
    · rw [Prog.check_good wrong, Prog.check_good (passes s t hs ht hle wrong)]
      exact ⟨rfl, hle⟩

theorem bind {p : Prog σ α} {k : α → Prog σ β} (hp : Lawful D p) (hk : ∀ a, Lawful D (k a)) :
    Lawful D (p >>= k) where
  keeps s hs := by
    have first := hp.keeps s hs
    rw [Prog.bind_run]
    rcases h : p s with ⟨_ | a, t⟩ <;> rw [h] at first
    · exact first
    · exact (hk a).keeps t first
  steps s hs := by
    have kept := hp.keeps s hs
    have moved := hp.steps s hs
    rw [Prog.bind_run]
    rcases h : p s with ⟨_ | a, t⟩ <;> rw [h] at kept moved
    · exact moved
    · exact D.step_trans moved ((hk a).steps t kept)
  replay s t b hs ht hle h := by
    have keptLeft := hp.keeps s hs
    have keptRight := hp.keeps t ht
    simp only [Prog.bind_run] at h ⊢
    rcases hps : p s with ⟨_ | a, s'⟩
    · simp [hps] at h
    · obtain ⟨value, below⟩ := hp.replay s t a hs ht hle (by rw [hps])
      rcases hpt : p t with ⟨_ | a', t'⟩
      · simp [hpt] at value
      · rw [hps] at keptLeft below h
        rw [hpt] at keptRight below value
        obtain rfl : a' = a := by simpa using value
        exact (hk a').replay s' t' b keptLeft keptRight below h

/-- A refusal may be marked by any `h` that keeps the discipline. -/
theorem rescue {p : Prog σ α} {h : σ → σ} (hp : Lawful D p)
    (keeps : ∀ s, D.inv s → D.inv (h s)) (steps : ∀ s, D.inv s → D.step s (h s)) :
    Lawful D (p.rescue h) where
  keeps s hs := by
    have kept := hp.keeps s hs
    rw [Prog.rescue]
    rcases e : p s with ⟨_ | a, t⟩ <;> rw [e] at kept
    · exact keeps t kept
    · exact kept
  steps s hs := by
    have kept := hp.keeps s hs
    have moved := hp.steps s hs
    rw [Prog.rescue]
    rcases e : p s with ⟨_ | a, t⟩ <;> rw [e] at kept moved
    · exact D.step_trans moved (steps t kept)
    · exact moved
  replay s t a hs ht hle ha := by
    simp only [Prog.rescue] at ha ⊢
    rcases hps : p s with ⟨_ | b, s'⟩
    · simp [hps] at ha
    · obtain rfl : b = a := by simpa [hps] using ha
      obtain ⟨value, below⟩ := hp.replay s t b hs ht hle (by rw [hps])
      rcases hpt : p t with ⟨_ | c, t'⟩
      · simp [hpt] at value
      · rw [hps, hpt] at below
        rw [hpt] at value
        exact ⟨value, below⟩

theorem iterate {body : α → Prog σ α} (hb : ∀ a, Lawful D (body a)) (n : Nat) (a : α) :
    Lawful D (Prog.iterate body n a) := by
  induction n generalizing a with
  | zero => exact pure a
  | succ n ih => exact bind (hb a) ih

theorem loopAtMost {body : Prog σ Bool} (hb : Lawful D body) (n : Nat) :
    Lawful D (Prog.loopAtMost body n) := by
  induction n with
  | zero => exact refuse
  | succ n ih =>
      refine bind hb fun more => ?_
      cases more
      · exact pure ()
      · exact ih

theorem loopWith {body : α → Prog σ (Bool × α)} (hb : ∀ a, Lawful D (body a)) (n : Nat) (a : α) :
    Lawful D (Prog.loopWith body n a) := by
  induction n generalizing a with
  | zero => exact refuse
  | succ n ih =>
      refine bind (hb a) ?_
      rintro ⟨_ | _, b⟩
      · exact pure b
      · exact ih b

theorem when {condition : Prop} [Decidable condition] {p : Prog σ Unit} (hp : Lawful D p) :
    Lawful D (Prog.when condition p) := by
  unfold Prog.when
  split_ifs
  · exact hp
  · exact pure ()

/-- A loop may take its fuel from the state if the right state never has less. -/
theorem loop {body : Prog σ Bool} (hb : Lawful D body) {fuel : σ → Nat}
    (enough : ∀ s t, D.inv s → D.inv t → D.le s t → fuel s ≤ fuel t) :
    Lawful D (Prog.loop body fuel) where
  keeps s hs := (loopAtMost hb (fuel s)).keeps s hs
  steps s hs := (loopAtMost hb (fuel s)).steps s hs
  replay s t a hs ht hle h := by
    have room := enough s t hs ht hle
    obtain ⟨value, below⟩ := (loopAtMost hb (fuel s)).replay s t a hs ht hle h
    have longer : Prog.loopAtMost body (fuel t) t = (some a, (Prog.loopAtMost body (fuel s) t).2) :=
      Prog.loopAtMost_mono room (Prod.ext value rfl)
    rw [Prog.loop, Prog.loop, longer]
    exact ⟨rfl, below⟩

end Lawful

end Discipline

/-- A program together with the proof that it keeps the discipline `D`. -/
structure Program {σ : Type} (D : Discipline σ) (α : Type) where
  run : Prog σ α
  lawful : D.Lawful run

namespace Program

variable {σ α β : Type} {D : Discipline σ}

instance : Monad (Program D) where
  pure a := ⟨pure a, .pure a⟩
  bind p k := ⟨p.run >>= fun a => (k a).run, p.lawful.bind fun a => (k a).lawful⟩

@[simp] theorem run_pure (a : α) : (pure a : Program D α).run = pure a := rfl

@[simp] theorem run_bind (p : Program D α) (k : α → Program D β) :
    (p >>= k).run = p.run >>= fun a => (k a).run := rfl

/-- Refuse without touching the state. -/
def refuse : Program D α := ⟨Prog.refuse, .refuse⟩

/-- Run the body `n` times, threading an accumulator. -/
def iterate (body : α → Program D α) (n : Nat) (a : α) : Program D α :=
  ⟨Prog.iterate (fun a => (body a).run) n a, .iterate (fun a => (body a).lawful) n a⟩

/-- Run the body while it asks to go on, threading a value, at most `n` times. -/
def loopWith (body : α → Program D (Bool × α)) (n : Nat) (a : α) : Program D α :=
  ⟨Prog.loopWith (fun a => (body a).run) n a, .loopWith (fun a => (body a).lawful) n a⟩

/-- Run the program only where the condition holds. -/
def when (condition : Prop) [Decidable condition] (p : Program D Unit) : Program D Unit :=
  ⟨Prog.when condition p.run, .when p.lawful⟩

@[simp] theorem run_when (condition : Prop) [Decidable condition] (p : Program D Unit) :
    (when condition p).run = Prog.when condition p.run := rfl

@[simp] theorem run_refuse : (refuse : Program D α).run = Prog.refuse := rfl

@[simp] theorem run_iterate (body : α → Program D α) (n : Nat) (a : α) :
    (iterate body n a).run = Prog.iterate (fun a => (body a).run) n a := rfl

theorem map_eq_some {f : α → β} {p : Program D α} {s t : σ} {b : β}
    (h : (f <$> p).run s = (some b, t)) : ∃ a, f a = b ∧ p.run s = (some a, t) := by
  obtain ⟨a, u, ran, returned⟩ := Prog.bind_eq_some h
  cases returned
  exact ⟨a, rfl, ran⟩

end Program
