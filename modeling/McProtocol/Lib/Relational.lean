import McProtocol.Lib.Program

/-! # Two programs side by side

`Together pre p q post` says that the programs `p` and `q`, started in states related by
`pre`, can only both return with values and states related by `post`. Nothing is said of
runs in which one of them refuses. The rules follow the operations of programs: both
sides may move at once, or one of them alone.

`Follows pre p q post` says that `q` does return where `p` does, and with what.

`Agrees related p` says that two runs of `p` from related states go the same way; two single
runs that do so `Concur`.

`Refines good abstraction p q` says that `p` does on good states what `q` does on their
abstractions, refusals included, and stays among the good ones.
-/

namespace Prog

variable {σ τ α β γ δ : Type}

def Together (pre : σ → τ → Prop) (p : Prog σ α) (q : Prog τ β)
    (post : α → β → σ → τ → Prop) : Prop :=
  ∀ s t a b s' t', pre s t → p s = (some a, s') → q t = (some b, t') → post a b s' t'

namespace Together

variable {pre : σ → τ → Prop} {p : Prog σ α} {q : Prog τ β}
variable {post : α → β → σ → τ → Prop}

theorem pure {a : α} {b : β} (related : ∀ s t, pre s t → post a b s t) :
    Together pre (Pure.pure a) (Pure.pure b) post := by
  intro s t _ _ _ _ before left right
  cases left
  cases right
  exact related s t before

/-- Both sides move. -/
theorem bind {mid : α → β → σ → τ → Prop} {k : α → Prog σ γ} {l : β → Prog τ δ}
    {last : γ → δ → σ → τ → Prop} (first : Together pre p q mid)
    (second : ∀ a b, Together (mid a b) (k a) (l b) last) :
    Together pre (p >>= k) (q >>= l) last := by
  intro s t c d s' t' before left right
  obtain ⟨a, u, ranLeft, left⟩ := bind_eq_some left
  obtain ⟨b, v, ranRight, right⟩ := bind_eq_some right
  have middle : mid a b u v := first s t a b u v before ranLeft ranRight
  exact second a b u v c d s' t' middle left right

/-- The right side moves alone. -/
theorem bindRight {mid : γ → σ → τ → Prop} {r : Prog τ γ} {k : γ → Prog τ β}
    (alone : ∀ s t c t', pre s t → r t = (some c, t') → mid c s t')
    (rest : ∀ c, Together (mid c) p (k c) post) : Together pre p (r >>= k) post := by
  intro s t a b s' t' before left right
  obtain ⟨c, v, ran, right⟩ := bind_eq_some right
  exact rest c s v a b s' t' (alone s t c v before ran) left right

theorem rescueRight (together : Together pre p q post) (mark : τ → τ) :
    Together pre p (q.rescue mark) post :=
  fun s t a b s' t' before left right =>
    together s t a b s' t' before left (rescue_eq_some right)

theorem rescueBindRight {r : Prog τ γ} {k : γ → Prog τ β} (together : Together pre p (r >>= k) post)
    (mark : τ → τ) : Together pre p (r.rescue mark >>= k) post := by
  intro s t a b s' t' before left right
  obtain ⟨c, v, ran, right⟩ := bind_eq_some right
  exact together s t a b s' t' before left ((bind_some (rescue_eq_some ran)).trans right)

/-- A check on the left, of something both sides know. -/
theorem checkLeft {bad : σ → Prop} [DecidablePred bad] {mark : σ → σ} {k : Unit → Prog σ α}
    {condition : Prop} (same : ∀ s t, pre s t → (bad s ↔ condition))
    (rest : ¬ condition → Together pre (k ()) q post) :
    Together pre (check bad mark >>= k) q post := by
  intro s t a b s' t' before left right
  obtain ⟨_, u, passed, continued⟩ := bind_eq_some left
  obtain ⟨good, unmoved⟩ := check_eq_some passed
  subst unmoved
  exact rest ((same u t before).not.mp good) u t a b s' t' before continued right

theorem checkRight {bad : τ → Prop} [DecidablePred bad] {mark : τ → τ} {k : Unit → Prog τ β}
    {condition : Prop} (same : ∀ s t, pre s t → (bad t ↔ condition))
    (rest : ¬ condition → Together pre p (k ()) post) :
    Together pre p (check bad mark >>= k) post := by
  intro s t a b s' t' before left right
  obtain ⟨_, v, passed, continued⟩ := bind_eq_some right
  obtain ⟨good, unmoved⟩ := check_eq_some passed
  subst unmoved
  exact rest ((same s v before).not.mp good) s v a b s' t' before left continued

end Together

/-- Where the first program returns, so does the second, with values and states related by
`post`. -/
def Follows (pre : σ → τ → Prop) (p : Prog σ α) (q : Prog τ β)
    (post : α → β → σ → τ → Prop) : Prop :=
  ∀ s t a s', pre s t → p s = (some a, s') → ∃ b t', q t = (some b, t') ∧ post a b s' t'

namespace Follows

variable {pre : σ → τ → Prop} {p : Prog σ α} {q : Prog τ β}
variable {post : α → β → σ → τ → Prop}

theorem pure {a : α} {b : β} (related : ∀ s t, pre s t → post a b s t) :
    Follows pre (Pure.pure a) (Pure.pure b) post := by
  intro s t _ _ before left
  cases left
  exact ⟨b, t, rfl, related s t before⟩

theorem bind {mid : α → β → σ → τ → Prop} {k : α → Prog σ γ} {l : β → Prog τ δ}
    {last : γ → δ → σ → τ → Prop} (first : Follows pre p q mid)
    (second : ∀ a b, Follows (mid a b) (k a) (l b) last) :
    Follows pre (p >>= k) (q >>= l) last := by
  intro s t c s' before left
  obtain ⟨a, u, ran, left⟩ := bind_eq_some left
  obtain ⟨b, v, followed, middle⟩ := first s t a u before ran
  obtain ⟨d, t', finished, after⟩ := second a b u v c s' middle left
  exact ⟨d, t', (bind_some followed).trans finished, after⟩

theorem rescueBindLeft {r : Prog σ γ} {k : γ → Prog σ α} (follows : Follows pre (r >>= k) q post)
    (mark : σ → σ) : Follows pre (r.rescue mark >>= k) q post := by
  intro s t a s' before left
  obtain ⟨c, u, ran, left⟩ := bind_eq_some left
  exact follows s t a s' before ((bind_some (rescue_eq_some ran)).trans left)

theorem rescueBindRight {r : Prog τ γ} {k : γ → Prog τ β} (follows : Follows pre p (r >>= k) post)
    (mark : τ → τ) : Follows pre p (r.rescue mark >>= k) post := by
  intro s t a s' before left
  obtain ⟨b, t', right, after⟩ := follows s t a s' before left
  obtain ⟨c, v, ran, right⟩ := bind_eq_some right
  exact ⟨b, t', (bind_some (rescue_some ran)).trans right, after⟩

/-- A check on the left tells what both sides know. -/
theorem checkLeft {bad : σ → Prop} [DecidablePred bad] {mark : σ → σ} {k : Unit → Prog σ α}
    {condition : Prop} (same : ∀ s t, pre s t → (bad s ↔ condition))
    (rest : ¬ condition → Follows pre (k ()) q post) :
    Follows pre (check bad mark >>= k) q post := by
  intro s t a s' before left
  obtain ⟨_, u, passed, continued⟩ := bind_eq_some left
  obtain ⟨good, unmoved⟩ := check_eq_some passed
  subst unmoved
  exact rest ((same u t before).not.mp good) u t a s' before continued

/-- A check on the right has to be passed. -/
theorem checkRight {bad : τ → Prop} [DecidablePred bad] {mark : τ → τ} {k : Unit → Prog τ β}
    (good : ∀ s t, pre s t → ¬ bad t) (rest : Follows pre p (k ()) post) :
    Follows pre p (check bad mark >>= k) post := by
  intro s t a s' before left
  obtain ⟨b, t', ran, after⟩ := rest s t a s' before left
  exact ⟨b, t', (bind_some (check_good (good s t before))).trans ran, after⟩

/-- A program that never returns is followed by any. -/
theorem never (refuses : ∀ s a s', p s ≠ (some a, s')) : Follows pre p q post :=
  fun s _ a s' _ left => absurd left (refuses s a s')

end Follows

/-- Runs from related states return the same and end in related states. -/
def Agrees (related : σ → σ → Prop) (p : Prog σ α) : Prop :=
  ∀ s t, related s t → (p s).1 = (p t).1 ∧ related (p s).2 (p t).2

namespace Agrees

variable {related : σ → σ → Prop} {p : Prog σ α}

theorem pure (a : α) : Agrees related (Pure.pure a : Prog σ α) := fun _ _ same => ⟨rfl, same⟩

theorem refuse : Agrees related (Prog.refuse : Prog σ α) := fun _ _ same => ⟨rfl, same⟩

theorem bind {k : α → Prog σ β} (first : Agrees related p) (rest : ∀ a, Agrees related (k a)) :
    Agrees related (p >>= k) := by
  intro s t same
  obtain ⟨value, after⟩ := first s t same
  rcases left : p s with ⟨_ | a, s'⟩
  · rcases right : p t with ⟨_ | b, t'⟩
    · rw [left, right] at after
      rw [bind_none left, bind_none right]
      exact ⟨rfl, after⟩
    · rw [left, right] at value
      cases value
  · rcases right : p t with ⟨_ | b, t'⟩
    · rw [left, right] at value
      cases value
    · rw [left, right] at value after
      cases value
      rw [bind_some left, bind_some right]
      exact rest a s' t' after

theorem ite {condition : Prop} [Decidable condition] {q : Prog σ α} (yes : Agrees related p)
    (no : Agrees related q) : Agrees related (if condition then p else q) := by
  split_ifs
  · exact yes
  · exact no

theorem when {condition : Prop} [Decidable condition] {p : Prog σ Unit} (yes : Agrees related p) :
    Agrees related (Prog.when condition p) :=
  ite yes (pure ())

/-- What was seen may differ as long as it makes no difference to the rest. -/
theorem look {γ : Type} {g : σ → γ} {k : γ → Prog σ α}
    (same : ∀ s t, related s t → k (g s) = k (g t)) (rest : ∀ c, Agrees related (k c)) :
    Agrees related (Prog.observe g >>= k) := by
  intro s t alike
  have left : (Prog.observe g >>= k) s = k (g s) s := bind_some rfl
  have right : (Prog.observe g >>= k) t = k (g t) t := bind_some rfl
  rw [left, right, ← same s t alike]
  exact rest (g s) s t alike

/-- Runs that are related to begin with follow one another. -/
theorem follows (agrees : Agrees related p) :
    Follows related p p fun a b s t => a = b ∧ related s t := by
  intro s t a s' before left
  obtain ⟨value, after⟩ := agrees s t before
  rcases right : p t with ⟨_ | b, t'⟩
  · rw [left, right] at value
    cases value
  · rw [left, right] at value after
    exact ⟨b, t', rfl, Option.some.inj value, after⟩

end Agrees

/-- Two runs came to the same and to related states. -/
structure Concur (related : σ → τ → Prop) (left : Option α × σ) (right : Option α × τ) :
    Prop where
  value : left.1 = right.1
  after : related left.2 right.2

namespace Concur

variable {related : σ → τ → Prop} {s : σ} {t : τ} {p : Prog σ α} {q : Prog τ α}

/-- What follows may use how it came about. -/
theorem bindKnowing {k : α → Prog σ β} {l : α → Prog τ β} (first : Concur related (p s) (q t))
    (rest : ∀ a s' t', p s = (some a, s') → q t = (some a, t') → related s' t' →
      Concur related (k a s') (l a t')) :
    Concur related ((p >>= k) s) ((q >>= l) t) := by
  obtain ⟨value, after⟩ := first
  rcases left : p s with ⟨_ | a, s'⟩
  · rcases right : q t with ⟨_ | b, t'⟩
    · rw [left, right] at after
      rw [bind_none left, bind_none right]
      exact ⟨rfl, after⟩
    · rw [left, right] at value
      cases value
  · rcases right : q t with ⟨_ | b, t'⟩
    · rw [left, right] at value
      cases value
    · rw [left, right] at value after
      cases value
      rw [bind_some left, bind_some right]
      exact rest a s' t' left right after

theorem bind {k : α → Prog σ β} {l : α → Prog τ β} (first : Concur related (p s) (q t))
    (rest : ∀ a s' t', related s' t' → Concur related (k a s') (l a t')) :
    Concur related ((p >>= k) s) ((q >>= l) t) :=
  first.bindKnowing fun a s' t' _ _ => rest a s' t'

end Concur

theorem Agrees.concur {related : σ → σ → Prop} {p : Prog σ α} (agrees : Agrees related p)
    {s t : σ} (before : related s t) : Concur related (p s) (p t) :=
  ⟨(agrees s t before).1, (agrees s t before).2⟩

/-- From the state `s`. -/
def RefinesAt (good : σ → Prop) (abstraction : σ → τ) (p : Prog σ α) (q : Prog τ α) (s : σ) :
    Prop :=
  good (p s).2 ∧ q (abstraction s) = ((p s).1, abstraction (p s).2)

def Refines (good : σ → Prop) (abstraction : σ → τ) (p : Prog σ α) (q : Prog τ α) : Prop :=
  ∀ s, good s → RefinesAt good abstraction p q s

namespace Refines

variable {good : σ → Prop} {abstraction : σ → τ} {p : Prog σ α} {q : Prog τ α}

/-- What follows may use what the first half made sure of. -/
theorem bindKnowing (known : α → σ → Prop) {k : α → Prog σ β} {l : α → Prog τ β}
    (first : Refines good abstraction p q)
    (makes : ∀ s a t, good s → p s = (some a, t) → known a t)
    (rest : ∀ a s, good s → known a s → RefinesAt good abstraction (k a) (l a) s) :
    Refines good abstraction (p >>= k) (q >>= l) := by
  intro s holds
  obtain ⟨kept, same⟩ := first s holds
  rcases run : p s with ⟨_ | a, t⟩
  · rw [run] at kept same
    rw [RefinesAt, bind_none run, bind_none same]
    exact ⟨kept, rfl⟩
  · rw [run] at kept same
    rw [RefinesAt, bind_some run, bind_some same]
    exact rest a t kept (makes s a t holds run)

/-- Both sides fail by leaving a mark. -/
theorem mark {mark : σ → σ} {other : τ → τ} (keeps : ∀ s, good s → good (mark s))
    (same : ∀ s, abstraction (mark s) = other (abstraction s)) :
    Refines good abstraction (fun s => ((none : Option α), mark s))
      fun t => (none, other t) :=
  fun s holds => ⟨keeps s holds, by rw [same]⟩

/-- Both sides move and succeed. -/
theorem move {move : σ → σ} {other : τ → τ} (a : α) (keeps : ∀ s, good s → good (move s))
    (same : ∀ s, abstraction (move s) = other (abstraction s)) :
    Refines good abstraction (fun s => (some a, move s)) fun t => (some a, other t) :=
  fun s holds => ⟨keeps s holds, by rw [same]⟩

end Refines

end Prog
