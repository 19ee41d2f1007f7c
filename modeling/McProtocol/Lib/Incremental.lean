import Mathlib.Tactic

/-! # Incremental decoding

A `Scanner` looks at the bytes in front of it and asks for more, emits a frame, or
rejects; what it says does not change when more bytes arrive. A decoder that
buffers its input and emits at most a quota of frames per call then computes, over
any sequence of calls, what one pass over the whole input computes.
-/

namespace Incremental

inductive Verdict (F E : Type) where
  | needMore
  | emit (frame : F) (size : Nat)
  | reject (error : E)

structure Scanner (α F E : Type) where
  step : List α → Verdict F E
  step_nil : step [] = .needMore
  emit_size : ∀ {xs f n}, step xs = .emit f n → 0 < n ∧ n ≤ xs.length
  emit_stable : ∀ {xs f n} (ys : List α), step xs = .emit f n → step (xs ++ ys) = .emit f n
  reject_stable : ∀ {xs e} (ys : List α), step xs = .reject e → step (xs ++ ys) = .reject e

/-- A stretch of decoding: the frames, the input they took, and the error behind them. -/
@[ext] structure Outcome (F E : Type) where
  frames : List F
  taken : Nat
  error : Option E

namespace Outcome

variable {F E : Type}

def idle : Outcome F E := ⟨[], 0, none⟩

/-- One stretch after the other; nothing follows an error. -/
def andThen (first second : Outcome F E) : Outcome F E :=
  match first.error with
  | some _ => first
  | none => ⟨first.frames ++ second.frames, first.taken + second.taken, second.error⟩

theorem andThen_clean {first : Outcome F E} (clean : first.error = none) (second : Outcome F E) :
    first.andThen second =
      ⟨first.frames ++ second.frames, first.taken + second.taken, second.error⟩ := by
  rw [andThen, clean]

theorem andThen_error {first : Outcome F E} {e : E} (failed : first.error = some e)
    (second : Outcome F E) : first.andThen second = first := by
  rw [andThen, failed]

@[simp] theorem idle_andThen (second : Outcome F E) : idle.andThen second = second := by
  simp [andThen, idle]

@[simp] theorem andThen_idle (first : Outcome F E) : first.andThen idle = first := by
  cases clean : first.error with
  | some e => exact andThen_error clean idle
  | none =>
      rw [andThen_clean clean]
      ext1
      · simp [idle]
      · simp [idle]
      · simp [idle, clean]

theorem andThen_assoc (first second third : Outcome F E) :
    (first.andThen second).andThen third = first.andThen (second.andThen third) := by
  obtain ⟨frames, taken, error⟩ := first
  obtain ⟨frames', taken', error'⟩ := second
  cases error with
  | some e => rfl
  | none =>
      cases error' with
      | some e => rfl
      | none => simp only [andThen, List.append_assoc, Nat.add_assoc]

end Outcome

namespace Scanner

variable {α F E : Type} (S : Scanner α F E)

/-- Decode up to `quota` frames. -/
def take : Nat → List α → Outcome F E
  | 0, _ => .idle
  | quota + 1, xs =>
      match S.step xs with
      | .needMore => .idle
      | .reject e => ⟨[], 0, some e⟩
      | .emit f n => (⟨[f], n, none⟩ : Outcome F E).andThen (take quota (xs.drop n))

/-- Decode all there is: every frame takes input, so the length is quota enough. -/
def all (xs : List α) : Outcome F E := S.take xs.length xs

variable {S} {xs : List α} {f : F} {n : Nat} {e : E}

theorem take_needMore {quota : Nat} (h : S.step xs = .needMore) : S.take quota xs = .idle := by
  cases quota with
  | zero => rfl
  | succ quota => rw [take, h]

theorem take_reject {quota : Nat} (h : S.step xs = .reject e) :
    S.take (quota + 1) xs = ⟨[], 0, some e⟩ := by
  rw [take, h]

theorem take_emit {quota : Nat} (h : S.step xs = .emit f n) :
    S.take (quota + 1) xs =
      (⟨[f], n, none⟩ : Outcome F E).andThen (S.take quota (xs.drop n)) := by
  rw [take, h]

theorem take_nil (quota : Nat) : S.take quota [] = .idle := take_needMore S.step_nil

/-- Quotas beyond the length are never used up. -/
theorem take_enough {quota other : Nat} (enough : xs.length ≤ quota) (enough' : xs.length ≤ other) :
    S.take quota xs = S.take other xs := by
  induction quota generalizing xs other with
  | zero =>
      have nil : xs = [] := List.length_eq_zero_iff.mp (by omega)
      rw [nil, take_nil, take_nil]
  | succ quota ih =>
      cases h : S.step xs with
      | needMore => rw [take_needMore h, take_needMore h]
      | reject e =>
          cases other with
          | zero =>
              have nil : xs = [] := List.length_eq_zero_iff.mp (by omega)
              rw [nil, S.step_nil] at h
              cases h
          | succ other => rw [take_reject h, take_reject h]
      | emit f n =>
          have size := S.emit_size h
          have shorter : (xs.drop n).length + 1 ≤ xs.length := by
            rw [List.length_drop]
            omega
          cases other with
          | zero => omega
          | succ other =>
              rw [take_emit h, take_emit h]
              have rest : S.take quota (xs.drop n) = S.take other (xs.drop n) :=
                ih (by omega) (by omega)
              rw [rest]

/-- No more is taken than there is. -/
theorem take_taken (quota : Nat) (xs : List α) : (S.take quota xs).taken ≤ xs.length := by
  induction quota generalizing xs with
  | zero => exact Nat.zero_le _
  | succ quota ih =>
      cases h : S.step xs with
      | needMore => rw [take_needMore h]; exact Nat.zero_le _
      | reject e => rw [take_reject h]; exact Nat.zero_le _
      | emit f n =>
          have size := S.emit_size h
          have rest := ih (xs.drop n)
          rw [List.length_drop] at rest
          rw [take_emit h, Outcome.andThen_clean rfl]
          dsimp only
          omega

/-- The quota is kept. -/
theorem take_quota (quota : Nat) (xs : List α) : (S.take quota xs).frames.length ≤ quota := by
  induction quota generalizing xs with
  | zero => exact Nat.le_refl 0
  | succ quota ih =>
      cases h : S.step xs with
      | needMore => rw [take_needMore h]; exact Nat.zero_le _
      | reject e => rw [take_reject h]; exact Nat.zero_le _
      | emit f n =>
          rw [take_emit h, Outcome.andThen_clean rfl]
          exact Nat.succ_le_succ (ih (xs.drop n))

/-- What ends a pass is a rejection of what was left. -/
theorem take_error {quota : Nat} (failed : (S.take quota xs).error = some e) :
    ∃ ys, S.step ys = .reject e := by
  induction quota generalizing xs with
  | zero => cases failed
  | succ quota ih =>
      cases h : S.step xs with
      | needMore =>
          rw [take_needMore h] at failed
          cases failed
      | reject other =>
          rw [take_reject h] at failed
          cases failed
          exact ⟨xs, h⟩
      | emit f n =>
          rw [take_emit h, Outcome.andThen_clean rfl] at failed
          exact ih failed

theorem all_needMore (h : S.step xs = .needMore) : S.all xs = .idle := take_needMore h

theorem all_reject (h : S.step xs = .reject e) : S.all xs = ⟨[], 0, some e⟩ := by
  have same : S.all xs = S.take (xs.length + 1) xs := take_enough (Nat.le_refl _) (Nat.le_succ _)
  rw [same, take_reject h]

theorem all_emit (h : S.step xs = .emit f n) :
    S.all xs = (⟨[f], n, none⟩ : Outcome F E).andThen (S.all (xs.drop n)) := by
  have same : S.all xs = S.take (xs.length + 1) xs := take_enough (Nat.le_refl _) (Nat.le_succ _)
  have rest : S.take xs.length (xs.drop n) = S.all (xs.drop n) :=
    take_enough (by rw [List.length_drop]; omega) (Nat.le_refl _)
  rw [same, take_emit h, rest]

/-- What a call emitted, then everything behind it, whatever arrives meanwhile. -/
theorem all_append (quota : Nat) (xs ys : List α) :
    S.all (xs ++ ys) = (S.take quota xs).andThen (S.all (xs.drop (S.take quota xs).taken ++ ys)) := by
  induction quota generalizing xs with
  | zero => exact (Outcome.idle_andThen _).symm
  | succ quota ih =>
      cases h : S.step xs with
      | needMore => rw [take_needMore h]; exact (Outcome.idle_andThen _).symm
      | reject e =>
          rw [take_reject h, all_reject (S.reject_stable ys h)]
          rfl
      | emit f n =>
          have size := S.emit_size h
          rw [all_emit (S.emit_stable ys h), take_emit h, Outcome.andThen_assoc,
            List.drop_append_of_le_length size.2, ih (xs.drop n)]
          simp only [Outcome.andThen, List.drop_drop]

end Scanner

/-- A buffering decoder between two calls. -/
structure Session (α E : Type) where
  rest : List α
  taken : Nat
  error : Option E

namespace Session

variable {α F E : Type} (S : Scanner α F E)

def fresh : Session α E := ⟨[], 0, none⟩

/-- One call: more input and a quota of frames. A rejected session stays as it is. -/
def feed (session : Session α E) (chunk : List α) (quota : Nat) : List F × Session α E :=
  match session.error with
  | some _ => ([], session)
  | none =>
      let outcome := S.take quota (session.rest ++ chunk)
      (outcome.frames, ⟨(session.rest ++ chunk).drop outcome.taken,
        session.taken + outcome.taken, outcome.error⟩)

/-- A sequence of calls, with the frames of all of them. -/
def run : List (List α × Nat) → Session α E → List F × Session α E
  | [], session => ([], session)
  | (chunk, quota) :: calls, session =>
      let (frames, session) := feed S session chunk quota
      let (more, session) := run calls session
      (frames ++ more, session)

variable {S}

/-- What is left to do once `input` has arrived on top of the buffer. -/
def ahead (S : Scanner α F E) (session : Session α E) (input : List α) : Outcome F E :=
  match session.error with
  | some e => ⟨[], 0, some e⟩
  | none => S.all (session.rest ++ input)

/-- The outcome of everything a session did and has ahead of it. -/
def total (S : Scanner α F E) (frames : List F) (session : Session α E) (input : List α) :
    Outcome F E :=
  (⟨frames, session.taken, none⟩ : Outcome F E).andThen (session.ahead S input)

/-- A call moves work from what is ahead to what is done. -/
theorem total_feed (frames : List F) (session : Session α E) (chunk input : List α) (quota : Nat) :
    total S (frames ++ (feed S session chunk quota).1) (feed S session chunk quota).2 input =
      total S frames session (chunk ++ input) := by
  cases state : session.error with
  | some e => simp only [total, feed, ahead, state, List.append_nil]
  | none =>
      have split := Scanner.all_append (S := S) quota (session.rest ++ chunk) input
      simp only [total, feed, ahead, state, ← List.append_assoc, split, Outcome.andThen]
      cases outcome : (S.take quota (session.rest ++ chunk)).error with
      | some e => simp [outcome]
      | none => simp [List.append_assoc, Nat.add_assoc]

theorem total_run (calls : List (List α × Nat)) (frames : List F) (session : Session α E)
    (input : List α) :
    total S (frames ++ (run S calls session).1) (run S calls session).2 input =
      total S frames session ((calls.map Prod.fst).flatten ++ input) := by
  induction calls generalizing frames session with
  | nil => simp [run]
  | cons call calls ih =>
      obtain ⟨chunk, quota⟩ := call
      have rest := ih (frames ++ (feed S session chunk quota).1) (feed S session chunk quota).2
      rw [total_feed, List.append_assoc] at rest
      simpa only [run, List.map_cons, List.flatten_cons, List.append_assoc] using rest

theorem run_failed {calls : List (List α × Nat)} {session : Session α E} {e : E}
    (failed : session.error = some e) : (run S calls session).2.error = some e := by
  induction calls with
  | nil => exact failed
  | cons call calls ih =>
      have same : (feed S session call.1 call.2).2 = session := by
        rw [feed, failed]
      change (run S calls (feed S session call.1 call.2).2).2.error = some e
      rw [same]
      exact ih

/-- The error of a run is a rejection. -/
theorem run_error {calls : List (List α × Nat)} {session : Session α E} {e : E}
    (clean : session.error = none) (failed : (run S calls session).2.error = some e) :
    ∃ xs, S.step xs = .reject e := by
  induction calls generalizing session with
  | nil =>
      rw [run, clean] at failed
      cases failed
  | cons call calls ih =>
      have later : (run S calls (feed S session call.1 call.2).2).2.error = some e := failed
      cases state : (feed S session call.1 call.2).2.error with
      | none => exact ih state later
      | some first =>
          rw [run_failed state] at later
          cases later
          rw [feed, clean] at state
          exact Scanner.take_error state

/-- A session without an error holds its input but for what it took. -/
theorem run_rest (calls : List (List α × Nat)) (session : Session α E) (seen : List α)
    (holds : session.error = none → session.rest = seen.drop session.taken ∧
      session.taken ≤ seen.length) :
    (run S calls session).2.error = none →
      (run S calls session).2.rest =
        (seen ++ (calls.map Prod.fst).flatten).drop (run S calls session).2.taken ∧
      (run S calls session).2.taken ≤ (seen ++ (calls.map Prod.fst).flatten).length := by
  induction calls generalizing session seen with
  | nil => simpa [run] using holds
  | cons call calls ih =>
      obtain ⟨chunk, quota⟩ := call
      simp only [run, List.map_cons, List.flatten_cons]
      rw [← List.append_assoc]
      refine ih _ _ ?_
      cases state : session.error with
      | some e => simp [feed, state]
      | none =>
          obtain ⟨rest, inside⟩ := holds state
          have taken := S.take_taken quota (session.rest ++ chunk)
          have whole : session.rest ++ chunk = (seen ++ chunk).drop session.taken := by
            rw [rest, List.drop_append_of_le_length inside]
          intro _
          simp only [feed, state]
          refine ⟨by rw [whole, List.drop_drop], ?_⟩
          rw [whole, List.length_drop] at taken
          rw [whole]
          have longer : seen.length ≤ (seen ++ chunk).length := by
            rw [List.length_append]
            exact Nat.le_add_right _ _
          omega

theorem run_fresh_rest {calls : List (List α × Nat)}
    (clean : (run S calls fresh).2.error = none) :
    (run S calls fresh).2.rest =
      (calls.map Prod.fst).flatten.drop (run S calls fresh).2.taken :=
  (run_rest calls fresh [] (fun _ => ⟨rfl, Nat.le_refl 0⟩) clean).1

/-- Nothing more to emit: rejected, or waiting for input. -/
def Drained (S : Scanner α F E) (session : Session α E) : Prop :=
  session.error = none → S.step session.rest = .needMore

theorem run_append (first second : List (List α × Nat)) (session : Session α E) :
    (run S (first ++ second) session).2 = (run S second (run S first session).2).2 := by
  induction first generalizing session with
  | nil => rfl
  | cons call first ih => exact ih _

/-- A call that had room and produced nothing leaves the session drained. -/
theorem drained_feed {session : Session α E} {chunk : List α} {quota : Nat} (room : 1 ≤ quota)
    (quiet : (feed S session chunk quota).1 = []) : Drained S (feed S session chunk quota).2 := by
  obtain ⟨quota, rfl⟩ := Nat.exists_eq_add_of_le' room
  intro clean
  cases state : session.error with
  | some e =>
      simp only [feed, state] at clean
      cases clean
  | none =>
      simp only [feed, state] at clean quiet ⊢
      cases h : S.step (session.rest ++ chunk) with
      | needMore =>
          rw [Scanner.take_needMore h]
          exact h
      | reject e =>
          rw [Scanner.take_reject h] at clean
          cases clean
      | emit f n =>
          rw [Scanner.take_emit h, Outcome.andThen_clean rfl] at quiet
          cases quiet

/-- A drained run has done exactly what one pass over its whole input does. -/
theorem run_drained {calls : List (List α × Nat)}
    (drained : Drained S (run S calls fresh).2) :
    S.all (calls.map Prod.fst).flatten =
      ⟨(run S calls fresh).1, (run S calls fresh).2.taken, (run S calls fresh).2.error⟩ := by
  have whole := total_run (S := S) calls [] fresh []
  have start : total S [] fresh ((calls.map Prod.fst).flatten ++ []) =
      S.all (calls.map Prod.fst).flatten := by
    simp [total, ahead, fresh, Outcome.andThen]
  rw [start] at whole
  rw [← whole]
  cases state : (run S calls fresh).2.error with
  | some e => simp [total, ahead, state, Outcome.andThen]
  | none =>
      have quiet := Scanner.all_needMore (drained state)
      simp [total, ahead, state, quiet, Outcome.andThen, Outcome.idle]

end Session

end Incremental
