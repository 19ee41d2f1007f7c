import McProtocol.VarInt

/-! # What a reader program reads

`Accepts mode program G` says that in `mode` the program returns `a` after exactly
the byte strings of `G a`, whatever follows them. The rules mirror the operations
programs are written with, so a grammar is read off a program piece by piece.
-/

namespace McProtocol

open Base128 (IsCode encode)

/-- `bytes` in front of the cursor is read as `a`, whatever follows. -/
def Reads {α : Type} (mode : McDecodeMode) (program : Prog McReader α) (a : α)
    (bytes : List UInt8) : Prop :=
  ∀ (reader : McReader) (rest : List UInt8), reader.mode = mode →
    reader.Before (bytes ++ rest) → program reader = (some a, reader.advance bytes.length)

/-- The slice of what was just read. -/
theorem McReader.Before.since {reader : McReader} {bytes rest : List UInt8}
    (before : reader.Before (bytes ++ rest)) :
    (reader.advance bytes.length).since reader.offset = bytes := by
  simp only [McReader.since, McReader.advance, before.drop_eq, Nat.add_sub_cancel_left,
    List.take_left']

theorem Reads.slicedWith {α β : Type} {mode : McDecodeMode} {program : Prog McReader α} {a : α}
    {bytes : List UInt8} {f : α → List UInt8 → β} (reads : Reads mode program a bytes) :
    Reads mode (mcReaderOffset.run >>= fun start => program >>= fun a =>
      (readSince start).run >>= fun slice => Pure.pure (f a slice)) (f a bytes) bytes := by
  intro reader rest moded before
  change (program >>= fun a => (readSince reader.offset).run >>= fun slice =>
    Pure.pure (f a slice)) reader = _
  rw [Prog.bind_some (reads reader rest moded before)]
  exact Prod.ext (congrArg (fun slice => some (f a slice)) before.since) rfl

structure Accepts {α : Type} (mode : McDecodeMode) (program : Prog McReader α)
    (G : α → List UInt8 → Prop) : Prop where
  complete : ∀ {a : α} {bytes : List UInt8}, G a bytes → Reads mode program a bytes
  sound : ∀ {reader after : McReader} {data : List UInt8} {a : α}, reader.mode = mode →
    reader.Before data → program reader = (some a, after) →
      ∃ bytes rest, data = bytes ++ rest ∧ G a bytes ∧ after = reader.advance bytes.length

/-- Rounds of a loop: the last one says stop. -/
inductive Rounds (B : Bool → List UInt8 → Prop) : List UInt8 → Prop where
  | last {bytes : List UInt8} : B false bytes → Rounds B bytes
  | more {bytes rest : List UInt8} : B true bytes → Rounds B rest → Rounds B (bytes ++ rest)

/-- Parts that are each the code of a value are the codes of a list. -/
theorem exists_map_of_parts {α : Type} {P : α → Prop} {code : α → List UInt8}
    {parts : List (List UInt8)} (each : ∀ part ∈ parts, ∃ a, P a ∧ part = code a) :
    ∃ values : List α, (∀ a ∈ values, P a) ∧ parts = values.map code := by
  induction parts with
  | nil => exact ⟨[], nofun, rfl⟩
  | cons part parts ih =>
      simp only [List.mem_cons, forall_eq_or_imp] at each
      obtain ⟨⟨a, valid, rfl⟩, rest⟩ := each
      obtain ⟨values, all, rfl⟩ := ih rest
      exact ⟨a :: values, by simpa using ⟨valid, all⟩, rfl⟩

/-- Rounds that thread a value: each reads a part and hands the next one its value. -/
inductive Steps {α : Type} (B : α → α → List UInt8 → Prop) : α → List (List UInt8) → α → Prop where
  | nil (a : α) : Steps B a [] a
  | cons {a b c : α} {part : List UInt8} {parts : List (List UInt8)} : B a b part →
      Steps B b parts c → Steps B a (part :: parts) c

/-- Rounds that add to a list. -/
theorem steps_append_iff {β : Type} {R : β → List UInt8 → Prop} {start last : List β}
    {parts : List (List UInt8)} :
    Steps (fun before after part => ∃ b, after = before ++ [b] ∧ R b part) start parts last ↔
      ∃ items, start ++ items = last ∧ List.Forall₂ R items parts := by
  constructor
  · intro steps
    induction steps with
    | nil start => exact ⟨[], List.append_nil start, .nil⟩
    | cons first _ ih =>
        obtain ⟨b, rfl, derived⟩ := first
        obtain ⟨items, rfl, each⟩ := ih
        exact ⟨b :: items, by simp, .cons derived each⟩
  · rintro ⟨items, rfl, each⟩
    induction each generalizing start with
    | nil => rw [List.append_nil]; exact .nil start
    | @cons b part items parts derived _ ih =>
        have rest : Steps _ (start ++ [b]) parts (start ++ [b] ++ items) := ih
        rw [List.append_assoc, List.singleton_append] at rest
        exact .cons ⟨b, rfl, derived⟩ rest

/-- Rounds that thread a value, each of which reads a part and says whether there is another. -/
inductive Links {α : Type} (B : α → Bool → α → List UInt8 → Prop) : Nat → α → α → List UInt8 → Prop
  where
  | last {n : Nat} {a b : α} {part : List UInt8} : B a false b part → Links B (n + 1) a b part
  | more {n : Nat} {a b c : α} {part rest : List UInt8} : B a true b part → Links B n b c rest →
      Links B (n + 1) a c (part ++ rest)

namespace Accepts

variable {α β : Type} {mode : McDecodeMode} {program : Prog McReader α}
variable {G H : α → List UInt8 → Prop}

theorem congr (accepts : Accepts mode program G)
    (same : ∀ a bytes, G a bytes ↔ H a bytes) : Accepts mode program H where
  complete h := accepts.complete ((same _ _).mpr h)
  sound moded before run := by
    obtain ⟨bytes, rest, split, derived, moved⟩ := accepts.sound moded before run
    exact ⟨bytes, rest, split, (same _ _).mp derived, moved⟩

theorem pure (a : α) : Accepts mode (Pure.pure a) fun b bytes => b = a ∧ bytes = [] where
  complete := by
    rintro b bytes ⟨rfl, rfl⟩ reader rest - -
    rfl
  sound := by
    rintro reader after data b - - run
    simp only [Prog.pure_run, Prod.mk.injEq, Option.some.injEq] at run
    exact ⟨[], data, rfl, ⟨run.1.symm, rfl⟩, run.2.symm⟩

/-- Two readings of one input agree on the value and on where it ends. -/
theorem unambiguous (accepts : Accepts mode program G) {a b : α} {bytes other rest tail : List UInt8}
    (first : G a bytes) (second : G b other) (same : bytes ++ rest = other ++ tail) :
    a = b ∧ bytes = other ∧ rest = tail := by
  have before := mcReaderInitMode_before (bytes ++ rest) mode none
  have run := accepts.complete first _ rest rfl before
  rw [same] at before run
  have again := accepts.complete second _ tail rfl before
  rw [run] at again
  simp only [Prod.mk.injEq, Option.some.injEq, McReader.advance, McReader.mk.injEq] at again
  obtain ⟨value, -, length, -⟩ := again
  exact ⟨value, List.append_inj same (by omega)⟩

/-- What follows is only known for the values that are read. -/
theorem bindWhere {k : α → Prog McReader β} {K : α → β → List UInt8 → Prop} {P : α → Prop}
    (first : Accepts mode program G) (holds : ∀ {a bytes}, G a bytes → P a)
    (second : ∀ a, P a → Accepts mode (k a) (K a)) :
    Accepts mode (program >>= k) fun b bytes =>
      ∃ a head tail, bytes = head ++ tail ∧ G a head ∧ K a b tail where
  complete := by
    rintro b _ ⟨a, head, tail, rfl, derived, continued⟩ reader rest moded before
    rw [List.append_assoc] at before
    rw [Prog.bind_some (first.complete derived reader (tail ++ rest) moded before),
      (second a (holds derived)).complete continued (reader.advance head.length) rest moded
        before.advance,
      McReader.advance_advance, List.length_append]
  sound := by
    intro reader after data b moded before run
    obtain ⟨a, middle, ranFirst, ranSecond⟩ := Prog.bind_eq_some run
    obtain ⟨head, rest, rfl, derived, rfl⟩ := first.sound moded before ranFirst
    obtain ⟨tail, rest, rfl, continued, rfl⟩ :=
      (second a (holds derived)).sound (show (reader.advance head.length).mode = mode from moded)
        before.advance ranSecond
    exact ⟨head ++ tail, rest, by rw [List.append_assoc], ⟨a, head, tail, rfl, derived, continued⟩,
      by rw [McReader.advance_advance, List.length_append]⟩

theorem bind {k : α → Prog McReader β} {K : α → β → List UInt8 → Prop}
    (first : Accepts mode program G) (second : ∀ a, Accepts mode (k a) (K a)) :
    Accepts mode (program >>= k) fun b bytes =>
      ∃ a head tail, bytes = head ++ tail ∧ G a head ∧ K a b tail :=
  first.bindWhere (P := fun _ => True) (fun _ => trivial) fun a _ => second a

/-- The value is only named anew. -/
theorem map (accepts : Accepts mode program G) (f : α → β) :
    Accepts mode (f <$> program) fun b bytes => ∃ a, b = f a ∧ G a bytes :=
  (accepts.bind fun a => pure (f a)).congr fun b bytes => by
    constructor
    · rintro ⟨a, head, _, rfl, derived, rfl, rfl⟩
      exact ⟨a, rfl, (List.append_nil head).symm ▸ derived⟩
    · rintro ⟨a, rfl, derived⟩
      exact ⟨a, bytes, [], (List.append_nil bytes).symm, derived, rfl, rfl⟩

/-- A check in front of the rest. -/
theorem guarded {check : Prog McReader Unit} {rest : Unit → Prog McReader α} {condition : Prop}
    (first : Accepts mode check fun _ bytes => condition ∧ bytes = [])
    (second : Accepts mode (rest ()) G) :
    Accepts mode (check >>= rest) fun a bytes => condition ∧ G a bytes :=
  (first.bind fun _ => second).congr fun a bytes => by
    constructor
    · rintro ⟨_, _, tail, rfl, ⟨holds, rfl⟩, derived⟩
      exact ⟨holds, derived⟩
    · rintro ⟨holds, derived⟩
      exact ⟨(), [], bytes, rfl, ⟨holds, rfl⟩, derived⟩

theorem either {D : Discipline McReader} {program other : Program D α} {condition : Prop}
    [Decidable condition] (first : Accepts mode program.run G) (second : Accepts mode other.run H) :
    Accepts mode (if condition then program else other).run fun a bytes =>
      if condition then G a bytes else H a bytes := by
  split_ifs
  · exact first
  · exact second

/-- Nothing is read and nothing is returned. -/
theorem refused (never : ∀ reader, (program reader).1 = none) :
    Accepts mode program fun _ _ => False where
  complete := False.elim
  sound := by
    intro reader after data a _ _ run
    have silent := never reader
    rw [run] at silent
    simp at silent

/-- A check that does not read. -/
theorem check {bad : McReader → Prop} [DecidablePred bad] {mark : McReader → McReader}
    {condition : Prop} (same : ∀ reader, reader.mode = mode → (bad reader ↔ condition)) :
    Accepts mode (Prog.check bad mark) fun _ bytes => ¬ condition ∧ bytes = [] where
  complete := by
    rintro a bytes ⟨good, rfl⟩ reader rest moded -
    rw [Prog.check_good ((same reader moded).not.mpr good)]
    rfl
  sound := by
    intro reader after data a moded before run
    obtain ⟨good, rfl⟩ := Prog.check_eq_some run
    exact ⟨[], data, rfl, ⟨(same _ moded).not.mp good, rfl⟩, rfl⟩

theorem rescue (accepts : Accepts mode program G) (mark : McReader → McReader) :
    Accepts mode (program.rescue mark) G where
  complete derived reader rest moded before := by
    rw [Prog.rescue, accepts.complete derived reader rest moded before]
  sound := by
    intro reader after data a moded before run
    rw [Prog.rescue] at run
    rcases ran : program reader with ⟨_ | b, middle⟩
    · simp [ran] at run
    · rw [ran] at run
      exact accepts.sound moded before (ran.trans run)

/-- A saved offset that only errors mention. -/
theorem offset {k : Nat → Prog McReader α} (accepts : ∀ start, Accepts mode (k start) G) :
    Accepts mode (mcReaderOffset.run >>= k) G where
  complete derived reader rest moded before :=
    (accepts reader.offset).complete derived reader rest moded before
  sound moded before run := (accepts _).sound moded before run

/-- What a program returned, with the slice of everything it read. -/
theorem slicedWith {f : α → List UInt8 → β} (accepts : Accepts mode program G) :
    Accepts mode (mcReaderOffset.run >>= fun start => program >>= fun a =>
        (readSince start).run >>= fun slice => Pure.pure (f a slice))
      fun b bytes => ∃ a, G a bytes ∧ b = f a bytes := by
  constructor
  · rintro b bytes ⟨a, derived, rfl⟩
    exact (accepts.complete derived).slicedWith
  · intro reader after data b moded before run
    obtain ⟨a, middle, ran, returned⟩ := Prog.bind_eq_some
      (show (program >>= fun a => (readSince reader.offset).run >>= fun slice =>
        Pure.pure (f a slice)) reader = (some b, after) from run)
    obtain ⟨bytes, rest, rfl, derived, rfl⟩ := accepts.sound moded before ran
    have returned : (some (f a ((reader.advance bytes.length).since reader.offset)),
        reader.advance bytes.length) = (some b, after) := returned
    simp only [Prod.mk.injEq, Option.some.injEq, before.since] at returned
    exact ⟨bytes, rest, rfl, ⟨a, derived, returned.1.symm⟩, returned.2.symm⟩

/-- The slice of everything a program read. -/
theorem sliced (accepts : Accepts mode program G) :
    Accepts mode (mcReaderOffset.run >>= fun start => program >>= fun _ => (readSince start).run)
      fun slice bytes => slice = bytes ∧ ∃ a, G a bytes := by
  have plain := (accepts.slicedWith (f := fun _ slice => slice)).congr fun slice bytes =>
    (show (∃ a, G a bytes ∧ slice = bytes) ↔ slice = bytes ∧ ∃ a, G a bytes by
      constructor
      · rintro ⟨a, derived, same⟩
        exact ⟨same, a, derived⟩
      · rintro ⟨same, a, derived⟩
        exact ⟨a, derived, same⟩)
  have same : (fun start => program >>= fun _ => (readSince start).run >>= fun slice =>
      Pure.pure slice) = fun start => program >>= fun _ => (readSince start).run := by
    funext start
    congr 1
  rwa [same] at plain

/-- `n` rounds of a body that returns nothing. -/
theorem iterate {body : Unit → Prog McReader Unit} {B : List UInt8 → Prop}
    (accepts : Accepts mode (body ()) fun _ bytes => B bytes) (n : Nat) :
    Accepts mode (Prog.iterate body n ()) fun _ bytes =>
      ∃ parts : List (List UInt8), parts.length = n ∧ (∀ part ∈ parts, B part) ∧
        bytes = parts.flatten := by
  induction n with
  | zero =>
      refine (Accepts.pure ()).congr fun _ bytes => ⟨?_, ?_⟩
      · rintro ⟨-, rfl⟩; exact ⟨[], rfl, by simp, rfl⟩
      · rintro ⟨parts, length, -, rfl⟩
        rw [List.length_eq_zero_iff.mp length]
        exact ⟨rfl, rfl⟩
  | succ n ih =>
      refine (accepts.bind fun _ => ih).congr fun _ bytes => ⟨?_, ?_⟩
      · rintro ⟨_, head, _, rfl, first, parts, length, all, rfl⟩
        exact ⟨head :: parts, by simp [length], by simpa using ⟨first, all⟩, rfl⟩
      · rintro ⟨_ | ⟨head, parts⟩, length, all, rfl⟩
        · simp at length
        · simp only [List.mem_cons, forall_eq_or_imp] at all
          exact ⟨(), head, parts.flatten, rfl, all.1, parts, by simpa using length, all.2, rfl⟩

/-- `n` rounds of a body that threads a value. -/
theorem steps {body : α → Prog McReader α} {B : α → α → List UInt8 → Prop}
    (accepts : ∀ a, Accepts mode (body a) (B a)) (n : Nat) (a : α) :
    Accepts mode (Prog.iterate body n a) fun b bytes =>
      ∃ parts : List (List UInt8), parts.length = n ∧ Steps B a parts b ∧ bytes = parts.flatten := by
  induction n generalizing a with
  | zero =>
      refine (Accepts.pure a).congr fun b bytes => ⟨?_, ?_⟩
      · rintro ⟨rfl, rfl⟩
        exact ⟨[], rfl, .nil b, rfl⟩
      · rintro ⟨parts, length, steps, rfl⟩
        obtain rfl := List.length_eq_zero_iff.mp length
        cases steps
        exact ⟨rfl, rfl⟩
  | succ n ih =>
      refine ((accepts a).bind fun b => ih b).congr fun c bytes => ⟨?_, ?_⟩
      · rintro ⟨b, head, _, rfl, first, parts, length, steps, rfl⟩
        exact ⟨head :: parts, by simp [length], .cons first steps, rfl⟩
      · rintro ⟨parts, length, steps, rfl⟩
        cases steps with
        | nil => simp at length
        | cons first steps =>
            exact ⟨_, _, _, rfl, first, _, by simpa using length, steps, rfl⟩

/-- `n` rounds, each of which adds what it reads to a list. -/
theorem collect {β : Type} {item : Prog McReader β} {R : β → List UInt8 → Prop}
    (accepts : Accepts mode item R) (n : Nat) :
    Accepts mode (Prog.iterate (fun items => item >>= fun b => Pure.pure (items ++ [b])) n [])
      fun items bytes => ∃ parts : List (List UInt8), parts.length = n ∧
        List.Forall₂ R items parts ∧ bytes = parts.flatten := by
  have round (before : List β) : Accepts mode (item >>= fun b => Pure.pure (before ++ [b]))
      fun after part => ∃ b, after = before ++ [b] ∧ R b part := by
    refine (accepts.bind fun b => pure (before ++ [b])).congr fun after part => ⟨?_, ?_⟩
    · rintro ⟨b, head, _, rfl, derived, rfl, rfl⟩
      rw [List.append_nil]
      exact ⟨b, rfl, derived⟩
    · rintro ⟨b, rfl, derived⟩
      exact ⟨b, part, [], (List.append_nil part).symm, derived, rfl, rfl⟩
  refine (steps round n []).congr fun items bytes => ?_
  simp only [steps_append_iff, List.nil_append, exists_eq_left]

/-- At most `n` rounds of a body that threads a value and says whether to go on. -/
theorem loopWith {body : α → Prog McReader (Bool × α)} {B : α → Bool → α → List UInt8 → Prop}
    (accepts : ∀ a, Accepts mode (body a) fun step bytes => B a step.1 step.2 bytes) (n : Nat)
    (a : α) : Accepts mode (Prog.loopWith body n a) (Links B n a) := by
  induction n generalizing a with
  | zero =>
      refine (Accepts.refused fun _ => rfl).congr fun b bytes => ⟨False.elim, ?_⟩
      intro links
      cases links
  | succ n ih =>
      have rest (step : Bool × α) : Accepts mode
          (if step.1 = true then Prog.loopWith body n step.2 else Pure.pure step.2) fun b bytes =>
            if step.1 = true then Links B n step.2 b bytes else b = step.2 ∧ bytes = [] := by
        split_ifs
        · exact ih step.2
        · exact .pure step.2
      refine ((accepts a).bind rest).congr fun c bytes => ?_
      constructor
      · rintro ⟨⟨_ | _, b⟩, head, tail, rfl, first, behind⟩
        · simp only [Bool.false_eq_true, if_false] at behind
          obtain ⟨rfl, rfl⟩ := behind
          rw [List.append_nil]
          exact .last first
        · exact .more first behind
      · intro links
        cases links with
        | last first => exact ⟨(false, c), bytes, [], (List.append_nil _).symm, first, rfl, rfl⟩
        | @more _ _ b _ head tail first behind => exact ⟨(true, b), head, tail, rfl, first, behind⟩

/-- A check that looks ahead: what it insists on holds wherever the rest reads enough. -/
theorem peeked {peek : Prog McReader Unit} {rest : Unit → Prog McReader α} {condition : Prop}
    (keeps : ∀ {reader after : McReader} {u : Unit}, peek reader = (some u, after) →
      condition ∧ after = reader)
    (passes : ∀ {reader : McReader} {a : α} {bytes tail : List UInt8}, condition → G a bytes →
      reader.Before (bytes ++ tail) → peek reader = (some (), reader))
    (accepts : Accepts mode (rest ()) G) :
    Accepts mode (peek >>= rest) fun a bytes => condition ∧ G a bytes where
  complete := by
    rintro a bytes ⟨holds, derived⟩ reader tail moded before
    rw [Prog.bind_some (passes holds derived before)]
    exact accepts.complete derived reader tail moded before
  sound := by
    intro reader after data a moded before run
    obtain ⟨_, middle, peeked, ran⟩ := Prog.bind_eq_some run
    obtain ⟨holds, rfl⟩ := keeps peeked
    obtain ⟨bytes, tail, split, derived, moved⟩ := accepts.sound moded before ran
    exact ⟨bytes, tail, split, ⟨holds, derived⟩, moved⟩

/-- Two lists of as many parts are the same when they are the same bytes. -/
theorem flatten_unambiguous {program : Prog McReader Unit} {B : List UInt8 → Prop}
    (accepts : Accepts mode program fun _ bytes => B bytes) {parts others : List (List UInt8)}
    (each : ∀ part ∈ parts, B part) (other : ∀ part ∈ others, B part)
    (length : parts.length = others.length) (same : parts.flatten = others.flatten) :
    parts = others := by
  induction parts generalizing others with
  | nil => exact (List.length_eq_zero_iff.mp length.symm).symm
  | cons part parts ih =>
      cases others with
      | nil => simp at length
      | cons first others =>
          simp only [List.mem_cons, forall_eq_or_imp] at each other
          obtain ⟨-, rfl, rest⟩ := accepts.unambiguous (a := ()) (b := ()) each.1 other.1 same
          rw [ih each.2 other.2 (by simpa using length) rest]

/-- A loop whose body reads at least a byte whenever it asks to go on. -/
theorem readLoop {body : ReadM Bool} {B : Bool → List UInt8 → Prop}
    (accepts : Accepts mode body.run B) (progress : ∀ bytes, B true bytes → bytes ≠ []) :
    Accepts mode (McProtocol.readLoop body).run fun _ bytes => Rounds B bytes := by
  have complete {n : Nat} {bytes : List UInt8} (rounds : Rounds B bytes) (enough : bytes.length < n) :
      Reads mode (Prog.loopAtMost body.run n) () bytes := by
    induction rounds generalizing n with
    | last stop =>
        intro reader rest moded before
        obtain ⟨n, rfl⟩ : ∃ m, n = m + 1 := ⟨n - 1, by omega⟩
        exact Prog.loopAtMost_stop (accepts.complete stop reader rest moded before)
    | @more head tail goes _ ih =>
        intro reader rest moded before
        have positive := List.length_pos_of_ne_nil (progress head goes)
        rw [List.length_append] at enough
        rw [List.append_assoc] at before
        obtain ⟨n, rfl⟩ : ∃ m, n = m + 1 := ⟨n - 1, by omega⟩
        rw [Prog.loopAtMost_more (accepts.complete goes reader _ moded before),
          ih (by omega) (reader.advance head.length) rest moded before.advance,
          McReader.advance_advance, List.length_append]
  have sound {n : Nat} : ∀ {reader after : McReader} {data : List UInt8}, reader.mode = mode →
      reader.Before data → Prog.loopAtMost body.run n reader = (some (), after) →
        ∃ bytes rest, data = bytes ++ rest ∧ Rounds B bytes ∧
          after = reader.advance bytes.length := by
    induction n with
    | zero => intro reader after data _ _ run; simp [Prog.loopAtMost] at run
    | succ n ih =>
        intro reader after data moded before run
        rcases ran : body.run reader with ⟨_ | _ | _, middle⟩
        · rw [Prog.loopAtMost_none ran] at run; simp at run
        · rw [Prog.loopAtMost_stop ran] at run
          obtain ⟨bytes, rest, rfl, stop, rfl⟩ := accepts.sound moded before ran
          exact ⟨bytes, rest, rfl, .last stop, by simpa using run.symm⟩
        · rw [Prog.loopAtMost_more ran] at run
          obtain ⟨head, rest, rfl, goes, rfl⟩ := accepts.sound moded before ran
          obtain ⟨tail, rest, rfl, rounds, rfl⟩ := ih (show (reader.advance head.length).mode = mode from moded) before.advance run
          exact ⟨head ++ tail, rest, by rw [List.append_assoc], .more goes rounds,
            by rw [McReader.advance_advance, List.length_append]⟩
  constructor
  · intro a bytes rounds reader rest moded before
    refine complete rounds ?_ reader rest moded before
    have length := before.size_eq
    have inside := before.inside
    rw [List.length_append] at length
    simp only [mcReaderRemaining, before.clean, Bool.false_eq_true, false_or]
    rw [if_neg (by omega)]
    omega
  · intro reader after data a moded before run
    exact sound moded before run

end Accepts

section primitives

variable {mode : McDecodeMode} {condition : Prop} {_ : Decidable condition} {code : McErrorCode}

theorem accepts_bytes (n : Nat) :
    Accepts mode (mcReaderBytes n).run fun taken bytes => taken.length = n ∧ bytes = taken where
  complete := by
    rintro taken _ ⟨rfl, rfl⟩ reader rest - before
    exact mcReaderBytes_before before
  sound := by
    intro reader after data taken _ before run
    by_cases short : data.length < n
    · have refused : (mcReaderBytes n).run reader = _ := McReader.bytes_short_before before short
      rw [refused] at run
      simp at run
    · have length : (data.take n).length = n := by rw [List.length_take]; omega
      have parts : data.take n ++ data.drop n = data := List.take_append_drop n data
      have served := mcReaderBytes_before (parts.symm ▸ before)
      rw [length] at served
      rw [served] at run
      simp only [Prod.mk.injEq, Option.some.injEq] at run
      exact ⟨data.take n, data.drop n, parts.symm, ⟨run.1 ▸ length, run.1⟩,
        by rw [length]; exact run.2.symm⟩

theorem accepts_skip (n : Nat) :
    Accepts mode (mcReaderSkip n).run fun _ bytes => bytes.length = n :=
  ((accepts_bytes n).bind fun _ => .pure ()).congr fun _ bytes => by
    constructor
    · rintro ⟨taken, _, _, rfl, ⟨length, rfl⟩, -, rfl⟩
      simpa using length
    · intro length
      exact ⟨bytes, bytes, [], by simp, ⟨length, rfl⟩, rfl, rfl⟩

theorem accepts_u8 : Accepts mode mcReaderU8.run fun value bytes => bytes = [value] :=
  ((accepts_bytes 1).bind fun taken => .pure (taken.headD 0)).congr fun value bytes => by
    constructor
    · rintro ⟨taken, _, _, rfl, ⟨length, rfl⟩, rfl, rfl⟩
      obtain ⟨byte, rfl⟩ := List.length_eq_one_iff.mp length
      rfl
    · rintro rfl
      exact ⟨[value], [value], [], rfl, ⟨rfl, rfl⟩, rfl, rfl⟩

/-- A big-endian word of `size` bytes. -/
theorem accepts_word (size : Nat) :
    Accepts mode (do let bytes ← mcReaderBytes size
                     pure (BigEndian.word bytes) : ReadM Nat).run
      fun value bytes => value < 256 ^ size ∧ bytes = BigEndian.bytes size value :=
  ((accepts_bytes size).bind fun taken => .pure (BigEndian.word taken)).congr fun value bytes => by
    constructor
    · rintro ⟨taken, _, _, rfl, ⟨length, rfl⟩, rfl, rfl⟩
      rw [List.append_nil, BigEndian.bytes_word length, ← length]
      exact ⟨BigEndian.word_lt _, rfl⟩
    · rintro ⟨bound, rfl⟩
      refine ⟨BigEndian.bytes size value, _, [], by simp, ⟨by simp, rfl⟩, ?_, rfl⟩
      rw [BigEndian.word_bytes, Nat.mod_eq_of_lt bound]

theorem accepts_u16 : Accepts mode mcReaderU16.run fun value bytes =>
    value < 2 ^ 16 ∧ bytes = BigEndian.bytes 2 value := accepts_word 2

theorem accepts_u32 : Accepts mode mcReaderU32.run fun value bytes =>
    value < 2 ^ 32 ∧ bytes = BigEndian.bytes 4 value := accepts_word 4

theorem accepts_u64 : Accepts mode mcReaderU64.run fun value bytes =>
    value < 2 ^ 64 ∧ bytes = BigEndian.bytes 8 value := accepts_word 8

theorem accepts_signed {program : Prog McReader Nat} {width size : Nat} (positive : 0 < width)
    (accepts : Accepts mode program fun value bytes =>
      value < 2 ^ width ∧ bytes = BigEndian.bytes size value) :
    Accepts mode (program >>= fun encoded => Pure.pure (toSigned width encoded))
      fun value bytes => (-2 ^ (width - 1) ≤ value ∧ value < 2 ^ (width - 1)) ∧
        bytes = BigEndian.bytes size (toUnsigned width value) :=
  (accepts.bind fun encoded => .pure (toSigned width encoded)).congr fun value bytes => by
    constructor
    · rintro ⟨encoded, _, _, rfl, ⟨bound, rfl⟩, rfl, rfl⟩
      rw [List.append_nil, toUnsigned_toSigned bound]
      exact ⟨toSigned_bounds positive bound, rfl⟩
    · rintro ⟨⟨low, high⟩, rfl⟩
      exact ⟨toUnsigned width value, _, [], by simp, ⟨toUnsigned_lt width value, rfl⟩,
        (toSigned_toUnsigned positive low high).symm, rfl⟩

/-- The bytes of an `int16_t`. -/
abbrev int16Bytes (value : Int) : List UInt8 := BigEndian.bytes 2 (toUnsigned 16 value)

theorem accepts_i16 : Accepts mode mcReaderI16.run fun value bytes =>
    (-2 ^ 15 ≤ value ∧ value < 2 ^ 15) ∧ bytes = int16Bytes value :=
  accepts_signed (by norm_num) accepts_u16

/-- The bytes of an `int32_t`. -/
abbrev int32Bytes (value : Int) : List UInt8 := BigEndian.bytes 4 (toUnsigned 32 value)

theorem accepts_i32 : Accepts mode mcReaderI32.run fun value bytes =>
    IsInt32 value ∧ bytes = int32Bytes value :=
  accepts_signed (by norm_num) accepts_u32

theorem accepts_i64 : Accepts mode mcReaderI64.run fun value bytes =>
    IsInt64 value ∧ bytes = BigEndian.bytes 8 (toUnsigned 64 value) :=
  accepts_signed (by norm_num) accepts_u64

theorem accepts_i8 : Accepts mode mcReaderI8.run fun value bytes =>
    (-2 ^ 7 ≤ value ∧ value < 2 ^ 7) ∧ bytes = [UInt8.ofNat (toUnsigned 8 value)] :=
  (accepts_u8.map fun encoded => toSigned 8 encoded.toNat).congr fun value bytes => by
    constructor
    · rintro ⟨encoded, rfl, rfl⟩
      refine ⟨toSigned_bounds (by norm_num) encoded.toNat_lt, ?_⟩
      rw [toUnsigned_toSigned encoded.toNat_lt, UInt8.ofNat_toNat]
    · rintro ⟨⟨low, high⟩, rfl⟩
      refine ⟨UInt8.ofNat (toUnsigned 8 value), ?_, rfl⟩
      rw [UInt8.toNat_ofNat', Nat.mod_eq_of_lt (toUnsigned_lt 8 value),
        toSigned_toUnsigned (by norm_num) low high]

theorem rejectWhen_eq_some {condition : Prop} {_ : Decidable condition} {code : McErrorCode}
    {back : Nat} {reader after : McReader} {u : Unit}
    (passed : (rejectWhen condition code back).run reader = (some u, after)) : ¬ condition := by
  have checked : Prog.check (fun _ => condition)
    (fun reader : McReader => reader.fail code (reader.offset - back)) reader =
      (some u, after) := passed
  exact (Prog.check_eq_some checked).1

theorem accepts_rejectWhen (back : Nat) :
    Accepts mode (rejectWhen condition code back).run fun _ bytes => ¬ condition ∧ bytes = [] :=
  .check fun _ _ => Iff.rfl

theorem accepts_rejectAt (start : Nat) :
    Accepts mode (rejectAt condition code start).run fun _ bytes => ¬ condition ∧ bytes = [] :=
  .check fun _ _ => Iff.rfl

theorem accepts_rejectStrict (back : Nat) :
    Accepts .strict (rejectStrict condition code back).run fun _ bytes =>
      ¬ condition ∧ bytes = [] :=
  .check fun _ moded => ⟨And.right, fun holds => ⟨moded, holds⟩⟩

theorem accepts_refuseFailed : Accepts mode refuseFailed.run fun _ bytes => bytes = [] where
  complete := by
    rintro _ _ rfl reader rest - before
    exact refuseFailed_clean before.clean
  sound := by
    intro reader after data _ _ before run
    rw [refuseFailed_clean before.clean] at run
    simp only [Prod.mk.injEq] at run
    exact ⟨[], data, rfl, rfl, run.2.symm⟩

theorem accepts_require :
    Accepts mode (require condition).run fun _ bytes => condition ∧ bytes = [] :=
  Accepts.congr (.check fun _ _ => Iff.rfl) fun _ _ => by rw [not_not]

/-- What strict mode insists on. -/
theorem accepts_requireStrict :
    Accepts .strict (requireStrict condition).run fun _ bytes => condition ∧ bytes = [] :=
  Accepts.congr (.check fun reader moded => show (reader.mode = .strict ∧ ¬ condition) ↔ ¬ condition
    from ⟨And.right, fun fails => ⟨moded, fails⟩⟩) fun _ _ => by rw [not_not]

theorem accepts_bool : Accepts .strict mcReaderBool.run fun value bytes =>
    bytes = [if value then 1 else 0] :=
  (accepts_u8.bind fun encoded =>
    .guarded (accepts_rejectStrict 1) (.pure (encoded != 0))).congr fun value bytes => by
    constructor
    · rintro ⟨encoded, _, _, rfl, rfl, low, rfl, rfl⟩
      have small : encoded = 0 ∨ encoded = 1 := by
        rcases Nat.le_one_iff_eq_zero_or_eq_one.mp (UInt8.le_iff_toNat_le.mp (UInt8.not_lt.mp low))
          with zero | one
        · exact .inl (UInt8.toNat_inj.mp zero)
        · exact .inr (UInt8.toNat_inj.mp one)
      rcases small with rfl | rfl <;> rfl
    · rintro rfl
      refine ⟨if value then 1 else 0, _, [], rfl, rfl, ?_, ?_, rfl⟩
      · cases value <;> decide
      · cases value <;> rfl

theorem accepts_float : Accepts mode mcReaderFloat.run fun value bytes =>
    bytes = BigEndian.bytes 4 value.bits.toNat :=
  (accepts_u32.map fun bits => (⟨.ofNat _ bits⟩ : McFloat)).congr fun value bytes => by
    constructor
    · rintro ⟨bits, rfl, small, rfl⟩
      have same : (BitVec.ofNat 32 bits).toNat = bits := by
        rw [BitVec.toNat_ofNat, Nat.mod_eq_of_lt small]
      exact congrArg _ same.symm
    · rintro rfl
      exact ⟨value.bits.toNat, by rw [BitVec.ofNat_toNat]; rfl, value.bits.isLt, rfl⟩

theorem accepts_double : Accepts mode mcReaderDouble.run fun value bytes =>
    bytes = BigEndian.bytes 8 value.bits.toNat :=
  (accepts_u64.map fun bits => (⟨.ofNat _ bits⟩ : McDouble)).congr fun value bytes => by
    constructor
    · rintro ⟨bits, rfl, small, rfl⟩
      have same : (BitVec.ofNat 64 bits).toNat = bits := by
        rw [BitVec.toNat_ofNat, Nat.mod_eq_of_lt small]
      exact congrArg _ same.symm
    · rintro rfl
      exact ⟨value.bits.toNat, by rw [BitVec.ofNat_toNat]; rfl, value.bits.isLt, rfl⟩

theorem accepts_reject {α : Type} (back : Nat) :
    Accepts mode (reject code back : ReadM α).run fun _ _ => False :=
  .refused fun _ => rfl

theorem accepts_orReject {α : Type} {program : ReadM α} {G : α → List UInt8 → Prop}
    (accepts : Accepts mode program.run G) (back : Nat) :
    Accepts mode (orReject code back program).run G :=
  accepts.rescue _

/-- A code of a word of `width` bits, in at most `groups` bytes; over-long codes are
left to compat mode. -/
structure IsWord (groups width : Nat) (mode : McDecodeMode) (value : Int) (code : List UInt8) :
    Prop where
  isCode : IsCode code
  short : code.length ≤ groups
  bound : Base128.value code < 2 ^ width
  signed : toSigned width (Base128.value code) = value
  canonical : mode = .strict → code = encode (Base128.value code)

/-- What `mc_reader_varint` reads as `value`. -/
abbrev IsVarint (mode : McDecodeMode) : Int → List UInt8 → Prop := IsWord 5 32 mode

/-- What `mc_reader_varlong` reads as `value`. -/
abbrev IsVarlong (mode : McDecodeMode) : Int → List UInt8 → Prop := IsWord 10 64 mode

theorem isWord_iff {groups width cap : Nat} {value : Int} {code rest : List UInt8}
    (total : cap * 128 ^ (groups - 1) = 2 ^ width) :
    IsWord groups width mode value code ↔
      ∃ word, groupsAt groups cap mode groups 0 (code ++ rest) = .done word code.length ∧
        toSigned width word = value := by
  constructor
  · intro isWord
    refine ⟨Base128.value code, groupsAt_done_iff.mpr ⟨code, isWord.isCode, isWord.short,
      List.prefix_append _ _, rfl, rfl, ?_, isWord.canonical⟩, isWord.signed⟩
    rw [total]
    exact isWord.bound
  · rintro ⟨word, done, signed⟩
    obtain ⟨same, isCode, short, ⟨rest', split⟩, rfl, length, bound, canonical⟩ :=
      groupsAt_done_iff.mp done
    obtain ⟨rfl, rfl⟩ := List.append_inj split length
    rw [total] at bound
    exact ⟨isCode, short, bound, signed, canonical⟩

theorem IsWord.int32 {groups : Nat} {value : Int} {code : List UInt8}
    (isWord : IsWord groups 32 mode value code) : IsInt32 value :=
  isWord.signed ▸ isInt32_toSigned isWord.bound

/-- What strict mode reads every mode reads. -/
theorem IsWord.relax {groups width : Nat} {value : Int} {code : List UInt8}
    (isWord : IsWord groups width .strict value code) : IsWord groups width mode value code :=
  { isWord with canonical := fun _ => isWord.canonical rfl }

/-- Compat mode reads what any mode reads. -/
theorem IsWord.compat {groups width : Nat} {value : Int} {code : List UInt8}
    (isWord : IsWord groups width mode value code) : IsWord groups width .vanillaCompat value code :=
  { isWord with canonical := nofun }

theorem isVarint_encode {value : Int} (int : IsInt32 value) :
    IsVarint mode value (encodeVarint value) :=
  (isWord_iff (show 16 * 128 ^ (5 - 1) = 2 ^ 32 by norm_num)).mpr
    ⟨_, groupsAt_encodeVarint value mode [], toSigned_toUnsigned_32 int⟩

theorem isVarint_byte {byte : UInt8} (small : byte.toNat < 128) :
    IsVarint mode byte.toNat [byte] where
  isCode := .last small
  short := by simp
  bound := by simp only [Base128.value]; omega
  signed := by
    have same : Base128.value [byte] = byte.toNat := by simp only [Base128.value]; omega
    rw [same, toSigned, if_pos (by omega)]
  canonical _ := by
    have same : Base128.value [byte] = byte.toNat := by simp only [Base128.value]; omega
    rw [same, encode, if_pos small, UInt8.ofNat_toNat]

/-- In strict mode a value has one code. -/
theorem isWord_strict {groups width : Nat} {value : Int} {code : List UInt8}
    (positive : 0 < width) (some : 0 < groups) (room : 2 ^ width ≤ 128 ^ groups) :
    IsWord groups width .strict value code ↔
      (-2 ^ (width - 1) ≤ value ∧ value < 2 ^ (width - 1)) ∧
        code = encode (toUnsigned width value) := by
  constructor
  · intro isWord
    refine ⟨isWord.signed ▸ toSigned_bounds positive isWord.bound, ?_⟩
    rw [← isWord.signed, toUnsigned_toSigned isWord.bound]
    exact isWord.canonical rfl
  · rintro ⟨⟨low, high⟩, rfl⟩
    have small := toUnsigned_lt width value
    exact
      { isCode := Base128.isCode_encode _
        short := Base128.encode_length_le some (small.trans_le room)
        bound := by rwa [Base128.value_encode]
        signed := by rw [Base128.value_encode, toSigned_toUnsigned positive low high]
        canonical := fun _ => by rw [Base128.value_encode] }

theorem isVarint_strict {value : Int} {code : List UInt8} :
    IsVarint .strict value code ↔ IsInt32 value ∧ code = encodeVarint value := by
  rw [encodeVarint, encodeGroups_eq]
  exact isWord_strict (by norm_num) (by norm_num) (by norm_num)

theorem IsVarint.strict {value : Int} {code : List UInt8}
    (isVarint : IsVarint .strict value code) : code = encodeVarint value :=
  (isVarint_strict.mp isVarint).2

theorem isVarlong_strict {value : Int} {code : List UInt8} :
    IsVarlong .strict value code ↔ IsInt64 value ∧ code = encodeGroups (toUnsigned 64 value) := by
  rw [encodeGroups_eq]
  exact isWord_strict (by norm_num) (by norm_num) (by norm_num)

theorem accepts_word_groups {groups width cap mask : Nat} (cut : Cut groups mask cap)
    (total : cap * 128 ^ (groups - 1) = 2 ^ width) :
    Accepts mode (do let result ← readGroups groups mask groups 0
                     pure (toSigned width result) : ReadM Int).run
      (IsWord groups width mode) where
  complete := by
    rintro value code isWord reader rest rfl before
    obtain ⟨word, done, signed⟩ := (isWord_iff total).mp isWord
    exact (readWord_iff cut before).mpr ⟨word, _, done, signed, rfl⟩
  sound := by
    rintro reader after data value rfl before run
    obtain ⟨word, taken, done, signed, rfl⟩ := (readWord_iff cut before).mp run
    obtain ⟨code, _, _, ⟨rest, rfl⟩, _, rfl, _, _⟩ := groupsAt_done_iff.mp done
    exact ⟨code, rest, rfl, (isWord_iff total).mpr ⟨word, done, signed⟩, rfl⟩

theorem accepts_varint : Accepts mode mcReaderVarint.run (IsVarint mode) :=
  accepts_word_groups cut_32 (by norm_num)

/-- A reader that gives bytes is in order. -/
theorem McReader.before_of_bytes {reader after : McReader} {size : Nat} {taken : List UInt8}
    (run : McReader.bytes size reader = (some taken, after)) :
    reader.Before (reader.data.drop reader.offset) := by
  unfold McReader.bytes at run
  by_cases failed : reader.failed = true
  · rw [if_pos failed] at run
    cases run
  · by_cases outside : reader.size < reader.offset
    · rw [if_neg failed, if_pos outside] at run
      cases run
    · exact ⟨eq_false_of_ne_true failed, not_lt.mp outside, rfl⟩

theorem mcReaderVarint_int32 {reader after : McReader} {value : Int}
    (run : mcReaderVarint.run reader = (some value, after)) : IsInt32 value := by
  obtain ⟨_, _, groups, _⟩ := Prog.bind_eq_some run
  obtain ⟨_, _, byte, _⟩ := Prog.bind_eq_some groups
  obtain ⟨_, _, taken, _⟩ := Prog.bind_eq_some byte
  obtain ⟨_, _, _, isVarint, _⟩ := accepts_varint.sound rfl (McReader.before_of_bytes taken) run
  exact isVarint.int32

theorem mcReaderVarint_byte {reader : McReader} {byte : UInt8} {rest : List UInt8}
    (small : byte.toNat < 128) (before : reader.Before (byte :: rest)) :
    mcReaderVarint.run reader = (some (byte.toNat : Int), reader.advance 1) :=
  accepts_varint.complete (isVarint_byte small) reader rest rfl before

theorem accepts_varlong : Accepts mode mcReaderVarlong.run (IsVarlong mode) :=
  accepts_word_groups cut_64 (by norm_num)

/-- A length and as many bytes. -/
theorem accepts_stringBounded (maxSize : Nat) :
    Accepts mode (mcReaderStringBounded maxSize).run fun text bytes =>
      text.length ≤ maxSize ∧ ∃ size, IsVarint mode text.length size ∧ bytes = size ++ text := by
  refine Accepts.congr (Accepts.offset fun start => accepts_varint.bind fun size =>
    (accepts_rejectAt start).bind fun _ => (accepts_rejectAt start).bind fun _ =>
      accepts_bytes size.toNat) fun text bytes => ⟨?_, ?_⟩
  · rintro ⟨size, code, _, rfl, isVarint, _, _, _, rfl, ⟨natural, rfl⟩, _, _, _, rfl,
      ⟨fits, rfl⟩, length, tail⟩
    have same : (text.length : Int) = size := by omega
    exact ⟨by omega, code, same ▸ isVarint, by simp [tail]⟩
  · rintro ⟨fits, code, isVarint, rfl⟩
    exact ⟨text.length, code, text, rfl, isVarint, (), [], text, rfl, ⟨by omega, rfl⟩, (), [],
      text, rfl, ⟨by simpa using fits, rfl⟩, by simp, rfl⟩

theorem accepts_string :
    Accepts mode mcReaderString.run fun text bytes =>
      text.length ≤ mcDefaultMaxStringBytes ∧
        ∃ size, IsVarint mode text.length size ∧ bytes = size ++ text :=
  accepts_stringBounded mcDefaultMaxStringBytes

/-- A size that is not negative and as many bytes. -/
theorem sized_iff {value bytes : List UInt8} (encode : Int → List UInt8) :
    (∃ (size : Int) (head tail : List UInt8), bytes = head ++ tail ∧
        (IsInt32 size ∧ head = encode size) ∧ ¬ size < 0 ∧ value.length = size.toNat ∧
        tail = value) ↔
      value.length ≤ int32Max ∧ bytes = encode value.length ++ value := by
  constructor
  · rintro ⟨size, _, tail, rfl, ⟨int, rfl⟩, natural, length, rfl⟩
    obtain rfl : size = tail.length := by omega
    have high := int.2
    exact ⟨by simp only [int32Max]; omega, rfl⟩
  · rintro ⟨short, rfl⟩
    simp only [int32Max] at short
    exact ⟨value.length, _, value, rfl, ⟨⟨by omega, by omega⟩, rfl⟩, by omega, by omega, rfl⟩

theorem accepts_bufferI32 : Accepts mode mcReaderBufferI32.run fun value bytes =>
    value.length ≤ int32Max ∧
      bytes = BigEndian.bytes 4 (toUnsigned 32 value.length) ++ value :=
  (accepts_i32.bind fun size => .guarded (accepts_rejectWhen 4) (accepts_bytes size.toNat)).congr
    fun _ _ => sized_iff fun size => BigEndian.bytes 4 (toUnsigned 32 size)

theorem accepts_bufferVarint : Accepts .strict mcReaderBufferVarint.run fun value bytes =>
    value.length ≤ int32Max ∧ bytes = encodeVarint value.length ++ value := by
  refine Accepts.congr (Accepts.offset fun start => accepts_varint.bind fun size =>
    Accepts.guarded (accepts_rejectAt start) (accepts_bytes size.toNat)) fun value bytes => ?_
  simp only [isVarint_strict]
  exact sized_iff encodeVarint

end primitives

end McProtocol
