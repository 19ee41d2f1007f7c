import McProtocol.Locality

/-! # The bytes a program takes

`Spans mode program L` says that a program returns exactly where a byte string of `L` stands in
front of its reader, and takes that string. What it returns is left out, so that the language of a
program with many values is put together from the languages of its parts.
-/

namespace McProtocol

structure Spans {α : Type} (mode : McDecodeMode) (program : Prog McReader α)
    (L : List UInt8 → Prop) : Prop where
  complete : ∀ {bytes rest : List UInt8} {reader : McReader}, L bytes → reader.mode = mode →
    reader.Before (bytes ++ rest) → ∃ a, program reader = (some a, reader.advance bytes.length)
  sound : ∀ {reader after : McReader} {data : List UInt8} {a : α}, reader.mode = mode →
    reader.Before data → program reader = (some a, after) →
      ∃ bytes rest, data = bytes ++ rest ∧ L bytes ∧ after = reader.advance bytes.length

/-- A string of `L`, and one of `M` behind it. -/
def Then (L M : List UInt8 → Prop) (bytes : List UInt8) : Prop :=
  ∃ head tail, bytes = head ++ tail ∧ L head ∧ M tail

/-- What is there only under a condition. -/
def Given (condition : Prop) (L : List UInt8 → Prop) (bytes : List UInt8) : Prop :=
  (condition ∧ L bytes) ∨ (¬ condition ∧ bytes = [])

/-- A string of each part of a list, one after the other. -/
def Parts (L : List UInt8 → Prop) (count : Nat) (bytes : List UInt8) : Prop :=
  ∃ parts : List (List UInt8), parts.length = count ∧ (∀ part ∈ parts, L part) ∧
    bytes = parts.flatten

theorem Accepts.spans {α : Type} {mode : McDecodeMode} {program : Prog McReader α}
    {G : α → List UInt8 → Prop} (accepts : Accepts mode program G) :
    Spans mode program fun bytes => ∃ a, G a bytes where
  complete := by
    rintro bytes rest reader ⟨a, derived⟩ moded before
    exact ⟨a, accepts.complete derived reader rest moded before⟩
  sound moded before run := by
    obtain ⟨bytes, rest, split, derived, moved⟩ := accepts.sound moded before run
    exact ⟨bytes, rest, split, ⟨_, derived⟩, moved⟩

namespace Spans

variable {α β : Type} {mode : McDecodeMode} {program : Prog McReader α}
variable {L M : List UInt8 → Prop}

theorem congr (spans : Spans mode program L) (same : ∀ bytes, L bytes ↔ M bytes) :
    Spans mode program M where
  complete derived := spans.complete ((same _).mpr derived)
  sound moded before run := by
    obtain ⟨bytes, rest, split, derived, moved⟩ := spans.sound moded before run
    exact ⟨bytes, rest, split, (same _).mp derived, moved⟩

theorem pure (a : α) : Spans mode (Pure.pure a) (· = []) :=
  (Accepts.pure a).spans.congr fun _ => by rw [exists_eq_left]

/-- What follows depends on the value, but its language does too. -/
theorem bindWith {k : α → Prog McReader β} {G : α → List UInt8 → Prop}
    {K : α → List UInt8 → Prop} (first : Accepts mode program G)
    (second : ∀ a, Spans mode (k a) (K a)) :
    Spans mode (program >>= k) fun bytes =>
      ∃ a head tail, bytes = head ++ tail ∧ G a head ∧ K a tail where
  complete := by
    rintro _ rest reader ⟨a, head, tail, rfl, derived, continued⟩ moded before
    rw [List.append_assoc] at before
    obtain ⟨b, run⟩ := (second a).complete continued
      (show (reader.advance head.length).mode = mode from moded) before.advance
    refine ⟨b, ?_⟩
    rw [Prog.bind_some (first.complete derived reader (tail ++ rest) moded before), run,
      McReader.advance_advance, List.length_append]
  sound := by
    intro reader after data b moded before run
    obtain ⟨a, middle, ranFirst, ranSecond⟩ := Prog.bind_eq_some run
    obtain ⟨head, rest, rfl, derived, rfl⟩ := first.sound moded before ranFirst
    obtain ⟨tail, rest, rfl, continued, rfl⟩ := (second a).sound
      (show (reader.advance head.length).mode = mode from moded) before.advance ranSecond
    exact ⟨head ++ tail, rest, by rw [List.append_assoc], ⟨a, head, tail, rfl, derived, continued⟩,
      by rw [McReader.advance_advance, List.length_append]⟩

/-- What follows is only known for the values that are returned. -/
theorem bindWhere {k : α → Prog McReader β} {P : α → Prop} (first : Spans mode program L)
    (returns : ∀ reader a after, program reader = (some a, after) → P a)
    (second : ∀ a, P a → Spans mode (k a) M) : Spans mode (program >>= k) (Then L M) where
  complete := by
    rintro _ rest reader ⟨head, tail, rfl, derived, continued⟩ moded before
    rw [List.append_assoc] at before
    obtain ⟨a, ran⟩ := first.complete derived moded before
    obtain ⟨b, run⟩ := (second a (returns _ _ _ ran)).complete continued
      (show (reader.advance head.length).mode = mode from moded) before.advance
    refine ⟨b, ?_⟩
    rw [Prog.bind_some ran, run, McReader.advance_advance, List.length_append]
  sound := by
    intro reader after data b moded before run
    obtain ⟨a, middle, ranFirst, ranSecond⟩ := Prog.bind_eq_some run
    obtain ⟨head, rest, rfl, derived, rfl⟩ := first.sound moded before ranFirst
    obtain ⟨tail, rest, rfl, continued, rfl⟩ := (second a (returns _ _ _ ranFirst)).sound
      (show (reader.advance head.length).mode = mode from moded) before.advance ranSecond
    exact ⟨head ++ tail, rest, by rw [List.append_assoc], ⟨head, tail, rfl, derived, continued⟩,
      by rw [McReader.advance_advance, List.length_append]⟩

theorem bind {k : α → Prog McReader β} (first : Spans mode program L)
    (second : ∀ a, Spans mode (k a) M) : Spans mode (program >>= k) (Then L M) :=
  first.bindWhere (P := fun _ => True) (fun _ _ _ _ => trivial) fun a _ => second a

/-- Behind it nothing is read. -/
theorem last {k : α → Prog McReader β} (first : Spans mode program L)
    (second : ∀ a, Spans mode (k a) (· = [])) : Spans mode (program >>= k) L :=
  (first.bind second).congr fun bytes => by
    constructor
    · rintro ⟨head, _, rfl, derived, rfl⟩
      rwa [List.append_nil]
    · intro derived
      exact ⟨bytes, [], (List.append_nil bytes).symm, derived, rfl⟩

/-- A check in front of the rest. -/
theorem guarded {check : Prog McReader Unit} {k : Unit → Prog McReader β} {condition : Prop}
    (first : Accepts mode check fun _ bytes => condition ∧ bytes = [])
    (second : Spans mode (k ()) L) :
    Spans mode (check >>= k) fun bytes => condition ∧ L bytes :=
  (bindWith first fun _ => second).congr fun bytes => by
    constructor
    · rintro ⟨_, _, tail, rfl, ⟨holds, rfl⟩, derived⟩
      exact ⟨holds, derived⟩
    · rintro ⟨holds, derived⟩
      exact ⟨(), [], bytes, rfl, ⟨holds, rfl⟩, derived⟩

/-- A saved offset. -/
theorem offset {k : Nat → Prog McReader β} (second : ∀ start, Spans mode (k start) L) :
    Spans mode (mcReaderOffset.run >>= k) L where
  complete {_ _ reader} derived moded before := (second reader.offset).complete derived moded before
  sound moded before run := (second _).sound moded before run

theorem readSince (start : Nat) : Spans mode (McProtocol.readSince start).run (· = []) where
  complete := by
    rintro _ rest reader rfl - -
    exact ⟨_, rfl⟩
  sound := by
    rintro reader after data slice - - run
    exact ⟨[], data, rfl, rfl, (congrArg Prod.snd run).symm⟩

theorem rescue (spans : Spans mode program L) (mark : McReader → McReader) :
    Spans mode (program.rescue mark) L where
  complete derived moded before := by
    obtain ⟨a, run⟩ := spans.complete derived moded before
    exact ⟨a, by rw [Prog.rescue, run]⟩
  sound := by
    intro reader after data a moded before run
    rw [Prog.rescue] at run
    rcases ran : program reader with ⟨_ | b, middle⟩
    · simp [ran] at run
    · rw [ran] at run
      exact spans.sound moded before (ran.trans run)

/-- What is read only under a condition. -/
theorem given {D : Discipline McReader} {condition : Prop} [Decidable condition]
    {program : Program D α} (spans : Spans mode program.run L) (absent : α) :
    Spans mode (if condition then program else Pure.pure absent).run (Given condition L) := by
  split_ifs with holds
  · exact spans.congr fun bytes => by simp [Given, holds]
  · exact (pure absent).congr fun bytes => by simp [Given, holds]

/-- Rounds that hand a value on: as long as it keeps the invariant they are of one language. -/
theorem iterateWhere {body : α → Prog McReader α} {P : α → Prop}
    (each : ∀ a, P a → Spans mode (body a) L)
    (keeps : ∀ a, P a → ∀ reader b after, body a reader = (some b, after) → P b) (n : Nat) (a : α)
    (start : P a) : Spans mode (Prog.iterate body n a) (Parts L n) := by
  induction n generalizing a with
  | zero =>
      refine (pure a).congr fun bytes => ⟨?_, ?_⟩
      · rintro rfl
        exact ⟨[], rfl, nofun, rfl⟩
      · rintro ⟨parts, length, -, rfl⟩
        rw [List.length_eq_zero_iff.mp length]
        rfl
  | succ n ih =>
      refine ((each a start).bindWhere (keeps a start) fun b kept => ih b kept).congr
        fun bytes => ⟨?_, ?_⟩
      · rintro ⟨head, _, rfl, first, parts, length, all, rfl⟩
        exact ⟨head :: parts, congrArg (· + 1) length, List.forall_mem_cons.mpr ⟨first, all⟩, rfl⟩
      · rintro ⟨parts, length, all, rfl⟩
        cases parts with
        | nil => cases length
        | cons head parts =>
            obtain ⟨first, all⟩ := List.forall_mem_cons.mp all
            exact ⟨head, parts.flatten, rfl, first, parts, Nat.succ.inj length, all, rfl⟩

/-- Rounds that are all of one language. -/
theorem iterate {body : α → Prog McReader α} (each : ∀ a, Spans mode (body a) L) (n : Nat) (a : α) :
    Spans mode (Prog.iterate body n a) (Parts L n) :=
  iterateWhere (P := fun _ => True) (fun a _ => each a) (fun _ _ _ _ _ _ => trivial) n a trivial

/-- Two strings of the language that one input begins with are the same. -/
theorem unambiguous (spans : Spans mode program L) {bytes other rest tail : List UInt8}
    (first : L bytes) (second : L other) (same : bytes ++ rest = other ++ tail) :
    bytes = other ∧ rest = tail := by
  have before := mcReaderInitMode_before (bytes ++ rest) mode none
  obtain ⟨a, run⟩ := spans.complete first rfl before
  rw [same] at before run
  obtain ⟨b, again⟩ := spans.complete second rfl before
  rw [run] at again
  have moved := congrArg McReader.offset (congrArg Prod.snd again)
  simp only [McReader.advance] at moved
  exact List.append_inj same (by omega)

/-- Lists of as many parts that one input begins with are the same. -/
theorem parts_unambiguous (spans : Spans mode program L) {parts others : List (List UInt8)}
    {rest tail : List UInt8} (each : ∀ part ∈ parts, L part) (other : ∀ part ∈ others, L part)
    (length : parts.length = others.length)
    (same : parts.flatten ++ rest = others.flatten ++ tail) : parts = others := by
  induction parts generalizing others with
  | nil => exact (List.length_eq_zero_iff.mp length.symm).symm
  | cons part parts ih =>
      cases others with
      | nil => cases length
      | cons first others =>
          obtain ⟨isPart, eachBehind⟩ := List.forall_mem_cons.mp each
          obtain ⟨isFirst, otherBehind⟩ := List.forall_mem_cons.mp other
          rw [List.flatten_cons, List.flatten_cons, List.append_assoc, List.append_assoc] at same
          obtain ⟨rfl, behind⟩ := spans.unambiguous isPart isFirst same
          rw [List.length_cons, List.length_cons] at length
          rw [ih eachBehind otherBehind (Nat.succ.inj length) behind]

/-- What strict mode takes compat mode takes as well. -/
theorem relaxed {program : ReadM α} (strict : Spans .strict program.run L)
    (compat : Spans .vanillaCompat program.run M) {bytes : List UInt8} (derived : L bytes) :
    M bytes := by
  have inside : bytes = bytes ++ [] := (List.append_nil bytes).symm
  let reader := mcReaderInitMode bytes .strict none
  let other := mcReaderInitMode bytes .vanillaCompat none
  have before : reader.Before (bytes ++ []) := inside ▸ mcReaderInitMode_before bytes .strict none
  have before' : other.Before bytes := mcReaderInitMode_before bytes .vanillaCompat none
  obtain ⟨a, run⟩ := strict.complete derived rfl before
  have permits : reader.Permits other := ⟨rfl, rfl, rfl, List.prefix_refl bytes, .inr rfl⟩
  have sound (mode : McDecodeMode) : (mcReaderInitMode bytes mode none).Sound :=
    ⟨Nat.zero_le _, fun _ => nofun, nofun⟩
  obtain ⟨returned, behind⟩ := program.lawful.replay reader other a (sound .strict)
    (sound .vanillaCompat) permits (congrArg Prod.fst run)
  rw [run] at behind
  rcases again : program.run other with ⟨_ | b, after⟩
  · rw [again] at returned
    cases returned
  · rw [again] at behind
    obtain ⟨taken, rest, split, held, rfl⟩ := compat.sound rfl before' again
    have length : taken.length = bytes.length := by
      have moved := behind.offset_eq
      simpa [other, reader, mcReaderInitMode] using moved
    obtain ⟨rfl, -⟩ := List.append_inj (inside.symm.trans split) length.symm
    exact held

end Spans

end McProtocol
