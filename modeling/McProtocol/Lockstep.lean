import McProtocol.Grammar
import McProtocol.Typed.Decode
import McProtocol.Lib.Relational

/-! # Two readers of one input

Two decoders of one packet are compared by running them side by side. As long as both
readers stand at the same place of the same input in the same mode, a program that
both run returns the same value to both.
-/

namespace McProtocol

section
variable {condition : Prop} {_ : Decidable condition} {code : McErrorCode} {back : Nat}
variable {reader after : McReader} {u : Unit}

theorem requireStrict_eq_some
    (passed : (requireStrict condition).run reader = (some u, after)) :
    (reader.mode = .strict → condition) ∧ after = reader := by
  have checked : Prog.check (fun reader : McReader => reader.mode = .strict ∧ ¬ condition) id
    reader = (some u, after) := passed
  obtain ⟨good, unmoved⟩ := Prog.check_eq_some checked
  exact ⟨fun strict => by_contra fun bad => good ⟨strict, bad⟩, unmoved⟩

theorem rejectStrict_eq_some
    (passed : (rejectStrict condition code back).run reader = (some u, after)) :
    (reader.mode = .strict → ¬ condition) ∧ after = reader := by
  have checked : Prog.check (fun reader : McReader => reader.mode = .strict ∧ condition)
    (fun reader => reader.fail code (reader.offset - back)) reader = (some u, after) := passed
  obtain ⟨good, unmoved⟩ := Prog.check_eq_some checked
  exact ⟨fun strict bad => good ⟨strict, bad⟩, unmoved⟩

end

/-- Both stand at the same place of the same input. -/
structure McReader.Lockstep (reader other : McReader) : Prop where
  left_sound : reader.Sound
  right_sound : other.Sound
  permits : reader.Permits other
  data_eq : other.data = reader.data
  mode_eq : other.mode = reader.mode

namespace McReader.Lockstep

variable {reader other : McReader}

theorem symm (lockstep : reader.Lockstep other) : other.Lockstep reader where
  left_sound := lockstep.right_sound
  right_sound := lockstep.left_sound
  permits :=
    ⟨lockstep.permits.right_clean, lockstep.permits.left_clean, lockstep.permits.offset_eq.symm,
      lockstep.data_eq ▸ List.prefix_rfl, .inl lockstep.mode_eq.symm⟩
  data_eq := lockstep.data_eq.symm
  mode_eq := lockstep.mode_eq.symm

/-- Both come to the end together. -/
theorem finished (lockstep : reader.Lockstep other) (whole : reader.offset = reader.size) :
    other.failed = false ∧ other.offset = other.size := by
  refine ⟨lockstep.permits.right_clean, ?_⟩
  rw [lockstep.permits.offset_eq, whole, McReader.size, McReader.size, lockstep.data_eq]

end McReader.Lockstep

/-- Run in lockstep, the programs return related values and stay in lockstep. -/
def Alike {α β : Type} (p : Prog McReader α) (q : Prog McReader β) (related : α → β → Prop) : Prop :=
  Prog.Together McReader.Lockstep p q fun a b reader other =>
    related a b ∧ reader.Lockstep other

namespace Alike

variable {α β γ δ : Type} {p : Prog McReader α} {q : Prog McReader β} {related : α → β → Prop}
variable {protocol : Int}

theorem of_lawful (lawful : (decodeDiscipline protocol).Lawful p) : Alike p p Eq := by
  intro reader other a b reader' other' before left right
  obtain ⟨value, below⟩ := lawful.replay reader other a before.left_sound before.right_sound
    before.permits (by rw [left])
  have leftMoved := lawful.steps reader before.left_sound
  have rightMoved := lawful.steps other before.right_sound
  have leftKept := lawful.keeps reader before.left_sound
  have rightKept := lawful.keeps other before.right_sound
  rw [left] at below leftMoved leftKept
  rw [right] at value below rightMoved rightKept
  refine ⟨(Option.some.inj value).symm, leftKept, rightKept, below, ?_, ?_⟩
  · rw [leftMoved.data_eq, rightMoved.data_eq, before.data_eq]
  · rw [leftMoved.mode_eq, rightMoved.mode_eq, before.mode_eq]

/-- One program on both sides. -/
theorem same (program : DecodeM protocol α) : Alike program.run program.run Eq :=
  of_lawful program.lawful

/-- One reader on both sides. -/
theorem reader (program : ReadM α) : Alike program.run program.run Eq :=
  of_lawful (@decode_of_reader 0 α program.run program.lawful)

theorem pure {a : α} {b : β} (values : related a b) : Alike (Pure.pure a) (Pure.pure b) related :=
  Prog.Together.pure fun _ _ readers => ⟨values, readers⟩

theorem bind {k : α → Prog McReader γ} {l : β → Prog McReader δ} {last : γ → δ → Prop}
    (first : Alike p q related) (second : ∀ a b, related a b → Alike (k a) (l b) last) :
    Alike (p >>= k) (q >>= l) last :=
  Prog.Together.bind first fun a b s t c d s' t' before =>
    second a b before.1 s t c d s' t' before.2

theorem assocRight {r : Prog McReader γ} {k : γ → Prog McReader δ} {l : δ → Prog McReader β}
    (alike : Alike p (r >>= fun c => k c >>= l) related) : Alike p (r >>= k >>= l) related := by
  rw [Prog.bind_assoc]
  exact alike

/-- The right side goes on alone. -/
theorem goOnRight {l : β → Prog McReader δ} {last : α → δ → Prop} (first : Alike p q related)
    (second : ∀ a b, related a b → Alike (Pure.pure a) (l b) last) : Alike p (q >>= l) last := by
  rw [← Prog.bind_pure p]
  exact bind first second

/-- A value both sides read. -/
theorem both {program : ReadM α} {k : α → Prog McReader γ} {l : α → Prog McReader δ}
    {last : γ → δ → Prop} (rest : ∀ a, Alike (k a) (l a) last) :
    Alike (program.run >>= k) (program.run >>= l) last :=
  bind (reader program) fun a _ values => values ▸ rest a

theorem rescueRight {mark : McReader → McReader} (alike : Alike p q related) :
    Alike p (q.rescue mark) related :=
  Prog.Together.rescueRight alike mark

theorem rescueBindRight {mark : McReader → McReader} {r : Prog McReader γ} {k : γ → Prog McReader β}
    (alike : Alike p (r >>= k) related) : Alike p (r.rescue mark >>= k) related :=
  Prog.Together.rescueBindRight alike mark

section checks

variable {condition : Prop} {_ : Decidable condition} {code : McErrorCode} {back start : Nat}

theorem requireLeft {k : Unit → Prog McReader α} (rest : condition → Alike (k ()) q related) :
    Alike ((require condition).run >>= k) q related :=
  Prog.Together.checkLeft (fun _ _ _ => Iff.rfl) fun holds => rest (not_not.mp holds)

theorem requireRight {k : Unit → Prog McReader β} (rest : condition → Alike p (k ()) related) :
    Alike p ((require condition).run >>= k) related :=
  Prog.Together.checkRight (fun _ _ _ => Iff.rfl) fun holds => rest (not_not.mp holds)

theorem rejectAtLeft {k : Unit → Prog McReader α} (rest : ¬ condition → Alike (k ()) q related) :
    Alike ((rejectAt condition code start).run >>= k) q related :=
  Prog.Together.checkLeft (fun _ _ _ => Iff.rfl) rest

theorem rejectAtRight {k : Unit → Prog McReader β}
    (rest : ¬ condition → Alike p (k ()) related) :
    Alike p ((rejectAt condition code start).run >>= k) related :=
  Prog.Together.checkRight (fun _ _ _ => Iff.rfl) rest

/-- What only strict mode checks may be ignored. -/
theorem rejectStrictRight {k : Unit → Prog McReader β} (rest : Alike p (k ()) related) :
    Alike p ((rejectStrict condition code back).run >>= k) related :=
  Prog.Together.bindRight
    (fun _ _ _ _ before passed => (rejectStrict_eq_some passed).2 ▸ before) fun _ => rest

theorem requireStrictRight {k : Unit → Prog McReader β} (rest : Alike p (k ()) related) :
    Alike p ((requireStrict condition).run >>= k) related :=
  Prog.Together.bindRight
    (fun _ _ _ _ before passed => (requireStrict_eq_some passed).2 ▸ before) fun _ => rest

end checks

/-- An offset that only slices and errors mention. -/
theorem offsetRight {k : Nat → Prog McReader β} (rest : ∀ start, Alike p (k start) related) :
    Alike p (mcReaderOffset.run >>= k) related :=
  fun s t a b s' t' before left right => rest _ s t a b s' t' before left right

/-- A slice taken on the right. -/
theorem sinceRight {k : List UInt8 → Prog McReader β} {start : Nat}
    (rest : ∀ slice, Alike p (k slice) related) :
    Alike p ((readSince start).run >>= k) related :=
  fun s t a b s' t' before left right => rest _ s t a b s' t' before left right

end Alike

/-- Texts of two bounds are read alike. -/
theorem alike_stringBounded (maxSize other : Nat) :
    Alike (mcReaderStringBounded maxSize).run (mcReaderStringBounded other).run Eq := by
  refine Alike.both fun leftStart => ?_
  refine Alike.both fun size => ?_
  refine Alike.rejectAtLeft fun _ => Alike.rejectAtLeft fun _ => ?_
  refine Alike.rejectAtRight fun _ => Alike.rejectAtRight fun _ => ?_
  exact Alike.reader (mcReaderBytes size.toNat)

theorem alike_nonempty (maxSize other : Nat) :
    Alike (mcReaderStringBounded maxSize).run (readNonempty other).run Eq := by
  intro reader reader' text text' after after' before left right
  obtain ⟨read, middle, ran, checked⟩ := Prog.bind_eq_some right
  obtain ⟨_, last, passed, returned⟩ := Prog.bind_eq_some checked
  obtain ⟨-, unmoved⟩ := require_eq_some passed
  subst unmoved
  cases returned
  exact alike_stringBounded maxSize other _ _ _ _ _ _ before left ran

/-- In lockstep, the second program returns a related value wherever the first one returns. -/
def Leads {α β : Type} (p : Prog McReader α) (q : Prog McReader β) (related : α → β → Prop) : Prop :=
  Prog.Follows McReader.Lockstep p q fun a b reader other => related a b ∧ reader.Lockstep other

namespace Leads

variable {α β γ δ : Type} {p : Prog McReader α} {q : Prog McReader β} {related : α → β → Prop}

theorem of_lawful {protocol : Int} (lawful : (decodeDiscipline protocol).Lawful p) :
    Leads p p Eq := by
  intro reader other a after before left
  obtain ⟨value, _⟩ := lawful.replay reader other a before.left_sound before.right_sound
    before.permits (by rw [left])
  have right : p other = (some a, (p other).2) := Prod.ext value rfl
  obtain ⟨same, lockstep⟩ :=
    Alike.of_lawful lawful reader other a a after _ before left right
  exact ⟨a, _, right, same, lockstep⟩

/-- One program on both sides. -/
theorem same {protocol : Int} (program : DecodeM protocol α) :
    Leads program.run program.run Eq :=
  of_lawful program.lawful

/-- One reader on both sides. -/
theorem reader (program : ReadM α) : Leads program.run program.run Eq :=
  of_lawful (@decode_of_reader 0 α program.run program.lawful)

theorem pure {a : α} {b : β} (values : related a b) : Leads (Pure.pure a) (Pure.pure b) related :=
  Prog.Follows.pure fun _ _ readers => ⟨values, readers⟩

theorem bind {k : α → Prog McReader γ} {l : β → Prog McReader δ} {last : γ → δ → Prop}
    (first : Leads p q related) (second : ∀ a b, related a b → Leads (k a) (l b) last) :
    Leads (p >>= k) (q >>= l) last :=
  Prog.Follows.bind first fun a b s t c s' before => second a b before.1 s t c s' before.2

/-- A value both sides read. -/
theorem both {program : ReadM α} {k : α → Prog McReader γ} {l : α → Prog McReader δ}
    {last : γ → δ → Prop} (rest : ∀ a, Leads (k a) (l a) last) :
    Leads (program.run >>= k) (program.run >>= l) last :=
  bind (reader program) fun a _ values => values ▸ rest a

/-- A value both sides read, and what its grammar tells of it. -/
theorem bothKnowing {program : ReadM α} {G : α → List UInt8 → Prop}
    {k : α → Prog McReader γ} {l : α → Prog McReader δ} {last : γ → δ → Prop}
    (accepts : ∀ mode, Accepts mode program.run G)
    (rest : ∀ a bytes, G a bytes → Leads (k a) (l a) last) :
    Leads (program.run >>= k) (program.run >>= l) last := by
  have first : Leads program.run program.run fun a b => a = b ∧ ∃ bytes, G a bytes := by
    intro left right a after before ran
    have clean : left.Before (left.data.drop left.offset) :=
      ⟨before.permits.left_clean, before.left_sound.offset_le, rfl⟩
    obtain ⟨bytes, _, _, derived, _⟩ := (accepts left.mode).sound rfl clean ran
    obtain ⟨b, last, followed, same, lockstep⟩ := reader program left right a after before ran
    exact ⟨b, last, followed, ⟨same, bytes, derived⟩, lockstep⟩
  exact bind first fun a _ ⟨same, bytes, derived⟩ => same ▸ rest a bytes derived

section checks

variable {condition : Prop} {_ : Decidable condition}

theorem requireLeft {k : Unit → Prog McReader α} (rest : condition → Leads (k ()) q related) :
    Leads ((require condition).run >>= k) q related :=
  Prog.Follows.checkLeft (fun _ _ _ => Iff.rfl) fun holds => rest (not_not.mp holds)

theorem requireRight {k : Unit → Prog McReader β} (holds : condition)
    (rest : Leads p (k ()) related) : Leads p ((require condition).run >>= k) related :=
  Prog.Follows.checkRight (fun _ _ _ bad => bad holds) rest

theorem typedRequireLeft {k : Unit → Prog McReader α}
    (rest : condition → Leads (k ()) q related) :
    Leads ((typedRequire condition).run >>= k) q related :=
  Prog.Follows.checkLeft (fun _ _ _ => Iff.rfl) fun holds => rest (not_not.mp holds)

theorem typedRequireRight {k : Unit → Prog McReader β} (holds : condition)
    (rest : Leads p (k ()) related) : Leads p ((typedRequire condition).run >>= k) related :=
  Prog.Follows.checkRight (fun _ _ _ bad => bad holds) rest

end checks

end Leads

/-- `mc_reader_init_mode`, a reader of the packet, and `mc_reader_finish`. -/
def readWhole {protocol : Int} {α : Type} (program : DecodeM protocol α) (data : List UInt8)
    (mode : McDecodeMode) (error : Option McError) : Option α × McReader :=
  (do
    let value ← program.run
    mcReaderFinish
    pure value : Prog McReader α) (mcReaderInitMode data mode error)

theorem readWhole_eq_some {protocol : Int} {α : Type} {program : DecodeM protocol α}
    {data : List UInt8} {mode : McDecodeMode} {error : Option McError} {value : α} :
    (readWhole program data mode error).1 = some value ↔
      ∃ after, program.run (mcReaderInitMode data mode error) = (some value, after) ∧
        after.failed = false ∧ after.offset = after.size := by
  constructor
  · intro accepted
    obtain ⟨after, run⟩ : ∃ after, readWhole program data mode error = (some value, after) :=
      ⟨_, Prod.ext accepted rfl⟩
    exact ⟨after, then_finish_eq_some.mp run⟩
  · rintro ⟨after, whole⟩
    exact congrArg Prod.fst (then_finish_eq_some.mpr whole)

/-- What a reader accepts as a whole is one of its grammar. -/
theorem Accepts.whole {protocol : Int} {α : Type} {program : DecodeM protocol α}
    {G : α → List UInt8 → Prop} {data : List UInt8} {mode : McDecodeMode} {error : Option McError}
    {value : α} (accepts : Accepts mode program.run G)
    (read : (readWhole program data mode error).1 = some value) : G value data := by
  obtain ⟨after, run, -, ended⟩ := readWhole_eq_some.mp read
  obtain ⟨bytes, rest, rfl, derived, rfl⟩ :=
    accepts.sound rfl (mcReaderInitMode_before data mode error) run
  have before := mcReaderInitMode_before (bytes ++ rest) mode error
  have size := before.advance.size_eq
  have none : rest = [] := List.length_eq_zero_iff.mp (by omega)
  rw [none, List.append_nil]
  exact derived

section typed
variable {library : PacketLibrary} {arguments : McDecodeArguments} {error other : Option McError}
variable {family : McPacketFamily} {packet : McTypedPacket} {mode : McDecodeMode}

/-- What it takes for a packet of a family to be returned. -/
theorem mcDecodePacket_family_body
    (returned : (mcDecodePacket library arguments error).family = some family)
    (accepted : (mcDecodePacket library arguments error).packet = some packet) :
    ∃ direction name after,
      (typedDecodeDispatch library.validators arguments.protocol direction name family).run
          (arguments.bodyReader error) = (some packet, after) ∧
        after.failed = false ∧ after.offset = after.size := by
  obtain ⟨selected, after, chosen, run, clean, whole⟩ := mcDecodePacket_packet_iff.mp accepted
  have named : some selected.family = some family := by
    rw [← returned, mcDecodePacket_family]
    obtain ⟨_, _, _, refused, _⟩ | ⟨_, _, there, _⟩ := select_cases library arguments
    · rw [refused] at chosen
      cases chosen
    · rw [there] at chosen ⊢
      cases chosen
      rfl
  cases named
  exact ⟨selected.direction, selected.name, after, run, clean, whole⟩

/-- Both ways of reading a payload start at the same place. -/
theorem lockstep_start (decoded : arguments.decodeMode = some mode) :
    (mcReaderInitMode arguments.payload.content mode other).Lockstep
      (arguments.bodyReader error) := by
  have moded : (arguments.bodyReader error).mode = mode := by
    change arguments.decodeMode.getD .vanillaCompat = mode
    rw [decoded]
    rfl
  refine ⟨⟨Nat.zero_le _, fun _ found mem => ?_, fun found mem recorded => ?_⟩, bodyReader_sound,
    ⟨rfl, rfl, rfl, List.prefix_rfl, .inl moded⟩, rfl, moded⟩
  · obtain ⟨_, _, rfl⟩ := Option.mem_map.mp mem
    rfl
  · obtain ⟨_, _, rfl⟩ := Option.mem_map.mp mem
    exact absurd rfl recorded

end typed

end McProtocol
