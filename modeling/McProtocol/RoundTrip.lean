import McProtocol.Grammar
import McProtocol.Writing

/-! # Writing what is read

`Emits program W` says that a writer program returns exactly where some byte string of `W`
fits, and appends it. Its rules mirror those of `Accepts`, so a writer and a reader of one
format are compared by comparing their grammars.
-/

namespace McProtocol

structure Emits (program : WriteM Unit) (W : List UInt8 → Prop) : Prop where
  complete : ∀ {bytes : List UInt8}, W bytes → Writes program bytes
  sound : ∀ {packet after : McPacket}, packet.length ≤ packet.capacity →
    program.run packet = (some (), after) →
      ∃ bytes, W bytes ∧ packet.length + bytes.length ≤ packet.capacity ∧
        after = packet.append bytes

namespace Emits

variable {program other : WriteM Unit} {W V : List UInt8 → Prop}

theorem congr (emits : Emits program W) (same : ∀ bytes, W bytes ↔ V bytes) : Emits program V where
  complete derived := emits.complete ((same _).mpr derived)
  sound inside run := by
    obtain ⟨bytes, derived, room, rfl⟩ := emits.sound inside run
    exact ⟨bytes, (same _).mp derived, room, rfl⟩

theorem pure : Emits (Pure.pure ()) (· = []) where
  complete := by
    rintro bytes rfl
    exact .pure
  sound := by
    intro packet after inside run
    have stays : (some (), packet) = (some (), after) := run
    simp only [Prod.mk.injEq, true_and] at stays
    subst stays
    exact ⟨[], rfl, by simpa using inside, (McPacket.append_nil inside).symm⟩

theorem bind {rest : Unit → WriteM Unit} (first : Emits program W) (second : Emits (rest ()) V) :
    Emits (program >>= rest) fun bytes =>
      ∃ head tail, bytes = head ++ tail ∧ W head ∧ V tail where
  complete := by
    rintro bytes ⟨head, tail, rfl, derived, continued⟩
    exact (first.complete derived).bind (second.complete continued)
  sound := by
    intro packet after inside run
    obtain ⟨⟨⟩, middle, ranFirst, ranSecond⟩ := Prog.bind_eq_some run
    obtain ⟨head, derived, room, rfl⟩ := first.sound inside ranFirst
    have capacity := McPacket.capacity_append room
    have inside' : (packet.append head).length ≤ (packet.append head).capacity := by
      rw [capacity]
      exact room
    obtain ⟨tail, continued, room', rfl⟩ := second.sound inside' ranSecond
    have length : (packet.append head).length = packet.length + head.length := rfl
    have fits : packet.length + (head ++ tail).length ≤ packet.capacity := by
      rw [List.length_append]
      omega
    exact ⟨head ++ tail, ⟨head, tail, rfl, derived, continued⟩, fits,
      McPacket.append_append tail fits⟩

/-- What follows a check of the arguments may rely on it. -/
theorem checkedThen {condition : Prop} [Decidable condition] {rest : Unit → WriteM Unit}
    (emits : ¬ condition → Emits (rest ()) W) :
    Emits (refuseWhen condition >>= rest) fun bytes => ¬ condition ∧ W bytes where
  complete := by
    rintro bytes ⟨good, derived⟩
    exact ((Writes.refuseWhen good).bind ((emits good).complete derived)).of_eq (List.nil_append bytes)
  sound := by
    intro packet after inside run
    obtain ⟨⟨⟩, middle, passed, ran⟩ := Prog.bind_eq_some run
    obtain ⟨good, rfl⟩ := refuseWhen_eq_some passed
    obtain ⟨bytes, derived, room, rfl⟩ := (emits good).sound inside ran
    exact ⟨bytes, ⟨good, derived⟩, room, rfl⟩

/-- A check of the arguments in front of the rest. -/
theorem checked {condition : Prop} [Decidable condition] {rest : Unit → WriteM Unit}
    (emits : Emits (rest ()) W) :
    Emits (refuseWhen condition >>= rest) fun bytes => ¬ condition ∧ W bytes :=
  checkedThen fun _ => emits

theorem either {condition : Prop} [Decidable condition] (first : Emits program W)
    (second : Emits other V) :
    Emits (if condition then program else other) fun bytes =>
      if condition then W bytes else V bytes := by
  split_ifs
  · exact first
  · exact second

theorem when {condition : Prop} [Decidable condition] (emits : Emits program W) :
    Emits (.when condition program) fun bytes =>
      if condition then W bytes else bytes = [] := by
  constructor
  · intro bytes derived packet fits
    by_cases holds : condition
    · rw [if_pos holds] at derived
      exact Writes.when_pos holds (emits.complete derived) packet fits
    · rw [if_neg holds] at derived
      subst derived
      exact Writes.when_neg holds packet fits
  · intro packet after inside run
    by_cases holds : condition
    · simp only [if_pos holds]
      exact emits.sound inside ((Prog.when_pos holds).symm.trans run)
    · simp only [if_neg holds]
      exact pure.sound inside ((Prog.when_neg holds).symm.trans run)

/-- A builder that refuses its arguments. -/
theorem never : Emits (refuseWhen True) fun _ => False where
  complete := False.elim
  sound := by
    intro packet after inside run
    exact absurd trivial (refuseWhen_eq_some run).1

theorem buffer (data : Buffer) :
    Emits (mcPacketBytes data) fun bytes => ¬ data.Missing ∧ bytes = data.content where
  complete := by
    rintro bytes ⟨there, rfl⟩ packet fits
    refine if_neg ?_
    have room := fits.room
    have size : data.size = data.content.length := by
      cases data with
      | null size => exact not_not.mp there
      | bytes content => rfl
    simp only [McPacket.Refuses, fits.clean, Bool.false_eq_true, false_or, there, or_false]
    omega
  sound := by
    intro packet after inside run
    by_cases refused : packet.Refuses data
    · have failed : (mcPacketBytes data).run packet = (none, packet.fail) := if_pos refused
      rw [failed] at run
      simp at run
    · have wrote : (mcPacketBytes data).run packet = (some (), packet.append data.content) :=
        if_neg refused
      rw [wrote] at run
      have room := (McPacket.fits_of_not_refuses refused).room
      simp only [McPacket.Refuses, not_or] at refused
      exact ⟨data.content, ⟨refused.2.2.2, rfl⟩, room, by simpa using run.symm⟩

theorem data (bytes : List UInt8) : Emits (mcPacketBytes bytes) (· = bytes) :=
  (buffer bytes).congr fun _ => by
    simp only [Buffer.Missing, not_false_eq_true, true_and, Buffer.content]

theorem u8 (value : UInt8) : Emits (mcPacketU8 value) (· = [value]) := data _

theorem bool (value : Bool) : Emits (mcPacketBool value) (· = [if value then 1 else 0]) := data _

theorem i8 (value : Int) : Emits (mcPacketI8 value) (· = [UInt8.ofNat (toUnsigned 8 value)]) :=
  data _

theorem u16 (value : Nat) : Emits (mcPacketU16 value) (· = BigEndian.bytes 2 value) := data _

theorem i16 (value : Int) :
    Emits (mcPacketI16 value) (· = BigEndian.bytes 2 (toUnsigned 16 value)) := data _

theorem u32 (value : Nat) : Emits (mcPacketU32 value) (· = BigEndian.bytes 4 value) := data _

theorem i32 (value : Int) :
    Emits (mcPacketI32 value) (· = BigEndian.bytes 4 (toUnsigned 32 value)) := data _

theorem u64 (value : Nat) : Emits (mcPacketU64 value) (· = BigEndian.bytes 8 value) := data _

theorem i64 (value : Int) :
    Emits (mcPacketI64 value) (· = BigEndian.bytes 8 (toUnsigned 64 value)) := data _

theorem float (value : McFloat) :
    Emits (mcPacketFloat value) (· = BigEndian.bytes 4 value.bits.toNat) := data _

theorem double (value : McDouble) :
    Emits (mcPacketDouble value) (· = BigEndian.bytes 8 value.bits.toNat) := data _

theorem groups (encoded : Nat) : Emits (writeGroups encoded) (· = encodeGroups encoded) := by
  induction encoded using writeGroups.induct with
  | case1 encoded rest last =>
      simp only [rest] at last
      rw [writeGroups, encodeGroups, if_pos last, if_pos last]
      exact u8 _
  | case2 encoded rest more ih =>
      simp only [rest] at more
      rw [writeGroups, encodeGroups, if_neg more, if_neg more]
      refine (bind (u8 _) ih).congr fun bytes => ⟨?_, ?_⟩
      · rintro ⟨_, _, rfl, rfl, rfl⟩
        rfl
      · rintro rfl
        exact ⟨_, _, rfl, rfl, rfl⟩

theorem varint (value : Int) : Emits (mcPacketVarint value) (· = encodeVarint value) := groups _

theorem stringN (text : List UInt8) :
    Emits (mcPacketStringN text) fun bytes =>
      text.length ≤ int32Max ∧ bytes = encodeVarint text.length ++ text :=
  ((varint _).bind (data text)).checked.congr fun bytes => by
    constructor
    · rintro ⟨short, _, _, rfl, rfl, rfl⟩
      exact ⟨not_lt.mp short, rfl⟩
    · rintro ⟨short, rfl⟩
      exact ⟨not_lt.mpr short, _, _, rfl, rfl, rfl⟩

/-- A size and as many bytes. -/
theorem sized {size : WriteM Unit} {head : List UInt8} (emits : Emits size (· = head))
    (value : Buffer) :
    Emits (do refuseWhen (int32Max < value.size); size; mcPacketBytes value) fun bytes =>
      value.size ≤ int32Max ∧ ¬ value.Missing ∧ bytes = head ++ value.content :=
  (emits.bind (buffer value)).checked.congr fun bytes => by
    constructor
    · rintro ⟨short, _, _, rfl, rfl, there, rfl⟩
      exact ⟨not_lt.mp short, there, rfl⟩
    · rintro ⟨short, there, rfl⟩
      exact ⟨not_lt.mpr short, _, _, rfl, rfl, there, rfl⟩

/-- What a builder that returned left in its storage. -/
theorem body (emits : Emits program W) {capacity : Nat} {packet : McPacket}
    (built : buildPacket capacity program = (some (), packet)) : W packet.body := by
  obtain ⟨bytes, derived, room, rfl⟩ := emits.sound (Nat.zero_le _) built
  rw [McPacket.body_append room]
  exact derived

end Emits

namespace Reads

variable {α β : Type} {mode : McDecodeMode} {program : Prog McReader α} {a : α} {b : β}
variable {head tail : List UInt8}

theorem pure (a : α) : Reads mode (Pure.pure a) a [] := fun _ _ _ _ => rfl

theorem returning {c : α} (same : c = a) : Reads mode (Pure.pure c) a [] := same ▸ pure c

theorem bind {rest : α → Prog McReader β} (first : Reads mode program a head)
    (second : Reads mode (rest a) b tail) : Reads mode (program >>= rest) b (head ++ tail) := by
  intro reader behind moded before
  rw [List.append_assoc] at before
  rw [Prog.bind_some (first reader (tail ++ behind) moded before),
    second (reader.advance head.length) behind moded before.advance,
    McReader.advance_advance, List.length_append]

/-- What does not read may stand anywhere. -/
theorem thenPure {rest : α → Prog McReader β} (first : Reads mode program a head)
    (last : Reads mode (rest a) b []) : Reads mode (program >>= rest) b head :=
  (List.append_nil head) ▸ first.bind last

theorem after {rest : α → Prog McReader β} (passes : Reads mode program a [])
    (second : Reads mode (rest a) b tail) : Reads mode (program >>= rest) b tail :=
  passes.bind second

theorem of_eq (reads : Reads mode program a head) (same : head = tail) :
    Reads mode program a tail :=
  same ▸ reads

theorem rescue {mark : McReader → McReader} (reads : Reads mode program a head) :
    Reads mode (program.rescue mark) a head := by
  intro reader behind moded before
  rw [Prog.rescue, reads reader behind moded before]

/-- The slice of what a program read is there for what follows. -/
theorem slicedThen {k : List UInt8 → Prog McReader β} (reads : Reads mode program a head)
    (then_ : Reads mode (k head) b tail) :
    Reads mode (mcReaderOffset.run >>= fun start => program >>= fun _ =>
      (readSince start).run >>= k) b (head ++ tail) := by
  have sliced := (reads.slicedWith (f := fun _ slice => slice)).bind then_
  simp only [Prog.bind_assoc, Prog.pure_bind] at sliced
  exact sliced

/-- One round for each part. -/
theorem iterate {body : Unit → Prog McReader Unit} {parts : List (List UInt8)}
    (each : ∀ part ∈ parts, Reads mode (body ()) () part) :
    Reads mode (Prog.iterate body parts.length ()) () parts.flatten := by
  induction parts with
  | nil => exact pure ()
  | cons part parts ih =>
      simp only [List.mem_cons, forall_eq_or_imp] at each
      exact bind each.1 (ih each.2)

theorem mapDecode {protocol : Int} {f : α → β} {program : DecodeM protocol α}
    (reads : Reads mode program.run a head) : Reads mode (f <$> program).run (f a) head :=
  reads.thenPure (pure (f a))

theorem require {condition : Prop} [Decidable condition] (holds : condition) :
    Reads mode (McProtocol.require condition).run () [] :=
  accepts_require.complete ⟨holds, rfl⟩

theorem refuseFailed : Reads mode McProtocol.refuseFailed.run () [] :=
  accepts_refuseFailed.complete rfl

/-- Compat mode makes no strict checks. -/
theorem requireStrict {condition : Prop} [Decidable condition] :
    Reads .vanillaCompat (McProtocol.requireStrict condition).run () [] := by
  intro reader behind moded before
  have compat : ¬ (reader.mode = .strict ∧ ¬ condition) := by
    rw [moded]
    exact fun strict => nomatch strict.1
  exact if_neg compat

theorem u8 (value : UInt8) : Reads mode mcReaderU8.run value [value] :=
  accepts_u8.complete rfl

theorem u16 {value : Nat} (small : value < 2 ^ 16) :
    Reads mode mcReaderU16.run value (BigEndian.bytes 2 value) :=
  accepts_u16.complete ⟨small, rfl⟩

theorem i16 {value : Int} (low : -2 ^ 15 ≤ value) (high : value < 2 ^ 15) :
    Reads mode mcReaderI16.run value (int16Bytes value) :=
  accepts_i16.complete ⟨⟨low, high⟩, rfl⟩

theorem u32 {value : Nat} (small : value < 2 ^ 32) :
    Reads mode mcReaderU32.run value (BigEndian.bytes 4 value) :=
  accepts_u32.complete ⟨small, rfl⟩

theorem u64 {value : Nat} (small : value < 2 ^ 64) :
    Reads mode mcReaderU64.run value (BigEndian.bytes 8 value) :=
  accepts_u64.complete ⟨small, rfl⟩

theorem i32 {value : Int} (int : IsInt32 value) :
    Reads mode mcReaderI32.run value (int32Bytes value) :=
  accepts_i32.complete ⟨int, rfl⟩

theorem varint {value : Int} (int : IsInt32 value) :
    Reads mode mcReaderVarint.run value (encodeVarint value) :=
  accepts_varint.complete (isVarint_encode int)

theorem i8 {value : Int} (low : -2 ^ 7 ≤ value) (high : value < 2 ^ 7) :
    Reads mode mcReaderI8.run value [UInt8.ofNat (toUnsigned 8 value)] :=
  accepts_i8.complete ⟨⟨low, high⟩, rfl⟩

theorem bool (value : Bool) : Reads mode mcReaderBool.run value [if value then 1 else 0] := by
  refine (u8 _).thenPure ?_
  intro reader behind moded before
  have passes : ¬ (1 : UInt8) < (if value then 1 else 0) := by
    cases value <;> decide
  have returned : ((if value then (1 : UInt8) else 0) != 0) = value := by
    cases value <;> decide
  change ((rejectStrict _ .invalidBoolean 1).run >>= fun _ => Pure.pure _) reader = _
  rw [Prog.bind_some (rejectStrict_good fun strict => passes strict.2), returned]
  rfl

theorem float (value : McFloat) :
    Reads mode mcReaderFloat.run value (BigEndian.bytes 4 value.bits.toNat) := by
  refine (u32 value.bits.isLt).thenPure ?_
  have same : (⟨.ofNat _ value.bits.toNat⟩ : McFloat) = value := by rw [BitVec.ofNat_toNat]; rfl
  exact returning same

theorem double (value : McDouble) :
    Reads mode mcReaderDouble.run value (BigEndian.bytes 8 value.bits.toNat) := by
  refine (u64 value.bits.isLt).thenPure ?_
  have same : (⟨.ofNat _ value.bits.toNat⟩ : McDouble) = value := by rw [BitVec.ofNat_toNat]; rfl
  exact returning same

end Reads

end McProtocol
