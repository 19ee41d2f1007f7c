import McProtocol.Packet

/-! # One VarInt language

Four decoders and three encoders of the same format: the sticky reader and
writer, the stream decoder's scan of its buffer, and the handshake parser that
reads a socket byte by byte. Each is related to the base-128 codes once, so that
they agree with each other.
-/

namespace McProtocol

open Base128

/-- The loop of `encode_varint`. -/
def encodeGroups (encoded : Nat) : List UInt8 :=
  let byte := encoded &&& 0x7f
  let rest := encoded >>> 7
  if rest = 0 then [UInt8.ofNat byte] else UInt8.ofNat (byte ||| 0x80) :: encodeGroups rest
termination_by encoded
decreasing_by
  rename_i more
  simp only [rest, Nat.shiftRight_eq_div_pow] at more ⊢
  omega

def encodeVarint (value : Int) : List UInt8 := encodeGroups (toUnsigned 32 value)

inductive McVarIntStatus where
  | partialInput
  | complete (value : Int) (encodedSize : Nat)
  | invalid (errorCode : McErrorCode) (errorOffset : Nat)
  deriving Repr, DecidableEq

/-- The loop of `stream_varint` with `left` of its five groups to go. -/
def streamGroups (mode : McDecodeMode) : Nat → Nat → List UInt8 → McVarIntStatus
  | 0, _, _ => .invalid .varintOverflow 4
  | _ + 1, _, [] => .partialInput
  | left + 1, result, byte :: data =>
      let index := 5 - (left + 1)
      if index = 4 ∧ byte.toNat &&& 0xf0 ≠ 0 then .invalid .varintOverflow index
      else
        let result := result ||| (byte.toNat &&& 0x7f) <<< (index * 7)
        if byte.toNat &&& 0x80 = 0 then
          if mode = .strict ∧ varintSize result ≠ index + 1 then
            .invalid .varintNonCanonical index
          else .complete (toSigned 32 result) (index + 1)
        else streamGroups mode left result data

def streamVarint (data : List UInt8) (mode : McDecodeMode) : McVarIntStatus :=
  streamGroups mode 5 0 data

/-- A socket during the handshake: the bytes that arrive before it closes or the
wait times out, and the count of those received. -/
structure AcceptedSocket where
  incoming : List UInt8
  wireSize : Nat
  deriving Repr, DecidableEq

def acceptedReceive (size : Nat) : Prog AcceptedSocket (List UInt8) := fun socket =>
  if size ≤ socket.incoming.length then
    (some (socket.incoming.take size), ⟨socket.incoming.drop size, socket.wireSize + size⟩)
  else (none, ⟨[], socket.wireSize + socket.incoming.length⟩)

/-- The loop of `accepted_varint`: the excess bits of the fifth byte leave the
word before they are looked at. -/
def acceptedGroups : Nat → Nat → Prog AcceptedSocket Int
  | 0, _ => .refuse
  | left + 1, result => do
      let index := 5 - (left + 1)
      let data ← acceptedReceive 1
      let byte := (data.headD 0).toNat
      let result := result ||| (byte &&& 0x7f) <<< (index * 7) % 2 ^ 32
      if byte &&& 0x80 = 0 then
        if index = 4 ∧ byte &&& 0xf0 ≠ 0 then .refuse else pure (toSigned 32 result)
      else acceptedGroups left result

def acceptedVarint : Prog AcceptedSocket Int := acceptedGroups 5 0

theorem writeGroups_byte {n : Nat} (small : n < 128) : n ||| 0x80 = n + 128 := by
  have all : ∀ i : Fin 128, i.val ||| 0x80 = i.val + 128 := by decide
  exact all ⟨n, small⟩

theorem encodeGroups_eq (n : Nat) : encodeGroups n = encode n := by
  induction n using Nat.strongRecOn with
  | ind n ih =>
      rw [encodeGroups, encode]
      simp only [low_group, Nat.shiftRight_eq_div_pow]
      rw [writeGroups_byte (Nat.mod_lt _ (by decide))]
      by_cases small : n < 128
      · rw [if_pos (by omega), if_pos small, Nat.mod_eq_of_lt small]
      · rw [if_neg (by omega), if_neg small, ih _ (by omega)]

theorem writeGroups_run {n : Nat} {packet : McPacket} (fits : packet.Fits (encode n).length) :
    (writeGroups n).run packet = (some (), packet.append (encode n)) := by
  induction n using Nat.strongRecOn generalizing packet with
  | ind n ih =>
      rw [writeGroups]
      rw [encode] at fits ⊢
      simp only [low_group, Nat.shiftRight_eq_div_pow]
      rw [writeGroups_byte (Nat.mod_lt _ (by decide))]
      by_cases small : n < 128
      · rw [if_pos small] at fits ⊢
        rw [if_pos (by omega), Nat.mod_eq_of_lt small]
        exact mcPacketBytes_run fits
      · rw [if_neg small] at fits ⊢
        rw [if_neg (by omega)]
        rw [List.length_cons, Nat.add_comm] at fits
        have first : packet.Fits 1 :=
          ⟨fits.clean, by have room := fits.room; omega⟩
        have second : (packet.append [UInt8.ofNat (n % 128 + 128)]).Fits (encode (n / 128)).length :=
          fits.append
        have rest := ih (n / 128) (by omega) second
        rw [Program.run_bind, Prog.bind_some (mcPacketU8_run first), rest,
          McPacket.append_append _ (by simpa [Nat.add_comm] using fits.room)]
        rfl

theorem mcPacketVarint_run {value : Int} {packet : McPacket}
    (fits : packet.Fits (encodeVarint value).length) :
    (mcPacketVarint value).run packet = (some (), packet.append (encodeVarint value)) := by
  rw [encodeVarint, encodeGroups_eq] at fits ⊢
  exact writeGroups_run fits

theorem varintSize_eq (n : Nat) : varintSize n = (encode n).length := by
  induction n using Nat.strongRecOn with
  | ind n ih =>
      rw [varintSize, encode, Nat.shiftRight_eq_div_pow]
      by_cases small : n < 128
      · rw [if_pos (by omega), if_pos small]; rfl
      · rw [if_neg (by omega), if_neg small, ih _ (by omega), List.length_cons]

/-- How a loop beyond `groups` groups cuts the last one to its word: `mask` selects
the bits from `cap` on. -/
structure Cut (groups mask cap : Nat) : Prop where
  positive : 0 < groups
  cap_pos : 0 < cap
  cap_le : cap ≤ 128
  masked : ∀ byte : UInt8, byte.toNat &&& mask ≠ 0 ↔ cap ≤ byte.toNat

theorem cut_32 : Cut 5 0xf0 16 where
  positive := by decide
  cap_pos := by decide
  cap_le := by decide
  masked byte := by
    have all : ∀ i : Fin 256, i.val &&& 0xf0 ≠ 0 ↔ 16 ≤ i.val := by decide +kernel
    exact all ⟨byte.toNat, byte.toNat_lt⟩

theorem cut_64 : Cut 10 0xfe 2 where
  positive := by decide
  cap_pos := by decide
  cap_le := by decide
  masked byte := by
    have all : ∀ i : Fin 256, i.val &&& 0xfe ≠ 0 ↔ 2 ≤ i.val := by decide +kernel
    exact all ⟨byte.toNat, byte.toNat_lt⟩

/-- What a loop makes of the bytes in front of it. -/
inductive Groups where
  | short
  | overflow
  | nonCanonical (taken : Nat)
  | done (value taken : Nat)

/-- The same after one more byte. -/
def Groups.succ : Groups → Groups
  | short => short
  | overflow => overflow
  | nonCanonical taken => nonCanonical (taken + 1)
  | done value taken => done value (taken + 1)

section groups

variable (groups cap : Nat) (mode : McDecodeMode)

/-- A word that ended after `taken` bytes, the last of `index + taken` groups. -/
def wordAt (index total taken : Nat) : Groups :=
  if cap * 128 ^ (groups - 1) ≤ total then .overflow
  else if mode = .strict ∧ varintSize total ≠ index + taken then .nonCanonical taken
  else .done total taken

def groupsAt (left result : Nat) (data : List UInt8) : Groups :=
  match scan left data with
  | .short => .short
  | .overlong => .overflow
  | .complete code =>
      wordAt groups cap mode (groups - left) (result + 128 ^ (groups - left) * value code)
        code.length

variable {groups cap mode} {left result : Nat} {byte : UInt8} {data : List UInt8}

theorem groupsAt_last (small : byte.toNat < 128) :
    groupsAt groups cap mode (left + 1) result (byte :: data) =
      wordAt groups cap mode (groups - (left + 1))
        (result + byte.toNat * 128 ^ (groups - (left + 1))) 1 := by
  have single : value [byte] = byte.toNat := by simp only [value]; omega
  simp only [groupsAt, scan, if_pos small, single, List.length_singleton]
  rw [Nat.mul_comm]

theorem groupsAt_more (large : ¬ byte.toNat < 128) (inside : left + 1 ≤ groups) :
    groupsAt groups cap mode (left + 1) result (byte :: data) =
      (groupsAt groups cap mode left
        (result + byte.toNat % 128 * 128 ^ (groups - (left + 1))) data).succ := by
  obtain ⟨index, rfl⟩ : ∃ index, groups = index + (left + 1) := ⟨groups - (left + 1), by omega⟩
  have here : index + (left + 1) - (left + 1) = index := by omega
  have next : index + (left + 1) - left = index + 1 := by omega
  simp only [groupsAt, scan, if_neg large, here, next]
  rcases scan left data with code | _ | _
  · have total : result + 128 ^ index * value (byte :: code) =
        result + byte.toNat % 128 * 128 ^ index + 128 ^ (index + 1) * value code := by
      simp only [value]; ring
    simp only [wordAt, total, List.length_cons]
    rw [show index + (code.length + 1) = index + 1 + code.length by omega]
    split_ifs <;> rfl
  · rfl
  · rfl

/-- Only the last group can leave the word. -/
theorem overflow_iff {mask : Nat} (cut : Cut groups mask cap) (inside : left + 1 ≤ groups)
    (bound : result < 128 ^ (groups - (left + 1))) (small : byte.toNat < 128) :
    cap * 128 ^ (groups - 1) ≤ result + byte.toNat * 128 ^ (groups - (left + 1)) ↔
      left = 0 ∧ cap ≤ byte.toNat := by
  have capPos := cut.cap_pos
  rcases Nat.eq_zero_or_pos left with rfl | more
  · simp only [Nat.zero_add] at bound ⊢
    generalize 128 ^ (groups - 1) = unit at bound ⊢
    constructor
    · intro beyond
      refine ⟨trivial, ?_⟩
      by_contra below
      have : (byte.toNat + 1) * unit ≤ cap * unit := Nat.mul_le_mul_right unit (by omega)
      rw [Nat.add_mul] at this
      omega
    · rintro ⟨-, beyond⟩
      have : cap * unit ≤ byte.toNat * unit := Nat.mul_le_mul_right unit beyond
      omega
  · obtain ⟨index, rfl⟩ : ∃ index, groups = index + (left + 1) := ⟨groups - (left + 1), by omega⟩
    have here : index + (left + 1) - (left + 1) = index := by omega
    rw [here] at bound ⊢
    have room : 128 ^ index * 128 ≤ 128 ^ (index + (left + 1) - 1) := by
      rw [← pow_succ]
      exact Nat.pow_le_pow_right (by decide) (by omega)
    have scaled : 128 ^ (index + (left + 1) - 1) ≤ cap * 128 ^ (index + (left + 1) - 1) :=
      Nat.le_mul_of_pos_left _ capPos
    have part : byte.toNat * 128 ^ index ≤ 127 * 128 ^ index :=
      Nat.mul_le_mul_right _ (by omega)
    constructor
    · intro beyond; omega
    · rintro ⟨rfl, -⟩; omega

theorem groupsAt_overflow {mask : Nat} (cut : Cut groups mask cap)
    (beyond : cap ≤ byte.toNat) :
    groupsAt groups cap mode 1 result (byte :: data) = .overflow := by
  by_cases small : byte.toNat < 128
  · rw [groupsAt_last small, wordAt, if_pos]
    have : cap * 128 ^ (groups - 1) ≤ byte.toNat * 128 ^ (groups - 1) :=
      Nat.mul_le_mul_right _ beyond
    simp only [Nat.zero_add]
    omega
  · rw [groupsAt_more small cut.positive]
    rfl

/-- Below the cap the next group keeps the accumulator inside its bound. -/
theorem next_lt (byte : UInt8) (bound : result < 128 ^ (groups - (left + 1))) (inside : left + 1 ≤ groups) :
    result + byte.toNat % 128 * 128 ^ (groups - (left + 1)) < 128 ^ (groups - left) := by
  obtain ⟨index, rfl⟩ : ∃ index, groups = index + (left + 1) := ⟨groups - (left + 1), by omega⟩
  have here : index + (left + 1) - (left + 1) = index := by omega
  have next : index + (left + 1) - left = index + 1 := by omega
  rw [here] at bound ⊢
  rw [next, pow_succ]
  have part : byte.toNat % 128 * 128 ^ index ≤ 127 * 128 ^ index :=
    Nat.mul_le_mul_right _ (by omega)
  omega

end groups

/-- How `readGroups`, with `left` groups to go, leaves the reader. -/
def readerOutcome (reader : McReader) (left : Nat) : Groups → Option Nat × McReader
  | .short => (none, ({ reader with offset := reader.size } : McReader).fail .partialInput reader.size)
  | .overflow => (none, (reader.advance left).fail .varintOverflow (reader.offset + left - 1))
  | .nonCanonical taken =>
      (none, (reader.advance taken).fail .varintNonCanonical (reader.offset + taken - 1))
  | .done value taken => (some value, reader.advance taken)

theorem readerOutcome_succ (reader : McReader) (left : Nat) (outcome : Groups) :
    readerOutcome (reader.advance 1) left outcome =
      readerOutcome reader (left + 1) outcome.succ := by
  have offset (n : Nat) : reader.offset + 1 + n = reader.offset + (n + 1) := by omega
  rcases outcome with _ | _ | taken | ⟨total, taken⟩ <;>
    simp only [readerOutcome, Groups.succ, McReader.advance, McReader.size, offset]

theorem readGroups_run {groups mask cap : Nat} (cut : Cut groups mask cap) {left result : Nat}
    {reader : McReader} {data : List UInt8} (inside : left ≤ groups)
    (bound : result < 128 ^ (groups - left)) (before : reader.Before data) :
    (readGroups groups mask left result).run reader =
      readerOutcome reader left (groupsAt groups cap reader.mode left result data) := by
  induction left generalizing result reader data with
  | zero => rfl
  | succ left ih =>
      rw [readGroups]
      cases data with
      | nil =>
          have atEnd := before.size_eq
          simp only [List.length_nil, Nat.add_zero] at atEnd
          rw [Program.run_bind, Prog.bind_none (mcReaderU8_end before)]
          simp only [groupsAt, scan, readerOutcome, atEnd]
      | cons byte data =>
          have behind : (reader.advance 1).Before data := before.tail
          rw [Program.run_bind, Prog.bind_some (mcReaderU8_before before)]
          by_cases beyond : groups - (left + 1) + 1 = groups ∧ byte.toNat &&& mask ≠ 0
          · obtain ⟨last, masked⟩ := beyond
            obtain rfl : left = 0 := by omega
            rw [Program.run_bind, Prog.bind_none (rejectWhen_bad ⟨last, masked⟩),
              groupsAt_overflow cut ((cut.masked byte).mp masked)]
            rfl
          · have allowed : ¬ (left = 0 ∧ cap ≤ byte.toNat) := by
              rintro ⟨rfl, large⟩
              have positive := cut.positive
              exact beyond ⟨by omega, (cut.masked byte).mpr large⟩
            rw [Program.run_bind, Prog.bind_some (rejectWhen_good beyond)]
            rw [or_group bound]
            by_cases small : byte.toNat < 128
            · have stops : byte.toNat &&& 0x80 = 0 := by
                by_contra more
                exact absurd ((continued_iff byte).mp more) (by omega)
              have fits := (overflow_iff cut inside bound small).not.mpr allowed
              rw [if_pos stops, groupsAt_last small, wordAt, if_neg fits, Nat.mod_eq_of_lt small]
              by_cases refused : reader.mode = .strict ∧
                  varintSize (result + byte.toNat * 128 ^ (groups - (left + 1))) ≠
                    groups - (left + 1) + 1
              · rw [if_pos refused, Program.run_bind,
                  Prog.bind_none (rejectStrict_bad
                    (show (reader.advance 1).mode = .strict ∧ _ from refused))]
                rfl
              · rw [if_neg refused, Program.run_bind,
                  Prog.bind_some (rejectStrict_good
                    (show ¬ ((reader.advance 1).mode = .strict ∧ _) from refused))]
                rfl
            · have continues : ¬ byte.toNat &&& 0x80 = 0 := (continued_iff byte).mpr (by omega)
              rw [if_neg continues, groupsAt_more small inside,
                ih (by omega) (next_lt byte bound inside) behind, readerOutcome_succ]
              rfl

theorem readGroups_start {groups mask cap : Nat} (cut : Cut groups mask cap)
    {reader : McReader} {data : List UInt8} (before : reader.Before data) :
    (readGroups groups mask groups 0).run reader =
      readerOutcome reader groups (groupsAt groups cap reader.mode groups 0 data) :=
  readGroups_run cut (Nat.le_refl groups) (by simp) before

/-- How `streamGroups` reports it from group `index` on. -/
def streamOutcome (index : Nat) : Groups → McVarIntStatus
  | .short => .partialInput
  | .overflow => .invalid .varintOverflow 4
  | .nonCanonical taken => .invalid .varintNonCanonical (index + taken - 1)
  | .done value taken => .complete (toSigned 32 value) (index + taken)

theorem streamOutcome_succ (index : Nat) (outcome : Groups) :
    streamOutcome (index + 1) outcome = streamOutcome index outcome.succ := by
  have offset (n : Nat) : index + 1 + n = index + (n + 1) := by omega
  rcases outcome with _ | _ | taken | ⟨total, taken⟩ <;>
    simp only [streamOutcome, Groups.succ, offset]

theorem streamGroups_eq {mode : McDecodeMode} {left result : Nat} {data : List UInt8}
    (inside : left ≤ 5) (bound : result < 128 ^ (5 - left)) :
    streamGroups mode left result data =
      streamOutcome (5 - left) (groupsAt 5 16 mode left result data) := by
  induction left generalizing result data with
  | zero => rfl
  | succ left ih =>
      cases data with
      | nil => rfl
      | cons byte data =>
          rw [streamGroups]
          by_cases beyond : 5 - (left + 1) = 4 ∧ byte.toNat &&& 0xf0 ≠ 0
          · obtain ⟨last, masked⟩ := beyond
            obtain rfl : left = 0 := by omega
            rw [if_pos ⟨last, masked⟩, groupsAt_overflow cut_32 ((cut_32.masked byte).mp masked)]
            rfl
          · have allowed : ¬ (left = 0 ∧ 16 ≤ byte.toNat) := by
              rintro ⟨rfl, large⟩
              exact beyond ⟨rfl, (cut_32.masked byte).mpr large⟩
            rw [if_neg beyond]
            simp only [or_group bound]
            by_cases small : byte.toNat < 128
            · have stops : byte.toNat &&& 0x80 = 0 := by
                by_contra more
                exact absurd ((continued_iff byte).mp more) (by omega)
              have fits := (overflow_iff cut_32 inside bound small).not.mpr allowed
              rw [if_pos stops, groupsAt_last small, wordAt, if_neg fits, Nat.mod_eq_of_lt small]
              split_ifs <;> rfl
            · have continues : ¬ byte.toNat &&& 0x80 = 0 := (continued_iff byte).mpr (by omega)
              rw [if_neg continues, groupsAt_more small inside,
                ih (by omega) (next_lt byte bound inside), ← streamOutcome_succ]
              congr 1
              omega

theorem streamVarint_eq (data : List UInt8) (mode : McDecodeMode) :
    streamVarint data mode = streamOutcome 0 (groupsAt 5 16 mode 5 0 data) :=
  streamGroups_eq (Nat.le_refl 5) (by decide)

theorem acceptedReceive_cons (byte : UInt8) (data : List UInt8) (wireSize : Nat) :
    acceptedReceive 1 ⟨byte :: data, wireSize⟩ = (some [byte], ⟨data, wireSize + 1⟩) := by
  simp [acceptedReceive]

theorem acceptedGroups_cons (left result : Nat) (byte : UInt8) (data : List UInt8)
    (wireSize : Nat) :
    acceptedGroups (left + 1) result ⟨byte :: data, wireSize⟩ =
      (if byte.toNat &&& 0x80 = 0 then
        if 5 - (left + 1) = 4 ∧ byte.toNat &&& 0xf0 ≠ 0 then .refuse
        else pure (toSigned 32
          (result ||| (byte.toNat &&& 0x7f) <<< ((5 - (left + 1)) * 7) % 2 ^ 32))
      else acceptedGroups left
        (result ||| (byte.toNat &&& 0x7f) <<< ((5 - (left + 1)) * 7) % 2 ^ 32) :
        Prog AcceptedSocket Int) ⟨data, wireSize + 1⟩ :=
  Prog.bind_some (acceptedReceive_cons byte data wireSize)

/-- A group that stays in the word is not touched by the cut to 32 bits. -/
theorem or_group_word {result index byte : Nat} (bound : result < 128 ^ index)
    (word : byte % 128 * 128 ^ index < 2 ^ 32) :
    result ||| (byte &&& 0x7f) <<< (index * 7) % 2 ^ 32 = result + byte % 128 * 128 ^ index := by
  have shifted : (byte &&& 0x7f) <<< (index * 7) = byte % 128 * 128 ^ index := by
    have sum := or_group (b := byte) (show 0 < 128 ^ index by positivity)
    rwa [Nat.zero_or, Nat.zero_add] at sum
  rw [Nat.mod_eq_of_lt (shifted ▸ word), or_group bound]

/-- The parser returns where the groups end in a word, and nowhere else. -/
theorem acceptedGroups_run {left result : Nat} {data : List UInt8} {wireSize : Nat}
    (inside : left ≤ 5) (bound : result < 128 ^ (5 - left)) :
    match groupsAt 5 16 .vanillaCompat left result data with
    | .done value taken => acceptedGroups left result ⟨data, wireSize⟩ =
        (some (toSigned 32 value), ⟨data.drop taken, wireSize + taken⟩)
    | _ => (acceptedGroups left result ⟨data, wireSize⟩).1 = none := by
  induction left generalizing result data wireSize with
  | zero => rfl
  | succ left ih =>
      cases data with
      | nil => rfl
      | cons byte data =>
          rw [acceptedGroups_cons]
          by_cases small : byte.toNat < 128
          · have stops : byte.toNat &&& 0x80 = 0 := by
              by_contra more
              exact absurd ((continued_iff byte).mp more) (by omega)
            rw [if_pos stops, groupsAt_last small, wordAt]
            by_cases beyond : left = 0 ∧ 16 ≤ byte.toNat
            · obtain ⟨rfl, large⟩ := beyond
              rw [if_pos ((overflow_iff cut_32 inside bound small).mpr ⟨rfl, large⟩),
                if_pos ⟨rfl, (cut_32.masked byte).mpr large⟩]
              rfl
            · have refused : ¬ (5 - (left + 1) = 4 ∧ byte.toNat &&& 0xf0 ≠ 0) := by
                rintro ⟨last, masked⟩
                exact beyond ⟨by omega, (cut_32.masked byte).mp masked⟩
              have word := (overflow_iff cut_32 inside bound small).not.mpr beyond
              rw [if_neg word, if_neg (by simp), if_neg refused, or_group_word bound,
                Nat.mod_eq_of_lt small]
              · rfl
              · rw [Nat.mod_eq_of_lt small]
                omega
          · have continues : ¬ byte.toNat &&& 0x80 = 0 := (continued_iff byte).mpr (by omega)
            rw [if_neg continues, groupsAt_more small inside]
            rcases Nat.eq_zero_or_pos left with rfl | more
            · rfl
            · have word : byte.toNat % 128 * 128 ^ (5 - (left + 1)) < 2 ^ 32 := by
                have next := next_lt byte bound inside
                have whole : 128 ^ (5 - left) ≤ 128 ^ 4 :=
                  Nat.pow_le_pow_right (by decide) (by omega)
                omega
              rw [or_group_word bound word]
              have rest := @ih (result + byte.toNat % 128 * 128 ^ (5 - (left + 1))) data
                (wireSize + 1) (by omega) (next_lt byte bound inside)
              generalize groupsAt 5 16 .vanillaCompat left
                (result + byte.toNat % 128 * 128 ^ (5 - (left + 1))) data = outcome at rest ⊢
              rcases outcome with _ | _ | taken | ⟨total, taken⟩
              · exact rest
              · exact rest
              · exact rest
              · simp only [Groups.succ, List.drop_succ_cons] at rest ⊢
                rw [rest, Nat.add_assoc, Nat.add_comm 1]

/-- The head of `data` is a code whose value is a word of the width: in strict mode
the shortest one. -/
theorem groupsAt_done_iff {groups cap : Nat} {mode : McDecodeMode} {data : List UInt8}
    {word taken : Nat} :
    groupsAt groups cap mode groups 0 data = .done word taken ↔
      ∃ code, IsCode code ∧ code.length ≤ groups ∧ code <+: data ∧ value code = word ∧
        code.length = taken ∧ word < cap * 128 ^ (groups - 1) ∧
        (mode = .strict → code = encode word) := by
  have start (code : List UInt8) : 0 + 128 ^ (groups - groups) * value code = value code := by
    simp
  constructor
  · intro done
    rcases found : scan groups data with code | _ | _ <;>
      simp only [groupsAt, found, reduceCtorEq] at done
    obtain ⟨isCode, short, head⟩ := scan_complete_iff.mp found
    rw [start, wordAt] at done
    split_ifs at done with beyond refused
    obtain ⟨rfl, rfl⟩ : value code = word ∧ code.length = taken := by simpa using done
    refine ⟨code, isCode, short, head, rfl, rfl, by omega, fun strict => ?_⟩
    simp only [Nat.sub_self, Nat.zero_add, varintSize_eq, not_and_not_right] at refused
    exact isCode.eq_encode_iff.mp (refused strict)
  · rintro ⟨code, isCode, short, head, rfl, rfl, word, canonical⟩
    have refused : ¬ (mode = .strict ∧
        varintSize (value code) ≠ groups - groups + code.length) := by
      rintro ⟨strict, differs⟩
      rw [varintSize_eq, Nat.sub_self, Nat.zero_add] at differs
      exact differs (isCode.eq_encode_iff.mpr (canonical strict))
    rw [groupsAt, scan_complete_iff.mpr ⟨isCode, short, head⟩]
    simp only [start]
    rw [wordAt, if_neg (by omega), if_neg refused]

/-- Every word is read back from its shortest code, whatever follows. -/
theorem groupsAt_encode {groups cap word : Nat} (mode : McDecodeMode) (rest : List UInt8)
    (positive : 0 < groups) (cap_le : cap ≤ 128) (bound : word < cap * 128 ^ (groups - 1)) :
    groupsAt groups cap mode groups 0 (encode word ++ rest) =
      .done word (encode word).length := by
  have inside : word < 128 ^ groups := by
    obtain ⟨k, rfl⟩ : ∃ k, groups = k + 1 := ⟨groups - 1, by omega⟩
    have widest : cap * 128 ^ (k + 1 - 1) ≤ 128 ^ k * 128 := by
      rw [Nat.mul_comm]
      exact Nat.mul_le_mul_left _ cap_le
    rw [pow_succ]
    omega
  exact groupsAt_done_iff.mpr ⟨encode word, isCode_encode word,
    encode_length_le positive inside, List.prefix_append _ _, value_encode word, rfl, bound,
    fun _ => rfl⟩

/-- In strict mode the head of `data` is the code the encoder writes. -/
theorem groupsAt_strict_iff {groups cap word taken : Nat} {data : List UInt8}
    (positive : 0 < groups) (cap_le : cap ≤ 128) :
    groupsAt groups cap .strict groups 0 data = .done word taken ↔
      word < cap * 128 ^ (groups - 1) ∧ encode word <+: data ∧ taken = (encode word).length := by
  constructor
  · intro done
    obtain ⟨code, -, -, head, -, rfl, bound, canonical⟩ := groupsAt_done_iff.mp done
    obtain rfl := canonical rfl
    exact ⟨bound, head, rfl⟩
  · rintro ⟨bound, ⟨rest, rfl⟩, rfl⟩
    exact groupsAt_encode .strict rest positive cap_le bound

/-- When a word reader returns, what it returns, and how far it goes. -/
theorem readWord_iff {groups mask cap width : Nat} (cut : Cut groups mask cap)
    {reader : McReader} {data : List UInt8} {v : Int} {after : McReader}
    (before : reader.Before data) :
    (do let result ← readGroups groups mask groups 0
        pure (toSigned width result) : ReadM Int).run reader = (some v, after) ↔
      ∃ word n, groupsAt groups cap reader.mode groups 0 data = .done word n ∧
        toSigned width word = v ∧ after = reader.advance n := by
  have run := readGroups_start cut before
  rcases found : groupsAt groups cap reader.mode groups 0 data with _ | _ | taken | ⟨word, taken⟩ <;>
    rw [found] at run
  · rw [Program.run_bind, Prog.bind_none run]; simp
  · rw [Program.run_bind, Prog.bind_none run]; simp
  · rw [Program.run_bind, Prog.bind_none run]; simp
  · rw [Program.run_bind, Prog.bind_some run]
    simp only [Program.run_pure, Prog.pure_run, Prod.mk.injEq, Option.some.injEq,
      Groups.done.injEq]
    constructor
    · rintro ⟨rfl, rfl⟩; exact ⟨word, taken, ⟨rfl, rfl⟩, rfl, rfl⟩
    · rintro ⟨_, _, ⟨rfl, rfl⟩, rfl, rfl⟩; exact ⟨rfl, rfl⟩

theorem mcReaderVarint_iff {reader after : McReader} {data : List UInt8} {v : Int}
    (before : reader.Before data) :
    mcReaderVarint.run reader = (some v, after) ↔
      ∃ word n, groupsAt 5 16 reader.mode 5 0 data = .done word n ∧ toSigned 32 word = v ∧
        after = reader.advance n :=
  readWord_iff cut_32 before

theorem mcReaderVarlong_iff {reader after : McReader} {data : List UInt8} {v : Int}
    (before : reader.Before data) :
    mcReaderVarlong.run reader = (some v, after) ↔
      ∃ word n, groupsAt 10 2 reader.mode 10 0 data = .done word n ∧ toSigned 64 word = v ∧
        after = reader.advance n :=
  readWord_iff cut_64 before

theorem streamVarint_iff {mode : McDecodeMode} {data : List UInt8} {v : Int} {n : Nat} :
    streamVarint data mode = .complete v n ↔
      ∃ word, groupsAt 5 16 mode 5 0 data = .done word n ∧ toSigned 32 word = v := by
  rw [streamVarint_eq]
  rcases groupsAt 5 16 mode 5 0 data with _ | _ | taken | ⟨word, taken⟩ <;>
    simp only [streamOutcome, reduceCtorEq, false_and, exists_false,
      McVarIntStatus.complete.injEq, Groups.done.injEq, Nat.zero_add]
  constructor
  · rintro ⟨rfl, rfl⟩; exact ⟨word, ⟨rfl, rfl⟩, rfl⟩
  · rintro ⟨_, ⟨rfl, rfl⟩, rfl⟩; exact ⟨rfl, rfl⟩

theorem acceptedVarint_iff {data : List UInt8} {wireSize : Nat} {v : Int}
    {after : AcceptedSocket} :
    acceptedVarint ⟨data, wireSize⟩ = (some v, after) ↔
      ∃ word n, groupsAt 5 16 .vanillaCompat 5 0 data = .done word n ∧ toSigned 32 word = v ∧
        after = ⟨data.drop n, wireSize + n⟩ := by
  have run := @acceptedGroups_run 5 0 data wireSize (Nat.le_refl 5) (by decide)
  have refused (silent : (acceptedGroups 5 0 ⟨data, wireSize⟩).1 = none) :
      ¬ acceptedVarint ⟨data, wireSize⟩ = (some v, after) := by
    intro accepted
    rw [acceptedVarint] at accepted
    simp [accepted] at silent
  rcases found : groupsAt 5 16 .vanillaCompat 5 0 data with _ | _ | taken | ⟨word, taken⟩ <;>
    rw [found] at run
  · simpa using refused run
  · simpa using refused run
  · simpa using refused run
  · dsimp only at run
    rw [acceptedVarint, run]
    simp only [Prod.mk.injEq, Option.some.injEq, Groups.done.injEq]
    constructor
    · rintro ⟨rfl, rfl⟩; exact ⟨word, taken, ⟨rfl, rfl⟩, rfl, rfl⟩
    · rintro ⟨_, _, ⟨rfl, rfl⟩, rfl, rfl⟩; exact ⟨rfl, rfl⟩

/-- The strict readers accept exactly the image of the encoder. -/
theorem strict_image_iff {groups cap width : Nat} {IsInt : Int → Prop} {data : List UInt8}
    {v : Int} {n : Nat} (positive : 0 < groups) (cap_le : cap ≤ 128)
    (word : cap * 128 ^ (groups - 1) = 2 ^ width)
    (isInt : ∀ {word}, word < 2 ^ width → IsInt (toSigned width word))
    (unsigned : ∀ {word}, word < 2 ^ width → toUnsigned width (toSigned width word) = word)
    (signed : ∀ {v}, IsInt v → toSigned width (toUnsigned width v) = v) :
    (∃ word, groupsAt groups cap .strict groups 0 data = .done word n ∧
        toSigned width word = v) ↔
      IsInt v ∧ encode (toUnsigned width v) <+: data ∧
        n = (encode (toUnsigned width v)).length := by
  simp only [groupsAt_strict_iff positive cap_le, word]
  constructor
  · rintro ⟨word, ⟨bound, head, taken⟩, rfl⟩
    rw [unsigned bound]
    exact ⟨isInt bound, head, taken⟩
  · rintro ⟨int, head, taken⟩
    exact ⟨toUnsigned width v, ⟨toUnsigned_lt width v, head, taken⟩, signed int⟩

theorem strict_image_iff_32 {data : List UInt8} {v : Int} {n : Nat} :
    (∃ word, groupsAt 5 16 .strict 5 0 data = .done word n ∧ toSigned 32 word = v) ↔
      IsInt32 v ∧ encodeVarint v <+: data ∧ n = (encodeVarint v).length := by
  rw [encodeVarint, encodeGroups_eq]
  exact strict_image_iff (by decide) (by decide) (by decide) isInt32_toSigned
    toUnsigned_toSigned_32 toSigned_toUnsigned_32

theorem strict_image_iff_64 {data : List UInt8} {v : Int} {n : Nat} :
    (∃ word, groupsAt 10 2 .strict 10 0 data = .done word n ∧ toSigned 64 word = v) ↔
      IsInt64 v ∧ encode (toUnsigned 64 v) <+: data ∧ n = (encode (toUnsigned 64 v)).length :=
  strict_image_iff (by decide) (by decide) (by decide) isInt64_toSigned
    toUnsigned_toSigned_64 toSigned_toUnsigned_64

/-- An encoding that is cut short is reported so, in either mode. -/
theorem streamVarint_cut {v : Int} {start rest : List UInt8} (mode : McDecodeMode)
    (cut : start ++ rest = encodeVarint v) (more : rest ≠ []) :
    streamVarint start mode = .partialInput := by
  rw [encodeVarint, encodeGroups_eq] at cut
  have bound : toUnsigned 32 v < 128 ^ 5 := Nat.lt_trans (toUnsigned_lt 32 v) (by decide)
  have short : scan 5 start = .short :=
    scan_short (cut ▸ isCode_encode _) more (cut ▸ encode_length_le (by decide) bound)
  rw [streamVarint_eq, groupsAt, short]
  rfl

theorem encodeVarint_length (v : Int) :
    1 ≤ (encodeVarint v).length ∧ (encodeVarint v).length ≤ 5 := by
  rw [encodeVarint, encodeGroups_eq]
  exact ⟨encode_pos _, encode_length_le (by decide)
    (Nat.lt_trans (toUnsigned_lt 32 v) (by decide))⟩

theorem groupsAt_encodeVarint (v : Int) (mode : McDecodeMode) (rest : List UInt8) :
    groupsAt 5 16 mode 5 0 (encodeVarint v ++ rest) =
      .done (toUnsigned 32 v) (encodeVarint v).length := by
  rw [encodeVarint, encodeGroups_eq]
  exact groupsAt_encode mode rest (by decide) (by decide) (toUnsigned_lt 32 v)

theorem mcReaderVarint_run {v : Int} (int : IsInt32 v) {reader : McReader} {rest : List UInt8}
    (before : reader.Before (encodeVarint v ++ rest)) :
    mcReaderVarint.run reader = (some v, reader.advance (encodeVarint v).length) := by
  have run := readGroups_start cut_32 before
  rw [groupsAt_encodeVarint] at run
  rw [mcReaderVarint, Program.run_bind, Prog.bind_some run, toSigned_toUnsigned_32 int]
  rfl

theorem streamVarint_run {v : Int} (int : IsInt32 v) (mode : McDecodeMode) (rest : List UInt8) :
    streamVarint (encodeVarint v ++ rest) mode = .complete v (encodeVarint v).length :=
  streamVarint_iff.mpr ⟨_, groupsAt_encodeVarint v mode rest, toSigned_toUnsigned_32 int⟩

theorem acceptedVarint_run {v : Int} (int : IsInt32 v) (rest : List UInt8) (wireSize : Nat) :
    acceptedVarint ⟨encodeVarint v ++ rest, wireSize⟩ =
      (some v, ⟨rest, wireSize + (encodeVarint v).length⟩) :=
  acceptedVarint_iff.mpr ⟨_, _, groupsAt_encodeVarint v .vanillaCompat rest,
    toSigned_toUnsigned_32 int, by rw [List.drop_left]⟩

theorem mcReaderVarlong_run {v : Int} (int : IsInt64 v) {reader : McReader} {rest : List UInt8}
    (before : reader.Before (encode (toUnsigned 64 v) ++ rest)) :
    mcReaderVarlong.run reader =
      (some v, reader.advance (encode (toUnsigned 64 v)).length) := by
  have done : groupsAt 10 2 reader.mode 10 0 (encode (toUnsigned 64 v) ++ rest) = _ :=
    groupsAt_encode _ rest (by decide) (by decide) (toUnsigned_lt 64 v)
  have run := readGroups_start cut_64 before
  rw [done] at run
  rw [mcReaderVarlong, Program.run_bind, Prog.bind_some run, toSigned_toUnsigned_64 int]
  rfl

/-- What the encoders write, every reader reads back, and nothing else is read: over
all values, all byte strings and both modes. -/
theorem one_varint_language :
    (∀ v, IsInt32 v → 1 ≤ (encodeVarint v).length ∧ (encodeVarint v).length ≤ 5 ∧
      (∀ packet : McPacket, packet.Fits (encodeVarint v).length →
        (mcPacketVarint v).run packet = (some (), packet.append (encodeVarint v))) ∧
      ∀ rest,
        (∀ reader : McReader, reader.Before (encodeVarint v ++ rest) →
          mcReaderVarint.run reader = (some v, reader.advance (encodeVarint v).length)) ∧
        (∀ mode, streamVarint (encodeVarint v ++ rest) mode =
          .complete v (encodeVarint v).length) ∧
        ∀ wireSize, acceptedVarint ⟨encodeVarint v ++ rest, wireSize⟩ =
          (some v, ⟨rest, wireSize + (encodeVarint v).length⟩)) ∧
    (∀ v, IsInt64 v → 1 ≤ (encode (toUnsigned 64 v)).length ∧
      (encode (toUnsigned 64 v)).length ≤ 10 ∧
      (∀ packet : McPacket, packet.Fits (encode (toUnsigned 64 v)).length →
        (mcPacketVarlong v).run packet = (some (), packet.append (encode (toUnsigned 64 v)))) ∧
      ∀ rest, ∀ reader : McReader, reader.Before (encode (toUnsigned 64 v) ++ rest) →
        mcReaderVarlong.run reader =
          (some v, reader.advance (encode (toUnsigned 64 v)).length)) ∧
    (∀ data v,
      (∀ reader after : McReader, reader.Before data → reader.mode = .vanillaCompat →
        (mcReaderVarint.run reader = (some v, after) ↔
          ∃ n, streamVarint data .vanillaCompat = .complete v n ∧ after = reader.advance n)) ∧
      ∀ wireSize after, acceptedVarint ⟨data, wireSize⟩ = (some v, after) ↔
        ∃ n, streamVarint data .vanillaCompat = .complete v n ∧
          after = ⟨data.drop n, wireSize + n⟩) ∧
    (∀ data v,
      (∀ n, streamVarint data .strict = .complete v n ↔
        IsInt32 v ∧ encodeVarint v <+: data ∧ n = (encodeVarint v).length) ∧
      ∀ reader after : McReader, reader.Before data → reader.mode = .strict →
        (mcReaderVarint.run reader = (some v, after) ↔
          IsInt32 v ∧ encodeVarint v <+: data ∧
            after = reader.advance (encodeVarint v).length) ∧
        (mcReaderVarlong.run reader = (some v, after) ↔
          IsInt64 v ∧ encode (toUnsigned 64 v) <+: data ∧
            after = reader.advance (encode (toUnsigned 64 v)).length)) ∧
    ∀ v start rest mode, start ++ rest = encodeVarint v → rest ≠ [] →
      streamVarint start mode = .partialInput := by
  refine ⟨fun v int => ?_, fun v int => ?_, fun data v => ⟨?_, ?_⟩,
    fun data v => ⟨fun n => ?_, fun reader after before strict => ⟨?_, ?_⟩⟩,
    fun v start rest mode => streamVarint_cut mode⟩
  · exact ⟨(encodeVarint_length v).1, (encodeVarint_length v).2, fun _ => mcPacketVarint_run,
      fun rest => ⟨fun _ => mcReaderVarint_run int, fun mode => streamVarint_run int mode rest,
        acceptedVarint_run int rest⟩⟩
  · exact ⟨encode_pos _, encode_length_le (by decide)
      (Nat.lt_trans (toUnsigned_lt 64 v) (by decide)), fun _ => writeGroups_run,
      fun _ _ => mcReaderVarlong_run int⟩
  · intro reader after before compat
    simp only [mcReaderVarint_iff before, compat, streamVarint_iff]
    constructor
    · rintro ⟨word, n, done, same, moved⟩; exact ⟨n, ⟨word, done, same⟩, moved⟩
    · rintro ⟨n, ⟨word, done, same⟩, moved⟩; exact ⟨word, n, done, same, moved⟩
  · intro wireSize after
    simp only [acceptedVarint_iff, streamVarint_iff]
    constructor
    · rintro ⟨word, n, done, same, moved⟩; exact ⟨n, ⟨word, done, same⟩, moved⟩
    · rintro ⟨n, ⟨word, done, same⟩, moved⟩; exact ⟨word, n, done, same, moved⟩
  · rw [streamVarint_iff, strict_image_iff_32]
  · rw [mcReaderVarint_iff before, strict]
    constructor
    · rintro ⟨word, n, done, same, moved⟩
      obtain ⟨int, head, rfl⟩ := strict_image_iff_32.mp ⟨word, done, same⟩
      exact ⟨int, head, moved⟩
    · rintro ⟨int, head, moved⟩
      obtain ⟨word, done, same⟩ := strict_image_iff_32.mpr ⟨int, head, rfl⟩
      exact ⟨word, _, done, same, moved⟩
  · rw [mcReaderVarlong_iff before, strict]
    constructor
    · rintro ⟨word, n, done, same, moved⟩
      obtain ⟨int, head, rfl⟩ := strict_image_iff_64.mp ⟨word, done, same⟩
      exact ⟨int, head, moved⟩
    · rintro ⟨int, head, moved⟩
      obtain ⟨word, done, same⟩ := strict_image_iff_64.mpr ⟨int, head, rfl⟩
      exact ⟨word, _, done, same, moved⟩

/-- Minus one, read by the handshake parser, and its first bytes by the stream decoder. -/
theorem one_varint_language_minusOne :
    acceptedVarint ⟨encodeVarint (-1) ++ [7], 0⟩ = (some (-1), ⟨[7], 5⟩) ∧
      streamVarint [0xff, 0xff, 0xff] .strict = .partialInput := by
  have size : (encodeVarint (-1)).length = 5 := by decide +kernel
  have first := (one_varint_language.1 (-1) (by constructor <;> decide)).2.2.2 [7]
  have last := one_varint_language.2.2.2.2 (-1) [0xff, 0xff, 0xff] [0xff, 0x0f] .strict
    (by decide +kernel) (by decide)
  exact ⟨by simpa [size] using first.2.2 0, last⟩

end McProtocol
