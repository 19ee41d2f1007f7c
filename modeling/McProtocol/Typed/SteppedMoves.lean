import Mathlib.Algebra.Order.BigOperators.Group.List
import McProtocol.Typed.Bodies

/-! # Stepped movements

From 777 on a movement may be a path of steps whose deltas are added up in an `int32_t` for each
axis. The limit on the number of steps does not keep the sums inside: 2 ^ 16 steps do.
-/

namespace McProtocol

/-- What one step moves on each axis. -/
abbrev Delta := Int × Int × Int

/-- A 16-bit delta on each axis. -/
def IsShorts (delta : Delta) : Prop :=
  (-2 ^ 15 ≤ delta.1 ∧ delta.1 < 2 ^ 15) ∧ (-2 ^ 15 ≤ delta.2.1 ∧ delta.2.1 < 2 ^ 15) ∧
    (-2 ^ 15 ≤ delta.2.2 ∧ delta.2.2 < 2 ^ 15)

def shortsBytes (delta : Delta) : List UInt8 :=
  int16Bytes delta.1 ++ (int16Bytes delta.2.1 ++ int16Bytes delta.2.2)

variable {mode : McDecodeMode}

theorem accepts_readShorts :
    Accepts mode readShorts.run fun delta bytes => IsShorts delta ∧ bytes = shortsBytes delta := by
  refine (accepts_i16.bind fun x => accepts_i16.bind fun y => accepts_i16.bind fun z =>
    .pure (x, y, z)).congr fun delta bytes => ⟨?_, ?_⟩
  · rintro ⟨x, _, _, rfl, ⟨boundX, rfl⟩, y, _, _, rfl, ⟨boundY, rfl⟩, z, _, _, rfl, ⟨boundZ, rfl⟩,
      rfl, rfl⟩
    exact ⟨⟨boundX, boundY, boundZ⟩, by simp [shortsBytes]⟩
  · rintro ⟨⟨boundX, boundY, boundZ⟩, rfl⟩
    exact ⟨delta.1, _, _, rfl, ⟨boundX, rfl⟩, delta.2.1, _, _, rfl, ⟨boundY, rfl⟩, delta.2.2, _, [],
      (List.append_nil _).symm, ⟨boundZ, rfl⟩, rfl, rfl⟩

/-- A step: how many ticks it takes, and its delta. -/
def IsDeltaStep (mode : McDecodeMode) (delta : Delta) (bytes : List UInt8) : Prop :=
  ∃ (ticks : Int) (code : List UInt8), IsVarint mode ticks code ∧ 0 ≤ ticks ∧ IsShorts delta ∧
    bytes = code ++ shortsBytes delta

/-- The three sums behind a step. -/
def addDelta (sum delta : Delta) : Delta :=
  (addInt32 sum.1 delta.1, addInt32 sum.2.1 delta.2.1, addInt32 sum.2.2 delta.2.2)

theorem accepts_readDeltaStep (sum : Delta) :
    Accepts mode (readDeltaStep sum).run fun next bytes =>
      ∃ delta, IsDeltaStep mode delta bytes ∧ next = addDelta sum delta := by
  refine (accepts_varint.bind fun ticks => .guarded (accepts_rejectWhen 0) (accepts_readShorts.bind
    fun delta => .pure (addDelta sum delta))).congr fun next bytes => ⟨?_, ?_⟩
  · rintro ⟨ticks, code, _, rfl, isVarint, natural, delta, _, _, rfl, ⟨shorts, rfl⟩, rfl, rfl⟩
    exact ⟨delta, ⟨ticks, code, isVarint, not_not.mp natural, shorts, by simp⟩, rfl⟩
  · rintro ⟨delta, ⟨ticks, code, isVarint, natural, shorts, rfl⟩, rfl⟩
    exact ⟨ticks, code, _, rfl, isVarint, not_not.mpr natural, delta, _, [],
      (List.append_nil _).symm, ⟨shorts, rfl⟩, rfl, rfl⟩

theorem IsDeltaStep.seven_le {delta : Delta} {bytes : List UInt8}
    (isStep : IsDeltaStep mode delta bytes) : 7 ≤ bytes.length := by
  obtain ⟨ticks, code, isVarint, -, -, rfl⟩ := isStep
  have positive := isVarint.isCode.length_pos
  simp only [shortsBytes, List.length_append, BigEndian.length_bytes]
  omega

/-- What the steps of a path leave in the sums. -/
theorem steps_deltas_iff {start sum : Delta} {parts : List (List UInt8)} :
    Steps (fun sum next bytes => ∃ delta, IsDeltaStep mode delta bytes ∧ next = addDelta sum delta)
        start parts sum ↔
      ∃ deltas : List Delta, List.Forall₂ (IsDeltaStep mode) deltas parts ∧
        sum = deltas.foldl addDelta start := by
  constructor
  · intro steps
    induction steps with
    | nil start => exact ⟨[], .nil, rfl⟩
    | cons first _ ih =>
        obtain ⟨delta, isStep, rfl⟩ := first
        obtain ⟨deltas, all, rfl⟩ := ih
        exact ⟨delta :: deltas, .cons isStep all, rfl⟩
  · rintro ⟨deltas, all, rfl⟩
    induction all generalizing start with
    | nil => exact .nil start
    | cons isStep _ ih => exact .cons ⟨_, isStep, rfl⟩ ih

/-- A path of steps, each read behind the other. -/
theorem accepts_path (count : Nat) :
    Accepts mode (Prog.iterate (fun sum => (readDeltaStep sum).run) count (0, 0, 0))
      fun sum bytes => ∃ (deltas : List Delta) (parts : List (List UInt8)),
        deltas.length = count ∧ List.Forall₂ (IsDeltaStep mode) deltas parts ∧
        sum = deltas.foldl addDelta (0, 0, 0) ∧ bytes = parts.flatten := by
  refine (Accepts.steps accepts_readDeltaStep count (0, 0, 0)).congr fun sum bytes => ⟨?_, ?_⟩
  · rintro ⟨parts, rfl, steps, rfl⟩
    obtain ⟨deltas, all, total⟩ := steps_deltas_iff.mp steps
    exact ⟨deltas, parts, all.length_eq, all, total, rfl⟩
  · rintro ⟨deltas, parts, rfl, all, total, rfl⟩
    exact ⟨parts, all.length_eq.symm, steps_deltas_iff.mpr ⟨deltas, all, total⟩, rfl⟩

/-- Every step has a byte of ticks and three shorts. -/
theorem seven_mul_le {deltas : List Delta} {parts : List (List UInt8)}
    (all : List.Forall₂ (IsDeltaStep mode) deltas parts) :
    7 * deltas.length ≤ parts.flatten.length := by
  induction all with
  | nil => simp
  | cons isStep _ ih =>
      have seven := isStep.seven_le
      simp only [List.length_cons, List.flatten_cons, List.length_append]
      omega

/-- What `read_vec_delta_777` reads: one delta where no steps are announced, a path where some
are. -/
structure IsVecDelta (mode : McDecodeMode) (onGround : Bool) (steps : Nat) (deltas : List Delta)
    (bytes : List UInt8) : Prop where
  split : ∃ (properties : Int) (code tail : List UInt8), IsVarint mode properties code ∧
    0 ≤ properties ∧ onGround = (properties.toNat &&& 1 != 0) ∧ steps = properties.toNat >>> 1 ∧
    bytes = code ++ tail ∧
    ((steps = 0 ∧ ∃ delta, deltas = [delta] ∧ IsShorts delta ∧ tail = shortsBytes delta) ∨
      (steps ≠ 0 ∧ steps ≤ mcMaxPacketArrayCount ∧ deltas.length = steps ∧
        ∃ parts, List.Forall₂ (IsDeltaStep mode) deltas parts ∧ tail = parts.flatten))

/-- What the code makes of the deltas of a path. -/
def VecDelta.Of (read : VecDelta) (deltas : List Delta) : Prop :=
  if read.steps = 0 then deltas = [read.sum] else read.sum = deltas.foldl addDelta (0, 0, 0)

/-- The check in front of the steps: there are few enough, and the bytes for them are there. -/
theorem peek_steps_eq_some {count : Nat} {reader after : McReader} {u : Unit}
    (run : (orReject .invalidPacketBody 0 do
      require (count ≤ mcMaxPacketArrayCount)
      requireRoom count 7).run reader = (some u, after)) :
    count ≤ mcMaxPacketArrayCount ∧ after = reader := by
  obtain ⟨_, middle, few, room⟩ := Prog.bind_eq_some (Prog.rescue_eq_some run)
  obtain ⟨holds, rfl⟩ := require_eq_some few
  exact ⟨holds, requireRoom_eq_some room⟩

theorem peek_steps {count : Nat} {reader : McReader} {bytes rest : List UInt8}
    (few : count ≤ mcMaxPacketArrayCount) (long : 7 * count ≤ bytes.length)
    (before : reader.Before (bytes ++ rest)) :
    (orReject .invalidPacketBody 0 do
      require (count ≤ mcMaxPacketArrayCount)
      requireRoom count 7).run reader = (some (), reader) := by
  have room : count ≤ mcReaderRemaining reader / 7 := by
    rw [before.remaining, List.length_append]
    omega
  change Prog.rescue _ _ reader = _
  rw [Prog.rescue, Program.run_bind, Prog.bind_some (require_good few), requireRoom_good room]

theorem accepts_readVecDelta777 :
    Accepts mode readVecDelta777.run fun read bytes =>
      ∃ deltas, IsVecDelta mode read.onGround read.steps deltas bytes ∧ read.Of deltas := by
  have behind (properties : Int) : Accepts mode
      (if properties.toNat >>> 1 = 0 then do
          let delta ← readShorts
          pure ⟨properties.toNat &&& 1 != 0, delta, 0⟩
        else do
          orReject .invalidPacketBody 0 do
            require (properties.toNat >>> 1 ≤ mcMaxPacketArrayCount)
            requireRoom (properties.toNat >>> 1) 7
          let sum ← .iterate readDeltaStep (properties.toNat >>> 1) (0, 0, 0)
          pure ⟨properties.toNat &&& 1 != 0, sum, properties.toNat >>> 1⟩ : ReadM VecDelta).run
      fun read tail => read.onGround = (properties.toNat &&& 1 != 0) ∧
        read.steps = properties.toNat >>> 1 ∧ ∃ deltas, read.Of deltas ∧
        ((read.steps = 0 ∧ ∃ delta, deltas = [delta] ∧ IsShorts delta ∧ tail = shortsBytes delta) ∨
          (read.steps ≠ 0 ∧ read.steps ≤ mcMaxPacketArrayCount ∧ deltas.length = read.steps ∧
            ∃ parts, List.Forall₂ (IsDeltaStep mode) deltas parts ∧ tail = parts.flatten)) := by
    by_cases none : properties.toNat >>> 1 = 0
    · simp only [if_pos none]
      refine (accepts_readShorts.bind fun delta => .pure
        (⟨properties.toNat &&& 1 != 0, delta, 0⟩ : VecDelta)).congr fun read tail => ⟨?_, ?_⟩
      · rintro ⟨delta, _, _, rfl, ⟨shorts, rfl⟩, rfl, rfl⟩
        exact ⟨rfl, none.symm, [delta], by rw [VecDelta.Of, if_pos rfl], .inl ⟨rfl, delta, rfl, shorts, by simp⟩⟩
      · rintro ⟨ground, steps, deltas, of, ⟨zero, delta, rfl, shorts, rfl⟩ | ⟨some, -⟩⟩
        · rw [VecDelta.Of, if_pos zero, List.singleton_inj] at of
          refine ⟨delta, _, [], (List.append_nil _).symm, ⟨shorts, rfl⟩, ?_, rfl⟩
          rw [← ground, of, ← zero]
        · exact absurd (steps.trans none) some
    · simp only [if_neg none]
      refine (Accepts.peeked (G := fun (read : VecDelta) tail => ∃ (deltas : List Delta)
          (parts : List (List UInt8)), deltas.length = properties.toNat >>> 1 ∧
          List.Forall₂ (IsDeltaStep mode) deltas parts ∧
          read = ⟨properties.toNat &&& 1 != 0, deltas.foldl addDelta (0, 0, 0),
            properties.toNat >>> 1⟩ ∧ tail = parts.flatten)
        (fun run => peek_steps_eq_some run) (fun few ⟨deltas, parts, length, all, _, flat⟩ before =>
          peek_steps few (by rw [flat, ← length]; exact seven_mul_le all) before)
        (((accepts_path (properties.toNat >>> 1)).bind fun sum => .pure
          (⟨properties.toNat &&& 1 != 0, sum, properties.toNat >>> 1⟩ : VecDelta)).congr
            fun read tail => ⟨?_, ?_⟩)).congr fun read tail => ⟨?_, ?_⟩
      · rintro ⟨sum, _, _, rfl, ⟨deltas, parts, length, all, rfl, rfl⟩, rfl, rfl⟩
        exact ⟨deltas, parts, length, all, rfl, List.append_nil _⟩
      · rintro ⟨deltas, parts, length, all, rfl, rfl⟩
        exact ⟨_, _, [], (List.append_nil _).symm, ⟨deltas, parts, length, all, rfl, rfl⟩, rfl, rfl⟩
      · rintro ⟨few, deltas, parts, length, all, rfl, rfl⟩
        exact ⟨rfl, rfl, deltas, by rw [VecDelta.Of, if_neg none], .inr ⟨none, few, length, parts, all, rfl⟩⟩
      · rintro ⟨ground, steps, deltas, of, ⟨zero, -⟩ | ⟨some, few, length, parts, all, rfl⟩⟩
        · exact absurd (steps.symm.trans zero) none
        · rw [VecDelta.Of, if_neg some] at of
          rw [steps] at few length
          refine ⟨few, deltas, parts, length, all, ?_, rfl⟩
          rw [← ground, ← steps, ← of]
  refine (accepts_varint.bind fun properties => .guarded (accepts_rejectWhen 0)
    (behind properties)).congr fun read bytes => ⟨?_, ?_⟩
  · rintro ⟨properties, code, tail, rfl, isVarint, natural, ground, steps, deltas, of, cases⟩
    exact ⟨deltas, ⟨properties, code, tail, isVarint, not_not.mp natural, ground, steps, rfl, cases⟩,
      of⟩
  · rintro ⟨deltas, ⟨properties, code, tail, isVarint, natural, ground, steps, rfl, cases⟩, of⟩
    exact ⟨properties, code, tail, rfl, isVarint, not_not.mpr natural, ground, steps, deltas, of,
      cases⟩

theorem IsVecDelta.isShorts {onGround : Bool} {steps : Nat} {deltas : List Delta}
    {bytes : List UInt8} (isVecDelta : IsVecDelta mode onGround steps deltas bytes) :
    ∀ delta ∈ deltas, IsShorts delta := by
  obtain ⟨_, _, _, -, -, -, -, -, ⟨-, delta, rfl, shorts, -⟩ | ⟨-, -, -, parts, all, -⟩⟩ :=
    isVecDelta.split
  · simpa using shorts
  · intro delta mem
    obtain ⟨_, -, _, _, -, -, shorts, -⟩ := Iteration.exists_item all mem
    exact shorts

/-- Three sums that their variables hold. -/
def FitInt32 (sum : Delta) : Prop := IsInt32 sum.1 ∧ IsInt32 sum.2.1 ∧ IsInt32 sum.2.2

/-- The sums of the first steps stay inside, however many they are, from `low` on. -/
def SumsFit (low : Nat) (deltas : List Delta) : Prop :=
  ∀ count, low ≤ count → count ≤ deltas.length → FitInt32 (deltas.take count).sum

theorem addInt32_eq {left right : Int} (fits : IsInt32 (left + right)) :
    addInt32 left right = left + right := toSigned_toUnsigned_32 fits

theorem addDelta_eq {sum delta : Delta} (fits : FitInt32 (sum + delta)) :
    addDelta sum delta = sum + delta := by
  obtain ⟨x, y, z⟩ := fits
  exact Prod.ext (addInt32_eq x) (Prod.ext (addInt32_eq y) (addInt32_eq z))

/-- Where no sum leaves `int32_t` the code adds up the deltas. -/
theorem foldl_addDelta {deltas : List Delta} {start : Delta}
    (fit : ∀ count ≤ deltas.length, FitInt32 (start + (deltas.take count).sum)) :
    deltas.foldl addDelta start = start + deltas.sum := by
  induction deltas generalizing start with
  | nil => exact (add_zero start).symm
  | cons delta deltas ih =>
      have first : addDelta start delta = start + delta :=
        addDelta_eq (by simpa using fit 1 (by simp))
      rw [List.foldl_cons, first, List.sum_cons, ← add_assoc]
      refine ih fun count few => ?_
      simpa [add_assoc] using fit (count + 1) (by simpa using few)

/-- As far out as that many steps can lead. -/
def Within (count : Nat) (sum : Delta) : Prop :=
  (-2 ^ 15 * count ≤ sum.1 ∧ sum.1 ≤ (2 ^ 15 - 1) * count) ∧
    (-2 ^ 15 * count ≤ sum.2.1 ∧ sum.2.1 ≤ (2 ^ 15 - 1) * count) ∧
    (-2 ^ 15 * count ≤ sum.2.2 ∧ sum.2.2 ≤ (2 ^ 15 - 1) * count)

theorem within_sum {deltas : List Delta} (shorts : ∀ delta ∈ deltas, IsShorts delta) :
    Within deltas.length deltas.sum := by
  induction deltas with
  | nil => exact ⟨⟨le_refl _, le_refl _⟩, ⟨le_refl _, le_refl _⟩, ⟨le_refl _, le_refl _⟩⟩
  | cons delta deltas ih =>
      simp only [List.mem_cons, forall_eq_or_imp] at shorts
      obtain ⟨x, y, z⟩ := shorts.1
      obtain ⟨restX, restY, restZ⟩ := ih shorts.2
      rw [List.sum_cons, List.length_cons]
      refine ⟨?_, ?_, ?_⟩ <;> simp only [Prod.fst_add, Prod.snd_add] <;> omega

/-- `2 ^ 16` steps of a short reach `-2 ^ 31` at most. -/
theorem Within.fits {count : Nat} {sum : Delta} (within : Within count sum)
    (few : count ≤ 2 ^ 16) : FitInt32 sum := by
  obtain ⟨x, y, z⟩ := within
  exact ⟨⟨by omega, by omega⟩, ⟨by omega, by omega⟩, ⟨by omega, by omega⟩⟩

/-- Only the steps behind the first `2 ^ 16` can make a sum overflow. -/
theorem sumsFit_iff {deltas : List Delta} (shorts : ∀ delta ∈ deltas, IsShorts delta) :
    SumsFit 0 deltas ↔ SumsFit (2 ^ 16 + 1) deltas := by
  constructor
  · intro fit count _
    exact fit count (Nat.zero_le _)
  · intro fit count _ few
    by_cases many : 2 ^ 16 < count
    · exact fit count many few
    · have within : Within (deltas.take count).length (deltas.take count).sum :=
        within_sum fun delta mem => shorts delta (List.mem_of_mem_take mem)
      rw [List.length_take, min_eq_left few] at within
      exact within.fits (not_lt.mp many)

theorem VecDelta.Of.sum_eq {read : VecDelta} {deltas : List Delta} (of : read.Of deltas)
    (fit : SumsFit 0 deltas) : read.sum = deltas.sum := by
  unfold VecDelta.Of at of
  split_ifs at of with none
  · rw [of, List.sum_singleton]
  · rw [of, foldl_addDelta fun count few => ?_]
    · exact zero_add _
    · exact (zero_add (deltas.take count).sum).symm ▸ fit count (Nat.zero_le _) few

/-- Steps that all go the longest way down one axis. -/
def longPath (count : Nat) : List UInt8 :=
  encodeVarint (2 * count : Nat) ++ (List.replicate count [0, 0x80, 0, 0, 0, 0, 0]).flatten

theorem longPath_isVecDelta (mode : McDecodeMode) {count : Nat} (some : count ≠ 0) (few : count ≤ mcMaxPacketArrayCount) :
    IsVecDelta mode false count (List.replicate count (-2 ^ 15, 0, 0)) (longPath count) := by
  have bound : count ≤ 2 ^ 20 := few
  have step : IsDeltaStep mode (-2 ^ 15, 0, 0) [0, 0x80, 0, 0, 0, 0, 0] :=
    ⟨0, [0], isVarint_byte (show (0 : UInt8).toNat < 128 by decide), le_refl 0,
      ⟨⟨by norm_num, by norm_num⟩, ⟨by norm_num, by norm_num⟩, ⟨by norm_num, by norm_num⟩⟩, rfl⟩
  have all : List.Forall₂ (IsDeltaStep mode) (List.replicate count (-2 ^ 15, 0, 0))
      (List.replicate count [0, 0x80, 0, 0, 0, 0, 0]) := by
    clear some few bound
    induction count with
    | zero => exact .nil
    | succ count ih => exact .cons step ih
  refine ⟨(2 * count : Nat), _, _, isVarint_encode ⟨by omega, by omega⟩, by omega, ?_, ?_, rfl,
    .inr ⟨some, few, List.length_replicate, _, all, rfl⟩⟩
  · rw [Int.toNat_natCast, Nat.and_one_is_mod, Nat.mul_mod_right]
    rfl
  · rw [Int.toNat_natCast, Nat.shiftRight_eq_div_pow]
    omega

/-- One step more than `2 ^ 16` leaves `int32_t`. -/
theorem longPath_overflows {count : Nat} (many : 2 ^ 16 < count) :
    ¬ SumsFit 0 (List.replicate count (-2 ^ 15, 0, 0)) := by
  intro fit
  have last := (fit (2 ^ 16 + 1) (Nat.zero_le _) (by rw [List.length_replicate]; exact many)).1.1
  rw [List.take_replicate, min_eq_left many, List.sum_replicate, Prod.smul_fst] at last
  norm_num at last

/-- A path that is read stays inside on all axes, and is added up, exactly when the sums behind
the first `2 ^ 16` steps stay inside; and every number of steps above `2 ^ 16` that is read has
a path that does not. -/
theorem vecDelta_sums (mode : McDecodeMode) :
    (∀ (reader after : McReader) (data : List UInt8) (read : VecDelta), reader.mode = mode →
      reader.Before data → readVecDelta777.run reader = (some read, after) →
        ∃ deltas bytes rest, data = bytes ++ rest ∧
          IsVecDelta mode read.onGround read.steps deltas bytes ∧
          ((SumsFit 0 deltas ∧ read.sum = deltas.sum) ↔ SumsFit (2 ^ 16 + 1) deltas)) ∧
    ∀ count : Nat, 2 ^ 16 < count → count ≤ mcMaxPacketArrayCount →
      ∃ deltas bytes read, IsVecDelta mode read.onGround count deltas bytes ∧
        Reads mode readVecDelta777.run read bytes ∧ ¬ SumsFit 0 deltas := by
  constructor
  · intro reader after data read moded before run
    obtain ⟨bytes, rest, split, ⟨deltas, isVecDelta, of⟩, -⟩ :=
      accepts_readVecDelta777.sound moded before run
    refine ⟨deltas, bytes, rest, split, isVecDelta, ?_⟩
    rw [← sumsFit_iff isVecDelta.isShorts]
    exact ⟨And.left, fun fit => ⟨fit, of.sum_eq fit⟩⟩
  · intro count many few
    have isVecDelta := longPath_isVecDelta mode (Nat.ne_of_gt (by omega)) few
    have of : VecDelta.Of ⟨false, (List.replicate count (-2 ^ 15, 0, 0)).foldl addDelta (0, 0, 0),
        count⟩ (List.replicate count (-2 ^ 15, 0, 0)) := by
      rw [VecDelta.Of, if_neg (by simp only; omega)]
    exact ⟨_, _, _, isVecDelta, accepts_readVecDelta777.complete ⟨_, isVecDelta, of⟩,
      longPath_overflows many⟩

/-- `2 ^ 16 + 1` steps are read, and overflow. -/
theorem vecDelta_sums_long_path :
    let deltas : List Delta := List.replicate 65537 (-2 ^ 15, 0, 0)
    IsVecDelta .strict false 65537 deltas (longPath 65537) ∧
      (readVecDelta777.run (mcReaderInitMode (longPath 65537) .strict none)).1 ≠ none ∧
      ¬ SumsFit 0 deltas := by
  have accepted (count : Nat) (many : 2 ^ 16 < count) (few : count ≤ mcMaxPacketArrayCount) :
      IsVecDelta .strict false count (List.replicate count (-2 ^ 15, 0, 0)) (longPath count) ∧
        (readVecDelta777.run (mcReaderInitMode (longPath count) .strict none)).1 ≠ none ∧
        ¬ SumsFit 0 (List.replicate count (-2 ^ 15, 0, 0)) := by
    have isVecDelta := longPath_isVecDelta .strict (by omega) few
    have before : (mcReaderInitMode (longPath count) .strict none).Before (longPath count ++ []) := by
      rw [List.append_nil]
      exact mcReaderInitMode_before _ _ _
    have run := accepts_readVecDelta777.complete (a := ⟨false, (List.replicate count
      (-2 ^ 15, 0, 0)).foldl addDelta (0, 0, 0), count⟩) ⟨_, isVecDelta, by
        rw [VecDelta.Of, if_neg (by simp only; omega)]⟩ _ [] rfl before
    exact ⟨isVecDelta, by rw [run]; exact Option.some_ne_none _, longPath_overflows many⟩
  exact accepted 65537 (by norm_num) (by decide)

/-- A path of three steps, and the shortest that is read and overflows. -/
theorem vecDelta_sums_three :
    let path : List UInt8 :=
      [7, 1, 0, 10, 255, 255, 0, 2, 2, 1, 44, 0, 0, 255, 251, 1, 255, 246, 0, 1, 0, 3]
    (∃ deltas bytes rest, path = bytes ++ rest ∧ IsVecDelta .strict true 3 deltas bytes ∧
      ((SumsFit 0 deltas ∧ ((300, 0, 0) : Delta) = deltas.sum) ↔ SumsFit (2 ^ 16 + 1) deltas)) ∧
    ∃ deltas bytes read, IsVecDelta .strict read.onGround 65537 deltas bytes ∧
      Reads .strict readVecDelta777.run read bytes ∧ ¬ SumsFit 0 deltas := by
  intro path
  constructor
  · exact (vecDelta_sums .strict).1 (mcReaderInitMode path .strict none) _ _ ⟨true, (300, 0, 0), 3⟩
      rfl (mcReaderInitMode_before _ _ _) (Prod.ext (by decide +kernel) rfl)
  · exact (vecDelta_sums .strict).2 65537 (by norm_num) (by decide)

end McProtocol
