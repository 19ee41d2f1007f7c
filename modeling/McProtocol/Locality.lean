import McProtocol.Nbt

/-! # Local programs

A program is local when what it returns depends on the bytes it reads and on nothing else: it
follows some grammar. Which grammar does not matter to a list that is only skipped, so the
rules here go through a program without writing its grammar out.
-/

namespace McProtocol

/-- In `mode` the program returns what the bytes it reads say, whatever follows them. -/
def Local {α : Type} (mode : McDecodeMode) (program : Prog McReader α) : Prop :=
  ∃ G, Accepts mode program G

theorem Accepts.isLocal {α : Type} {mode : McDecodeMode} {program : Prog McReader α}
    {G : α → List UInt8 → Prop} (accepts : Accepts mode program G) : Local mode program :=
  ⟨G, accepts⟩

namespace Local

variable {α β : Type} {mode : McDecodeMode} {program : Prog McReader α}

theorem pure (a : α) : Local mode (Pure.pure a) := (Accepts.pure a).isLocal

theorem bind {k : α → Prog McReader β} (first : Local mode program)
    (second : ∀ a, Local mode (k a)) : Local mode (program >>= k) := by
  obtain ⟨G, accepts⟩ := first
  choose K continues using second
  exact (accepts.bind continues).isLocal

theorem refused (never : ∀ reader, (program reader).1 = none) : Local mode program :=
  (Accepts.refused never).isLocal

theorem reject (code : McErrorCode) (back : Nat) :
    Local mode (McProtocol.reject code back : ReadM α).run :=
  refused fun _ => rfl

theorem ite {D : Discipline McReader} {condition : Prop} [Decidable condition] {p q : Program D α}
    (yes : Local mode p.run) (no : Local mode q.run) :
    Local mode (if condition then p else q).run := by
  split_ifs
  · exact yes
  · exact no

theorem rescue (isLocal : Local mode program) (mark : McReader → McReader) :
    Local mode (program.rescue mark) := by
  obtain ⟨G, accepts⟩ := isLocal
  exact (accepts.rescue mark).isLocal

theorem when {condition : Prop} [Decidable condition] {program : Prog McReader Unit}
    (isLocal : Local mode program) : Local mode (Prog.when condition program) := by
  unfold Prog.when
  split_ifs
  · exact isLocal
  · exact pure ()

theorem iterate {body : α → Prog McReader α} (isLocal : ∀ a, Local mode (body a)) (n : Nat)
    (a : α) : Local mode (Prog.iterate body n a) := by
  choose B accepts using isLocal
  exact (Accepts.steps accepts n a).isLocal

/-- What a program returned, with the slice of everything it read. -/
theorem slicedWith {f : α → List UInt8 → β} (isLocal : Local mode program) :
    Local mode (mcReaderOffset.run >>= fun start => program >>= fun a =>
      (readSince start).run >>= fun slice => Pure.pure (f a slice)) := by
  obtain ⟨G, accepts⟩ := isLocal
  exact accepts.slicedWith.isLocal

section checks

variable {condition : Prop} {_ : Decidable condition} {code : McErrorCode}

theorem rejectWhen (back : Nat) : Local mode (McProtocol.rejectWhen condition code back).run :=
  (accepts_rejectWhen back).isLocal

theorem require : Local mode (McProtocol.require condition).run := accepts_require.isLocal

theorem rejectStrict (back : Nat) : Local mode (McProtocol.rejectStrict condition code back).run :=
  Accepts.isLocal (.check fun _ moded => by rw [moded])

theorem orReject {program : ReadM α} (isLocal : Local mode program.run) (back : Nat) :
    Local mode (McProtocol.orReject code back program).run :=
  isLocal.rescue _

end checks

theorem orInvalid {protocol : Int} {program : DecodeM protocol α} (isLocal : Local mode program.run) :
    Local mode program.orInvalid.run :=
  isLocal.rescue _

theorem refuseFailed : Local mode refuseFailed.run := accepts_refuseFailed.isLocal

theorem readerFailProtocol {protocol : Int} {code : McErrorCode} :
    Local mode (McProtocol.readerFailProtocol code protocol : DecodeM protocol α).run :=
  refused fun _ => rfl

theorem bytes (size : Nat) : Local mode (mcReaderBytes size).run := (accepts_bytes size).isLocal

theorem skip (size : Nat) : Local mode (mcReaderSkip size).run := (accepts_skip size).isLocal

theorem u8 : Local mode mcReaderU8.run := accepts_u8.isLocal

theorem u16 : Local mode mcReaderU16.run := accepts_u16.isLocal

theorem u64 : Local mode mcReaderU64.run := accepts_u64.isLocal

theorem i8 : Local mode mcReaderI8.run := u8.bind fun _ => pure _

theorem i16 : Local mode mcReaderI16.run := accepts_i16.isLocal

theorem i32 : Local mode mcReaderI32.run := accepts_i32.isLocal

theorem bool : Local mode mcReaderBool.run :=
  u8.bind fun _ => (rejectStrict 1).bind fun _ => pure _

theorem float : Local mode mcReaderFloat.run := accepts_float.isLocal

theorem double : Local mode mcReaderDouble.run := accepts_double.isLocal

theorem varint : Local mode mcReaderVarint.run := accepts_varint.isLocal

theorem varlong : Local mode mcReaderVarlong.run := accepts_varlong.isLocal

theorem stringBounded (maxSize : Nat) : Local mode (mcReaderStringBounded maxSize).run :=
  (accepts_stringBounded maxSize).isLocal

theorem nbt (namedRoot : Bool) : Local mode (mcReaderNbt namedRoot).run :=
  (accepts_nbt namedRoot).isLocal

end Local

/-- A local program whose values all have a property. -/
def Returns {α : Type} (mode : McDecodeMode) (program : Prog McReader α) (P : α → Prop) : Prop :=
  ∃ G, Accepts mode program G ∧ ∀ a bytes, G a bytes → P a

theorem Local.returns {α : Type} {mode : McDecodeMode} {program : Prog McReader α}
    (isLocal : Local mode program) : Returns mode program fun _ => True := by
  obtain ⟨G, accepts⟩ := isLocal
  exact ⟨G, accepts, fun _ _ _ => trivial⟩

theorem Accepts.returns {α : Type} {mode : McDecodeMode} {program : Prog McReader α}
    {G : α → List UInt8 → Prop} {P : α → Prop} (accepts : Accepts mode program G)
    (holds : ∀ a bytes, G a bytes → P a) : Returns mode program P :=
  ⟨G, accepts, holds⟩

namespace Returns

variable {α β : Type} {mode : McDecodeMode} {program : Prog McReader α} {P Q : α → Prop}

theorem isLocal (returns : Returns mode program P) : Local mode program := by
  obtain ⟨G, accepts, -⟩ := returns
  exact ⟨G, accepts⟩

theorem pure {a : α} (holds : P a) : Returns mode (Pure.pure a) P :=
  ⟨_, .pure a, by rintro _ _ ⟨rfl, -⟩; exact holds⟩

theorem bind {k : α → Prog McReader β} {R : β → Prop} (first : Returns mode program P)
    (second : ∀ a, P a → Returns mode (k a) R) : Returns mode (program >>= k) R := by
  obtain ⟨G, accepts, holds⟩ := first
  choose K continues returned using second
  have behind (a : α) (valid : P a) : Accepts mode (k a) fun b bytes => ∃ valid, K a valid b bytes :=
    (continues a valid).congr fun b bytes => ⟨fun derived => ⟨valid, derived⟩, fun ⟨_, derived⟩ => derived⟩
  refine ⟨_, accepts.bindWhere (P := P) (holds _ _) behind, ?_⟩
  rintro b _ ⟨a, _, tail, -, -, valid, derived⟩
  exact returned a valid b tail derived

theorem ite {D : Discipline McReader} {condition : Prop} [Decidable condition] {p q : Program D α}
    (yes : condition → Returns mode p.run P) (no : ¬ condition → Returns mode q.run P) :
    Returns mode (if condition then p else q).run P := by
  split_ifs with holds
  · exact yes holds
  · exact no holds

theorem orInvalid {protocol : Int} {program : DecodeM protocol α}
    (returns : Returns mode program.run P) : Returns mode program.orInvalid.run P := by
  obtain ⟨G, accepts, holds⟩ := returns
  exact ⟨G, accepts.rescue _, holds⟩

section checks

variable {condition : Prop} {_ : Decidable condition} {code : McErrorCode}

theorem require : Returns mode (McProtocol.require condition).run fun _ => condition :=
  ⟨_, accepts_require, fun _ _ => And.left⟩

theorem rejectWhen (back : Nat) :
    Returns mode (McProtocol.rejectWhen condition code back).run fun _ => ¬ condition :=
  ⟨_, accepts_rejectWhen back, fun _ _ => And.left⟩

end checks

end Returns

/-- A local program whose values stand in a relation to the bytes they are read from. -/
def Gives {α : Type} (mode : McDecodeMode) (program : Prog McReader α)
    (R : α → List UInt8 → Prop) : Prop :=
  ∃ G, Accepts mode program G ∧ ∀ a bytes, G a bytes → R a bytes

theorem Accepts.gives {α : Type} {mode : McDecodeMode} {program : Prog McReader α}
    {G : α → List UInt8 → Prop} (accepts : Accepts mode program G) : Gives mode program G :=
  ⟨G, accepts, fun _ _ derived => derived⟩

namespace Gives

variable {α β : Type} {mode : McDecodeMode} {program : Prog McReader α}
variable {R S : α → List UInt8 → Prop}

theorem mono (gives : Gives mode program R) (wider : ∀ a bytes, R a bytes → S a bytes) :
    Gives mode program S := by
  obtain ⟨G, accepts, holds⟩ := gives
  exact ⟨G, accepts, fun a bytes derived => wider a bytes (holds a bytes derived)⟩

theorem bind {k : α → Prog McReader β} {K : α → β → List UInt8 → Prop}
    (first : Gives mode program R) (second : ∀ a, Gives mode (k a) (K a)) :
    Gives mode (program >>= k) fun b bytes =>
      ∃ a head tail, bytes = head ++ tail ∧ R a head ∧ K a b tail := by
  obtain ⟨G, accepts, holds⟩ := first
  choose H continues follows using second
  refine ⟨_, accepts.bind continues, ?_⟩
  rintro b _ ⟨a, head, tail, rfl, derived, continued⟩
  exact ⟨a, head, tail, rfl, holds a head derived, follows a b tail continued⟩

/-- A check in front of the rest. -/
theorem guarded {check : Prog McReader Unit} {rest : Unit → Prog McReader α} {condition : Prop}
    (first : Accepts mode check fun _ bytes => condition ∧ bytes = [])
    (second : Gives mode (rest ()) R) :
    Gives mode (check >>= rest) fun a bytes => condition ∧ R a bytes := by
  obtain ⟨G, accepts, holds⟩ := second
  exact ⟨_, .guarded first accepts, fun a bytes derived => ⟨derived.1, holds a bytes derived.2⟩⟩

theorem ite {D : Discipline McReader} {condition : Prop} [Decidable condition] {p q : Program D α}
    (yes : Gives mode p.run R) (no : Gives mode q.run S) :
    Gives mode (if condition then p else q).run fun a bytes =>
      if condition then R a bytes else S a bytes := by
  split_ifs
  · exact yes
  · exact no

theorem orInvalid {protocol : Int} {program : DecodeM protocol α}
    (gives : Gives mode program.run R) : Gives mode program.orInvalid.run R := by
  obtain ⟨G, accepts, holds⟩ := gives
  exact ⟨G, accepts.rescue _, holds⟩

theorem orReject {program : ReadM α} {code : McErrorCode} {back : Nat}
    (gives : Gives mode program.run R) : Gives mode (McProtocol.orReject code back program).run R := by
  obtain ⟨G, accepts, holds⟩ := gives
  exact ⟨G, accepts.rescue _, holds⟩

end Gives

end McProtocol
