import McProtocol.Nbt
import McProtocol.Typed.Item

/-! # Compressed item data

1.7 compresses the data of an item. The data is inflated piece by piece to see that it is one gzip
member, that what comes out is neither nothing nor too long, and that it begins as a compound
does. What follows the first byte is not looked at.
-/

namespace McProtocol

namespace Zlib

variable {zlib : Zlib}

/-- Calls of `inflate`, one after the other, that come to the end of a stream: what they give in
all, and the input they leave. -/
inductive Unpacks (zlib : Zlib) : zlib.State → List UInt8 → List UInt8 → List UInt8 → Prop where
  | ended (state : zlib.State) (input : List UInt8) (room : Nat) (flush : ZFlush)
      (ended : (zlib.inflate state input room flush).status = .streamEnd) :
      Unpacks zlib state input (zlib.inflate state input room flush).output
        (zlib.inflate state input room flush).rest
  | wentOn (state : zlib.State) (input : List UInt8) (room : Nat) (flush : ZFlush)
      (content rest : List UInt8) (going : (zlib.inflate state input room flush).status = .ok)
      (later : Unpacks zlib (zlib.inflate state input room flush).state
        (zlib.inflate state input room flush).rest content rest) :
      Unpacks zlib state input ((zlib.inflate state input room flush).output ++ content) rest

/-- Inflating is right on complete gzip members: whatever pieces it is done in, it takes one member
off the input, and gives the content that `gunzip` says it has. -/
def Gunzips (zlib : Zlib) (gunzip : List UInt8 → Option (List UInt8)) : Prop :=
  ∀ state, zlib.inflateInit2 (maxWbits + 16) = some state →
    ∀ input content rest, zlib.Unpacks state input content rest →
      ∃ member, input = member ++ rest ∧ gunzip member = some content

/-- A library that knows a single stream gunzips it. -/
theorem knowing_gunzips (plain compressed : List UInt8) :
    (knowing plain compressed).Gunzips fun member =>
      if member = compressed then some plain else none := by
  intro state _ input content rest unpacks
  cases unpacks with
  | ended _ _ room flush ended =>
      simp only [knowing] at ended ⊢
      split_ifs at ended ⊢ with known
      obtain ⟨tail, rfl⟩ := List.isPrefixOf_iff_prefix.mp known.1
      exact ⟨compressed, by rw [List.drop_left], if_pos rfl⟩
  | wentOn _ _ room flush content rest going later =>
      simp only [knowing] at going
      split_ifs at going

end Zlib

section steps

variable {zlib : Zlib} {root : Option UInt8} {tooLarge : McErrorCode} {maximum : Nat}

/-- What the steps of inflating have made sure of when they end. -/
theorem inflateSteps_unpacks {fuel : Nat} {state : zlib.State} {input : List UInt8}
    {produced total : Nat}
    (inflated : inflateSteps zlib root tooLarge maximum fuel state input produced = .ok total)
    (few : produced ≤ maximum) :
    ∃ content, zlib.Unpacks state input content [] ∧ total = produced + content.length ∧
      total ≤ maximum ∧
      (produced = 0 → content ≠ [] → ∀ byte ∈ root, content.head? = some byte) := by
  induction fuel generalizing state input produced with
  | zero => cases inflated
  | succ fuel ih =>
      rw [inflateSteps] at inflated
      split at inflated
      · cases inflated
      next wrong =>
      split at inflated
      · cases inflated
      next long =>
      have first : produced = 0 → (zlib.inflate state input 4096 .noFlush).output ≠ [] →
          ∀ byte ∈ root, (zlib.inflate state input 4096 .noFlush).output.head? = some byte := by
        intro fresh some
        by_contra other
        refine wrong ⟨fresh, fun empty => some (List.length_eq_zero_iff.mp empty), fun all => ?_⟩
        rw [Option.all_eq_true] at all
        exact other fun byte mem => beq_iff_eq.mp (all byte mem)
      have room : produced + (zlib.inflate state input 4096 .noFlush).output.length ≤ maximum := by
        omega
      split at inflated
      next status =>
        -- the end of the stream
        split at inflated
        next whole =>
          cases inflated
          have unpacks := Zlib.Unpacks.ended state input 4096 .noFlush status
          rw [whole] at unpacks
          exact ⟨_, unpacks, rfl, room, first⟩
        · cases inflated
      · cases inflated
      next status =>
        -- another piece
        split at inflated
        · cases inflated
        obtain ⟨content, unpacks, sum, small, begins⟩ := ih inflated room
        refine ⟨_, .wentOn state input 4096 .noFlush content [] status unpacks, ?_, small, ?_⟩
        · rw [sum, List.length_append, Nat.add_assoc]
        · intro fresh some byte mem
          by_cases empty : (zlib.inflate state input 4096 .noFlush).output = []
          · rw [empty, List.nil_append] at some ⊢
            exact begins (by rw [fresh, empty, List.length_nil]) some byte mem
          · rw [List.head?_append, first fresh empty byte mem]
            rfl

end steps

/-- Compressed data that `typed_validate_gzip_nbt` lets pass. -/
def ValidGzipNbt (zlib : Zlib) (compressed : List UInt8) : Prop :=
  (10 ≤ compressed.length ∧ compressed.length ≤ uintMax ∧ [0x1f, 0x8b, 8] <+: compressed) ∧
    ∃ produced, inflateWhole zlib (Zlib.maxWbits + 16) (some McNbtType.compound.toByte) .nbtLength
      mcDefaultMaxStringBytes compressed = .ok produced ∧ produced ≠ 0

/-- It is one gzip member, whose content begins as a compound does and is not too long. -/
theorem ValidGzipNbt.content {zlib : Zlib} {gunzip : List UInt8 → Option (List UInt8)}
    {compressed : List UInt8} (gunzips : zlib.Gunzips gunzip)
    (valid : ValidGzipNbt zlib compressed) :
    ∃ content, gunzip compressed = some content ∧
      content.head? = some McNbtType.compound.toByte ∧
      content.length ≤ mcDefaultMaxStringBytes := by
  obtain ⟨-, produced, inflated, some⟩ := valid
  unfold inflateWhole at inflated
  cases init : zlib.inflateInit2 (Zlib.maxWbits + 16) with
  | none =>
      rw [init] at inflated
      cases inflated
  | some state =>
      rw [init] at inflated
      obtain ⟨content, unpacks, sum, small, begins⟩ :=
        inflateSteps_unpacks inflated (Nat.zero_le _)
      obtain ⟨member, same, known⟩ := gunzips state init compressed content [] unpacks
      rw [List.append_nil] at same
      subst same
      rw [Nat.zero_add] at sum
      subst sum
      exact ⟨content, known, begins rfl (fun empty => some (by rw [empty, List.length_nil])) _ rfl,
        small⟩

theorem accepts_orVerdict {α : Type} {mode : McDecodeMode} (verdict : Except McErrorCode α) :
    Accepts mode (orVerdict verdict).run fun value bytes => verdict = .ok value ∧ bytes = [] := by
  cases verdict with
  | ok value =>
      refine (Accepts.pure value).congr fun other bytes => ?_
      rw [Except.ok.injEq, eq_comm]
  | error code =>
      refine (accepts_reject 0).congr fun other bytes => ⟨False.elim, fun derived => ?_⟩
      cases derived.1

theorem accepts_typedValidateGzipNbt (zlib : Zlib) (compressed : List UInt8) (mode : McDecodeMode) :
    Accepts mode (typedValidateGzipNbt zlib compressed).run fun _ bytes =>
      ValidGzipNbt zlib compressed ∧ bytes = [] := by
  refine Accepts.congr (.guarded accepts_typedRequire (.bind (accepts_orVerdict _) fun _ =>
    accepts_rejectWhen 0)) fun _ bytes => ⟨?_, ?_⟩
  · rintro ⟨headed, produced, _, _, rfl, ⟨inflated, rfl⟩, some, rfl⟩
    exact ⟨⟨headed, produced, inflated, some⟩, rfl⟩
  · rintro ⟨⟨headed, produced, inflated, some⟩, rfl⟩
    exact ⟨headed, produced, [], [], rfl, ⟨inflated, rfl⟩, some, rfl⟩

theorem typedValidateGzipNbt_valid {zlib : Zlib} {compressed : List UInt8} {reader after : McReader}
    {u : Unit} (run : (typedValidateGzipNbt zlib compressed).run reader = (some u, after)) :
    ValidGzipNbt zlib compressed := by
  obtain ⟨_, _, headed, run⟩ := Prog.bind_eq_some run
  obtain ⟨produced, _, inflated, run⟩ := Prog.bind_eq_some run
  refine ⟨typedRequire_eq_some headed, produced, ?_, rejectWhen_eq_some run⟩
  cases verdict : inflateWhole zlib (Zlib.maxWbits + 16) (some McNbtType.compound.toByte) .nbtLength
      mcDefaultMaxStringBytes compressed with
  | error code =>
      rw [verdict] at inflated
      cases inflated
  | ok total =>
      rw [verdict] at inflated
      cases inflated
      rfl

namespace Validators

variable {validators : Validators} {protocol : Int} {wireKind : McItemWireKind}
variable {reader after : McReader} {item : McItemStackView}

theorem readGzipNbt_valid {nbt : List UInt8}
    (run : (validators.readGzipNbt protocol).run reader = (some (some nbt), after)) :
    ValidGzipNbt validators.zlib nbt := by
  obtain ⟨size, _, _, run⟩ := Prog.bind_eq_some run
  obtain ⟨_, _, _, run⟩ := Prog.bind_eq_some run
  beta_reduce at run
  by_cases some : 0 < size
  · rw [if_pos some] at run
    obtain ⟨taken, _, _, run⟩ := Prog.bind_eq_some run
    obtain ⟨_, _, checked, run⟩ := Prog.bind_eq_some run
    cases run
    exact typedValidateGzipNbt_valid checked
  · rw [if_neg some] at run
    cases run

theorem readShortItem_gzip
    (run : (validators.readShortItem protocol wireKind).run reader = (some item, after))
    (compressed : item.nbtCompressed = true) : ValidGzipNbt validators.zlib item.nbt := by
  obtain ⟨wireId, _, _, run⟩ := Prog.bind_eq_some run
  beta_reduce at run
  by_cases absent : wireId = uint16Max
  · rw [if_pos absent] at run
    cases run
    cases compressed
  · rw [if_neg absent] at run
    obtain ⟨_, _, _, run⟩ := Prog.bind_eq_some run
    obtain ⟨nbt, _, read, run⟩ := Prog.bind_eq_some run
    cases run
    obtain ⟨legacy, some⟩ := (Bool.and_eq_true _ _).mp compressed
    rw [if_pos (of_decide_eq_true legacy)] at read
    obtain ⟨nbt, rfl⟩ := Option.isSome_iff_exists.mp some
    exact readGzipNbt_valid read

theorem readFlaggedItem_plain
    (run : (readFlaggedItem protocol wireKind).run reader = (some item, after)) :
    item.nbtCompressed = false := by
  obtain ⟨present, _, _, run⟩ := Prog.bind_eq_some run
  beta_reduce at run
  by_cases absent : present = false
  · rw [if_pos absent] at run
    cases run
    rfl
  · rw [if_neg absent] at run
    obtain ⟨_, _, _, run⟩ := Prog.bind_eq_some run
    cases run
    rfl

theorem readHashedItem_plain
    (run : (validators.readHashedItem protocol).run reader = (some item, after)) :
    item.nbtCompressed = false := by
  obtain ⟨present, _, _, run⟩ := Prog.bind_eq_some run
  beta_reduce at run
  by_cases absent : present = false
  · rw [if_pos absent] at run
    cases run
    rfl
  · rw [if_neg absent] at run
    obtain ⟨_, _, _, run⟩ := Prog.bind_eq_some run
    obtain ⟨_, _, _, run⟩ := Prog.bind_eq_some run
    obtain ⟨_, _, _, run⟩ := Prog.bind_eq_some run
    obtain ⟨_, _, _, run⟩ := Prog.bind_eq_some run
    obtain ⟨_, _, _, run⟩ := Prog.bind_eq_some run
    obtain ⟨_, _, _, run⟩ := Prog.bind_eq_some run
    cases run
    rfl

theorem readComponentItem_plain
    (run : (validators.readComponentItem protocol wireKind).run reader = (some item, after)) :
    item.nbtCompressed = false := by
  obtain ⟨count, _, _, run⟩ := Prog.bind_eq_some run
  obtain ⟨_, _, _, run⟩ := Prog.bind_eq_some run
  beta_reduce at run
  by_cases absent : count = 0
  · rw [if_pos absent] at run
    cases run
    rfl
  · rw [if_neg absent] at run
    obtain ⟨_, _, _, run⟩ := Prog.bind_eq_some run
    obtain ⟨_, _, _, run⟩ := Prog.bind_eq_some run
    obtain ⟨_, _, _, run⟩ := Prog.bind_eq_some run
    obtain ⟨_, _, _, run⟩ := Prog.bind_eq_some run
    obtain ⟨_, _, _, run⟩ := Prog.bind_eq_some run
    cases run
    rfl

/-- Compressed data in an item is data that was validated. -/
theorem mcReaderItemStack_gzip
    (run : (validators.mcReaderItemStack protocol wireKind).run reader = (some item, after))
    (compressed : item.nbtCompressed = true) : ValidGzipNbt validators.zlib item.nbt := by
  obtain ⟨_, _, _, run⟩ := Prog.bind_eq_some run
  beta_reduce at run
  by_cases unsupported : mcProtocolSupported protocol = false
  · rw [if_pos unsupported] at run
    cases run
  rw [if_neg unsupported] at run
  obtain ⟨start, _, _, run⟩ := Prog.bind_eq_some run
  obtain ⟨decoded, _, read, run⟩ := Prog.bind_eq_some run
  obtain ⟨encoded, _, _, run⟩ := Prog.bind_eq_some run
  cases run
  change decoded.nbtCompressed = true at compressed
  by_cases hashed : wireKind = .hashed
  · rw [if_pos hashed] at read
    rw [readHashedItem_plain read] at compressed
    cases compressed
  rw [if_neg hashed] at read
  by_cases short : protocol ≤ 401
  · rw [if_pos short] at read
    change ValidGzipNbt validators.zlib decoded.nbt
    exact readShortItem_gzip read compressed
  rw [if_neg short] at read
  by_cases flagged : protocol < 766
  · rw [if_pos flagged] at read
    rw [readFlaggedItem_plain read] at compressed
    cases compressed
  · rw [if_neg flagged] at read
    rw [readComponentItem_plain read] at compressed
    cases compressed

end Validators

/-- The compressed data of an item that was read is one gzip member with nothing behind it, and
what it holds begins as a compound does and is not too long. -/
theorem item_gzip_content (validators : Validators) (gunzip : List UInt8 → Option (List UInt8))
    (gunzips : validators.zlib.Gunzips gunzip) (protocol : Int) (wireKind : McItemWireKind)
    (reader after : McReader) (item : McItemStackView)
    (run : (validators.mcReaderItemStack protocol wireKind).run reader = (some item, after))
    (compressed : item.nbtCompressed = true) :
    ∃ content, gunzip item.nbt = some content ∧
      content.head? = some McNbtType.compound.toByte ∧
      content.length ≤ mcDefaultMaxStringBytes :=
  (Validators.mcReaderItemStack_gzip run compressed).content gunzips

/-- Other code that knows how one gzip member inflates. -/
def Validators.gunzipping (plain member : List UInt8) : Validators where
  zlib := .knowing plain member
  skipSlotComponent _ _ := .refuse
  skipSlotComponentType _ _ := .refuse
  resolvableProfile _ _ := .refuse

/-- The gzip member of the tag of a compound, and nothing else. -/
def bareTagMember : List UInt8 :=
  [31, 139, 8, 0, 0, 0, 0, 0, 2, 3, 227, 2, 0, 147, 6, 215, 50, 1, 0, 0, 0]

/-- The gzip member of an empty compound without a name. -/
def emptyCompoundMember : List UInt8 :=
  [31, 139, 8, 0, 0, 0, 0, 0, 2, 3, 227, 98, 96, 96, 0, 0, 120, 63, 249, 78, 4, 0, 0, 0]

/-- One piece of item 1, and `member` as its data. -/
def gzipItem (member : List UInt8) : List UInt8 :=
  [0, 1, 1, 0, 0, 0, UInt8.ofNat member.length] ++ member

/-- A tag alone is let pass, and is no document. -/
theorem item_gzip_content_bareTag :
    ((((Validators.gunzipping [10] bareTagMember).mcReaderItemStack 5 .full).run
        (mcReaderInitMode (gzipItem bareTagMember) .strict none)).1.map fun item =>
          (item.nbtCompressed, item.nbt)) = some (true, bareTagMember) ∧
      ((Validators.gunzipping [10] bareTagMember).zlib.Gunzips fun member =>
        if member = bareTagMember then some [10] else none) ∧
      ∀ root : NbtRoot true, [10] ≠ root.encode := by
  refine ⟨by decide +kernel, Zlib.knowing_gunzips _ _, fun root same => ?_⟩
  cases root with
  | empty => exact absurd same (by decide)
  | named name short value shallow =>
      have lengths := congrArg List.length same
      simp [NbtRoot.encode, encodeName] at lengths

/-- An empty compound begins as compounds do. -/
theorem item_gzip_content_empty :
    ∃ content, (if emptyCompoundMember = emptyCompoundMember then some [10, 0, 0, 0] else none) =
        some content ∧ content.head? = some McNbtType.compound.toByte ∧
      content.length ≤ mcDefaultMaxStringBytes := by
  have read : ∀ item ∈ (((Validators.gunzipping [10, 0, 0, 0] emptyCompoundMember).mcReaderItemStack
      5 .full).run (mcReaderInitMode (gzipItem emptyCompoundMember) .strict none)).1,
      item.nbtCompressed = true ∧ item.nbt = emptyCompoundMember := by decide +kernel
  generalize outcome : ((Validators.gunzipping [10, 0, 0, 0] emptyCompoundMember).mcReaderItemStack
    5 .full).run (mcReaderInitMode (gzipItem emptyCompoundMember) .strict none) = result at read
  have some : result.1.isSome = true := by
    rw [← outcome]
    decide +kernel
  obtain ⟨item, accepted⟩ := Option.isSome_iff_exists.mp some
  obtain ⟨compressed, nbt⟩ := read item accepted
  have same : result = (.some item, result.2) := Prod.ext accepted rfl
  have content := item_gzip_content (.gunzipping [10, 0, 0, 0] emptyCompoundMember) _
    (Zlib.knowing_gunzips [10, 0, 0, 0] emptyCompoundMember) 5 .full _ _ item
    (outcome.trans same) compressed
  rwa [nbt] at content

end McProtocol
