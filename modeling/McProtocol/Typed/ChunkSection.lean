import McProtocol.RoundTrip
import McProtocol.Lib.PackedWords
import McProtocol.Typed.Chunk

/-! # Chunk sections

The sections of a chunk come one behind the other, each with a palette and the packed block
states. An iterator checks how many words there are; the lookup of a block state reads the
words and the palette again.
-/

namespace McProtocol

structure McTypedPalette where
  bits : Nat
  paletteCount : Nat
  longCount : Nat
  palette : List UInt8
  data : List UInt8
  deriving Repr, DecidableEq

/-- The width of the entries. -/
def readPaletteBits (directMaxBits : Nat) : ReadM Nat :=
  orReject .invalidPacketBody 0 do
    let bits ← mcReaderU8
    require (bits.toNat ≤ directMaxBits)
    pure bits.toNat

/-- How many entries the palette has, and their bytes: the one entry of a single value, a
counted list, or none where the values are stored themselves. -/
def readPaletteEntries (indirectMaxBits bits : Nat) : ReadM (Nat × List UInt8) :=
  if bits = 0 then do
    let start ← mcReaderOffset
    skipNonnegative
    let palette ← readSince start
    pure (1, palette)
  else if bits ≤ indirectMaxBits then do
    let count ← orReject .invalidPacketBody 0 do
      let count ← mcReaderVarint
      require (0 < count ∧ count.toNat ≤ 1 <<< bits)
      pure count.toNat
    let start ← mcReaderOffset
    .iterate (fun _ => skipNonnegative) count ()
    let palette ← readSince start
    pure (count, palette)
  else pure (0, [])

/-- How many words the entries take. -/
def expectedLongCount (entryCount bits : Nat) (paddedStorage : Bool) : Nat :=
  if bits = 0 then 0
  else if paddedStorage then (entryCount + 64 / bits - 1) / (64 / bits)
  else (entryCount * bits + 63) / 64

def readLongCount (expected : Nat) (fixedStorage : Bool) : ReadM Nat :=
  if fixedStorage then pure expected
  else orReject .invalidPacketBody 0 do
    let encodedLongCount ← mcReaderVarint
    require (0 ≤ encodedLongCount ∧ encodedLongCount.toNat ≤ mcMaxPacketArrayCount)
    requireStrict (encodedLongCount.toNat = expected)
    pure encodedLongCount.toNat

def typedReadPalette (entryCount indirectMaxBits directMaxBits : Nat)
    (paddedStorage fixedStorage : Bool) : ReadM McTypedPalette := do
  let bits ← readPaletteBits directMaxBits
  let (paletteCount, palette) ← readPaletteEntries indirectMaxBits bits
  let longCount ← readLongCount (expectedLongCount entryCount bits paddedStorage) fixedStorage
  let data ← orReject .integerOverflow 0 (mcReaderBytes (longCount * 8))
  pure ⟨bits, paletteCount, longCount, palette, data⟩

structure McChunkSectionView where
  nonAirBlockCount : Nat
  blockBitsPerEntry : Nat
  biomeBitsPerEntry : Nat
  blockPaletteCount : Nat
  biomePaletteCount : Nat
  blockLongCount : Nat
  biomeLongCount : Nat
  blockPalette : List UInt8
  biomePalette : List UInt8
  blockData : List UInt8
  biomeData : List UInt8
  encoded : List UInt8
  fluidCount : Nat
  hasFluidCount : Bool
  blockLight : List UInt8
  skyLight : List UInt8
  hasNonAirBlockCount : Bool
  hasBlockLight : Bool
  hasSkyLight : Bool
  blockStoragePadded : Bool
  deriving Repr, DecidableEq

structure McChunkSectionIterator where
  reader : McReader
  protocol : Int
  remaining : Nat
  deriving Repr, DecidableEq

def mcChunkSectionIteratorInit (chunk : McChunkEnvelope) (protocol : Int) (sectionCount : Nat) :
    Option McChunkSectionIterator :=
  if protocol < 107 ∨ mcProtocolSupported protocol = false ∨ mcMaxChunkSections < sectionCount then
    none
  else some ⟨mcReaderInitMode chunk.chunkData .strict none, protocol, sectionCount⟩

/-- A count of the blocks of a section, since the release that has it. -/
def readBlockCount (has : Prop) [Decidable has] : ReadM Nat :=
  if has then do
    let count ← mcReaderU16
    require (count ≤ 4096)
    pure count
  else pure 0

/-- What comes in front of the light: the counts and the blocks. -/
def readSectionBlocks (protocol : Int) : ReadM (Nat × Nat × McTypedPalette) :=
  orReject .invalidPacketBody 0 do
    let nonAirBlockCount ← readBlockCount (477 ≤ protocol)
    let fluidCount ← readBlockCount (775 ≤ protocol)
    let blocks ← typedReadPalette 4096 8 15 (decide (735 ≤ protocol)) (decide (770 ≤ protocol))
    pure (nonAirBlockCount, fluidCount, blocks)

/-- What comes behind the blocks: the light of a section up to 404, its biomes since 757. -/
def readSectionTail (protocol : Int) : ReadM (List UInt8 × List UInt8 × McTypedPalette) :=
  if protocol ≤ 404 then orReject .invalidPacketBody 0 do
    let blockLight ← mcReaderBytes 2048
    let skyLight ← mcReaderBytes 2048
    pure (blockLight, skyLight, ⟨0, 0, 0, [], []⟩)
  else if 757 ≤ protocol then orReject .invalidPacketBody 0 do
    let biomes ← typedReadPalette 64 3 6 true (decide (770 ≤ protocol))
    pure ([], [], biomes)
  else pure ([], [], ⟨0, 0, 0, [], []⟩)

/-- What is read of a section: its counts, its blocks, and what is behind them. -/
structure SectionParts where
  nonAirBlockCount : Nat
  fluidCount : Nat
  blocks : McTypedPalette
  tail : List UInt8 × List UInt8 × McTypedPalette

def readSectionParts (protocol : Int) : ReadM SectionParts := do
  let (nonAirBlockCount, fluidCount, blocks) ← readSectionBlocks protocol
  let tail ← readSectionTail protocol
  orReject .invalidPacketBody 0 (requireStrict (¬ (0 < blocks.bits ∧ blocks.bits < 4)))
  pure ⟨nonAirBlockCount, fluidCount, blocks, tail⟩

def SectionParts.view (parts : SectionParts) (protocol : Int) (encoded : List UInt8) :
    McChunkSectionView where
  nonAirBlockCount := parts.nonAirBlockCount
  blockBitsPerEntry := parts.blocks.bits
  biomeBitsPerEntry := parts.tail.2.2.bits
  blockPaletteCount := parts.blocks.paletteCount
  biomePaletteCount := parts.tail.2.2.paletteCount
  blockLongCount := parts.blocks.longCount
  biomeLongCount := parts.tail.2.2.longCount
  blockPalette := parts.blocks.palette
  biomePalette := parts.tail.2.2.palette
  blockData := parts.blocks.data
  biomeData := parts.tail.2.2.data
  encoded := encoded
  fluidCount := parts.fluidCount
  hasFluidCount := decide (775 ≤ protocol)
  blockLight := parts.tail.1
  skyLight := parts.tail.2.1
  hasNonAirBlockCount := decide (477 ≤ protocol)
  hasBlockLight := decide (protocol ≤ 404)
  hasSkyLight := decide (protocol ≤ 404)
  blockStoragePadded := decide (735 ≤ protocol)

def readSection (protocol : Int) : ReadM McChunkSectionView := do
  let start ← mcReaderOffset
  let parts ← readSectionParts protocol
  let encoded ← readSince start
  pure (parts.view protocol encoded)

/-- Since 757 the sections fill their array. -/
def mcChunkSectionIteratorNext (iterator : McChunkSectionIterator) :
    Option McChunkSectionView × McChunkSectionIterator :=
  if iterator.remaining = 0 then (none, iterator)
  else
    match (readSection iterator.protocol).run iterator.reader with
    | (none, reader) => (none, { iterator with reader := reader })
    | (some decoded, reader) =>
        let remaining := iterator.remaining - 1
        if 757 ≤ iterator.protocol ∧ remaining = 0 ∧ mcReaderRemaining reader ≠ 0 then
          (none, ⟨reader.fail .invalidPacketBody reader.offset, iterator.protocol, remaining⟩)
        else (some decoded, ⟨reader, iterator.protocol, remaining⟩)

/-- The entry at the cursor, whichever was there before. -/
def readPaletteEntry (_ : Int) : ReadM Int := do
  let entry ← mcReaderVarint
  require (0 ≤ entry)
  pure entry

/-- `typed_palette_entry`: the entries up to the wanted one are read again. -/
def typedPaletteEntry (palette : List UInt8) (index : Nat) : Option Int :=
  ((Program.iterate readPaletteEntry (index + 1) (-1)).run
    (mcReaderInitMode palette .strict none)).1

/-- The word at an index of the storage. -/
def sectionWord (data : List UInt8) (wordIndex : Nat) : Nat :=
  BigEndian.word ((data.drop (wordIndex * 8)).take 8)

namespace McChunkSectionView

/-- A word is missing. -/
def Lacks (chunkSection : McChunkSectionView) (wordIndex : Nat) : Prop :=
  chunkSection.blockLongCount ≤ wordIndex ∨ chunkSection.blockData.length / 8 ≤ wordIndex

instance (chunkSection : McChunkSectionView) (wordIndex : Nat) :
    Decidable (chunkSection.Lacks wordIndex) := inferInstanceAs (Decidable (_ ∨ _))

/-- The bits of a block, with bits of the next blocks above them. -/
def packedBits (chunkSection : McChunkSectionView) (blockIndex : Nat) : Option Nat :=
  let bits := chunkSection.blockBitsPerEntry
  let valuesPerLong := 64 / bits
  let bitIndex := blockIndex * bits
  let wordIndex := if chunkSection.blockStoragePadded then blockIndex / valuesPerLong
    else bitIndex / 64
  let shift := if chunkSection.blockStoragePadded then blockIndex % valuesPerLong * bits
    else bitIndex % 64
  if chunkSection.Lacks wordIndex then none
  else
    let packed := sectionWord chunkSection.blockData wordIndex >>> shift
    if chunkSection.blockStoragePadded = false ∧ 64 < shift + bits then
      if chunkSection.Lacks (wordIndex + 1) then none
      else
        let nextWord := sectionWord chunkSection.blockData (wordIndex + 1)
        some (packed ||| nextWord <<< (64 - shift) % 2 ^ 64)
    else some packed

end McChunkSectionView

def mcChunkSectionBlockState (chunkSection : McChunkSectionView) (blockIndex : Nat) : Option Int :=
  let bits := chunkSection.blockBitsPerEntry
  if 4096 ≤ blockIndex ∨ 15 < bits then none
  else if bits = 0 then
    if chunkSection.blockPaletteCount = 1 then typedPaletteEntry chunkSection.blockPalette 0
    else none
  else
    match chunkSection.packedBits blockIndex with
    | none => none
    | some packed =>
        let raw := packed &&& (1 <<< bits - 1)
        if chunkSection.blockPaletteCount = 0 then if int32Max < raw then none else some raw
        else if chunkSection.blockPaletteCount ≤ raw then none
        else typedPaletteEntry chunkSection.blockPalette raw

/-- The entries of a palette, one behind the other. -/
def paletteBytes (entries : List Int) : List UInt8 := (entries.map encodeVarint).flatten

/-- What a palette lists for entries of that width. -/
structure PaletteLists (indirectMaxBits bits : Nat) (entries : List Int) : Prop where
  valid : ∀ entry ∈ entries, 0 ≤ entry ∧ IsInt32 entry
  single : bits = 0 → entries.length = 1
  indirect : 0 < bits → bits ≤ indirectMaxBits →
    0 < entries.length ∧ entries.length ≤ 2 ^ bits
  direct : indirectMaxBits < bits → entries = []

/-- The count in front of a list of entries. -/
def paletteCountCode (indirectMaxBits bits count : Nat) : List UInt8 :=
  if 0 < bits ∧ bits ≤ indirectMaxBits then encodeVarint count else []

theorem accepts_skipEntry :
    Accepts .strict skipNonnegative.run fun _ bytes =>
      ∃ entry : Int, (0 ≤ entry ∧ IsInt32 entry) ∧ bytes = encodeVarint entry :=
  accepts_skipNonnegative.congr fun _ bytes => by
    simp only [isVarint_strict]
    constructor
    · rintro ⟨entry, ⟨int, rfl⟩, positive⟩
      exact ⟨entry, ⟨positive, int⟩, rfl⟩
    · rintro ⟨entry, ⟨positive, int⟩, rfl⟩
      exact ⟨entry, ⟨int, rfl⟩, positive⟩

theorem accepts_skipEntries (count : Nat) :
    Accepts .strict (Program.iterate (fun _ => skipNonnegative) count ()).run fun _ bytes =>
      ∃ entries : List Int, (∀ entry ∈ entries, 0 ≤ entry ∧ IsInt32 entry) ∧
        entries.length = count ∧ bytes = paletteBytes entries := by
  refine (accepts_skipEntry.iterate count).congr fun _ bytes => ⟨?_, ?_⟩
  · rintro ⟨parts, rfl, each, rfl⟩
    obtain ⟨entries, all, rfl⟩ := exists_map_of_parts each
    exact ⟨entries, all, (List.length_map _).symm, rfl⟩
  · rintro ⟨entries, all, rfl, rfl⟩
    refine ⟨entries.map encodeVarint, List.length_map _, ?_, rfl⟩
    intro part mem
    obtain ⟨entry, there, rfl⟩ := List.mem_map.mp mem
    exact ⟨entry, all entry there, rfl⟩

/-- A count of entries that fits the width. -/
theorem accepts_paletteCount {bits : Nat} (narrow : bits ≤ 8) :
    Accepts .strict (orReject .invalidPacketBody 0 do
        let count ← mcReaderVarint
        require (0 < count ∧ count.toNat ≤ 1 <<< bits)
        pure count.toNat).run fun count bytes =>
      (0 < count ∧ count ≤ 2 ^ bits) ∧ bytes = encodeVarint count := by
  have small : 2 ^ bits ≤ 2 ^ 8 := Nat.pow_le_pow_right two_pos narrow
  refine (accepts_orReject (accepts_varint.bind fun count => accepts_require.bind fun _ =>
    .pure count.toNat) 0).congr fun count bytes => ⟨?_, ?_⟩
  · rintro ⟨value, _, _, rfl, isVarint, _, _, _, rfl, ⟨⟨positive, fits⟩, rfl⟩, rfl, rfl⟩
    obtain ⟨int, rfl⟩ := isVarint_strict.mp isVarint
    rw [Nat.one_shiftLeft] at fits
    have same : ((value.toNat : Nat) : Int) = value := Int.toNat_of_nonneg positive.le
    exact ⟨⟨by omega, fits⟩, by rw [same]; simp⟩
  · rintro ⟨⟨positive, fits⟩, rfl⟩
    refine ⟨count, _, [], (List.append_nil _).symm, isVarint_encode ⟨by omega, by omega⟩, (), [], [],
      rfl, ⟨⟨by omega, ?_⟩, rfl⟩, rfl, rfl⟩
    rw [Nat.one_shiftLeft]
    exact fits

theorem accepts_readPaletteEntries {indirectMaxBits bits : Nat} (narrow : indirectMaxBits ≤ 8) :
    Accepts .strict (readPaletteEntries indirectMaxBits bits).run fun read bytes =>
      ∃ entries, PaletteLists indirectMaxBits bits entries ∧
        read = (entries.length, paletteBytes entries) ∧
        bytes = paletteCountCode indirectMaxBits bits entries.length ++ paletteBytes entries := by
  unfold readPaletteEntries
  by_cases single : bits = 0
  · rw [if_pos single]
    refine (accepts_skipEntry.slicedWith (f := fun _ palette => (1, palette))).congr
      fun read bytes => ⟨?_, ?_⟩
    · rintro ⟨_, ⟨entry, valid, rfl⟩, rfl⟩
      refine ⟨[entry], ⟨by simpa using valid, fun _ => rfl, by omega, by omega⟩, ?_, ?_⟩
      · simp [paletteBytes]
      · simp [paletteBytes, paletteCountCode, single]
    · rintro ⟨entries, lists, rfl, rfl⟩
      obtain ⟨entry, rfl⟩ := List.length_eq_one_iff.mp (lists.single single)
      refine ⟨(), ⟨entry, lists.valid entry (by simp), ?_⟩, ?_⟩
      · simp [paletteBytes, paletteCountCode, single]
      · simp [paletteBytes, paletteCountCode, single]
  · rw [if_neg single]
    by_cases indirect : bits ≤ indirectMaxBits
    · rw [if_pos indirect]
      refine ((accepts_paletteCount (by omega)).bind fun count =>
        (accepts_skipEntries count).slicedWith (f := fun _ palette => (count, palette))).congr
        fun read bytes => ⟨?_, ?_⟩
      · rintro ⟨count, _, _, rfl, ⟨range, rfl⟩, _, ⟨entries, all, rfl, rfl⟩, rfl⟩
        refine ⟨entries, ⟨all, by omega, fun _ _ => range, by omega⟩, rfl, ?_⟩
        rw [paletteCountCode, if_pos ⟨by omega, indirect⟩]
      · rintro ⟨entries, lists, rfl, rfl⟩
        refine ⟨entries.length, _, _, rfl, ⟨lists.indirect (by omega) indirect, ?_⟩, (),
          ⟨entries, lists.valid, rfl, rfl⟩, rfl⟩
        rw [paletteCountCode, if_pos ⟨by omega, indirect⟩]
    · rw [if_neg indirect]
      refine (Accepts.pure (0, [])).congr fun read bytes => ⟨?_, ?_⟩
      · rintro ⟨rfl, rfl⟩
        refine ⟨[], ⟨nofun, by omega, by omega, fun _ => rfl⟩, rfl, ?_⟩
        simp [paletteCountCode, indirect, paletteBytes]
      · rintro ⟨entries, lists, rfl, rfl⟩
        obtain rfl := lists.direct (by omega)
        simp [paletteCountCode, indirect, paletteBytes]

theorem accepts_readPaletteBits {directMaxBits : Nat} (byte : directMaxBits < 256) :
    Accepts .strict (readPaletteBits directMaxBits).run fun bits bytes =>
      bits ≤ directMaxBits ∧ bytes = [UInt8.ofNat bits] := by
  refine (accepts_orReject (accepts_u8.bind fun bits => accepts_require.bind fun _ =>
    .pure bits.toNat) 0).congr fun bits bytes => ⟨?_, ?_⟩
  · rintro ⟨value, _, _, rfl, rfl, _, _, _, rfl, ⟨fits, rfl⟩, rfl, rfl⟩
    exact ⟨fits, by rw [UInt8.ofNat_toNat]; rfl⟩
  · rintro ⟨fits, rfl⟩
    have same : (UInt8.ofNat bits).toNat = bits := by
      rw [UInt8.toNat_ofNat', Nat.mod_eq_of_lt (by omega)]
    exact ⟨UInt8.ofNat bits, [UInt8.ofNat bits], [], rfl, rfl, (), [], [], rfl,
      ⟨same.symm ▸ fits, rfl⟩, same.symm, rfl⟩

/-- The count in front of the words, which newer releases leave out. -/
def longCountCode (fixedStorage : Bool) (longCount : Nat) : List UInt8 :=
  if fixedStorage then [] else encodeVarint longCount

theorem accepts_readLongCount {expected : Nat} {fixedStorage : Bool}
    (small : expected ≤ mcMaxPacketArrayCount) :
    Accepts .strict (readLongCount expected fixedStorage).run fun longCount bytes =>
      longCount = expected ∧ bytes = longCountCode fixedStorage longCount := by
  unfold readLongCount
  cases fixedStorage with
  | true => exact Accepts.pure expected
  | false =>
      refine (accepts_orReject (accepts_varint.bind fun count => accepts_require.bind fun _ =>
        accepts_requireStrict.bind fun _ => .pure count.toNat) 0).congr
          fun longCount bytes => ⟨?_, ?_⟩
      · rintro ⟨value, _, _, rfl, isVarint, _, _, _, rfl, ⟨⟨positive, _⟩, rfl⟩, _, _, _, rfl,
          ⟨same, rfl⟩, rfl, rfl⟩
        obtain ⟨int, rfl⟩ := isVarint_strict.mp isVarint
        refine ⟨same, ?_⟩
        have cast : ((value.toNat : Nat) : Int) = value := Int.toNat_of_nonneg positive
        rw [longCountCode, cast]
        simp
      · rintro ⟨rfl, rfl⟩
        simp only [mcMaxPacketArrayCount] at small
        refine ⟨longCount, _, [], (List.append_nil _).symm,
          isVarint_encode ⟨by omega, by omega⟩, (), [], [], rfl, ⟨⟨by omega, small⟩, rfl⟩, (), [],
          [], rfl, ⟨rfl, rfl⟩, rfl, rfl⟩

/-- There are never more words than entries. -/
theorem expectedLongCount_le {entryCount bits : Nat} {paddedStorage : Bool}
    (some_ : 0 < entryCount) (narrow : bits ≤ 15) :
    expectedLongCount entryCount bits paddedStorage ≤ entryCount := by
  unfold expectedLongCount
  split_ifs with none padded
  · exact Nat.zero_le _
  · have several : 1 ≤ 64 / bits := (Nat.le_div_iff_mul_le (by omega)).mpr (by omega)
    have more : entryCount ≤ 64 / bits * entryCount := Nat.le_mul_of_pos_left _ several
    rw [Nat.div_le_iff_le_mul_add_pred several]
    omega
  · have product : entryCount * bits ≤ entryCount * 15 := Nat.mul_le_mul_left _ narrow
    omega

/-- What a strict read leaves: a palette that lists `entries`, and all the words. -/
structure McTypedPalette.Holds (palette : McTypedPalette)
    (entryCount indirectMaxBits directMaxBits : Nat) (paddedStorage : Bool) (entries : List Int) :
    Prop where
  bits_le : palette.bits ≤ directMaxBits
  lists : PaletteLists indirectMaxBits palette.bits entries
  count : palette.paletteCount = entries.length
  palette_eq : palette.palette = paletteBytes entries
  longs : palette.longCount = expectedLongCount entryCount palette.bits paddedStorage
  data_length : palette.data.length = palette.longCount * 8

/-- The bytes of a palette and its words. -/
def McTypedPalette.code (palette : McTypedPalette) (indirectMaxBits : Nat) (fixedStorage : Bool) :
    List UInt8 :=
  [UInt8.ofNat palette.bits] ++
    (paletteCountCode indirectMaxBits palette.bits palette.paletteCount ++ palette.palette ++
      (longCountCode fixedStorage palette.longCount ++ palette.data))

theorem accepts_typedReadPalette {entryCount indirectMaxBits directMaxBits : Nat}
    {paddedStorage fixedStorage : Bool} (some_ : 0 < entryCount) (few : entryCount ≤ 4096)
    (narrow : indirectMaxBits ≤ 8) (short : directMaxBits ≤ 15) :
    Accepts .strict
      (typedReadPalette entryCount indirectMaxBits directMaxBits paddedStorage fixedStorage).run
      fun palette bytes =>
        (∃ entries, palette.Holds entryCount indirectMaxBits directMaxBits paddedStorage entries) ∧
          bytes = palette.code indirectMaxBits fixedStorage := by
  have room (bits : Nat) (fits : bits ≤ directMaxBits) :
      expectedLongCount entryCount bits paddedStorage ≤ mcMaxPacketArrayCount :=
    (expectedLongCount_le some_ (fits.trans short)).trans (few.trans (by decide))
  refine ((accepts_readPaletteBits (by omega)).bindWhere And.left fun bits fits =>
    (accepts_readPaletteEntries narrow).bind fun read =>
      (accepts_readLongCount (room bits fits)).bind fun longCount =>
        (accepts_orReject (accepts_bytes (longCount * 8)) 0).bind fun data =>
          .pure (McTypedPalette.mk bits read.1 longCount read.2 data)).congr
    fun palette bytes => ⟨?_, ?_⟩
  · rintro ⟨bits, _, _, rfl, ⟨fits, rfl⟩, _, _, _, rfl, ⟨entries, lists, rfl, rfl⟩, longCount, _, _,
      rfl, ⟨rfl, rfl⟩, data, _, _, rfl, ⟨length, rfl⟩, rfl, rfl⟩
    refine ⟨⟨entries, fits, lists, rfl, rfl, rfl, length⟩, ?_⟩
    simp only [McTypedPalette.code, List.append_nil]
  · rintro ⟨⟨entries, fits, lists, count, same, longs, length⟩, rfl⟩
    obtain ⟨bits, paletteCount, longCount, palette, data⟩ := palette
    dsimp only at fits lists count same longs length
    subst count same longs
    refine ⟨bits, _, _, rfl, ⟨fits, rfl⟩, _, _, _, rfl, ⟨entries, lists, rfl, rfl⟩, _, _, _, rfl,
      ⟨rfl, rfl⟩, data, _, [], (List.append_nil _).symm, ⟨length, rfl⟩, rfl, rfl⟩

def blockCountCode (has : Prop) [Decidable has] (count : Nat) : List UInt8 :=
  if has then BigEndian.bytes 2 count else []

theorem accepts_readBlockCount {has : Prop} [Decidable has] :
    Accepts .strict (readBlockCount has).run fun count bytes =>
      (count ≤ if has then 4096 else 0) ∧ bytes = blockCountCode has count := by
  unfold readBlockCount blockCountCode
  by_cases there : has
  · simp only [if_pos there]
    refine (accepts_u16.bind fun count => accepts_require.bind fun _ => .pure count).congr
      fun count bytes => ⟨?_, ?_⟩
    · rintro ⟨value, _, _, rfl, ⟨_, rfl⟩, _, _, _, rfl, ⟨fits, rfl⟩, rfl, rfl⟩
      exact ⟨fits, List.append_nil _⟩
    · rintro ⟨fits, rfl⟩
      exact ⟨count, _, [], (List.append_nil _).symm, ⟨by omega, rfl⟩, (), [], [], rfl, ⟨fits, rfl⟩,
        rfl, rfl⟩
  · simp only [if_neg there]
    refine (Accepts.pure 0).congr fun count bytes => ?_
    rw [Nat.le_zero]

/-- What is behind the blocks of a section: light, biomes, or nothing. -/
inductive SectionTail (protocol : Int) :
    List UInt8 × List UInt8 × McTypedPalette → List UInt8 → Prop where
  | light {blockLight skyLight : List UInt8} : protocol ≤ 404 → blockLight.length = 2048 →
      skyLight.length = 2048 →
      SectionTail protocol (blockLight, skyLight, ⟨0, 0, 0, [], []⟩) (blockLight ++ skyLight)
  | nothing : 404 < protocol → protocol < 757 →
      SectionTail protocol ([], [], ⟨0, 0, 0, [], []⟩) []
  | biomes {biomes : McTypedPalette} {entries : List Int} : 757 ≤ protocol →
      biomes.Holds 64 3 6 true entries →
      SectionTail protocol ([], [], biomes) (biomes.code 3 (decide (770 ≤ protocol)))

theorem accepts_readSectionTail (protocol : Int) :
    Accepts .strict (readSectionTail protocol).run (SectionTail protocol) := by
  unfold readSectionTail
  by_cases old : protocol ≤ 404
  · rw [if_pos old]
    refine (accepts_orReject ((accepts_bytes 2048).bind fun blockLight =>
      (accepts_bytes 2048).bind fun skyLight =>
        .pure (blockLight, skyLight, (⟨0, 0, 0, [], []⟩ : McTypedPalette))) 0).congr
      fun tail bytes => ⟨?_, ?_⟩
    · rintro ⟨blockLight, _, _, rfl, ⟨length, rfl⟩, skyLight, _, _, rfl, ⟨length', rfl⟩, rfl, rfl⟩
      rw [List.append_nil]
      exact .light old length length'
    · rintro (⟨-, length, length'⟩ | ⟨new, -⟩ | ⟨new, -⟩)
      · exact ⟨_, _, _, rfl, ⟨length, rfl⟩, _, _, [], (List.append_nil _).symm, ⟨length', rfl⟩, rfl,
          rfl⟩
      · omega
      · omega
  · rw [if_neg old]
    by_cases new : 757 ≤ protocol
    · rw [if_pos new]
      refine (accepts_orReject ((accepts_typedReadPalette (by decide) (by decide) (by decide)
        (by decide)).bind fun biomes => .pure (([] : List UInt8), ([] : List UInt8), biomes))
          0).congr fun tail bytes => ⟨?_, ?_⟩
      · rintro ⟨biomes, _, _, rfl, ⟨⟨entries, holds⟩, rfl⟩, rfl, rfl⟩
        rw [List.append_nil]
        exact .biomes new holds
      · rintro (⟨older, -, -⟩ | ⟨-, older⟩ | ⟨-, holds⟩)
        · omega
        · omega
        · exact ⟨_, _, [], (List.append_nil _).symm, ⟨⟨_, holds⟩, rfl⟩, rfl, rfl⟩
    · rw [if_neg new]
      refine (Accepts.pure _).congr fun tail bytes => ⟨?_, ?_⟩
      · rintro ⟨rfl, rfl⟩
        exact .nothing (not_le.mp old) (not_le.mp new)
      · rintro (⟨older, -, -⟩ | ⟨-, -⟩ | ⟨newer, -⟩)
        · omega
        · exact ⟨rfl, rfl⟩
        · omega

/-- The bytes of a section. -/
def SectionParts.code (parts : SectionParts) (protocol : Int) (tailCode : List UInt8) :
    List UInt8 :=
  blockCountCode (477 ≤ protocol) parts.nonAirBlockCount ++
    (blockCountCode (775 ≤ protocol) parts.fluidCount ++
      (parts.blocks.code 8 (decide (770 ≤ protocol)) ++ tailCode))

/-- A section of the release: counts of blocks that a section has, all words of its storage,
and the light or the biomes behind it. -/
structure SectionParts.Holds (parts : SectionParts) (protocol : Int) (entries : List Int)
    (tailCode : List UInt8) : Prop where
  nonAir : parts.nonAirBlockCount ≤ if 477 ≤ protocol then 4096 else 0
  fluid : parts.fluidCount ≤ if 775 ≤ protocol then 4096 else 0
  blocks : parts.blocks.Holds 4096 8 15 (decide (735 ≤ protocol)) entries
  wide : ¬ (0 < parts.blocks.bits ∧ parts.blocks.bits < 4)
  tail : SectionTail protocol parts.tail tailCode

theorem accepts_readSection (protocol : Int) :
    Accepts .strict (readSection protocol).run fun view bytes =>
      ∃ parts entries tailCode, SectionParts.Holds parts protocol entries tailCode ∧
        bytes = parts.code protocol tailCode ∧ view = parts.view protocol bytes := by
  have blocks : Accepts .strict (readSectionBlocks protocol).run fun read bytes =>
      ((read.1 ≤ if 477 ≤ protocol then 4096 else 0) ∧
        (read.2.1 ≤ if 775 ≤ protocol then 4096 else 0) ∧
        ∃ entries, read.2.2.Holds 4096 8 15 (decide (735 ≤ protocol)) entries) ∧
      bytes = blockCountCode (477 ≤ protocol) read.1 ++
        (blockCountCode (775 ≤ protocol) read.2.1 ++
          read.2.2.code 8 (decide (770 ≤ protocol))) := by
    refine (accepts_orReject (accepts_readBlockCount.bind fun nonAir =>
      accepts_readBlockCount.bind fun fluid => (accepts_typedReadPalette (by decide) (by decide)
        (by decide) (by decide)).bind fun blocks => .pure (nonAir, fluid, blocks)) 0).congr
      fun read bytes => ⟨?_, ?_⟩
    · rintro ⟨nonAir, _, _, rfl, ⟨few, rfl⟩, fluid, _, _, rfl, ⟨few', rfl⟩, blocks, _, _, rfl,
        ⟨holds, rfl⟩, rfl, rfl⟩
      exact ⟨⟨few, few', holds⟩, by rw [List.append_nil]⟩
    · rintro ⟨⟨few, few', holds⟩, rfl⟩
      exact ⟨_, _, _, rfl, ⟨few, rfl⟩, _, _, _, rfl, ⟨few', rfl⟩, _, _, [],
        (List.append_nil _).symm, ⟨holds, rfl⟩, rfl, rfl⟩
  refine ((blocks.bind fun read => (accepts_readSectionTail protocol).bind fun tail =>
    (accepts_orReject accepts_requireStrict 0).bind fun _ =>
      .pure (SectionParts.mk read.1 read.2.1 read.2.2 tail)).slicedWith
        (f := fun parts encoded => parts.view protocol encoded)).congr fun view bytes => ⟨?_, ?_⟩
  · rintro ⟨_, ⟨⟨nonAir, fluid, read⟩, _, _, rfl, ⟨⟨few, few', entries, holds⟩, rfl⟩, tail, _, _,
      rfl, behind, _, _, _, rfl, ⟨wide, rfl⟩, rfl, rfl⟩, rfl⟩
    refine ⟨_, entries, _, ⟨few, few', holds, wide, behind⟩, ?_, rfl⟩
    simp only [SectionParts.code, List.append_assoc, List.append_nil]
  · rintro ⟨parts, entries, tailCode, ⟨few, few', holds, wide, behind⟩, rfl, rfl⟩
    refine ⟨parts, ⟨(parts.nonAirBlockCount, parts.fluidCount, parts.blocks), _, _, ?_,
      ⟨⟨few, few', entries, holds⟩, rfl⟩, parts.tail, _, [], (List.append_nil _).symm, behind, (),
      [], [], rfl, ⟨wide, rfl⟩, rfl, rfl⟩, rfl⟩
    simp only [SectionParts.code, List.append_assoc]

/-- The storage of the blocks. -/
def McChunkSectionView.blocks (chunkSection : McChunkSectionView) : McTypedPalette where
  bits := chunkSection.blockBitsPerEntry
  paletteCount := chunkSection.blockPaletteCount
  longCount := chunkSection.blockLongCount
  palette := chunkSection.blockPalette
  data := chunkSection.blockData

theorem SectionParts.Holds.view {parts : SectionParts} {protocol : Int} {entries : List Int}
    {tailCode encoded : List UInt8} (holds : parts.Holds protocol entries tailCode) :
    (parts.view protocol encoded).blocks.Holds 4096 8 15
      (parts.view protocol encoded).blockStoragePadded entries := holds.blocks

/-- Reading entries one by one leaves the last of them. -/
theorem reads_entries (entries : List Int)
    (valid : ∀ entry ∈ entries, 0 ≤ entry ∧ IsInt32 entry) (first : Int) :
    Reads .strict (Program.iterate readPaletteEntry entries.length first).run
      (entries.getLastD first) (paletteBytes entries) := by
  induction entries generalizing first with
  | nil => exact .pure first
  | cons entry entries ih =>
      simp only [List.mem_cons, forall_eq_or_imp] at valid
      rw [List.getLastD_cons]
      refine .bind (a := entry) ?_ (ih valid.2 entry)
      exact .thenPure (.varint valid.1.2) (.after (.require valid.1.1) (.pure entry))

/-- An entry of a palette is found there. -/
theorem typedPaletteEntry_eq {entries : List Int}
    (valid : ∀ entry ∈ entries, 0 ≤ entry ∧ IsInt32 entry) {index : Nat}
    (inside : index < entries.length) :
    typedPaletteEntry (paletteBytes entries) index = some entries[index] := by
  have length : (entries.take (index + 1)).length = index + 1 := by
    rw [List.length_take]
    omega
  have reads := reads_entries (entries.take (index + 1))
    (fun entry mem => valid entry (List.mem_of_mem_take mem)) (-1)
  have split : paletteBytes entries = paletteBytes (entries.take (index + 1)) ++
      paletteBytes (entries.drop (index + 1)) := by
    rw [paletteBytes, paletteBytes, paletteBytes, ← List.flatten_append, ← List.map_append,
      List.take_append_drop]
  have before : (mcReaderInitMode (paletteBytes entries) .strict none).Before
      (paletteBytes (entries.take (index + 1)) ++ paletteBytes (entries.drop (index + 1))) := by
    rw [← split]
    exact mcReaderInitMode_before _ _ _
  have run := reads _ _ rfl before
  rw [length] at run
  have last : (entries.take (index + 1)).getLastD (-1) = entries[index] := by
    rw [List.take_succ_eq_append_getElem inside, List.getLastD_concat]
  rw [typedPaletteEntry, run, last]

/-- The words of a storage. -/
def storageWords (data : List UInt8) : List Nat :=
  (List.range (data.length / 8)).map (sectionWord data)

theorem sectionWord_lt (data : List UInt8) (wordIndex : Nat) : sectionWord data wordIndex < 2 ^ 64 := by
  have short : ((data.drop (wordIndex * 8)).take 8).length ≤ 8 := List.length_take_le _ _
  calc sectionWord data wordIndex
      < 256 ^ ((data.drop (wordIndex * 8)).take 8).length := BigEndian.word_lt _
    _ ≤ 256 ^ 8 := Nat.pow_le_pow_right (by decide) short
    _ = 2 ^ 64 := by norm_num

theorem storageWords_lt (data : List UInt8) : ∀ word ∈ storageWords data, word < 2 ^ 64 := by
  intro word mem
  obtain ⟨wordIndex, _, rfl⟩ := List.mem_map.mp mem
  exact sectionWord_lt data wordIndex

theorem storageWords_getD {data : List UInt8} {wordIndex : Nat}
    (inside : wordIndex < data.length / 8) :
    (storageWords data).getD wordIndex 0 = sectionWord data wordIndex := by
  rw [List.getD_eq_getElem _ _ (by simpa [storageWords] using inside)]
  simp [storageWords]

namespace McChunkSectionView

variable {chunkSection : McChunkSectionView} {blockIndex : Nat}

/-- What is stored for a block: its field of the stream of words or, where words are padded, of
its word. -/
def stored (chunkSection : McChunkSectionView) (blockIndex : Nat) : Nat :=
  let bits := chunkSection.blockBitsPerEntry
  if chunkSection.blockStoragePadded then
    PackedWords.field bits
      ((storageWords chunkSection.blockData).getD (blockIndex / (64 / bits)) 0)
      (blockIndex % (64 / bits))
  else PackedWords.field bits (PackedWords.pack 64 (storageWords chunkSection.blockData)) blockIndex

/-- The storage is all there. -/
structure Whole (chunkSection : McChunkSectionView) : Prop where
  narrow : chunkSection.blockBitsPerEntry ≤ 15
  longs : chunkSection.blockLongCount = expectedLongCount 4096 chunkSection.blockBitsPerEntry
    chunkSection.blockStoragePadded
  data_length : chunkSection.blockData.length = chunkSection.blockLongCount * 8

theorem not_lacks (whole : chunkSection.Whole) {wordIndex : Nat}
    (inside : wordIndex < expectedLongCount 4096 chunkSection.blockBitsPerEntry
      chunkSection.blockStoragePadded) :
    ¬ chunkSection.Lacks wordIndex ∧ wordIndex < chunkSection.blockData.length / 8 := by
  have long := whole.data_length
  rw [← whole.longs] at inside
  refine ⟨?_, by omega⟩
  rintro (short | short)
  · omega
  · omega

/-- Padded words never lack a block. -/
theorem packedBits_padded (whole : chunkSection.Whole) (inside : blockIndex < 4096)
    (some_ : chunkSection.blockBitsPerEntry ≠ 0) (padded : chunkSection.blockStoragePadded = true) :
    ∃ packed, chunkSection.packedBits blockIndex = some packed ∧
      packed % 2 ^ chunkSection.blockBitsPerEntry = chunkSection.stored blockIndex := by
  have narrow := whole.narrow
  have several : 0 < 64 / chunkSection.blockBitsPerEntry := Nat.div_pos (by omega) (by omega)
  have early : blockIndex / (64 / chunkSection.blockBitsPerEntry) <
      expectedLongCount 4096 chunkSection.blockBitsPerEntry chunkSection.blockStoragePadded := by
    have below := Nat.div_mul_le_self blockIndex (64 / chunkSection.blockBitsPerEntry)
    rw [expectedLongCount, if_neg some_, padded, if_pos rfl, Nat.lt_iff_add_one_le,
      Nat.le_div_iff_mul_le several, Nat.succ_mul]
    omega
  obtain ⟨there, bound⟩ := not_lacks whole early
  refine ⟨sectionWord chunkSection.blockData (blockIndex / (64 / chunkSection.blockBitsPerEntry)) >>>
    (blockIndex % (64 / chunkSection.blockBitsPerEntry) * chunkSection.blockBitsPerEntry), ?_, ?_⟩
  · simp only [packedBits, padded, if_true, if_neg there, Bool.true_eq_false, false_and, if_false]
  · rw [stored, if_pos padded, storageWords_getD bound, PackedWords.field,
      Nat.shiftRight_eq_div_pow, Nat.mul_comm chunkSection.blockBitsPerEntry]

/-- Nor does a stream of words, whether a block is inside one or across two of them. -/
theorem packedBits_straddling (whole : chunkSection.Whole) (inside : blockIndex < 4096)
    (some_ : chunkSection.blockBitsPerEntry ≠ 0) (padded : chunkSection.blockStoragePadded = false) :
    ∃ packed, chunkSection.packedBits blockIndex = some packed ∧
      packed % 2 ^ chunkSection.blockBitsPerEntry = chunkSection.stored blockIndex := by
  have narrow := whole.narrow
  have enough : expectedLongCount 4096 chunkSection.blockBitsPerEntry
      chunkSection.blockStoragePadded = (4096 * chunkSection.blockBitsPerEntry + 63) / 64 := by
    rw [expectedLongCount, if_neg some_, padded, if_neg (by decide)]
  have last : blockIndex * chunkSection.blockBitsPerEntry + chunkSection.blockBitsPerEntry ≤
      4096 * chunkSection.blockBitsPerEntry := by
    rw [← Nat.succ_mul]
    exact Nat.mul_le_mul_right _ inside
  have early : blockIndex * chunkSection.blockBitsPerEntry / 64 <
      expectedLongCount 4096 chunkSection.blockBitsPerEntry chunkSection.blockStoragePadded := by
    rw [enough]
    omega
  obtain ⟨there, bound⟩ := not_lacks whole early
  have small := storageWords_lt chunkSection.blockData
  have field : chunkSection.stored blockIndex =
      PackedWords.pack 64 (storageWords chunkSection.blockData) /
        2 ^ (blockIndex * chunkSection.blockBitsPerEntry) %
          2 ^ chunkSection.blockBitsPerEntry := by
    rw [stored, if_neg (by rw [padded]; decide), PackedWords.field,
      Nat.mul_comm chunkSection.blockBitsPerEntry]
  rw [field]
  by_cases across : 64 < blockIndex * chunkSection.blockBitsPerEntry % 64 +
      chunkSection.blockBitsPerEntry
  · have next : blockIndex * chunkSection.blockBitsPerEntry / 64 + 1 <
        expectedLongCount 4096 chunkSection.blockBitsPerEntry chunkSection.blockStoragePadded := by
      rw [enough]
      omega
    obtain ⟨there', bound'⟩ := not_lacks whole next
    refine ⟨_, ?_, PackedWords.field_across (by decide) small (by omega) across⟩
    rw [storageWords_getD bound, storageWords_getD bound']
    simp only [packedBits, padded, Bool.false_eq_true, if_false, if_neg there, across, and_self,
      if_true, if_neg there']
  · refine ⟨_, ?_, PackedWords.field_within (by decide) small (not_lt.mp across)⟩
    rw [storageWords_getD bound]
    simp only [packedBits, padded, Bool.false_eq_true, if_false, if_neg there, across, and_false]

/-- What `entries` say a stored value stands for: nothing where they do not list it. -/
def lookup (chunkSection : McChunkSectionView) (entries : List Int) (blockIndex : Nat) :
    Option Int :=
  if chunkSection.blockBitsPerEntry = 0 then entries[0]?
  else if chunkSection.blockPaletteCount = 0 then some (chunkSection.stored blockIndex)
  else entries[chunkSection.stored blockIndex]?

/-- The lookup of a block in a whole section. -/
theorem blockState_eq {entries : List Int}
    (holds : chunkSection.blocks.Holds 4096 8 15 chunkSection.blockStoragePadded entries)
    (inside : blockIndex < 4096) :
    mcChunkSectionBlockState chunkSection blockIndex = chunkSection.lookup entries blockIndex := by
  have count : chunkSection.blockPaletteCount = entries.length := holds.count
  have palette : chunkSection.blockPalette = paletteBytes entries := holds.palette_eq
  have narrow : chunkSection.blockBitsPerEntry ≤ 15 := holds.bits_le
  have accepted : ¬ (4096 ≤ blockIndex ∨ 15 < chunkSection.blockBitsPerEntry) := by omega
  unfold mcChunkSectionBlockState lookup
  rw [if_neg accepted]
  by_cases single : chunkSection.blockBitsPerEntry = 0
  · have one : entries.length = 1 := holds.lists.single single
    rw [if_pos single, if_pos single, count, if_pos one, palette,
      typedPaletteEntry_eq holds.lists.valid (by omega), List.getElem?_eq_getElem (by omega)]
  · have whole : chunkSection.Whole := ⟨narrow, holds.longs, holds.data_length⟩
    obtain ⟨packed, bits, value⟩ : ∃ packed, chunkSection.packedBits blockIndex = some packed ∧
        packed % 2 ^ chunkSection.blockBitsPerEntry = chunkSection.stored blockIndex := by
      cases padded : chunkSection.blockStoragePadded with
      | true => exact packedBits_padded whole inside single padded
      | false => exact packedBits_straddling whole inside single padded
    have raw : packed &&& (1 <<< chunkSection.blockBitsPerEntry - 1) =
        chunkSection.stored blockIndex := by
      rw [Nat.one_shiftLeft, Nat.and_two_pow_sub_one_eq_mod, value]
    rw [if_neg single, if_neg single, bits]
    simp only [raw]
    by_cases direct : chunkSection.blockPaletteCount = 0
    · have small : chunkSection.stored blockIndex < 2 ^ 15 := by
        rw [← value]
        exact (Nat.mod_lt _ (Nat.two_pow_pos _)).trans_le (Nat.pow_le_pow_right two_pos narrow)
      have fits : ¬ int32Max < chunkSection.stored blockIndex := by
        simp only [int32Max]
        omega
      rw [if_pos direct, if_pos direct, if_neg fits]
    · rw [if_neg direct, if_neg direct, count, palette]
      by_cases listed : chunkSection.stored blockIndex < entries.length
      · rw [if_neg (not_le.mpr listed), typedPaletteEntry_eq holds.lists.valid listed,
          List.getElem?_eq_getElem listed]
      · rw [if_pos (not_lt.mp listed), List.getElem?_eq_none (not_lt.mp listed)]

/-- A lookup in a whole section fails exactly where the stored index is past the palette. -/
theorem blockState_eq_none {entries : List Int}
    (holds : chunkSection.blocks.Holds 4096 8 15 chunkSection.blockStoragePadded entries)
    (inside : blockIndex < 4096) :
    mcChunkSectionBlockState chunkSection blockIndex = none ↔
      chunkSection.blockBitsPerEntry ≠ 0 ∧ 0 < chunkSection.blockPaletteCount ∧
        chunkSection.blockPaletteCount ≤ chunkSection.stored blockIndex := by
  have count : chunkSection.blockPaletteCount = entries.length := holds.count
  rw [blockState_eq holds inside, lookup]
  by_cases single : chunkSection.blockBitsPerEntry = 0
  · have one : entries.length = 1 := holds.lists.single single
    rw [if_pos single, List.getElem?_eq_getElem (by omega)]
    simp [single]
  · by_cases direct : chunkSection.blockPaletteCount = 0
    · simp [single, direct]
    · rw [if_neg single, if_neg direct, List.getElem?_eq_none_iff, count]
      exact ⟨fun past => ⟨single, by omega, past⟩, fun past => past.2.2⟩

end McChunkSectionView

/-- The iterators that a program can have. -/
inductive McChunkSectionIterator.Reachable : McChunkSectionIterator → Prop where
  | init {chunk : McChunkEnvelope} {protocol : Int} {sectionCount : Nat}
      {iterator : McChunkSectionIterator} :
      mcChunkSectionIteratorInit chunk protocol sectionCount = some iterator → Reachable iterator
  | next {iterator : McChunkSectionIterator} :
      Reachable iterator → Reachable (mcChunkSectionIteratorNext iterator).2

/-- What every iterator keeps. -/
structure McChunkSectionIterator.Invariant (iterator : McChunkSectionIterator) : Prop where
  strict : iterator.reader.mode = .strict
  sound : iterator.reader.Sound

namespace McChunkSectionIterator

variable {iterator : McChunkSectionIterator} {chunkSection : McChunkSectionView}

theorem Invariant.next (kept : iterator.Invariant) :
    (mcChunkSectionIteratorNext iterator).2.Invariant := by
  have sound := (readSection iterator.protocol).lawful.keeps _ kept.sound
  have moved := (readSection iterator.protocol).lawful.steps _ kept.sound
  unfold mcChunkSectionIteratorNext
  split_ifs with done
  · exact kept
  · rcases run : (readSection iterator.protocol).run iterator.reader with ⟨_ | decoded, reader⟩
    · rw [run] at sound moved
      exact ⟨moved.mode_eq.trans kept.strict, sound⟩
    · rw [run] at sound moved
      simp only
      split_ifs
      · exact ⟨McReader.fail_mode.trans (moved.mode_eq.trans kept.strict),
          sound.fail sound.offset_le⟩
      · exact ⟨moved.mode_eq.trans kept.strict, sound⟩

theorem Reachable.invariant (reachable : iterator.Reachable) : iterator.Invariant := by
  induction reachable with
  | init opened =>
      unfold mcChunkSectionIteratorInit at opened
      split_ifs at opened
      obtain rfl := Option.some.inj opened
      exact ⟨rfl, Nat.zero_le _, fun _ => nofun, nofun⟩
  | next _ kept => exact kept.next

/-- A failed reader reads no section: up to its blocks, each section has a byte. -/
theorem stops_readSection (protocol : Int) : Stops (readSection protocol).run := by
  have palette : Stops (typedReadPalette 4096 8 15 (decide (735 ≤ protocol))
      (decide (770 ≤ protocol))).run := .bind (.rescue (.bind .u8))
  have blocks : Stops (readSectionBlocks protocol).run :=
    .rescue (.behind fun _ => .behind fun _ => .bind palette)
  exact .behind fun _ => .bind (.bind blocks)

/-- What an iterator returns holds all the words of its blocks. -/
theorem Reachable.holds (reachable : iterator.Reachable) {after : McChunkSectionIterator}
    (returned : mcChunkSectionIteratorNext iterator = (some chunkSection, after)) :
    ∃ entries, chunkSection.blocks.Holds 4096 8 15 chunkSection.blockStoragePadded entries := by
  have kept := reachable.invariant
  unfold mcChunkSectionIteratorNext at returned
  split_ifs at returned with done
  · cases returned
  · rcases run : (readSection iterator.protocol).run iterator.reader with ⟨_ | decoded, reader⟩
    · rw [run] at returned
      cases returned
    · rw [run] at returned
      have clean : iterator.reader.failed = false := by
        by_contra failed
        have stuck := stops_readSection iterator.protocol iterator.reader kept.sound
          (Bool.not_eq_false _ ▸ failed)
        rw [run] at stuck
        cases stuck
      have before : iterator.reader.Before (iterator.reader.data.drop iterator.reader.offset) :=
        ⟨clean, kept.sound.offset_le, rfl⟩
      obtain ⟨bytes, rest, _, ⟨parts, entries, tailCode, holds, rfl, rfl⟩, _⟩ :=
        (accepts_readSection iterator.protocol).sound kept.strict before run
      dsimp only at returned
      split_ifs at returned
      · cases returned
      · simp only [Prod.mk.injEq, Option.some.injEq] at returned
        obtain ⟨rfl, -⟩ := returned
        exact ⟨entries, holds.view⟩

end McChunkSectionIterator

/-- How the states of a section are written: all cells the same, as indices into a list of
states, or themselves. -/
inductive PaletteForm where
  | single (state : Nat)
  | indirect (bits : Nat) (states : List Nat)
  | direct (bits : Nat)
  deriving Repr, DecidableEq

namespace PaletteForm

def bits : PaletteForm → Nat
  | single _ => 0
  | indirect bits _ => bits
  | direct bits => bits

def states : PaletteForm → List Nat
  | single state => [state]
  | indirect _ states => states
  | direct _ => []

/-- What is stored for a state. -/
def index : PaletteForm → Nat → Nat
  | single _, _ => 0
  | indirect _ states, state => states.idxOf state
  | direct _, state => state

/-- The form has room for the states of the cells. -/
def Admits (form : PaletteForm) (cells : List Nat) : Prop :=
  match form with
  | single state => state < 2 ^ 31 ∧ ∀ cell ∈ cells, cell = state
  | indirect bits states => 4 ≤ bits ∧ bits ≤ 8 ∧ states.length ≤ 2 ^ bits ∧
      (∀ state ∈ states, state < 2 ^ 31) ∧ ∀ cell ∈ cells, cell ∈ states
  | direct bits => 9 ≤ bits ∧ bits ≤ 15 ∧ ∀ cell ∈ cells, cell < 2 ^ bits

/-- The words of stored values: whole values in each word, or one stream of bits cut into
words. -/
def words (paddedStorage : Bool) (bits : Nat) (values : List Nat) : List Nat :=
  if bits = 0 then []
  else if paddedStorage then
    (List.range ((values.length + 64 / bits - 1) / (64 / bits))).map fun word =>
      PackedWords.pack bits ((values.drop (word * (64 / bits))).take (64 / bits))
  else PackedWords.words 64 ((values.length * bits + 63) / 64) (PackedWords.pack bits values)

/-- The palette and the storage of the cells. -/
def palette (form : PaletteForm) (paddedStorage : Bool) (cells : List Nat) : McTypedPalette where
  bits := form.bits
  paletteCount := form.states.length
  longCount := (words paddedStorage form.bits (cells.map form.index)).length
  palette := paletteBytes (form.states.map Int.ofNat)
  data := BigEndian.array 8 (words paddedStorage form.bits (cells.map form.index))

variable {form : PaletteForm} {cells : List Nat} {paddedStorage : Bool}

theorem length_words (bits : Nat) (values : List Nat) :
    (words paddedStorage bits values).length =
      expectedLongCount values.length bits paddedStorage := by
  unfold words expectedLongCount
  split_ifs with none padded
  · rfl
  · rw [List.length_map, List.length_range]
  · rw [PackedWords.length_words]

/-- A stored value fits its width. -/
theorem Admits.index_lt (admits : form.Admits cells) (wide : form.bits ≠ 0) :
    ∀ value ∈ cells.map form.index, value < 2 ^ form.bits := by
  intro value mem
  obtain ⟨cell, there, rfl⟩ := List.mem_map.mp mem
  cases form with
  | single state => exact absurd rfl wide
  | indirect bits states =>
      obtain ⟨_, _, few, _, listed⟩ := admits
      exact (List.idxOf_lt_length_of_mem (listed cell there)).trans_le few
  | direct bits => exact admits.2.2 cell there

theorem Admits.lists (admits : form.Admits cells) (some_ : cells ≠ []) :
    PaletteLists 8 form.bits (form.states.map Int.ofNat) := by
  obtain ⟨cell, there⟩ := List.exists_mem_of_ne_nil cells some_
  have valid {states : List Nat} (small : ∀ state ∈ states, state < 2 ^ 31) :
      ∀ entry ∈ states.map Int.ofNat, 0 ≤ entry ∧ IsInt32 entry := by
    intro entry mem
    obtain ⟨state, listed, rfl⟩ := List.mem_map.mp mem
    have bound := small state listed
    simp only [Int.ofNat_eq_natCast, IsInt32]
    omega
  cases form with
  | single state =>
      exact ⟨valid (by simpa [states] using admits.1), fun _ => rfl, by simp [bits], by simp [bits]⟩
  | indirect bits states =>
      obtain ⟨wide, narrow, few, small, listed⟩ := admits
      have one := List.length_pos_of_mem (listed cell there)
      refine ⟨valid small, ?_, ?_, ?_⟩ <;> simp only [PaletteForm.bits, PaletteForm.states]
      · omega
      · simpa using fun _ _ => ⟨one, few⟩
      · omega
  | direct bits =>
      obtain ⟨wide, narrow, small⟩ := admits
      refine ⟨fun entry mem => ?_, by simp [PaletteForm.bits]; omega,
        by simp [PaletteForm.bits]; omega, fun _ => rfl⟩
      cases mem

theorem Admits.holds (admits : form.Admits cells) (paddedStorage : Bool)
    (full : cells.length = 4096) :
    (form.palette paddedStorage cells).Holds 4096 8 15 paddedStorage
      (form.states.map Int.ofNat) := by
  have some_ : cells ≠ [] := by
    rintro rfl
    cases full
  refine ⟨?_, admits.lists some_, (List.length_map _).symm, rfl, ?_, BigEndian.length_array _ _⟩
  · cases form with
    | single state => exact Nat.zero_le _
    | indirect bits states => exact admits.2.1.trans (by decide)
    | direct bits => exact admits.2.1
  · change (words _ _ _).length = _
    rw [length_words, List.length_map, full]
    rfl

/-- No stored width gives strict mode a reason to refuse. -/
theorem Admits.wide (admits : form.Admits cells) : ¬ (0 < form.bits ∧ form.bits < 4) := by
  cases form with
  | single state => exact fun narrow => absurd narrow.1 (Nat.lt_irrefl 0)
  | indirect bits states => exact fun narrow => absurd narrow.2 (not_lt.mpr admits.1)
  | direct bits =>
      exact fun narrow => absurd narrow.2 (not_lt.mpr (le_trans (by decide) admits.1))

theorem words_lt {bits : Nat} {values : List Nat} (small : ∀ value ∈ values, value < 2 ^ bits) :
    ∀ word ∈ words paddedStorage bits values, word < 2 ^ 64 := by
  intro word mem
  unfold words at mem
  split_ifs at mem with none padded
  · cases mem
  · obtain ⟨index, _, rfl⟩ := List.mem_map.mp mem
    refine (PackedWords.pack_lt fun value there => small value
      (List.mem_of_mem_drop (List.mem_of_mem_take there))).trans_le
        (Nat.pow_le_pow_right two_pos ?_)
    calc bits * ((values.drop (index * (64 / bits))).take (64 / bits)).length
        ≤ bits * (64 / bits) := Nat.mul_le_mul_left _ (List.length_take_le _ _)
      _ ≤ 64 := Nat.mul_div_le 64 bits
  · exact PackedWords.words_lt word mem

/-- The storage of the words is read back as the words. -/
theorem storageWords_array {stored : List Nat} (small : ∀ word ∈ stored, word < 2 ^ 64) :
    storageWords (BigEndian.array 8 stored) = stored := by
  apply List.ext_getElem
  · rw [storageWords, List.length_map, List.length_range, BigEndian.length_array,
      Nat.mul_div_cancel _ (by decide)]
  · intro index inside inside'
    simp only [storageWords, List.getElem_map, List.getElem_range]
    exact BigEndian.word_array (fun word mem => (small word mem).trans_eq (by norm_num)) inside'

/-- What is stored for a cell is the index of its state. -/
theorem stored_eq {chunkSection : McChunkSectionView} (values : List Nat) {blockIndex : Nat}
    (wide : chunkSection.blockBitsPerEntry ≠ 0) (narrow : chunkSection.blockBitsPerEntry ≤ 15)
    (small : ∀ value ∈ values, value < 2 ^ chunkSection.blockBitsPerEntry)
    (data : chunkSection.blockData = BigEndian.array 8
      (words chunkSection.blockStoragePadded chunkSection.blockBitsPerEntry values))
    (inside : blockIndex < values.length) :
    chunkSection.stored blockIndex = values[blockIndex] := by
  have back : values[blockIndex] = values.getD blockIndex 0 :=
    (List.getD_eq_getElem _ _ inside).symm
  rw [McChunkSectionView.stored, data, storageWords_array (words_lt small), back]
  cases padded : chunkSection.blockStoragePadded with
  | false =>
      simp only [Bool.false_eq_true, if_false]
      rw [words, if_neg wide, if_neg (by decide), PackedWords.pack_words (by decide),
        PackedWords.field_pack small]
      refine (PackedWords.pack_lt small).trans_le (Nat.pow_le_pow_right two_pos ?_)
      rw [Nat.mul_comm]
      omega
  | true =>
      simp only [if_true]
      generalize several : 64 / chunkSection.blockBitsPerEntry = perWord
      have positive : 0 < perWord := several ▸ Nat.div_pos (by omega) (by omega)
      have early : blockIndex / perWord < (values.length + perWord - 1) / perWord := by
        have below := Nat.div_mul_le_self blockIndex perWord
        rw [Nat.lt_iff_add_one_le, Nat.le_div_iff_mul_le positive, Nat.succ_mul]
        omega
      have chunk : (words true chunkSection.blockBitsPerEntry values).getD
          (blockIndex / perWord) 0 = PackedWords.pack chunkSection.blockBitsPerEntry
            ((values.drop (blockIndex / perWord * perWord)).take perWord) := by
        rw [words, if_neg wide, if_pos rfl, several,
          List.getD_eq_getElem _ _ (by simpa using early)]
        simp
      rw [chunk, PackedWords.field_pack fun value there =>
        small value (List.mem_of_mem_drop (List.mem_of_mem_take there))]
      have split := Nat.div_add_mod blockIndex perWord
      rw [Nat.mul_comm] at split
      rw [List.getD_eq_getElem?_getD, List.getElem?_take_of_lt (Nat.mod_lt _ positive),
        List.getElem?_drop, split, List.getD_eq_getElem?_getD]

end PaletteForm

/-- The iterator stands in front of `bytes` and of `rest` behind them. -/
structure McChunkSectionIterator.At (iterator : McChunkSectionIterator) (protocol : Int)
    (bytes rest : List UInt8) : Prop where
  reachable : iterator.Reachable
  protocol_eq : iterator.protocol = protocol
  before : iterator.reader.Before (bytes ++ rest)
  more : 0 < iterator.remaining
  /-- Since 757 nothing is behind the last section. -/
  last : 757 ≤ protocol → iterator.remaining = 1 → rest = []

/-- A section of packed cells. -/
def PaletteForm.section (form : PaletteForm) (protocol : Int) (cells : List Nat)
    (nonAirBlockCount fluidCount : Nat) (tail : List UInt8 × List UInt8 × McTypedPalette) :
    SectionParts where
  nonAirBlockCount := nonAirBlockCount
  fluidCount := fluidCount
  blocks := form.palette (decide (735 ≤ protocol)) cells
  tail := tail

/-- A packed cell is looked up as its state. -/
theorem PaletteForm.Admits.lookup {form : PaletteForm} {cells : List Nat} {protocol : Int}
    {nonAirBlockCount fluidCount : Nat} {tail : List UInt8 × List UInt8 × McTypedPalette}
    {encoded : List UInt8} {blockIndex : Nat} (admits : form.Admits cells)
    (full : cells.length = 4096) (inside : blockIndex < cells.length) :
    ((form.section protocol cells nonAirBlockCount fluidCount tail).view protocol encoded).lookup
      (form.states.map Int.ofNat) blockIndex = some (cells[blockIndex] : Int) := by
  have there : cells[blockIndex] ∈ cells := List.getElem_mem inside
  have bits : ((form.section protocol cells nonAirBlockCount fluidCount tail).view protocol
      encoded).blockBitsPerEntry = form.bits := rfl
  have count : ((form.section protocol cells nonAirBlockCount fluidCount tail).view protocol
      encoded).blockPaletteCount = form.states.length := rfl
  rw [McChunkSectionView.lookup, bits, count]
  by_cases single : form.bits = 0
  · rw [if_pos single]
    cases form with
    | single state =>
        rw [admits.2 _ there]
        rfl
    | indirect bits states => exact absurd (admits.1.trans_eq single) (by decide)
    | direct bits => exact absurd (admits.1.trans_eq single) (by decide)
  · have narrow := (admits.holds (decide (735 ≤ protocol)) full).bits_le
    have stored : ((form.section protocol cells nonAirBlockCount fluidCount tail).view protocol
        encoded).stored blockIndex = form.index cells[blockIndex] := by
      rw [PaletteForm.stored_eq (cells.map form.index) single narrow
        (admits.index_lt single) rfl (by simpa using inside), List.getElem_map]
    rw [if_neg single, stored]
    cases form with
    | single state => exact absurd rfl single
    | indirect bits states =>
        have listed : cells[blockIndex] ∈ states := admits.2.2.2.2 _ there
        have some_ : states.length ≠ 0 := (List.length_pos_of_mem listed).ne'
        simp only [PaletteForm.states, PaletteForm.index, if_neg some_, List.getElem?_map]
        rw [List.getElem?_eq_getElem (List.idxOf_lt_length_of_mem listed), List.getElem_idxOf]
        rfl
    | direct bits => rfl

/-- An iterator returns the section it stands in front of. -/
theorem McChunkSectionIterator.At.next {iterator : McChunkSectionIterator} {protocol : Int}
    {parts : SectionParts} {entries : List Int} {tailCode rest : List UInt8}
    (ahead : iterator.At protocol (parts.code protocol tailCode) rest)
    (holds : parts.Holds protocol entries tailCode) :
    ∃ after, mcChunkSectionIteratorNext iterator =
      (some (parts.view protocol (parts.code protocol tailCode)), after) := by
  have run := (accepts_readSection protocol).complete ⟨parts, entries, tailCode, holds, rfl, rfl⟩
    iterator.reader rest ahead.reachable.invariant.strict ahead.before
  have left : mcReaderRemaining (iterator.reader.advance
      (parts.code protocol tailCode).length) = rest.length := by
    have behind := ahead.before.advance
    rw [mcReaderRemaining, if_neg]
    · have size := behind.size_eq
      omega
    · rintro (failed | past)
      · rw [behind.clean] at failed
        cases failed
      · exact absurd past (not_lt.mpr behind.inside)
  have more : iterator.remaining ≠ 0 := ahead.more.ne'
  have passes : ¬ (757 ≤ iterator.protocol ∧ iterator.remaining - 1 = 0 ∧
      mcReaderRemaining (iterator.reader.advance (parts.code protocol tailCode).length) ≠ 0) := by
    rintro ⟨new, done, trailing⟩
    have empty := ahead.last (ahead.protocol_eq ▸ new) (by have := ahead.more; omega)
    rw [left, empty] at trailing
    exact trailing rfl
  unfold mcChunkSectionIteratorNext
  rw [if_neg more, ahead.protocol_eq, run]
  rw [ahead.protocol_eq] at passes
  simp only [if_neg passes]
  exact ⟨_, rfl⟩

/-- Sections decode to the block states that were packed, in every form and every release; and
what an iterator returns fails a lookup only where the stored index is past the palette. -/
theorem chunk_sections_decode :
    (∀ (protocol : Int) (cells : List Nat) (form : PaletteForm) (nonAirBlockCount fluidCount : Nat)
        (tail : List UInt8 × List UInt8 × McTypedPalette) (tailCode rest : List UInt8)
        (iterator : McChunkSectionIterator),
      cells.length = 4096 → form.Admits cells →
      nonAirBlockCount ≤ (if 477 ≤ protocol then 4096 else 0) →
      fluidCount ≤ (if 775 ≤ protocol then 4096 else 0) → SectionTail protocol tail tailCode →
      iterator.At protocol
        ((form.section protocol cells nonAirBlockCount fluidCount tail).code protocol tailCode)
        rest →
      ∃ chunkSection after,
        mcChunkSectionIteratorNext iterator = (some chunkSection, after) ∧
        ∀ blockIndex (inside : blockIndex < cells.length),
          mcChunkSectionBlockState chunkSection blockIndex = some (cells[blockIndex] : Int)) ∧
    (∀ (iterator after : McChunkSectionIterator) (chunkSection : McChunkSectionView)
        (blockIndex : Nat), iterator.Reachable →
      mcChunkSectionIteratorNext iterator = (some chunkSection, after) → blockIndex < 4096 →
      (mcChunkSectionBlockState chunkSection blockIndex = none ↔
        chunkSection.blockBitsPerEntry ≠ 0 ∧ 0 < chunkSection.blockPaletteCount ∧
          chunkSection.blockPaletteCount ≤ chunkSection.stored blockIndex)) := by
  constructor
  · intro protocol cells form nonAirBlockCount fluidCount tail tailCode rest iterator full admits
      few few' behind ahead
    have holds : (form.section protocol cells nonAirBlockCount fluidCount tail).Holds protocol
        (form.states.map Int.ofNat) tailCode :=
      ⟨few, few', admits.holds _ full, admits.wide, behind⟩
    obtain ⟨after, returned⟩ := ahead.next holds
    refine ⟨_, after, returned, fun blockIndex inside => ?_⟩
    rw [McChunkSectionView.blockState_eq holds.view (full ▸ inside)]
    exact admits.lookup full inside
  · intro iterator after chunkSection blockIndex reachable returned inside
    obtain ⟨entries, holds⟩ := reachable.holds returned
    exact McChunkSectionView.blockState_eq_none holds inside

/-- One block in the corner of an empty section. -/
theorem chunk_sections_decode_corner :
    let cells := 7 :: List.replicate 4095 0
    let parts := (PaletteForm.indirect 4 [0, 7]).section 578 cells 1 0
      ([], [], ⟨0, 0, 0, [], []⟩)
    let chunk := { McChunkEnvelope.at 0 0 with chunkData := parts.code 578 [] ++ [] }
    ∃ chunkSection after,
      mcChunkSectionIteratorNext ⟨mcReaderInitMode chunk.chunkData .strict none, 578, 1⟩ =
        (some chunkSection, after) ∧
      mcChunkSectionBlockState chunkSection 0 = some 7 := by
  intro cells parts chunk
  have full : cells.length = 4096 := by
    simp only [cells, List.length_cons, List.length_replicate]
  have admits : (PaletteForm.indirect 4 [0, 7]).Admits cells := by
    refine ⟨by decide, by decide, by decide, by decide, fun cell mem => ?_⟩
    simp only [cells, List.mem_cons, List.mem_replicate] at mem
    rcases mem with rfl | ⟨_, rfl⟩
    · decide
    · decide
  obtain ⟨chunkSection, after, returned, shown⟩ := chunk_sections_decode.1 578 cells
    (.indirect 4 [0, 7]) 1 0 ([], [], ⟨0, 0, 0, [], []⟩) [] []
    ⟨mcReaderInitMode chunk.chunkData .strict none, 578, 1⟩ full admits (by decide) (by decide)
    (.nothing (by decide) (by decide))
    ⟨.init (show mcChunkSectionIteratorInit chunk 578 1 = some _ from rfl), rfl,
      mcReaderInitMode_before _ _ _, Nat.one_pos, fun _ _ => rfl⟩
  exact ⟨chunkSection, after, returned, shown 0 (by omega)⟩

end McProtocol
