import McProtocol.Grammar

/-! # NBT

The skipping reader of `mc_reader_nbt` on one side; on the other the trees over the
thirteen tags with their binary encoding. The reader accepts exactly the encodings
of trees that nest no deeper than it allows.
-/

namespace McProtocol

inductive McNbtType where
  | endTag
  | byte
  | short
  | int
  | long
  | float
  | double
  | byteArray
  | string
  | list
  | compound
  | intArray
  | longArray
  deriving Repr, DecidableEq

namespace McNbtType

def tags : List McNbtType :=
  [.endTag, .byte, .short, .int, .long, .float, .double, .byteArray, .string, .list, .compound,
    .intArray, .longArray]

/-- The tag of a wire byte, if it is at most `MC_NBT_LONG_ARRAY`. -/
def ofByte (byte : UInt8) : Option McNbtType := tags[byte.toNat]?

def toByte : McNbtType → UInt8
  | endTag => 0
  | byte => 1
  | short => 2
  | int => 3
  | long => 4
  | float => 5
  | double => 6
  | byteArray => 7
  | string => 8
  | list => 9
  | compound => 10
  | intArray => 11
  | longArray => 12

theorem ofByte_eq_some_iff {byte : UInt8} {type : McNbtType} :
    ofByte byte = some type ↔ byte = type.toByte := by
  constructor
  · intro found
    have all : ∀ i : Fin 256, ∀ tag ∈ tags[i.val]?, UInt8.ofNat i.val = tag.toByte := by
      decide +kernel
    have here := all ⟨byte.toNat, byte.toNat_lt⟩ type found
    rwa [UInt8.ofNat_toNat] at here
  · rintro rfl
    cases type <;> rfl

end McNbtType

def mcReaderNbtName : ReadM (List UInt8) := do
  let size ← mcReaderU16
  mcReaderBytes size

def nbtSkipArray (width : Nat) : ReadM Unit := do
  let countOffset ← mcReaderOffset
  let count ← mcReaderI32
  rejectAt (count < 0 ∨ (mcMaxNbtCollectionCount : Int) < count) .nbtLength countOffset
  rejectAt (sizeMax / width < count.toNat) .integerOverflow countOffset
  mcReaderSkip (count.toNat * width)

/-- `nbt_skip_value` with `budget` levels to go, the value's own included. -/
def nbtSkipValueAt : Nat → McNbtType → ReadM Unit
  | 0, _ => reject .nbtDepth 0
  | budget + 1, type =>
      match type with
      | .byte => mcReaderSkip 1
      | .short => mcReaderSkip 2
      | .int | .float => mcReaderSkip 4
      | .long | .double => mcReaderSkip 8
      | .byteArray => nbtSkipArray 1
      | .string => do
          let _ ← mcReaderNbtName
          pure ()
      | .list => do
          let element ← mcReaderU8
          let countOffset ← mcReaderOffset
          let count ← mcReaderI32
          rejectAt (count < 0 ∨ (mcMaxNbtCollectionCount : Int) < count) .nbtLength countOffset
          match McNbtType.ofByte element with
          | none => rejectAt True .invalidPacketBody countOffset
          | some element => do
              rejectAt (element = .endTag ∧ count ≠ 0) .invalidPacketBody countOffset
              .iterate (fun _ => nbtSkipValueAt budget element) count.toNat ()
      | .compound => readLoop do
          let child ← mcReaderU8
          if child = 0 then pure false
          else orReject .invalidPacketBody 1 do
            match McNbtType.ofByte child with
            | none => .refuse
            | some child => do
                let _ ← mcReaderNbtName
                nbtSkipValueAt budget child
                pure true
      | .intArray => nbtSkipArray 4
      | .longArray => nbtSkipArray 8
      | .endTag => reject .invalidPacketBody 0

def nbtSkipValue (type : McNbtType) (depth : Nat) : ReadM Unit :=
  nbtSkipValueAt (mcMaxNbtDepth + 1 - depth) type

def mcReaderNbtValue (type : McNbtType) : ReadM (List UInt8) := do
  let start ← mcReaderOffset
  nbtSkipValue type 0
  readSince start

/-- The bytes `mc_reader_nbt` walks over. -/
def nbtSkipRoot (namedRoot : Bool) : ReadM Unit := do
  let root ← mcReaderU8
  match McNbtType.ofByte root with
  | none => reject .invalidPacketBody 1
  | some .endTag => pure ()
  | some root => do
      if namedRoot then
        let _ ← mcReaderNbtName
      nbtSkipValue root 0

def mcReaderNbt (namedRoot : Bool) : ReadM (List UInt8) := do
  let start ← mcReaderOffset
  nbtSkipRoot namedRoot
  readSince start

/-- `mc_packet_nbt`: what is appended has first been read as one whole document. -/
def mcPacketNbt (namedRoot : Bool) : Option Buffer → WriteM Unit
  | none => refuseWhen True
  | some encoded => do
      refuseWhen encoded.Missing
      let outcome := (mcReaderNbt namedRoot).run (mcReaderInit encoded.content)
      refuseWhen (outcome.1 = none ∨ mcReaderRemaining outcome.2 ≠ 0)
      mcPacketBytes encoded

mutual

/-- The values of a tag: no value has the tag of the end. -/
inductive NbtValue : McNbtType → Type where
  | byte (value : BitVec 8) : NbtValue .byte
  | short (value : BitVec 16) : NbtValue .short
  | int (value : BitVec 32) : NbtValue .int
  | long (value : BitVec 64) : NbtValue .long
  | float (bits : BitVec 32) : NbtValue .float
  | double (bits : BitVec 64) : NbtValue .double
  | byteArray (items : List (BitVec 8)) (bound : items.length ≤ mcMaxNbtCollectionCount) :
      NbtValue .byteArray
  | string (text : List UInt8) (short : text.length < 2 ^ 16) : NbtValue .string
  | list (element : McNbtType) (count : Nat) (bound : count ≤ mcMaxNbtCollectionCount)
      (items : NbtItems element count) : NbtValue .list
  | compound (entries : NbtEntries) : NbtValue .compound
  | intArray (items : List (BitVec 32)) (bound : items.length ≤ mcMaxNbtCollectionCount) :
      NbtValue .intArray
  | longArray (items : List (BitVec 64)) (bound : items.length ≤ mcMaxNbtCollectionCount) :
      NbtValue .longArray

/-- The items of a list share its element tag, so only an empty list has the tag of
the end. -/
inductive NbtItems : McNbtType → Nat → Type where
  | nil {element : McNbtType} : NbtItems element 0
  | cons {element : McNbtType} {count : Nat} (item : NbtValue element)
      (rest : NbtItems element count) : NbtItems element (count + 1)

inductive NbtEntries : Type where
  | nil : NbtEntries
  | cons (type : McNbtType) (name : List UInt8) (short : name.length < 2 ^ 16)
      (value : NbtValue type) (rest : NbtEntries) : NbtEntries

end

mutual

/-- How many levels of lists and compounds lie below the value. -/
def NbtValue.depth : {type : McNbtType} → NbtValue type → Nat
  | _, .list _ _ _ items => items.height
  | _, .compound entries => entries.height
  | _, _ => 0

def NbtItems.height : {element : McNbtType} → {count : Nat} → NbtItems element count → Nat
  | _, _, .nil => 0
  | _, _, .cons item rest => max (item.depth + 1) rest.height

def NbtEntries.height : NbtEntries → Nat
  | .nil => 0
  | .cons _ _ _ value rest => max (value.depth + 1) rest.height

end

/-- A name or a string: a 16-bit length and that many bytes. -/
def encodeName (name : List UInt8) : List UInt8 := BigEndian.bytes 2 name.length ++ name

def encodeArray (width : Nat) (items : List (BitVec (8 * width))) : List UInt8 :=
  BigEndian.bytes 4 items.length ++ items.flatMap fun item => BigEndian.bytes width item.toNat

mutual

def NbtValue.encode : {type : McNbtType} → NbtValue type → List UInt8
  | _, .byte value => BigEndian.bytes 1 value.toNat
  | _, .short value => BigEndian.bytes 2 value.toNat
  | _, .int value => BigEndian.bytes 4 value.toNat
  | _, .long value => BigEndian.bytes 8 value.toNat
  | _, .float bits => BigEndian.bytes 4 bits.toNat
  | _, .double bits => BigEndian.bytes 8 bits.toNat
  | _, .byteArray items _ => encodeArray 1 items
  | _, .string text _ => encodeName text
  | _, .list element count _ items =>
      element.toByte :: (BigEndian.bytes 4 count ++ items.encode)
  | _, .compound entries => entries.encode
  | _, .intArray items _ => encodeArray 4 items
  | _, .longArray items _ => encodeArray 8 items

def NbtItems.encode : {element : McNbtType} → {count : Nat} → NbtItems element count → List UInt8
  | _, _, .nil => []
  | _, _, .cons item rest => item.encode ++ rest.encode

def NbtEntries.encode : NbtEntries → List UInt8
  | .nil => [McNbtType.endTag.toByte]
  | .cons type name _ value rest =>
      type.toByte :: (encodeName name ++ value.encode) ++ rest.encode

end

/-- A document: the lone end byte, or a value, named where the format names its root. -/
inductive NbtRoot : Bool → Type where
  | empty {namedRoot : Bool} : NbtRoot namedRoot
  | named {type : McNbtType} (name : List UInt8) (short : name.length < 2 ^ 16)
      (value : NbtValue type) (shallow : value.depth ≤ mcMaxNbtDepth) : NbtRoot true
  | plain {type : McNbtType} (value : NbtValue type) (shallow : value.depth ≤ mcMaxNbtDepth) :
      NbtRoot false

def NbtRoot.encode : {namedRoot : Bool} → NbtRoot namedRoot → List UInt8
  | _, .empty => [McNbtType.endTag.toByte]
  | _, @named type name _ value _ => type.toByte :: (encodeName name ++ value.encode)
  | _, @plain type value _ => type.toByte :: value.encode

variable {mode : McDecodeMode}

theorem word_iff {width : Nat} {bytes : List UInt8} :
    bytes.length = width ↔ ∃ value : BitVec (8 * width), bytes = BigEndian.bytes width value.toNat := by
  constructor
  · intro length
    refine ⟨BitVec.ofNat _ (BigEndian.word bytes), ?_⟩
    have bound := BigEndian.word_lt bytes
    rw [BitVec.toNat_ofNat, Nat.mod_eq_of_lt, BigEndian.bytes_word length]
    rwa [pow_mul, ← length]
  · rintro ⟨value, rfl⟩
    exact BigEndian.length_bytes _ _

theorem words_iff {width count : Nat} {bytes : List UInt8} :
    bytes.length = count * width ↔ ∃ items : List (BitVec (8 * width)), items.length = count ∧
      bytes = items.flatMap fun item => BigEndian.bytes width item.toNat := by
  induction count generalizing bytes with
  | zero =>
      constructor
      · intro length
        exact ⟨[], rfl, List.length_eq_zero_iff.mp (by simpa using length)⟩
      · rintro ⟨items, length, rfl⟩
        rw [List.length_eq_zero_iff.mp length]
        simp
  | succ count ih =>
      constructor
      · intro length
        rw [Nat.succ_mul] at length
        have first : (bytes.take width).length = width := by rw [List.length_take]; omega
        have rest : (bytes.drop width).length = count * width := by rw [List.length_drop]; omega
        obtain ⟨item, head⟩ := word_iff.mp first
        obtain ⟨items, count, tail⟩ := ih.mp rest
        refine ⟨item :: items, by simp [count], ?_⟩
        rw [List.flatMap_cons, ← head, ← tail, List.take_append_drop]
      · rintro ⟨_ | ⟨item, items⟩, count, rfl⟩
        · simp at count
        · have rest := ih.mpr ⟨items, by simpa using count, rfl⟩
          rw [List.flatMap_cons, List.length_append, BigEndian.length_bytes, rest]
          ring

theorem accepts_name :
    Accepts mode mcReaderNbtName.run fun name bytes =>
      name.length < 2 ^ 16 ∧ bytes = encodeName name :=
  (accepts_u16.bind fun size => accepts_bytes size).congr fun name bytes => by
    constructor
    · rintro ⟨size, _, _, rfl, ⟨bound, rfl⟩, rfl, rfl⟩
      exact ⟨bound, rfl⟩
    · rintro ⟨bound, rfl⟩
      exact ⟨name.length, _, name, rfl, ⟨bound, rfl⟩, rfl, rfl⟩

theorem toUnsigned_ofNat {n : Nat} (bound : n < 2 ^ 32) : toUnsigned 32 n = n := by
  simp only [toUnsigned]
  omega

/-- A count that passed its check, as the four bytes it came from. -/
theorem count_iff {value : Int} {bytes : List UInt8} {count : Nat} :
    (IsInt32 value ∧ bytes = BigEndian.bytes 4 (toUnsigned 32 value)) ∧
        ¬ (value < 0 ∨ (mcMaxNbtCollectionCount : Int) < value) ∧ value.toNat = count ↔
      value = count ∧ count ≤ mcMaxNbtCollectionCount ∧ bytes = BigEndian.bytes 4 count := by
  simp only [mcMaxNbtCollectionCount, IsInt32]
  constructor
  · rintro ⟨⟨_, rfl⟩, inside, rfl⟩
    obtain ⟨n, rfl⟩ := Int.eq_ofNat_of_zero_le (show 0 ≤ value by omega)
    exact ⟨rfl, by simp at inside ⊢; omega, by rw [toUnsigned_ofNat (by omega)]; rfl⟩
  · rintro ⟨rfl, bound, rfl⟩
    exact ⟨⟨⟨by omega, by omega⟩, by rw [toUnsigned_ofNat (by omega)]⟩, by omega, by simp⟩

theorem accepts_skipArray {width : Nat} (small : width ≤ 8) (positive : 0 < width) :
    Accepts mode (nbtSkipArray width).run fun _ bytes =>
      ∃ items : List (BitVec (8 * width)), items.length ≤ mcMaxNbtCollectionCount ∧
        bytes = encodeArray width items := by
  have accepts : Accepts mode (nbtSkipArray width).run _ :=
    .offset fun start => accepts_i32.bind fun count =>
      (accepts_rejectAt start).bind fun _ => (accepts_rejectAt start).bind fun _ =>
        accepts_skip (count.toNat * width)
  refine accepts.congr fun _ bytes => ?_
  constructor
  · rintro ⟨count, head, _, rfl, word, _, _, _, rfl, ⟨inside, rfl⟩, _, _, body, rfl, ⟨-, rfl⟩, length⟩
    obtain ⟨items, itemCount, rfl⟩ := words_iff.mp length
    obtain ⟨-, bound, rfl⟩ := count_iff.mp ⟨word, inside, itemCount.symm⟩
    exact ⟨items, bound, rfl⟩
  · rintro ⟨items, bound, rfl⟩
    obtain ⟨word, inside, count⟩ := count_iff.mpr ⟨rfl, bound, rfl⟩
    refine ⟨items.length, _, _, rfl, word, (), [], _, rfl, ⟨inside, rfl⟩, (), [], _, rfl,
      ⟨?_, rfl⟩, ?_⟩
    · rw [not_lt, count, Nat.le_div_iff_mul_le positive]
      have product : items.length * width ≤ mcMaxNbtCollectionCount * 8 := Nat.mul_le_mul bound small
      exact product.trans (by decide)
    · exact words_iff.mpr ⟨items, count.symm, rfl⟩

/-- The encodings of the values of a tag that nest below `budget` levels. -/
def NbtGrammar (budget : Nat) (type : McNbtType) (bytes : List UInt8) : Prop :=
  ∃ value : NbtValue type, value.depth < budget ∧ bytes = value.encode

theorem items_iff {budget count : Nat} {element : McNbtType} {bytes : List UInt8} :
    (∃ parts : List (List UInt8), parts.length = count ∧
        (∀ part ∈ parts, NbtGrammar budget element part) ∧ bytes = parts.flatten) ↔
      ∃ items : NbtItems element count, items.height ≤ budget ∧ bytes = items.encode := by
  induction count generalizing bytes with
  | zero =>
      constructor
      · rintro ⟨parts, length, -, rfl⟩
        rw [List.length_eq_zero_iff.mp length]
        exact ⟨.nil, by simp [NbtItems.height], by simp [NbtItems.encode]⟩
      · rintro ⟨items, -, rfl⟩
        cases items
        exact ⟨[], rfl, by simp, by simp [NbtItems.encode]⟩
  | succ count ih =>
      constructor
      · rintro ⟨_ | ⟨part, parts⟩, length, all, rfl⟩
        · simp at length
        · simp only [List.mem_cons, forall_eq_or_imp] at all
          obtain ⟨⟨item, shallow, rfl⟩, rest⟩ := all
          obtain ⟨items, height, tail⟩ := ih.mp ⟨parts, by simpa using length, rest, rfl⟩
          refine ⟨.cons item items, ?_, ?_⟩
          · simp only [NbtItems.height]; omega
          · rw [List.flatten_cons, tail, NbtItems.encode]
      · rintro ⟨items, height, rfl⟩
        cases items with
        | cons item items =>
            simp only [NbtItems.height] at height
            obtain ⟨parts, length, all, tail⟩ := ih.mpr ⟨items, by omega, rfl⟩
            refine ⟨item.encode :: parts, by simp [length], ?_, ?_⟩
            · simp only [List.mem_cons, forall_eq_or_imp]
              exact ⟨⟨item, by omega, rfl⟩, all⟩
            · rw [List.flatten_cons, ← tail, NbtItems.encode]

/-- What one round of the compound loop reads. -/
def EntryRound (budget : Nat) (more : Bool) (bytes : List UInt8) : Prop :=
  more = false ∧ bytes = [McNbtType.endTag.toByte] ∨
  more = true ∧ ∃ type name value, name.length < 2 ^ 16 ∧ NbtGrammar budget type value ∧
    bytes = type.toByte :: (encodeName name ++ value)

theorem rounds_of_entries {budget : Nat} : ∀ entries : NbtEntries, entries.height ≤ budget →
    Rounds (EntryRound budget) entries.encode
  | .nil, _ => by
      rw [NbtEntries.encode]
      exact .last (.inl ⟨rfl, rfl⟩)
  | .cons type name short value rest, height => by
      simp only [NbtEntries.height] at height
      rw [NbtEntries.encode]
      exact .more (.inr ⟨rfl, type, name, _, short, ⟨value, by omega, rfl⟩, rfl⟩)
        (rounds_of_entries rest (by omega))

theorem entries_iff {budget : Nat} {bytes : List UInt8} :
    Rounds (EntryRound budget) bytes ↔
      ∃ entries : NbtEntries, entries.height ≤ budget ∧ bytes = entries.encode := by
  constructor
  · intro rounds
    induction rounds with
    | last stop =>
        rcases stop with ⟨-, rfl⟩ | ⟨more, -⟩
        · exact ⟨.nil, by simp [NbtEntries.height], by simp [NbtEntries.encode]⟩
        · simp at more
    | more goes _ ih =>
        rcases goes with ⟨stop, -⟩ | ⟨-, type, name, _, short, ⟨value, shallow, rfl⟩, rfl⟩
        · simp at stop
        · obtain ⟨entries, height, rfl⟩ := ih
          refine ⟨.cons type name short value entries, ?_, ?_⟩
          · simp only [NbtEntries.height]; omega
          · rw [NbtEntries.encode]
  · rintro ⟨entries, height, rfl⟩
    exact rounds_of_entries entries height

/-- No value is tagged as an end. -/
theorem not_grammar_endTag {budget : Nat} {bytes : List UInt8} :
    ¬ NbtGrammar budget .endTag bytes := by
  rintro ⟨value, -, -⟩
  cases value

theorem accepts_compound {budget : Nat}
    (ih : ∀ type, Accepts mode (nbtSkipValueAt budget type).run
      fun _ bytes => NbtGrammar budget type bytes) :
    Accepts mode (nbtSkipValueAt (budget + 1) .compound).run
      fun _ bytes => NbtGrammar (budget + 1) .compound bytes := by
  have child (tag : UInt8) : Accepts mode (if tag = 0 then pure false
      else orReject .invalidPacketBody 1 do
        match McNbtType.ofByte tag with
        | none => .refuse
        | some child => do
            let _ ← mcReaderNbtName
            nbtSkipValueAt budget child
            pure true : ReadM Bool).run
      fun more bytes => EntryRound budget more (tag :: bytes) := by
    by_cases stop : tag = 0
    · subst stop
      refine (Accepts.pure false).congr fun more bytes => ⟨?_, ?_⟩
      · rintro ⟨rfl, rfl⟩; exact .inl ⟨rfl, rfl⟩
      · rintro (⟨rfl, last⟩ | ⟨-, type, name, value, -, derived, entry⟩)
        · exact ⟨rfl, (List.cons.inj last).2⟩
        · cases type <;> simp [McNbtType.toByte] at entry
          exact absurd derived not_grammar_endTag
    · rw [if_neg stop]
      refine accepts_orReject ?_ 1
      rcases known : McNbtType.ofByte tag with _ | type
      · refine (Accepts.refused fun _ => rfl).congr fun more bytes => ⟨False.elim, ?_⟩
        rintro (⟨-, last⟩ | ⟨-, type, name, value, -, -, entry⟩)
        · exact stop (List.cons.inj last).1
        · rw [McNbtType.ofByte_eq_some_iff.mpr (List.cons.inj entry).1] at known
          simp at known
      · obtain rfl := McNbtType.ofByte_eq_some_iff.mp known
        refine (accepts_name.bind fun _ => (ih type).bind fun _ => .pure true).congr
          fun more bytes => ⟨?_, ?_⟩
        · rintro ⟨name, _, _, rfl, ⟨short, rfl⟩, _, value, _, rfl, derived, rfl, rfl⟩
          exact .inr ⟨rfl, type, name, value, short, derived, by rw [List.append_nil]⟩
        · rintro (⟨-, last⟩ | ⟨rfl, _, name, value, short, derived, entry⟩)
          · exact absurd (List.cons.inj last).1 stop
          · obtain ⟨same, rfl⟩ := List.cons.inj entry
            have known' := McNbtType.ofByte_eq_some_iff.mpr same
            rw [known] at known'
            obtain rfl := Option.some.inj known'
            exact ⟨name, _, _, rfl, ⟨short, rfl⟩, (), value, [], by simp, derived, rfl, rfl⟩
  have body := (accepts_u8.bind child).congr (H := EntryRound budget) fun more bytes => by
    constructor
    · rintro ⟨tag, _, rest, rfl, rfl, round⟩
      exact round
    · intro round
      cases bytes with
      | nil => rcases round with ⟨-, last⟩ | ⟨-, type, name, value, -, -, entry⟩ <;> contradiction
      | cons tag rest => exact ⟨tag, [tag], rest, rfl, rfl, round⟩
  have progress (bytes : List UInt8) (round : EntryRound budget true bytes) : bytes ≠ [] := by
    rcases round with ⟨more, -⟩ | ⟨-, type, name, value, -, -, rfl⟩
    · simp at more
    · simp
  have accepts : Accepts mode (nbtSkipValueAt (budget + 1) .compound).run _ :=
    .readLoop body progress
  refine accepts.congr fun _ bytes => entries_iff.trans ⟨?_, ?_⟩
  · rintro ⟨entries, height, rfl⟩
    exact ⟨.compound entries, by simp only [NbtValue.depth]; omega, by simp only [NbtValue.encode]⟩
  · rintro ⟨value, shallow, rfl⟩
    cases value with
    | compound entries =>
        simp only [NbtValue.depth] at shallow
        exact ⟨entries, by omega, by simp only [NbtValue.encode]⟩

theorem accepts_list {budget : Nat}
    (ih : ∀ type, Accepts mode (nbtSkipValueAt budget type).run
      fun _ bytes => NbtGrammar budget type bytes) :
    Accepts mode (nbtSkipValueAt (budget + 1) .list).run
      fun _ bytes => NbtGrammar (budget + 1) .list bytes := by
  have items (tag : UInt8) (start : Nat) (count : Int) : Accepts mode
      (match McNbtType.ofByte tag with
        | none => rejectAt True .invalidPacketBody start
        | some element => do
            rejectAt (element = .endTag ∧ count ≠ 0) .invalidPacketBody start
            .iterate (fun _ => nbtSkipValueAt budget element) count.toNat () : ReadM Unit).run
      fun _ bytes => ∃ element : McNbtType, tag = element.toByte ∧
        ¬ (element = .endTag ∧ count ≠ 0) ∧
          ∃ items : NbtItems element count.toNat, items.height ≤ budget ∧ bytes = items.encode := by
    rcases known : McNbtType.ofByte tag with _ | element
    · refine (accepts_rejectAt start).congr fun _ bytes => ⟨by simp, ?_⟩
      rintro ⟨element, rfl, -⟩
      rw [McNbtType.ofByte_eq_some_iff.mpr rfl] at known
      simp at known
    · obtain rfl := McNbtType.ofByte_eq_some_iff.mp known
      refine ((accepts_rejectAt start).bind fun _ => .iterate (ih element) count.toNat).congr
        fun _ bytes => ⟨?_, ?_⟩
      · rintro ⟨_, _, body, rfl, ⟨allowed, rfl⟩, parts⟩
        exact ⟨element, rfl, allowed, items_iff.mp parts⟩
      · rintro ⟨other, same, allowed, inside⟩
        have known' := McNbtType.ofByte_eq_some_iff.mpr same
        rw [known] at known'
        obtain rfl := Option.some.inj known'
        exact ⟨(), [], bytes, rfl, ⟨allowed, rfl⟩, items_iff.mpr inside⟩
  have accepts : Accepts mode (nbtSkipValueAt (budget + 1) .list).run _ :=
    accepts_u8.bind fun tag => .offset fun start => accepts_i32.bind fun count =>
      (accepts_rejectAt start).bind fun _ => items tag start count
  refine accepts.congr fun _ bytes => ⟨?_, ?_⟩
  · rintro ⟨tag, _, _, rfl, rfl, count, head, _, rfl, word, _, _, _, rfl, ⟨inside, rfl⟩,
      element, rfl, -, items, height, rfl⟩
    obtain ⟨-, bound, rfl⟩ := count_iff.mp ⟨word, inside, rfl⟩
    exact ⟨.list element count.toNat bound items, by simp only [NbtValue.depth]; omega,
      by simp only [NbtValue.encode]; rfl⟩
  · rintro ⟨value, shallow, rfl⟩
    cases value with
    | list element count bound items =>
        simp only [NbtValue.depth] at shallow
        obtain ⟨word, inside, same⟩ := count_iff.mpr ⟨rfl, bound, rfl⟩
        refine ⟨element.toByte, [element.toByte], _, by simp only [NbtValue.encode]; rfl, rfl, count,
          _, _, rfl, word, (), [], _, rfl, ⟨inside, rfl⟩, element, rfl, ?_, items, by omega, rfl⟩
        rintro ⟨rfl, some⟩
        cases items with
        | nil => exact some rfl
        | cons item rest => cases item

/-- A tag whose values are the words of `width` bytes. -/
theorem accepts_scalar (width : Nat) {budget : Nat} {type : McNbtType}
    (wrap : BitVec (8 * width) → NbtValue type) (every : ∀ value, ∃ bits, value = wrap bits)
    (flat : ∀ bits, (wrap bits).depth = 0)
    (encoded : ∀ bits, (wrap bits).encode = BigEndian.bytes width bits.toNat) :
    Accepts mode (mcReaderSkip width).run fun _ bytes => NbtGrammar (budget + 1) type bytes := by
  refine (accepts_skip width).congr fun _ bytes => word_iff.trans ⟨?_, ?_⟩
  · rintro ⟨bits, rfl⟩
    exact ⟨wrap bits, by rw [flat]; omega, (encoded bits).symm⟩
  · rintro ⟨value, -, rfl⟩
    obtain ⟨bits, rfl⟩ := every value
    exact ⟨bits, encoded bits⟩

/-- A tag whose values are the arrays of such words. -/
theorem accepts_array (width : Nat) {budget : Nat} {type : McNbtType} (small : width ≤ 8)
    (positive : 0 < width)
    (wrap : (items : List (BitVec (8 * width))) → items.length ≤ mcMaxNbtCollectionCount →
      NbtValue type)
    (every : ∀ value, ∃ items bound, value = wrap items bound)
    (flat : ∀ items bound, (wrap items bound).depth = 0)
    (encoded : ∀ items bound, (wrap items bound).encode = encodeArray width items) :
    Accepts mode (nbtSkipArray width).run fun _ bytes => NbtGrammar (budget + 1) type bytes := by
  refine (accepts_skipArray small positive).congr fun _ bytes => ⟨?_, ?_⟩
  · rintro ⟨items, bound, rfl⟩
    exact ⟨wrap items bound, by rw [flat]; omega, (encoded items bound).symm⟩
  · rintro ⟨value, -, rfl⟩
    obtain ⟨items, bound, rfl⟩ := every value
    exact ⟨items, bound, encoded items bound⟩

theorem accepts_stringValue {budget : Nat} :
    Accepts mode (nbtSkipValueAt (budget + 1) .string).run
      fun _ bytes => NbtGrammar (budget + 1) .string bytes := by
  have accepts : Accepts mode (nbtSkipValueAt (budget + 1) .string).run _ :=
    accepts_name.bind fun _ => .pure ()
  refine accepts.congr fun _ bytes => ⟨?_, ?_⟩
  · rintro ⟨text, _, _, rfl, ⟨short, rfl⟩, -, rfl⟩
    exact ⟨.string text short, by simp [NbtValue.depth],
      by simp only [NbtValue.encode, List.append_nil]⟩
  · rintro ⟨value, -, rfl⟩
    cases value with
    | string text short =>
        exact ⟨text, encodeName text, [], by simp only [NbtValue.encode, List.append_nil],
          ⟨short, rfl⟩, rfl, rfl⟩

/-- The reader accepts exactly the encodings of the values that nest below its budget. -/
theorem accepts_nbtSkipValueAt (budget : Nat) (type : McNbtType) :
    Accepts mode (nbtSkipValueAt budget type).run fun _ bytes => NbtGrammar budget type bytes := by
  induction budget generalizing type with
  | zero =>
      refine (accepts_reject 0).congr fun _ bytes => ⟨False.elim, ?_⟩
      rintro ⟨value, shallow, -⟩
      omega
  | succ budget ih =>
      cases type with
      | endTag => exact (accepts_reject 0).congr fun _ bytes => iff_of_false id not_grammar_endTag
      | list => exact accepts_list ih
      | compound => exact accepts_compound ih
      | string => exact accepts_stringValue
      | byte =>
          exact accepts_scalar 1 NbtValue.byte (fun | .byte bits => ⟨bits, rfl⟩)
            (fun _ => by simp only [NbtValue.depth]) (fun _ => by simp only [NbtValue.encode])
      | short =>
          exact accepts_scalar 2 NbtValue.short (fun | .short bits => ⟨bits, rfl⟩)
            (fun _ => by simp only [NbtValue.depth]) (fun _ => by simp only [NbtValue.encode])
      | int =>
          exact accepts_scalar 4 NbtValue.int (fun | .int bits => ⟨bits, rfl⟩)
            (fun _ => by simp only [NbtValue.depth]) (fun _ => by simp only [NbtValue.encode])
      | long =>
          exact accepts_scalar 8 NbtValue.long (fun | .long bits => ⟨bits, rfl⟩)
            (fun _ => by simp only [NbtValue.depth]) (fun _ => by simp only [NbtValue.encode])
      | float =>
          exact accepts_scalar 4 NbtValue.float (fun | .float bits => ⟨bits, rfl⟩)
            (fun _ => by simp only [NbtValue.depth]) (fun _ => by simp only [NbtValue.encode])
      | double =>
          exact accepts_scalar 8 NbtValue.double (fun | .double bits => ⟨bits, rfl⟩)
            (fun _ => by simp only [NbtValue.depth]) (fun _ => by simp only [NbtValue.encode])
      | byteArray =>
          exact accepts_array 1 (by decide) (by decide) NbtValue.byteArray
            (fun | .byteArray items bound => ⟨items, bound, rfl⟩)
            (fun _ _ => by simp only [NbtValue.depth]) (fun _ _ => by simp only [NbtValue.encode])
      | intArray =>
          exact accepts_array 4 (by decide) (by decide) NbtValue.intArray
            (fun | .intArray items bound => ⟨items, bound, rfl⟩)
            (fun _ _ => by simp only [NbtValue.depth]) (fun _ _ => by simp only [NbtValue.encode])
      | longArray =>
          exact accepts_array 8 (by decide) (by decide) NbtValue.longArray
            (fun | .longArray items bound => ⟨items, bound, rfl⟩)
            (fun _ _ => by simp only [NbtValue.depth]) (fun _ _ => by simp only [NbtValue.encode])

/-- Behind a root tag that is not the end: the optional name and the value. -/
def RootRest (namedRoot : Bool) (type : McNbtType) (bytes : List UInt8) : Prop :=
  type ≠ .endTag ∧ ∃ root : NbtRoot namedRoot, type.toByte :: bytes = root.encode

theorem toByte_injective {first second : McNbtType} (same : first.toByte = second.toByte) :
    first = second := by
  have left := McNbtType.ofByte_eq_some_iff.mpr same
  have right := McNbtType.ofByte_eq_some_iff.mpr (rfl : second.toByte = second.toByte)
  rw [McNbtType.ofByte_eq_some_iff.mpr (rfl : first.toByte = first.toByte)] at left
  exact Option.some.inj left

theorem rootRest_true_iff {type : McNbtType} {bytes : List UInt8} :
    RootRest true type bytes ↔ ∃ name value, name.length < 2 ^ 16 ∧
      NbtGrammar (mcMaxNbtDepth + 1) type value ∧ bytes = encodeName name ++ value := by
  constructor
  · rintro ⟨some, root, same⟩
    cases root with
    | empty => exact absurd (toByte_injective (List.cons.inj same).1) some
    | named name short value shallow =>
        obtain ⟨tag, rfl⟩ := List.cons.inj same
        obtain rfl := toByte_injective tag
        exact ⟨name, _, short, ⟨value, by omega, rfl⟩, rfl⟩
  · rintro ⟨name, _, short, ⟨value, shallow, rfl⟩, rfl⟩
    exact ⟨(by rintro rfl; cases value), .named name short value (by omega), rfl⟩

theorem rootRest_false_iff {type : McNbtType} {bytes : List UInt8} :
    RootRest false type bytes ↔ NbtGrammar (mcMaxNbtDepth + 1) type bytes := by
  constructor
  · rintro ⟨some, root, same⟩
    cases root with
    | empty => exact absurd (toByte_injective (List.cons.inj same).1) some
    | plain value shallow =>
        obtain ⟨tag, rfl⟩ := List.cons.inj same
        obtain rfl := toByte_injective tag
        exact ⟨value, by omega, rfl⟩
  · rintro ⟨value, shallow, rfl⟩
    exact ⟨(by rintro rfl; cases value), .plain value (by omega), rfl⟩

theorem accepts_rootRest (namedRoot : Bool) (type : McNbtType) :
    Accepts mode (do
      if namedRoot then
        let _ ← mcReaderNbtName
      nbtSkipValue type 0 : ReadM Unit).run fun _ bytes => RootRest namedRoot type bytes := by
  have value : Accepts mode (nbtSkipValue type 0).run
      fun _ bytes => NbtGrammar (mcMaxNbtDepth + 1) type bytes := accepts_nbtSkipValueAt _ type
  cases namedRoot with
  | false => exact value.congr fun _ bytes => rootRest_false_iff.symm
  | true =>
      refine (accepts_name.bind fun _ => value).congr fun _ bytes => ⟨?_, ?_⟩
      · rintro ⟨name, _, rest, rfl, ⟨short, rfl⟩, derived⟩
        exact rootRest_true_iff.mpr ⟨name, rest, short, derived, rfl⟩
      · intro rest
        obtain ⟨name, value, short, derived, rfl⟩ := rootRest_true_iff.mp rest
        exact ⟨name, _, value, rfl, ⟨short, rfl⟩, derived⟩

theorem NbtRoot.encode_cons {namedRoot : Bool} (root : NbtRoot namedRoot) :
    ∃ (type : McNbtType) (rest : List UInt8), root.encode = type.toByte :: rest := by
  cases root with
  | empty => exact ⟨.endTag, [], rfl⟩
  | @named type => exact ⟨type, _, rfl⟩
  | @plain type => exact ⟨type, _, rfl⟩

theorem accepts_nbtSkipRoot (namedRoot : Bool) :
    Accepts mode (nbtSkipRoot namedRoot).run
      fun _ bytes => ∃ root : NbtRoot namedRoot, bytes = root.encode := by
  have behind (tag : UInt8) : Accepts mode
      (match McNbtType.ofByte tag with
        | none => reject .invalidPacketBody 1
        | some .endTag => pure ()
        | some root => do
            if namedRoot then
              let _ ← mcReaderNbtName
            nbtSkipValue root 0 : ReadM Unit).run
      fun _ bytes => ∃ root : NbtRoot namedRoot, tag :: bytes = root.encode := by
    rcases known : McNbtType.ofByte tag with _ | type
    · refine (accepts_reject 1).congr fun _ bytes => ⟨False.elim, ?_⟩
      rintro ⟨root, same⟩
      obtain ⟨type, rest, encoded⟩ := root.encode_cons
      rw [encoded] at same
      rw [McNbtType.ofByte_eq_some_iff.mpr (List.cons.inj same).1] at known
      simp at known
    · obtain rfl := McNbtType.ofByte_eq_some_iff.mp known
      have rest : Accepts mode _ _ := accepts_rootRest namedRoot type
      cases type with
      | endTag =>
          refine (Accepts.pure ()).congr fun _ bytes => ⟨?_, ?_⟩
          · rintro ⟨-, rfl⟩; exact ⟨.empty, rfl⟩
          · rintro ⟨root, same⟩
            cases root with
            | empty => exact ⟨rfl, (List.cons.inj same).2⟩
            | named name short value shallow =>
                obtain rfl := toByte_injective (List.cons.inj same).1
                cases value
            | plain value shallow =>
                obtain rfl := toByte_injective (List.cons.inj same).1
                cases value
      | _ => exact rest.congr fun _ bytes => and_iff_right (by decide)
  have accepts : Accepts mode (nbtSkipRoot namedRoot).run _ := accepts_u8.bind behind
  refine accepts.congr fun _ bytes => ⟨?_, ?_⟩
  · rintro ⟨tag, _, rest, rfl, rfl, root, same⟩
    exact ⟨root, same⟩
  · rintro ⟨root, rfl⟩
    cases root with
    | empty => exact ⟨_, [_], [], rfl, rfl, .empty, rfl⟩
    | named name short value shallow =>
        exact ⟨_, [_], _, rfl, rfl, .named name short value shallow, rfl⟩
    | plain value shallow => exact ⟨_, [_], _, rfl, rfl, .plain value shallow, rfl⟩

theorem accepts_nbt (namedRoot : Bool) :
    Accepts mode (mcReaderNbt namedRoot).run fun slice bytes =>
      slice = bytes ∧ ∃ root : NbtRoot namedRoot, bytes = root.encode :=
  (accepts_nbtSkipRoot namedRoot).sliced.congr fun slice bytes => by
    rw [exists_const]

theorem mcReaderNbt_run {namedRoot : Bool} (root : NbtRoot namedRoot) {reader : McReader}
    {rest : List UInt8} (before : reader.Before (root.encode ++ rest)) :
    (mcReaderNbt namedRoot).run reader =
      (some root.encode, reader.advance root.encode.length) :=
  (accepts_nbt namedRoot).complete ⟨rfl, root, rfl⟩ reader rest rfl before

/-- The whole argument is one document exactly when reading it leaves nothing. -/
theorem whole_document_iff {namedRoot : Bool} {data : List UInt8} :
    ¬ (((mcReaderNbt namedRoot).run (mcReaderInit data)).1 = none ∨
        mcReaderRemaining ((mcReaderNbt namedRoot).run (mcReaderInit data)).2 ≠ 0) ↔
      ∃ root : NbtRoot namedRoot, data = root.encode := by
  constructor
  · intro accepted
    obtain ⟨returned, whole⟩ := not_or.mp accepted
    rcases run : (mcReaderNbt namedRoot).run (mcReaderInit data) with ⟨_ | slice, after⟩
    · simp [run] at returned
    · obtain ⟨bytes, rest, split, ⟨-, root, rfl⟩, rfl⟩ :=
        (accepts_nbt namedRoot).sound rfl (mcReaderInit_before data) run
      have behind : ((mcReaderInit data).advance root.encode.length).Before rest :=
        (split ▸ mcReaderInit_before data : (mcReaderInit data).Before (root.encode ++ rest)).advance
      have length := behind.size_eq
      have inside := behind.inside
      rw [run] at whole
      simp only [mcReaderRemaining, behind.clean, Bool.false_eq_true, false_or, not_not] at whole
      rw [if_neg (by omega)] at whole
      have none : rest = [] := List.length_eq_zero_iff.mp (by omega)
      exact ⟨root, by rw [split, none, List.append_nil]⟩
  · rintro ⟨root, rfl⟩
    have before : (mcReaderInit root.encode).Before (root.encode ++ []) := by
      rw [List.append_nil]
      exact mcReaderInit_before root.encode
    rw [mcReaderNbt_run root before]
    simp [mcReaderRemaining, McReader.advance, McReader.size, mcReaderInit]

/-- The reader reads the encodings of trees, and nothing else; the writer appends an
argument that is one of them. -/
theorem nbt_reads_exactly_the_grammar (namedRoot : Bool) :
    (∀ (root : NbtRoot namedRoot) (rest : List UInt8) (reader : McReader),
      reader.Before (root.encode ++ rest) →
        (mcReaderNbt namedRoot).run reader =
          (some root.encode, reader.advance root.encode.length)) ∧
    (∀ (reader after : McReader) (data slice : List UInt8), reader.Before data →
      (mcReaderNbt namedRoot).run reader = (some slice, after) →
        ∃ (root : NbtRoot namedRoot) (rest : List UInt8), data = root.encode ++ rest ∧
          slice = root.encode ∧ after = reader.advance root.encode.length) ∧
    (∀ (packet : McPacket) (argument : Option Buffer),
      ((mcPacketNbt namedRoot argument).run packet).1 = some () ↔
        ∃ root : NbtRoot namedRoot, argument = some (.bytes root.encode) ∧
          packet.Fits root.encode.length) ∧
    ∀ (packet : McPacket) (root : NbtRoot namedRoot), packet.Fits root.encode.length →
      (mcPacketNbt namedRoot (some (.bytes root.encode))).run packet =
        (some (), packet.append root.encode) := by
  have appended (packet : McPacket) (root : NbtRoot namedRoot)
      (fits : packet.Fits root.encode.length) :
      (mcPacketNbt namedRoot (some (.bytes root.encode))).run packet =
        (some (), packet.append root.encode) := by
    have there : ¬ (Buffer.bytes root.encode).Missing := id
    have whole := whole_document_iff.mpr ⟨root, rfl⟩
    exact (Prog.bind_some (refuseWhen_good there)).trans
      ((Prog.bind_some (refuseWhen_good whole)).trans (mcPacketBytes_run fits))
  refine ⟨fun root _ _ => mcReaderNbt_run root, ?_, fun packet argument => ⟨?_, ?_⟩, appended⟩
  · intro reader after data slice before run
    obtain ⟨bytes, rest, split, ⟨rfl, root, rfl⟩, moved⟩ :=
      (accepts_nbt namedRoot).sound rfl before run
    exact ⟨root, rest, split, rfl, moved⟩
  · intro accepted
    rcases argument with _ | encoded
    · simp [mcPacketNbt, refuseWhen_bad trivial] at accepted
    · have run : (mcPacketNbt namedRoot (some encoded)).run packet = (some (), _) :=
        Prod.ext accepted rfl
      obtain ⟨_, _, checked, run⟩ := Prog.bind_eq_some run
      obtain ⟨there, rfl⟩ := refuseWhen_eq_some checked
      obtain ⟨_, _, checked, run⟩ := Prog.bind_eq_some run
      obtain ⟨whole, rfl⟩ := refuseWhen_eq_some checked
      obtain ⟨root, same⟩ := whole_document_iff.mp whole
      cases encoded with
      | null size =>
          obtain ⟨type, rest, encoded⟩ := root.encode_cons
          rw [encoded] at same
          simp [Buffer.content] at same
      | bytes content =>
          obtain rfl : content = root.encode := same
          refine ⟨root, rfl, by_contra fun unfit => ?_⟩
          rw [mcPacketBytes_refused unfit] at run
          simp at run
  · rintro ⟨root, rfl, fits⟩
    rw [appended packet root fits]

/-- An empty list of ends, unnamed, with a byte behind it. -/
theorem nbt_reads_exactly_the_grammar_emptyList :
    ((mcReaderNbt false).run (mcReaderInit [9, 0, 0, 0, 0, 0, 42])).1 =
        some [9, 0, 0, 0, 0, 0] ∧
      ((mcPacketNbt false (some (.bytes [9, 0, 0, 0, 0, 0, 42]))).run
        (mcPacketInit (.bytes (List.replicate 8 0)))).1 ≠ some () := by
  let root : NbtRoot false :=
    .plain (.list .endTag 0 (Nat.zero_le _) .nil) (by simp [NbtValue.depth, NbtItems.height])
  have encoded : root.encode = [9, 0, 0, 0, 0, 0] := by
    simp [root, NbtRoot.encode, NbtValue.encode, NbtItems.encode, McNbtType.toByte,
      BigEndian.bytes]
  have grammar := nbt_reads_exactly_the_grammar false
  have read := grammar.1 root [42] (mcReaderInit [9, 0, 0, 0, 0, 0, 42])
    (encoded ▸ mcReaderInit_before _)
  refine ⟨by rw [read, encoded], fun accepted => ?_⟩
  obtain ⟨other, same, -⟩ := (grammar.2.2.1 _ _).mp accepted
  have whole : [9, 0, 0, 0, 0, 0, 42] = other.encode := by simpa using same
  have read' := grammar.1 other [] (mcReaderInit [9, 0, 0, 0, 0, 0, 42])
    (by rw [List.append_nil, ← whole]; exact mcReaderInit_before _)
  rw [read] at read'
  have lengths := congrArg (List.length ∘ Option.get! ∘ Prod.fst) read'
  simp [encoded, ← whole] at lengths

end McProtocol
