import McProtocol.Schema.Compiler
import McProtocol.Typed.Position

/-! # The calls of generated codecs

A field of a generated struct is written by one `mc_packet_*` call and read by one
`mc_reader_*` call. For each pair, `Wire.Writes` is the format both follow, and
`Wire.Readable` the values the reader returns. -/

namespace McProtocol

/-- The value of a field that is no struct. -/
inductive Scalar where
  | bool (value : Bool)
  | int (value : Int)
  | float (value : McFloat)
  | double (value : McDouble)
  | bytes (value : Buffer)
  | uuid (value : McUuid)
  | position (value : McPosition)

namespace Scalar

/-- The same value with what its pointer points to. -/
def read : Scalar → Scalar
  | bytes value => bytes (.bytes value.content)
  | scalar => scalar

theorem read_read (value : Scalar) : value.read.read = value.read := by
  cases value <;> rfl

/-- Equal as values of the C struct: two `McBytes` are compared by what they hold. -/
def Same (first second : Scalar) : Prop := first.read = second.read

/-- `mc_reader_string` reads texts up to `MC_DEFAULT_MAX_STRING_BYTES`. -/
def Short : Scalar → Prop
  | bytes value => value.size ≤ mcDefaultMaxStringBytes
  | _ => True

end Scalar

/-- The values of a C type. -/
def CType.Holds : CType → Scalar → Prop
  | .bool, .bool _ => True
  | .signed width, .int value => -2 ^ (width - 1) ≤ value ∧ value < 2 ^ (width - 1)
  | .unsigned width, .int value => 0 ≤ value ∧ value < 2 ^ width
  | .float, .float _ => True
  | .double, .double _ => True
  | .mcBytes, .bytes _ => True
  | .mcUuid, .uuid _ => True
  | .mcPosition, .position _ => True
  | _, _ => False

/-- `mc_packet_<suffix>(packet, value)`. No C compiler lets another type pass. -/
def Suffix.write : Suffix → Scalar → WriteM Unit
  | .bool, .bool value => mcPacketBool value
  | .i8, .int value => mcPacketI8 value
  | .u8, .int value => mcPacketU8 (toByte value)
  | .i16, .int value => mcPacketI16 value
  | .u16, .int value => mcPacketU16 (toUnsigned 16 value)
  | .i32, .int value => mcPacketI32 value
  | .u32, .int value => mcPacketU32 (toUnsigned 32 value)
  | .i64, .int value => mcPacketI64 value
  | .u64, .int value => mcPacketU64 (toUnsigned 64 value)
  | .float, .float value => mcPacketFloat value
  | .double, .double value => mcPacketDouble value
  | .varint, .int value => mcPacketVarint value
  | .varlong, .int value => mcPacketVarlong value
  | _, _ => refuseWhen True

def EncoderCall.run : EncoderCall → Scalar → WriteM Unit
  | .position protocol, .position value => mcPacketPosition protocol value
  | .stringN, .bytes (.bytes text) => mcPacketStringN text
  | .nbt namedRoot, .bytes value => mcPacketNbt namedRoot (some value)
  | .uuid, .uuid value => mcPacketUuid value
  | .primitive suffix, value => suffix.write value
  | .buffer .i32, .bytes value => mcPacketBufferI32 value
  | .buffer .varint, .bytes value => mcPacketBufferVarint value
  | _, _ => refuseWhen True

/-- `mc_reader_<suffix>(reader, &value)`; `mc_reader_nbt` takes an argument more. -/
def Suffix.read : Suffix → Prog McReader Scalar
  | .bool => .bool <$> mcReaderBool.run
  | .i8 => .int <$> mcReaderI8.run
  | .u8 => (fun byte => .int byte.toNat) <$> mcReaderU8.run
  | .i16 => .int <$> mcReaderI16.run
  | .u16 => (fun word => .int (word : Nat)) <$> mcReaderU16.run
  | .i32 => .int <$> mcReaderI32.run
  | .u32 => (fun word => .int (word : Nat)) <$> mcReaderU32.run
  | .i64 => .int <$> mcReaderI64.run
  | .u64 => (fun word => .int (word : Nat)) <$> mcReaderU64.run
  | .float => .float <$> mcReaderFloat.run
  | .double => .double <$> mcReaderDouble.run
  | .varint => .int <$> mcReaderVarint.run
  | .varlong => .int <$> mcReaderVarlong.run
  | .string => (fun text => .bytes (.bytes text)) <$> mcReaderString.run
  | .uuid => .uuid <$> mcReaderUuid.run
  | .nbt => .refuse

def DecoderCall.run : DecoderCall → Prog McReader Scalar
  | .position protocol => .position <$> (mcReaderPosition protocol).run
  | .nbt namedRoot => (fun slice => .bytes (.bytes slice)) <$> (mcReaderNbt namedRoot).run
  | .primitive suffix => suffix.read
  | .buffer .i32 => (fun data => .bytes (.bytes data)) <$> mcReaderBufferI32.run
  | .buffer .varint => (fun data => .bytes (.bytes data)) <$> mcReaderBufferVarint.run

/-- What a field is on the wire. -/
inductive Wire where
  | position (protocol : Int)
  | primitive (suffix : Suffix)
  | buffer (count : BufferCount)

def Suffix.type : Suffix → CType
  | .bool => .bool
  | .i8 => .signed 8
  | .u8 => .unsigned 8
  | .i16 => .signed 16
  | .u16 => .unsigned 16
  | .i32 | .varint => .signed 32
  | .u32 => .unsigned 32
  | .i64 | .varlong => .signed 64
  | .u64 => .unsigned 64
  | .float => .float
  | .double => .double
  | .string | .nbt => .mcBytes
  | .uuid => .mcUuid

def Suffix.Writes : Suffix → Scalar → List UInt8 → Prop
  | .bool, .bool value, bytes => bytes = [if value then 1 else 0]
  | .i8, .int value, bytes | .u8, .int value, bytes => bytes = [toByte value]
  | .i16, .int value, bytes | .u16, .int value, bytes =>
      bytes = BigEndian.bytes 2 (toUnsigned 16 value)
  | .i32, .int value, bytes | .u32, .int value, bytes =>
      bytes = BigEndian.bytes 4 (toUnsigned 32 value)
  | .i64, .int value, bytes | .u64, .int value, bytes =>
      bytes = BigEndian.bytes 8 (toUnsigned 64 value)
  | .float, .float value, bytes => bytes = BigEndian.bytes 4 value.bits.toNat
  | .double, .double value, bytes => bytes = BigEndian.bytes 8 value.bits.toNat
  | .varint, .int value, bytes => bytes = encodeVarint value
  | .varlong, .int value, bytes => bytes = encodeGroups (toUnsigned 64 value)
  | .string, .bytes (.bytes text), bytes =>
      text.length ≤ int32Max ∧ bytes = encodeVarint text.length ++ text
  | .uuid, .uuid value, bytes => bytes = value.bytes
  | .nbt, .bytes (.bytes document), bytes =>
      (∃ root : NbtRoot false, document = root.encode) ∧ bytes = document
  | _, _, _ => False

namespace Wire

def type : Wire → CType
  | position _ => .mcPosition
  | primitive suffix => suffix.type
  | buffer _ => .mcBytes

def encoderCall : Wire → EncoderCall
  | position protocol => .position protocol
  | primitive .string => .stringN
  | primitive .nbt => .nbt false
  | primitive .uuid => .uuid
  | primitive suffix => .primitive suffix
  | buffer count => .buffer count

def decoderCall : Wire → DecoderCall
  | position protocol => .position protocol
  | primitive .nbt => .nbt false
  | primitive suffix => .primitive suffix
  | buffer count => .buffer count

/-- The bytes of a value that the writer takes. -/
def Writes : Wire → Scalar → List UInt8 → Prop
  | position protocol, .position value, bytes =>
      mcProtocolSupported protocol = true ∧ value.InRange ∧
        bytes = BigEndian.bytes 8 (value.packed protocol)
  | primitive suffix, value, bytes => suffix.Writes value bytes
  | buffer .i32, .bytes value, bytes =>
      value.size ≤ int32Max ∧ ¬ value.Missing ∧
        bytes = BigEndian.bytes 4 (toUnsigned 32 value.size) ++ value.content
  | buffer .varint, .bytes value, bytes =>
      value.size ≤ int32Max ∧ ¬ value.Missing ∧ bytes = encodeVarint value.size ++ value.content
  | _, _, _ => False

/-- The values that the reader returns. -/
structure Readable (wire : Wire) (value : Scalar) : Prop where
  holds : wire.type.Holds value
  read : value.read = value
  short : wire = primitive .string → value.Short

end Wire

theorem emits_nbt (namedRoot : Bool) (value : Buffer) :
    Emits (mcPacketNbt namedRoot (some value)) fun bytes =>
      (∃ root : NbtRoot namedRoot, value = .bytes root.encode) ∧ bytes = value.content := by
  refine ((Emits.buffer value).checked.checked).congr fun bytes => ?_
  rw [whole_document_iff]
  constructor
  · rintro ⟨there, ⟨root, same⟩, -, rfl⟩
    cases value with
    | null size =>
        obtain ⟨type, rest, encoded⟩ := root.encode_cons
        rw [encoded] at same
        exact absurd same (by simp [Buffer.content])
    | bytes content => exact ⟨⟨root, congrArg Buffer.bytes same⟩, rfl⟩
  · rintro ⟨⟨root, rfl⟩, rfl⟩
    exact ⟨id, ⟨root, rfl⟩, id, rfl⟩

theorem emits_suffix (suffix : Suffix) (value : Scalar) :
    Emits ((Wire.primitive suffix).encoderCall.run value) (suffix.Writes value) := by
  cases suffix with
  | bool =>
      cases value with
      | bool value => exact .bool value
      | _ => exact .never
  | i8 =>
      cases value with
      | int value => exact .i8 value
      | _ => exact .never
  | u8 =>
      cases value with
      | int value => exact .u8 (toByte value)
      | _ => exact .never
  | i16 =>
      cases value with
      | int value => exact .i16 value
      | _ => exact .never
  | u16 =>
      cases value with
      | int value => exact .u16 (toUnsigned 16 value)
      | _ => exact .never
  | i32 =>
      cases value with
      | int value => exact .i32 value
      | _ => exact .never
  | u32 =>
      cases value with
      | int value => exact .u32 (toUnsigned 32 value)
      | _ => exact .never
  | i64 =>
      cases value with
      | int value => exact .i64 value
      | _ => exact .never
  | u64 =>
      cases value with
      | int value => exact .u64 (toUnsigned 64 value)
      | _ => exact .never
  | float =>
      cases value with
      | float value => exact .float value
      | _ => exact .never
  | double =>
      cases value with
      | double value => exact .double value
      | _ => exact .never
  | varint =>
      cases value with
      | int value => exact .varint value
      | _ => exact .never
  | varlong =>
      cases value with
      | int value => exact .groups (toUnsigned 64 value)
      | _ => exact .never
  | string =>
      cases value with
      | bytes value =>
          cases value with
          | bytes text => exact .stringN text
          | null size => exact .never
      | _ => exact .never
  | uuid =>
      cases value with
      | uuid value => exact .data value.bytes
      | _ => exact .never
  | nbt =>
      cases value with
      | bytes value =>
          refine (emits_nbt false value).congr fun bytes => ?_
          cases value with
          | null size => simp [Suffix.Writes]
          | bytes document => simp [Suffix.Writes, Buffer.content]
      | _ => exact .never

/-- The writer writes the format. -/
theorem emits_wire (wire : Wire) (value : Scalar) :
    Emits (wire.encoderCall.run value) (wire.Writes value) := by
  cases wire with
  | position protocol =>
      cases value with
      | position value => exact emits_position protocol value
      | _ => exact .never
  | primitive suffix => exact emits_suffix suffix value
  | buffer count =>
      cases value with
      | bytes value =>
          cases count with
          | i32 => exact .sized (.i32 _) value
          | varint => exact .sized (.varint _) value
      | _ => cases count <;> exact .never

section reading

variable {mode : McDecodeMode}

/-- An unsigned word as the value of its C type. -/
theorem accepts_unsigned {program : Prog McReader Nat} {width : Nat} {encode : Nat → List UInt8}
    (accepts : Accepts mode program fun word bytes => word < 2 ^ width ∧ bytes = encode word) :
    Accepts mode ((fun word => Scalar.int (word : Nat)) <$> program) fun value bytes =>
      ∃ word : Int, value = .int word ∧ (0 ≤ word ∧ word < 2 ^ width) ∧
        bytes = encode (toUnsigned width word) :=
  (accepts.map _).congr fun value bytes => by
    have cast : ((2 ^ width : Nat) : Int) = 2 ^ width := by push_cast; rfl
    constructor
    · rintro ⟨word, rfl, small, rfl⟩
      have same : toUnsigned width word = word := by
        rw [toUnsigned, Int.emod_eq_of_lt (by omega) (by omega), Int.toNat_natCast]
      exact ⟨word, rfl, ⟨by omega, by omega⟩, by rw [same]⟩
    · rintro ⟨word, rfl, ⟨natural, small⟩, rfl⟩
      refine ⟨toUnsigned width word, ?_, toUnsigned_lt width word, rfl⟩
      rw [toUnsigned, Int.emod_eq_of_lt natural small, Int.toNat_of_nonneg natural]

theorem accepts_uuid : Accepts mode mcReaderUuid.run fun value bytes => bytes = value.bytes := by
  have last (bytes : List UInt8) (size : bytes.length = 16) :
      Accepts mode (if size : bytes.length = 16 then pure ⟨bytes, size⟩ else .refuse :
        ReadM McUuid).run fun value rest => value.bytes = bytes ∧ rest = [] := by
    rw [dif_pos size]
    refine (Accepts.pure _).congr fun value rest => and_congr_left fun _ => ⟨?_, fun same => ?_⟩
    · rintro rfl
      rfl
    · cases value
      subst same
      rfl
  refine (accepts_refuseFailed.bind fun _ => (accepts_bytes 16).bindWhere
    (fun derived => derived.1) last).congr fun value bytes => ?_
  constructor
  · rintro ⟨_, _, _, rfl, rfl, taken, _, _, rfl, ⟨_, rfl⟩, rfl, rfl⟩
    rw [List.append_nil, List.nil_append]
  · rintro rfl
    exact ⟨(), [], _, rfl, rfl, value.bytes, _, [], (List.append_nil _).symm, ⟨value.size, rfl⟩,
      rfl, rfl⟩

theorem accepts_u8_int : Accepts mode (Suffix.read .u8) fun value bytes =>
    ∃ word, value = .int word ∧ CType.Holds (.unsigned 8) (.int word) ∧ bytes = [toByte word] :=
  (accepts_u8.map _).congr fun value bytes => by
    constructor
    · rintro ⟨byte, rfl, rfl⟩
      have small := byte.toNat_lt
      exact ⟨byte.toNat, rfl, ⟨by omega, by omega⟩, by rw [toByte_toNat]⟩
    · rintro ⟨word, rfl, ⟨natural, small⟩, rfl⟩
      exact ⟨toByte word, by rw [toNat_toByte natural small], rfl⟩

theorem accepts_integer {suffix : Suffix} {program : Prog McReader Scalar}
    {encode : Int → List UInt8}
    (writes : ∀ value bytes, suffix.Writes value bytes ↔
      ∃ word, value = .int word ∧ bytes = encode word)
    (accepts : Accepts .strict program fun value bytes =>
      ∃ word, value = .int word ∧ suffix.type.Holds (.int word) ∧ bytes = encode word) :
    Accepts .strict program fun value bytes =>
      (Wire.primitive suffix).Readable value ∧ suffix.Writes value bytes :=
  accepts.congr fun value bytes => by
    rw [writes]
    constructor
    · rintro ⟨word, rfl, holds, rfl⟩
      exact ⟨⟨holds, rfl, fun _ => trivial⟩, word, rfl, rfl⟩
    · rintro ⟨readable, word, rfl, rfl⟩
      exact ⟨word, rfl, readable.holds, rfl⟩

theorem accepts_suffix (suffix : Suffix) :
    Accepts .strict (Wire.primitive suffix).decoderCall.run fun value bytes =>
      (Wire.primitive suffix).Readable value ∧ suffix.Writes value bytes := by
  have readable (value : Scalar) (holds : suffix.type.Holds value) (read : value.read = value)
      (short : suffix = .string → value.Short) : (Wire.primitive suffix).Readable value :=
    ⟨holds, read, fun same => short (Wire.primitive.inj same)⟩
  cases suffix with
  | bool =>
      refine (accepts_bool.map Scalar.bool).congr fun value bytes => ⟨?_, ?_⟩
      · rintro ⟨bit, rfl, rfl⟩
        exact ⟨readable _ trivial rfl (by rintro ⟨⟩), rfl⟩
      · rintro ⟨good, written⟩
        cases value with
        | bool value => exact ⟨value, rfl, written⟩
        | _ => exact written.elim
  | i8 =>
      refine accepts_integer (fun value bytes => ?_) (accepts_i8.map Scalar.int)
      cases value <;> simp [Suffix.Writes, toByte]
  | u8 =>
      refine accepts_integer (fun value bytes => ?_) accepts_u8_int
      cases value <;> simp [Suffix.Writes]
  | i16 =>
      refine accepts_integer (fun value bytes => ?_) (accepts_i16.map Scalar.int)
      cases value <;> simp [Suffix.Writes]
  | u16 =>
      refine accepts_integer (fun value bytes => ?_) (accepts_unsigned accepts_u16)
      cases value <;> simp [Suffix.Writes]
  | i32 =>
      refine accepts_integer (fun value bytes => ?_) (accepts_i32.map Scalar.int)
      cases value <;> simp [Suffix.Writes]
  | u32 =>
      refine accepts_integer (fun value bytes => ?_) (accepts_unsigned accepts_u32)
      cases value <;> simp [Suffix.Writes]
  | i64 =>
      refine accepts_integer (fun value bytes => ?_) (accepts_i64.map Scalar.int)
      cases value <;> simp [Suffix.Writes]
  | u64 =>
      refine accepts_integer (fun value bytes => ?_) (accepts_unsigned accepts_u64)
      cases value <;> simp [Suffix.Writes]
  | varint =>
      have strict := accepts_varint.congr fun _ _ => isVarint_strict
      refine accepts_integer (fun value bytes => ?_) (strict.map Scalar.int)
      cases value <;> simp [Suffix.Writes]
  | varlong =>
      have strict := accepts_varlong.congr fun _ _ => isVarlong_strict
      refine accepts_integer (fun value bytes => ?_) (strict.map Scalar.int)
      cases value <;> simp [Suffix.Writes]
  | float =>
      refine (accepts_float.map Scalar.float).congr fun value bytes => ⟨?_, ?_⟩
      · rintro ⟨value, rfl, rfl⟩
        exact ⟨readable _ trivial rfl (by rintro ⟨⟩), rfl⟩
      · rintro ⟨good, written⟩
        cases value with
        | float value => exact ⟨value, rfl, written⟩
        | _ => exact written.elim
  | double =>
      refine (accepts_double.map Scalar.double).congr fun value bytes => ⟨?_, ?_⟩
      · rintro ⟨value, rfl, rfl⟩
        exact ⟨readable _ trivial rfl (by rintro ⟨⟩), rfl⟩
      · rintro ⟨good, written⟩
        cases value with
        | double value => exact ⟨value, rfl, written⟩
        | _ => exact written.elim
  | string =>
      refine (accepts_string.map fun text => Scalar.bytes (.bytes text)).congr
        fun value bytes => ⟨?_, ?_⟩
      · rintro ⟨text, rfl, short, size, isVarint, rfl⟩
        have fits : text.length ≤ int32Max := short.trans (by decide)
        exact ⟨readable _ trivial rfl fun _ => short, fits, by rw [isVarint.strict]⟩
      · rintro ⟨good, written⟩
        cases value with
        | bytes value =>
            cases value with
            | bytes text =>
                obtain ⟨fits, rfl⟩ := written
                simp only [int32Max] at fits
                exact ⟨text, rfl, good.short rfl, _, isVarint_encode ⟨by omega, by omega⟩, rfl⟩
            | null size => exact written.elim
        | _ => exact written.elim
  | uuid =>
      refine (accepts_uuid.map Scalar.uuid).congr fun value bytes => ⟨?_, ?_⟩
      · rintro ⟨value, rfl, rfl⟩
        exact ⟨readable _ trivial rfl (by rintro ⟨⟩), rfl⟩
      · rintro ⟨good, written⟩
        cases value with
        | uuid value => exact ⟨value, rfl, written⟩
        | _ => exact written.elim
  | nbt =>
      refine ((accepts_nbt false).map fun slice => Scalar.bytes (.bytes slice)).congr
        fun value bytes => ⟨?_, ?_⟩
      · rintro ⟨slice, rfl, rfl, root, rfl⟩
        exact ⟨readable _ trivial rfl (by rintro ⟨⟩), ⟨root, rfl⟩, rfl⟩
      · rintro ⟨good, written⟩
        cases value with
        | bytes value =>
            cases value with
            | bytes document =>
                obtain ⟨⟨root, rfl⟩, rfl⟩ := written
                exact ⟨_, rfl, rfl, root, rfl⟩
            | null size => exact written.elim
        | _ => exact written.elim

/-- The reader reads the format. -/
theorem accepts_wire (wire : Wire) :
    Accepts .strict wire.decoderCall.run fun value bytes =>
      wire.Readable value ∧ wire.Writes value bytes := by
  cases wire with
  | position protocol =>
      refine ((accepts_position .strict protocol).map Scalar.position).congr
        fun value bytes => ⟨?_, ?_⟩
      · rintro ⟨value, rfl, written⟩
        exact ⟨⟨trivial, rfl, nofun⟩, written⟩
      · rintro ⟨good, written⟩
        cases value with
        | position value => exact ⟨value, rfl, written⟩
        | _ => exact written.elim
  | primitive suffix => exact accepts_suffix suffix
  | buffer count =>
      cases count with
      | i32 =>
          refine (accepts_bufferI32.map fun data => Scalar.bytes (.bytes data)).congr
            fun value bytes => ⟨?_, ?_⟩
          · rintro ⟨data, rfl, fits, rfl⟩
            exact ⟨⟨trivial, rfl, nofun⟩, fits, id, rfl⟩
          · rintro ⟨good, written⟩
            cases value with
            | bytes value =>
                cases value with
                | bytes data => exact ⟨data, rfl, written.1, written.2.2⟩
                | null size => exact nomatch good.read
            | _ => exact written.elim
      | varint =>
          refine (accepts_bufferVarint.map fun data => Scalar.bytes (.bytes data)).congr
            fun value bytes => ⟨?_, ?_⟩
          · rintro ⟨data, rfl, fits, rfl⟩
            exact ⟨⟨trivial, rfl, nofun⟩, fits, id, rfl⟩
          · rintro ⟨good, written⟩
            cases value with
            | bytes value =>
                cases value with
                | bytes data => exact ⟨data, rfl, written.1, written.2.2⟩
                | null size => exact nomatch good.read
            | _ => exact written.elim

/-- What a writer takes, its reader reads back. -/
theorem Wire.Writes.readBack {wire : Wire} {value : Scalar} {bytes : List UInt8}
    (written : wire.Writes value bytes) (holds : wire.type.Holds value)
    (short : wire = .primitive .string → value.Short) :
    wire.Readable value.read ∧ wire.Writes value.read bytes := by
  cases value with
  | bytes value =>
      cases value with
      | bytes content => exact ⟨⟨holds, rfl, short⟩, written⟩
      | null size =>
          -- only the buffers take a null pointer, and only an empty one
          cases wire with
          | position protocol => exact written.elim
          | primitive suffix => cases suffix <;> exact written.elim
          | buffer count =>
              refine ⟨⟨trivial, rfl, nofun⟩, ?_⟩
              cases count with
              | i32 =>
                  obtain ⟨fits, there, rfl⟩ := written
                  obtain rfl : size = 0 := not_not.mp there
                  exact ⟨fits, id, rfl⟩
              | varint =>
                  obtain ⟨fits, there, rfl⟩ := written
                  obtain rfl : size = 0 := not_not.mp there
                  exact ⟨fits, id, rfl⟩
  | _ => exact ⟨⟨holds, rfl, short⟩, written⟩

end reading

end McProtocol
