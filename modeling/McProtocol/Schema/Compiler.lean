import Mathlib.Data.List.Basic

/-! # The packet schema compiler

`tools/schema_compiler.py` turns the schema of a packet into the struct that holds it and
into the bodies of an encoder and of a decoder. One traversal, `codec`, emits both bodies. -/

namespace McProtocol

/-- A node of the schema document. What no method of the compiler looks into keeps only
the kind that an error names. -/
inductive Schema where
  | name (name : String)
  | mapper (type : Schema)
  | bitflags (type : Schema)
  | buffer (countType : Schema)
  | container (fields : List (String × Schema))
  | other (kind : String)

namespace Schema

/-- `schema[0]`. -/
def kind : Schema → String
  | .name word => word
  | .mapper _ => "mapper"
  | .bitflags _ => "bitflags"
  | .buffer _ => "buffer"
  | .container _ => "container"
  | .other shown => shown

/-- `schema == "position"`. -/
def isPosition : Schema → Bool
  | .name word => word = "position"
  | _ => false

end Schema

/-- What the compiler raises. Python itself gives up where containers nest without end. -/
inductive CompileError where
  | recursiveAlias (name : String)
  | unknownType (name : String)
  | unsupportedScalar (name : String)
  | unsupportedCount (countType : Schema)
  | unsupportedNode (kind : String) (expression : List String)
  | recursionLimit

def isLowerOrDigit (char : Char) : Bool := char.isLower || char.isDigit

/-- `([a-z0-9])([A-Z])` to `\1_\2`. -/
def separateWords : List Char → List Char
  | first :: second :: rest =>
      if isLowerOrDigit first && second.isUpper then first :: '_' :: separateWords (second :: rest)
      else first :: separateWords (second :: rest)
  | chars => chars

/-- `[^A-Za-z0-9]+` to `_`, then without the `_` at either end. -/
def joinWords (chars : List Char) : List Char :=
  ['_'].intercalate ((chars.splitOnP fun char => !char.isAlphanum).filter (· ≠ []))

def cName (value : String) : String :=
  let chars := (joinWords (separateWords value.toList)).map Char.toLower
  let numbered := match chars with
    | [] => true
    | first :: _ => first.isDigit
  .ofList (if numbered then "field_".toList ++ chars else chars)

/-- The C types of the fields that are no structs: the integer types by sign and width. -/
inductive CType where
  | bool
  | signed (width : Nat)
  | unsigned (width : Nat)
  | float
  | double
  | mcBytes
  | mcUuid
  | mcPosition
  deriving Repr, DecidableEq

/-- What follows `mc_packet_` and `mc_reader_`. -/
inductive Suffix where
  | bool | i8 | u8 | i16 | u16 | i32 | u32 | i64 | u64 | float | double | varint | varlong
  | string | uuid | nbt
  deriving Repr, DecidableEq

/-- `PRIMITIVES`. -/
def primitives : List (String × CType × Suffix) := [
  ("bool", .bool, .bool),
  ("i8", .signed 8, .i8),
  ("u8", .unsigned 8, .u8),
  ("i16", .signed 16, .i16),
  ("u16", .unsigned 16, .u16),
  ("i32", .signed 32, .i32),
  ("u32", .unsigned 32, .u32),
  ("i64", .signed 64, .i64),
  ("u64", .unsigned 64, .u64),
  ("f32", .float, .float),
  ("f64", .double, .double),
  ("varint", .signed 32, .varint),
  ("varlong", .signed 64, .varlong),
  ("string", .mcBytes, .string),
  ("UUID", .mcUuid, .uuid),
  ("uuid", .mcUuid, .uuid),
  ("anonymousNbt", .mcBytes, .nbt),
  ("anonOptionalNbt", .mcBytes, .nbt)]

abbrev Types := List (String × Schema)

/-- `document["types"]` and the protocol. -/
structure Compiler where
  types : Types
  protocol : Int

/-- `types` are those of the direction of the packet. -/
structure Scope extends Compiler where
  directionTypes : Types

namespace Scope

variable (scope : Scope)

def lookup (name : String) : Option Schema :=
  (scope.directionTypes ++ scope.types).lookup name

/-- The names that have not been followed yet. -/
def unseen (seen : List String) : List (String × Schema) :=
  (scope.directionTypes ++ scope.types).filter fun entry => entry.1 ∉ seen

theorem unseen_lt {seen : List String} {name : String} {schema : Schema}
    (found : scope.lookup name = some schema) (fresh : name ∉ seen) :
    (scope.unseen (name :: seen)).length < (scope.unseen seen).length := by
  have member : (name, schema) ∈ scope.directionTypes ++ scope.types := by
    obtain ⟨before, after, split, -⟩ := List.lookup_eq_some_iff.mp found
    rw [split]
    exact List.mem_append_right _ List.mem_cons_self
  have narrower : scope.unseen (name :: seen) =
      (scope.unseen seen).filter fun entry => entry.1 ≠ name := by
    rw [unseen, unseen, List.filter_filter]
    congr 1
    funext entry
    by_cases same : entry.1 = name <;> simp [same]
  rw [narrower]
  refine List.length_filter_lt_length_iff_exists.mpr ⟨(name, schema), ?_, by simp⟩
  exact List.mem_filter.mpr ⟨member, by simpa using fresh⟩

/-- `resolve` with the aliases it has seen. -/
def resolveFrom (seen : List String) : Schema → Except CompileError Schema
  | .name name =>
      if (primitives.lookup name).isSome ∨ name = "position" ∨ name = "void" then
        .ok (.name name)
      else if _fresh : name ∉ seen then
        match _found : scope.lookup name with
        | some schema => resolveFrom (name :: seen) schema
        | none => .error (.unknownType name)
      else .error (.recursiveAlias name)
  | .mapper type => resolveFrom seen type
  | .bitflags type => resolveFrom seen type
  | schema => .ok schema
termination_by schema => ((scope.unseen seen).length, sizeOf schema)
decreasing_by
  · exact Prod.Lex.left _ _ (scope.unseen_lt _found _fresh)
  · exact Prod.Lex.right _ (by simp)
  · exact Prod.Lex.right _ (by simp)

def resolve (schema : Schema) : Except CompileError Schema := scope.resolveFrom [] schema

end Scope

inductive BufferCount where
  | i32
  | varint
  deriving Repr, DecidableEq

/-- The count of a buffer; none where the schema is no buffer. -/
def Scope.bufferSuffix (scope : Scope) (schema : Schema) :
    Except CompileError (Option BufferCount) := do
  match ← scope.resolve schema with
  | .buffer countType =>
      match ← scope.resolve countType with
      | .name "i32" => pure (some .i32)
      | .name "varint" => pure (some .varint)
      | resolved => throw (.unsupportedCount resolved)
  | _ => pure none

/-- What `declaration` and `codec` tell apart. -/
inductive Node where
  | position
  | primitive (type : CType) (suffix : Suffix)
  | buffer (count : BufferCount)
  | container (fields : List (String × Schema))
  | unsupported (kind : String)

/-- The tests that `declaration` and `codec` share, in their order. -/
def Scope.node (scope : Scope) (schema : Schema) : Except CompileError Node :=
  if schema.isPosition then pure .position
  else do
    match ← scope.resolve schema with
    | .name scalar =>
        match primitives.lookup scalar with
        | some (type, suffix) => pure (.primitive type suffix)
        | none => throw (.unsupportedScalar scalar)
    | schema =>
        match ← scope.bufferSuffix schema with
        | some count => pure (.buffer count)
        | none =>
            match schema with
            | .container fields => pure (.container fields)
            | schema => pure (.unsupported schema.kind)

/-- A member of the struct of a packet. -/
inductive Declaration where
  | scalar (type : CType) (name : String)
  | struct (members : List Declaration) (name : String)

def Declaration.name : Declaration → String
  | .scalar _ name => name
  | .struct _ name => name

/-- `limit` is the recursion Python still allows. -/
def Scope.declaration (scope : Scope) :
    Nat → Schema → String → Except CompileError Declaration
  | 0, _, _ => throw .recursionLimit
  | limit + 1, schema, name => do
      match ← scope.node schema with
      | .position => pure (.scalar .mcPosition name)
      | .primitive type _ => pure (.scalar type name)
      | .buffer _ => pure (.scalar .mcBytes name)
      | .container fields => do
          let members ← fields.mapM fun field =>
            scope.declaration limit field.2 (cName field.1)
          pure (.struct members name)
      | .unsupported kind => throw (.unsupportedNode kind [name])

/-- The calls of an encoder, by the way they pass the field. -/
inductive EncoderCall where
  | position (protocol : Int)
  | stringN
  | nbt (namedRoot : Bool)
  | uuid
  | primitive (suffix : Suffix)
  | buffer (count : BufferCount)
  deriving Repr, DecidableEq

/-- The calls of a decoder. -/
inductive DecoderCall where
  | position (protocol : Int)
  | nbt (namedRoot : Bool)
  | primitive (suffix : Suffix)
  | buffer (count : BufferCount)
  deriving Repr, DecidableEq

/-- `if (!mc_packet_…(packet, value->…)) return false;` and its counterpart, with the
path behind `value->`. -/
inductive Statement where
  | packet (call : EncoderCall) (expression : List String)
  | reader (call : DecoderCall) (expression : List String)
  deriving Repr, DecidableEq

/-- What `codec` emits for a field of a primitive type. -/
def primitiveStatement (encode : Bool) (suffix : Suffix) (expression : List String) : Statement :=
  if encode then
    match suffix with
    | .string => .packet .stringN expression
    | .nbt => .packet (.nbt false) expression
    | .uuid => .packet .uuid expression
    | suffix => .packet (.primitive suffix) expression
  else
    match suffix with
    | .nbt => .reader (.nbt false) expression
    | suffix => .reader (.primitive suffix) expression

namespace Scope

variable (scope : Scope)

def codec (encode : Bool) : Nat → Schema → List String → Except CompileError (List Statement)
  | 0, _, _ => throw .recursionLimit
  | limit + 1, schema, expression => do
      match ← scope.node schema with
      | .position =>
          if encode then pure [.packet (.position scope.protocol) expression]
          else pure [.reader (.position scope.protocol) expression]
      | .primitive _ suffix => pure [primitiveStatement encode suffix expression]
      | .buffer count =>
          if encode then pure [.packet (.buffer count) expression]
          else pure [.reader (.buffer count) expression]
      | .container fields => do
          let bodies ← fields.mapM fun field =>
            codec encode limit field.2 (expression ++ [cName field.1])
          pure bodies.flatten
      | .unsupported kind => throw (.unsupportedNode kind expression)

/-- The members of the struct that `generate` declares for the fields of a packet. -/
def packetMembers (limit : Nat) (fields : List (String × Schema)) :
    Except CompileError (List Declaration) :=
  fields.mapM fun field => scope.declaration limit field.2 (cName field.1)

/-- The body of the encoder or of the decoder that `generate` emits for a packet. -/
def packetCodec (encode : Bool) (limit : Nat) (fields : List (String × Schema)) :
    Except CompileError (List Statement) := do
  let bodies ← fields.mapM fun field => scope.codec encode limit field.2 [cName field.1]
  pure bodies.flatten

end Scope

end McProtocol
