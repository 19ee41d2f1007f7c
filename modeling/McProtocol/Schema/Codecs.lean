import McProtocol.Schema.Wire

/-! # Generated codecs

The bodies that the schema compiler emits, run as the sequences of calls they are. Both
bodies list the leaves of the schema in one order, so an encoder and a decoder of one schema
undo each other leaf by leaf. -/

namespace McProtocol

/-- The struct behind `value->`: what is stored under each path. -/
abbrev Object := List String → Scalar

def runEncoder : List Statement → Object → WriteM Unit
  | [], _ => pure ()
  | .packet call expression :: rest, object => do
      call.run (object expression)
      runEncoder rest object
  | .reader _ _ :: _, _ => refuseWhen True

/-- `return !packet->failed;` -/
def refuseFailedPacket : WriteM Unit :=
  ⟨.check (fun packet => packet.failed = true) id,
    .check (fun _ inside => inside) (fun packet _ => McPacket.discipline.step_refl packet)
      fun _ _ _ _ below => below.elim⟩

/-- The encoder that `generate` emits. -/
def encodeGenerated (body : List Statement) (object : Object) : WriteM Unit := do
  runEncoder body object
  refuseFailedPacket

def runDecoder : List Statement → Object → Prog McReader Object
  | [], object => pure object
  | .reader call expression :: rest, object => do
      let value ← call.run
      runDecoder rest (Function.update object expression value)
  | .packet _ _ :: _, _ => .refuse

/-- The decoder that `generate` emits: `return mc_reader_remaining(reader) == 0U;`. -/
def decodeGenerated (body : List Statement) (object : Object) : Prog McReader Object := do
  let value ← runDecoder body object
  Prog.check (fun reader => mcReaderRemaining reader ≠ 0) id
  pure value

/-- A field that is no struct, under its path. -/
structure Leaf where
  expression : List String
  wire : Wire

def Leaf.statement (encode : Bool) (leaf : Leaf) : Statement :=
  if encode then .packet leaf.wire.encoderCall leaf.expression
  else .reader leaf.wire.decoderCall leaf.expression

namespace Scope

variable (scope : Scope)

/-- The traversal of `codec`, without the direction. -/
def leaves : Nat → Schema → List String → Except CompileError (List Leaf)
  | 0, _, _ => throw .recursionLimit
  | limit + 1, schema, expression => do
      match ← scope.node schema with
      | .position => pure [⟨expression, .position scope.protocol⟩]
      | .primitive _ suffix => pure [⟨expression, .primitive suffix⟩]
      | .buffer count => pure [⟨expression, .buffer count⟩]
      | .container fields => do
          let parts ← fields.mapM fun field =>
            leaves limit field.2 (expression ++ [cName field.1])
          pure parts.flatten
      | .unsupported kind => throw (.unsupportedNode kind expression)

variable {scope}

theorem mapM_map {α β γ : Type} {f : α → Except CompileError β} {g : α → Except CompileError γ}
    {h : β → γ} (same : ∀ a, g a = h <$> f a) (items : List α) :
    items.mapM g = List.map h <$> items.mapM f := by
  induction items with
  | nil => rfl
  | cons item rest ih =>
      rw [List.mapM_cons, List.mapM_cons, ih, same]
      cases f item with
      | error error => rfl
      | ok b => cases rest.mapM f <;> rfl

/-- Emitting part by part emits the parts. -/
theorem flatten_mapM_map {α β γ : Type} {f : α → Except CompileError (List β)}
    {g : α → Except CompileError (List γ)} {h : β → γ} (same : ∀ a, g a = List.map h <$> f a)
    (items : List α) :
    (do let parts ← items.mapM g; pure parts.flatten) =
      List.map h <$> (do let parts ← items.mapM f; pure parts.flatten) := by
  rw [mapM_map same items]
  cases items.mapM f with
  | error error => rfl
  | ok parts => exact congrArg Except.ok (List.map_flatten ..).symm

theorem codec_eq (encode : Bool) (limit : Nat) (schema : Schema) (expression : List String) :
    scope.codec encode limit schema expression =
      List.map (Leaf.statement encode) <$> scope.leaves limit schema expression := by
  induction limit generalizing schema expression with
  | zero => rfl
  | succ limit ih =>
      rw [codec, leaves]
      cases scope.node schema with
      | error error => rfl
      | ok node =>
          cases node with
          | position => cases encode <;> rfl
          | primitive type suffix => cases encode <;> cases suffix <;> rfl
          | buffer count => cases encode <;> rfl
          | container fields =>
              exact flatten_mapM_map (fun field => ih field.2 (expression ++ [cName field.1])) fields
          | unsupported kind => rfl

/-- The leaves of the fields of a packet. -/
def packetLeaves (scope : Scope) (limit : Nat) (fields : List (String × Schema)) :
    Except CompileError (List Leaf) := do
  let parts ← fields.mapM fun field => scope.leaves limit field.2 [cName field.1]
  pure parts.flatten

theorem packetCodec_eq (encode : Bool) (limit : Nat) (fields : List (String × Schema)) :
    scope.packetCodec encode limit fields =
      List.map (Leaf.statement encode) <$> scope.packetLeaves limit fields :=
  flatten_mapM_map (fun (field : String × Schema) => codec_eq encode limit field.2 [cName field.1])
    fields

/-- One traversal lies behind both bodies. -/
theorem packetCodec_ok {encode : Bool} {limit : Nat} {fields : List (String × Schema)}
    {body : List Statement} (emitted : scope.packetCodec encode limit fields = .ok body) :
    ∃ leaves, scope.packetLeaves limit fields = .ok leaves ∧
      body = leaves.map (Leaf.statement encode) := by
  rw [packetCodec_eq] at emitted
  cases traversed : scope.packetLeaves limit fields with
  | error error =>
      rw [traversed] at emitted
      exact nomatch emitted
  | ok leaves =>
      rw [traversed] at emitted
      exact ⟨leaves, rfl, (Except.ok.inj emitted).symm⟩

theorem node_name {name : String} {type : CType} {suffix : Suffix}
    (listed : primitives.lookup name = some (type, suffix)) (other : name ≠ "position") :
    scope.node (.name name) = .ok (.primitive type suffix) := by
  have resolved : scope.resolve (.name name) = .ok (.name name) := by
    rw [resolve, resolveFrom, if_pos (.inl (by rw [listed]; rfl))]
  have scalar : ¬ (Schema.name name).isPosition = true := by
    simpa [Schema.isPosition] using other
  rw [node, if_neg scalar, resolved]
  dsimp only [bind, Except.bind]
  rw [listed]
  rfl

end Scope

mutual

/-- The fields below a member, with their C types. -/
def Declaration.fields (path : List String) : Declaration → List (List String × CType)
  | .scalar type name => [(path ++ [name], type)]
  | .struct members name => membersFields (path ++ [name]) members

def membersFields (path : List String) : List Declaration → List (List String × CType)
  | [] => []
  | member :: rest => member.fields path ++ membersFields path rest

end

/-- No two members of one struct share a name. -/
inductive Declaration.Distinct : Declaration → Prop where
  | scalar (type : CType) (name : String) : Distinct (.scalar type name)
  | struct {members : List Declaration} (name : String) :
      (members.map Declaration.name).Nodup → (∀ member ∈ members, Distinct member) →
      Distinct (.struct members name)

/-- The members of a packet do not clash, nor those of a struct in it. -/
structure DistinctMembers (members : List Declaration) : Prop where
  names : (members.map Declaration.name).Nodup
  each : ∀ member ∈ members, member.Distinct

/-- The object is one of the declared struct. -/
def Declared (members : List Declaration) (object : Object) : Prop :=
  ∀ field ∈ membersFields [] members, field.2.Holds (object field.1)

theorem membersFields_distinct {members : List Declaration} (path : List String)
    (names : (members.map Declaration.name).Nodup)
    (each : ∀ member ∈ members, ((member.fields path).map Prod.fst).Nodup ∧
      ∀ field ∈ member.fields path, path ++ [member.name] <+: field.1) :
    ((membersFields path members).map Prod.fst).Nodup ∧
      ∀ field ∈ membersFields path members, ∃ member ∈ members,
        path ++ [member.name] <+: field.1 := by
  induction members with
  | nil => exact ⟨by simp [membersFields], by simp [membersFields]⟩
  | cons member rest ih =>
      rw [List.map_cons, List.nodup_cons] at names
      obtain ⟨first, others⟩ := List.forall_mem_cons.mp each
      obtain ⟨nodup, inside⟩ := ih names.2 others
      rw [membersFields]
      constructor
      · rw [List.map_append, List.nodup_append]
        refine ⟨first.1, nodup, ?_⟩
        rintro expression here _ there rfl
        obtain ⟨field, mem, rfl⟩ := List.mem_map.mp here
        obtain ⟨other, mem', same⟩ := List.mem_map.mp there
        obtain ⟨sibling, listed, below⟩ := inside other mem'
        obtain ⟨end₁, above⟩ := first.2 field mem
        obtain ⟨end₂, below⟩ := below
        have clash : path ++ [member.name] ++ end₁ = path ++ [sibling.name] ++ end₂ := by
          rw [above, below, same]
        simp only [List.append_assoc, List.append_cancel_left_eq, List.cons_append,
          List.nil_append, List.cons.injEq] at clash
        exact names.1 (clash.1 ▸ List.mem_map_of_mem listed)
      · intro field mem
        rcases List.mem_append.mp mem with here | there
        · exact ⟨member, List.mem_cons_self, first.2 field here⟩
        · obtain ⟨sibling, listed, below⟩ := inside field there
          exact ⟨sibling, List.mem_cons_of_mem _ listed, below⟩

theorem Declaration.Distinct.fields {member : Declaration} (distinct : member.Distinct)
    (path : List String) :
    ((member.fields path).map Prod.fst).Nodup ∧
      ∀ field ∈ member.fields path, path ++ [member.name] <+: field.1 := by
  induction distinct generalizing path with
  | scalar type name => simp [Declaration.fields, Declaration.name]
  | @struct members name names each ih =>
      have below := membersFields_distinct (path ++ [name]) names
        fun member mem => ih member mem (path ++ [name])
      refine ⟨below.1, fun field mem => ?_⟩
      obtain ⟨inner, -, inside⟩ := below.2 field mem
      exact (List.prefix_append _ _).trans inside

/-- The paths of distinct members are distinct. -/
theorem DistinctMembers.nodup {members : List Declaration} (distinct : DistinctMembers members) :
    ((membersFields [] members).map Prod.fst).Nodup :=
  (membersFields_distinct [] distinct.names fun member mem => (distinct.each member mem).fields []).1

namespace Scope

variable {scope : Scope}

/-- `PRIMITIVES` gives each type the values its suffix takes. -/
theorem primitives_type : ∀ entry ∈ primitives, entry.2.1 = entry.2.2.type := by decide

theorem node_primitive {schema : Schema} {type : CType} {suffix : Suffix}
    (found : scope.node schema = .ok (.primitive type suffix)) : type = suffix.type := by
  have looked {name : String} (listed : primitives.lookup name = some (type, suffix)) :
      type = suffix.type := by
    obtain ⟨before, after, split, -⟩ := List.lookup_eq_some_iff.mp listed
    exact primitives_type (name, type, suffix) (split ▸ List.mem_append_right _ List.mem_cons_self)
  have others {schema : Schema} {rest : Option BufferCount → Except CompileError Node}
      (run : scope.bufferSuffix schema >>= rest = .ok (.primitive type suffix))
      (never : ∀ count, rest count ≠ .ok (.primitive type suffix)) : type = suffix.type := by
    cases suffixed : scope.bufferSuffix schema with
    | error error =>
        rw [suffixed] at run
        cases run
    | ok count =>
        rw [suffixed] at run
        exact absurd run (never count)
  rw [node] at found
  by_cases position : schema.isPosition = true
  · rw [if_pos position] at found
    cases found
  · rw [if_neg position] at found
    cases resolved : scope.resolve schema with
    | error error =>
        rw [resolved] at found
        cases found
    | ok schema =>
        rw [resolved] at found
        dsimp only [bind, Except.bind] at found
        cases schema with
        | name scalar =>
            dsimp only at found
            cases listed : primitives.lookup scalar with
            | none =>
                rw [listed] at found
                cases found
            | some entry =>
                rw [listed] at found
                cases found
                exact looked listed
        | mapper type => exact others found (by rintro (_ | _) ⟨⟩)
        | bitflags type => exact others found (by rintro (_ | _) ⟨⟩)
        | buffer countType => exact others found (by rintro (_ | _) ⟨⟩)
        | container fields => exact others found (by rintro (_ | _) ⟨⟩)
        | other shown => exact others found (by rintro (_ | _) ⟨⟩)

theorem members_of_leaves {limit : Nat} (path : List String)
    (each : ∀ {schema : Schema} {name : String} {leaves : List Leaf},
      scope.leaves limit schema (path ++ [name]) = .ok leaves →
        ∃ member, scope.declaration limit schema name = .ok member ∧ member.name = name ∧
          member.fields path = leaves.map fun leaf => (leaf.expression, leaf.wire.type))
    {fields : List (String × Schema)} {parts : List (List Leaf)}
    (traversed : (fields.mapM fun field => scope.leaves limit field.2 (path ++ [cName field.1])) =
      .ok parts) :
    ∃ members, (fields.mapM fun field => scope.declaration limit field.2 (cName field.1)) =
        .ok members ∧
      membersFields path members =
        parts.flatten.map fun leaf => (leaf.expression, leaf.wire.type) := by
  induction fields generalizing parts with
  | nil =>
      obtain rfl := Except.ok.inj traversed
      exact ⟨[], rfl, rfl⟩
  | cons field rest ih =>
      rw [List.mapM_cons] at traversed
      cases first : scope.leaves limit field.2 (path ++ [cName field.1]) with
      | error error =>
          rw [first] at traversed
          exact nomatch traversed
      | ok leaves =>
          rw [first] at traversed
          cases others : rest.mapM fun field =>
            scope.leaves limit field.2 (path ++ [cName field.1]) with
          | error error =>
              rw [others] at traversed
              exact nomatch traversed
          | ok parts =>
              rw [others] at traversed
              obtain rfl := Except.ok.inj traversed
              obtain ⟨member, declared, -, sameFirst⟩ := each first
              obtain ⟨members, declaredRest, sameRest⟩ := ih others
              refine ⟨member :: members, ?_, ?_⟩
              · rw [List.mapM_cons, declared, declaredRest]
                rfl
              · rw [membersFields, sameFirst, sameRest, List.flatten_cons, List.map_append]

/-- What has leaves is declared, and its leaves are the fields of the declaration. -/
theorem declaration_of_leaves {limit : Nat} {schema : Schema} {path : List String} {name : String}
    {leaves : List Leaf} (traversed : scope.leaves limit schema (path ++ [name]) = .ok leaves) :
    ∃ member, scope.declaration limit schema name = .ok member ∧ member.name = name ∧
      member.fields path = leaves.map fun leaf => (leaf.expression, leaf.wire.type) := by
  induction limit generalizing schema path name leaves with
  | zero => exact nomatch traversed
  | succ limit ih =>
      rw [Scope.leaves] at traversed
      rw [declaration]
      cases found : scope.node schema with
      | error error =>
          rw [found] at traversed
          exact nomatch traversed
      | ok node =>
          rw [found] at traversed
          cases node with
          | position =>
              obtain rfl := Except.ok.inj traversed
              exact ⟨_, rfl, rfl, rfl⟩
          | primitive type suffix =>
              obtain rfl := Except.ok.inj traversed
              obtain rfl := node_primitive found
              exact ⟨_, rfl, rfl, rfl⟩
          | buffer count =>
              obtain rfl := Except.ok.inj traversed
              exact ⟨_, rfl, rfl, rfl⟩
          | container fields =>
              have parts : (do
                  let parts ← fields.mapM fun field =>
                    scope.leaves limit field.2 (path ++ [name] ++ [cName field.1])
                  pure parts.flatten) = Except.ok leaves := traversed
              cases parted : (fields.mapM fun field =>
                  scope.leaves limit field.2 (path ++ [name] ++ [cName field.1])) with
              | error error =>
                  rw [parted] at parts
                  exact nomatch parts
              | ok found =>
                  rw [parted] at parts
                  obtain rfl := Except.ok.inj parts
                  obtain ⟨members, declared, same⟩ := members_of_leaves _ ih parted
                  have struct : (do
                      let members ← fields.mapM fun field =>
                        scope.declaration limit field.2 (cName field.1)
                      pure (.struct members name)) = Except.ok (Declaration.struct members name) := by
                    rw [declared]
                    rfl
                  exact ⟨.struct members name, struct, rfl, same⟩
          | unsupported kind => exact nomatch traversed

theorem packetMembers_of_leaves {limit : Nat} {fields : List (String × Schema)}
    {leaves : List Leaf} (traversed : scope.packetLeaves limit fields = .ok leaves) :
    ∃ members, scope.packetMembers limit fields = .ok members ∧
      membersFields [] members = leaves.map fun leaf => (leaf.expression, leaf.wire.type) := by
  rw [packetLeaves] at traversed
  cases parted : fields.mapM fun field => scope.leaves limit field.2 [cName field.1] with
  | error error =>
      rw [parted] at traversed
      exact nomatch traversed
  | ok parts =>
      rw [parted] at traversed
      obtain rfl := Except.ok.inj traversed
      exact members_of_leaves [] declaration_of_leaves parted

end Scope

/-- The bytes of the leaves, one after the other. -/
def WrittenLeaves : List Leaf → Object → List UInt8 → Prop
  | [], _, bytes => bytes = []
  | leaf :: rest, object, bytes => ∃ head tail, bytes = head ++ tail ∧
      leaf.wire.Writes (object leaf.expression) head ∧ WrittenLeaves rest object tail

/-- Reading the bytes stores the leaves in the first object and leaves the second. -/
def LoadedLeaves : List Leaf → Object → Object → List UInt8 → Prop
  | [], object, after, bytes => after = object ∧ bytes = []
  | leaf :: rest, object, after, bytes => ∃ value head tail, bytes = head ++ tail ∧
      (leaf.wire.Readable value ∧ leaf.wire.Writes value head) ∧
      LoadedLeaves rest (Function.update object leaf.expression value) after tail

theorem emits_runEncoder (leaves : List Leaf) (object : Object) :
    Emits (runEncoder (leaves.map (Leaf.statement true)) object) (WrittenLeaves leaves object) := by
  induction leaves with
  | nil => exact .pure
  | cons leaf rest ih => exact .bind (emits_wire leaf.wire (object leaf.expression)) ih

theorem emits_refuseFailedPacket : Emits refuseFailedPacket (· = []) where
  complete := by
    rintro _ rfl packet fits
    have clean : ¬ packet.failed = true := by simp [fits.clean]
    have passed : refuseFailedPacket.run packet = (some (), packet) := if_neg clean
    rw [passed, McPacket.append_nil fits.room]
  sound := by
    intro packet after inside run
    have checked : Prog.check (fun packet : McPacket => packet.failed = true) id packet =
        (some (), after) := run
    obtain ⟨-, rfl⟩ := Prog.check_eq_some checked
    exact ⟨[], rfl, by simpa using inside, (McPacket.append_nil inside).symm⟩

theorem emits_encodeGenerated (leaves : List Leaf) (object : Object) :
    Emits (encodeGenerated (leaves.map (Leaf.statement true)) object) (WrittenLeaves leaves object) :=
  (Emits.bind (emits_runEncoder leaves object) emits_refuseFailedPacket).congr fun bytes => by
    constructor
    · rintro ⟨_, _, rfl, written, rfl⟩
      rwa [List.append_nil]
    · exact fun written => ⟨bytes, [], (List.append_nil bytes).symm, written, rfl⟩

theorem accepts_runDecoder (leaves : List Leaf) (object : Object) :
    Accepts .strict (runDecoder (leaves.map (Leaf.statement false)) object)
      (LoadedLeaves leaves object) := by
  induction leaves generalizing object with
  | nil => exact .pure object
  | cons leaf rest ih =>
      exact .bind (accepts_wire leaf.wire) fun value => ih (Function.update object _ value)

/-- A decoder stores its own leaves only. -/
theorem LoadedLeaves.frame {leaves : List Leaf} {object after : Object} {bytes : List UInt8}
    {expression : List String} (loaded : LoadedLeaves leaves object after bytes)
    (other : expression ∉ leaves.map Leaf.expression) : after expression = object expression := by
  induction leaves generalizing object bytes with
  | nil => exact congrFun loaded.1 expression
  | cons leaf rest ih =>
      obtain ⟨value, head, tail, -, -, loaded⟩ := loaded
      rw [List.map_cons, List.mem_cons, not_or] at other
      rw [ih loaded other.2, Function.update_of_ne other.1]

/-- What was written is loaded, leaf by leaf. -/
theorem WrittenLeaves.loaded {leaves : List Leaf} {value : Object} {bytes : List UInt8}
    (written : WrittenLeaves leaves value bytes) (nodup : (leaves.map Leaf.expression).Nodup)
    (holds : ∀ leaf ∈ leaves, leaf.wire.type.Holds (value leaf.expression))
    (short : ∀ leaf ∈ leaves, leaf.wire = .primitive .string → (value leaf.expression).Short)
    (object : Object) :
    ∃ after, LoadedLeaves leaves object after bytes ∧
      ∀ leaf ∈ leaves, after leaf.expression = (value leaf.expression).read := by
  induction leaves generalizing object bytes with
  | nil => exact ⟨object, ⟨rfl, written⟩, nofun⟩
  | cons leaf rest ih =>
      obtain ⟨head, tail, rfl, first, others⟩ := written
      rw [List.map_cons, List.nodup_cons] at nodup
      have back := first.readBack (holds leaf List.mem_cons_self) (short leaf List.mem_cons_self)
      obtain ⟨after, loaded, same⟩ := ih others nodup.2
        (fun leaf mem => holds leaf (List.mem_cons_of_mem _ mem))
        (fun leaf mem => short leaf (List.mem_cons_of_mem _ mem))
        (Function.update object leaf.expression (value leaf.expression).read)
      refine ⟨after, ⟨_, head, tail, rfl, back, loaded⟩, List.forall_mem_cons.mpr ⟨?_, same⟩⟩
      rw [loaded.frame nodup.1, Function.update_self]

/-- What was loaded is what the object writes. -/
theorem LoadedLeaves.written {leaves : List Leaf} {object after : Object} {bytes : List UInt8}
    (loaded : LoadedLeaves leaves object after bytes) (nodup : (leaves.map Leaf.expression).Nodup) :
    WrittenLeaves leaves after bytes := by
  induction leaves generalizing object bytes with
  | nil => exact loaded.2
  | cons leaf rest ih =>
      obtain ⟨value, head, tail, rfl, ⟨-, first⟩, loaded⟩ := loaded
      rw [List.map_cons, List.nodup_cons] at nodup
      have stored : after leaf.expression = value := by
        rw [loaded.frame nodup.1, Function.update_self]
      exact ⟨head, tail, rfl, stored ▸ first, ih loaded nodup.2⟩

/-- A decoder returns exactly when its leaves take every byte. -/
theorem decodeGenerated_iff {leaves : List Leaf} {object after : Object} {bytes : List UInt8}
    {error : Option McError} :
    ((decodeGenerated (leaves.map (Leaf.statement false)) object)
        (mcReaderInitMode bytes .strict error)).1 = some after ↔
      LoadedLeaves leaves object after bytes := by
  have before := mcReaderInitMode_before bytes .strict error
  have accepts := accepts_runDecoder leaves object
  constructor
  · intro returned
    obtain ⟨loaded, middle, ran, run⟩ := Prog.bind_eq_some (Prod.ext returned rfl)
    obtain ⟨_, final, passed, last⟩ := Prog.bind_eq_some run
    obtain ⟨whole, rfl⟩ := Prog.check_eq_some passed
    simp only [Prog.pure_run, Prod.mk.injEq, Option.some.injEq] at last
    obtain ⟨taken, rest, rfl, derived, rfl⟩ := accepts.sound rfl before ran
    rw [before.advance.remaining, not_not] at whole
    rw [List.length_eq_zero_iff.mp whole, List.append_nil]
    exact last.1 ▸ derived
  · intro loaded
    let reader := mcReaderInitMode bytes .strict error
    have front : reader.Before (bytes ++ []) := by
      rw [List.append_nil]
      exact before
    have ran := accepts.complete loaded reader [] rfl front
    have passed : Prog.check (fun reader => mcReaderRemaining reader ≠ 0) id
        (reader.advance bytes.length) = (some (), reader.advance bytes.length) :=
      Prog.check_good (by simp [front.advance.remaining])
    rw [decodeGenerated, Prog.bind_some ran, Prog.bind_some passed]
    rfl

/-- Whatever packet schema the compiler takes, its encoder and its decoder undo each other:
what is encoded with texts that `mc_reader_string` reads is decoded to the same values, and
what is decoded is encoded to the same bytes. -/
theorem generated_codecs_inverse (scope : Scope) (limit : Nat) (fields : List (String × Schema))
    {encoder decoder : List Statement}
    (encodes : scope.packetCodec true limit fields = .ok encoder)
    (decodes : scope.packetCodec false limit fields = .ok decoder) :
    ∃ members, scope.packetMembers limit fields = .ok members ∧ (DistinctMembers members →
      (∀ (value object : Object) (storage : Buffer) (packet : McPacket) (error : Option McError),
        Declared members value →
        (∀ expression, .packet .stringN expression ∈ encoder → (value expression).Short) →
        (encodeGenerated encoder value).run (mcPacketInit storage) = (some (), packet) →
        ∃ decoded, ((decodeGenerated decoder object)
            (mcReaderInitMode packet.body .strict error)).1 = some decoded ∧
          ∀ field ∈ membersFields [] members, (decoded field.1).Same (value field.1)) ∧
      ∀ (bytes : List UInt8) (object decoded : Object) (error : Option McError),
        ((decodeGenerated decoder object) (mcReaderInitMode bytes .strict error)).1 =
          some decoded →
        ∀ storage : Buffer, ¬ storage.Missing → bytes.length ≤ storage.content.length →
          ∃ packet, (encodeGenerated encoder decoded).run (mcPacketInit storage) =
            (some (), packet) ∧ packet.body = bytes) := by
  obtain ⟨leaves, traversed, rfl⟩ := Scope.packetCodec_ok encodes
  obtain ⟨_, again, rfl⟩ := Scope.packetCodec_ok decodes
  obtain rfl := Except.ok.inj (traversed.symm.trans again)
  obtain ⟨members, declared, same⟩ := Scope.packetMembers_of_leaves traversed
  refine ⟨members, declared, fun distinct => ?_⟩
  have nodup : (leaves.map Leaf.expression).Nodup := by
    have paths := distinct.nodup
    rwa [same, List.map_map] at paths
  constructor
  · intro value object storage packet error typed short encoded
    obtain ⟨bytes, written, room, rfl⟩ :=
      (emits_encodeGenerated leaves value).sound (Nat.zero_le _) encoded
    have holds : ∀ leaf ∈ leaves, leaf.wire.type.Holds (value leaf.expression) := by
      intro leaf mem
      refine typed (leaf.expression, leaf.wire.type) ?_
      rw [same]
      exact List.mem_map_of_mem mem
    have texts : ∀ leaf ∈ leaves, leaf.wire = .primitive .string →
        (value leaf.expression).Short := by
      intro leaf mem string
      refine short leaf.expression (List.mem_map.mpr ⟨leaf, mem, ?_⟩)
      rw [Leaf.statement, if_pos rfl, string]
      rfl
    obtain ⟨decoded, loaded, equal⟩ := written.loaded nodup holds texts object
    rw [McPacket.body_append room]
    refine ⟨decoded, decodeGenerated_iff.mpr loaded, fun field mem => ?_⟩
    rw [same] at mem
    obtain ⟨leaf, listed, rfl⟩ := List.mem_map.mp mem
    rw [Scalar.Same, equal leaf listed, Scalar.read_read]
  · intro bytes object decoded error returned storage there room
    have written := (decodeGenerated_iff.mp returned).written nodup
    have fits : (mcPacketInit storage).Fits bytes.length := by
      refine ⟨by simpa [mcPacketInit] using there, ?_⟩
      simpa [mcPacketInit, McPacket.capacity] using room
    refine ⟨_, (emits_encodeGenerated leaves decoded).complete written _ fits, ?_⟩
    rw [McPacket.body_append fits.room]
    rfl

theorem packetCodec_cons {scope : Scope} {encode : Bool} {fields : List (String × Schema)}
    {body : List Statement} {name word : String} {type : CType} {suffix : Suffix}
    (listed : primitives.lookup word = some (type, suffix)) (other : word ≠ "position")
    (rest : scope.packetCodec encode 1 fields = .ok body) :
    scope.packetCodec encode 1 ((name, .name word) :: fields) =
      .ok (Leaf.statement encode ⟨[cName name], .primitive suffix⟩ :: body) := by
  have first : scope.codec encode 1 (.name word) [cName name] =
      .ok [Leaf.statement encode ⟨[cName name], .primitive suffix⟩] := by
    rw [Scope.codec_eq, Scope.leaves, Scope.node_name listed other]
    rfl
  unfold Scope.packetCodec at rest ⊢
  cases emitted : fields.mapM fun field => scope.codec encode 1 field.2 [cName field.1] with
  | error error =>
      rw [emitted] at rest
      cases rest
  | ok bodies =>
      rw [emitted] at rest
      rw [List.mapM_cons, first, emitted]
      cases rest
      rfl

theorem packetMembers_cons {scope : Scope} {fields : List (String × Schema)}
    {members : List Declaration} {name word : String} {type : CType} {suffix : Suffix}
    (listed : primitives.lookup word = some (type, suffix)) (other : word ≠ "position")
    (rest : scope.packetMembers 1 fields = .ok members) :
    scope.packetMembers 1 ((name, .name word) :: fields) = .ok (.scalar type (cName name) :: members) := by
  have first : scope.declaration 1 (.name word) (cName name) = .ok (.scalar type (cName name)) := by
    rw [Scope.declaration, Scope.node_name listed other]
    rfl
  unfold Scope.packetMembers at rest ⊢
  rw [List.mapM_cons, first, rest]
  rfl

/-- A byte, a text and a VarInt: both ways. -/
theorem generated_codecs_inverse_greeting :
    let value : Object := Function.update (Function.update (fun _ => .int 7) ["label"]
      (.bytes (.bytes [104, 105]))) ["window_id"] (.int 300)
    let encoder : List Statement := [.packet (.primitive .u8) ["new_flags"],
      .packet .stringN ["label"], .packet (.primitive .varint) ["window_id"]]
    let decoder : List Statement := [.reader (.primitive .u8) ["new_flags"],
      .reader (.primitive .string) ["label"], .reader (.primitive .varint) ["window_id"]]
    let bytes : List UInt8 := [7, 2, 104, 105, 0xac, 2]
    ∃ packet decoded again,
      (encodeGenerated encoder value).run (mcPacketInit (.bytes (List.replicate 6 0))) =
          (some (), packet) ∧ packet.body = bytes ∧
        ((decodeGenerated decoder fun _ => .bool false) (mcReaderInitMode bytes .strict none)).1 =
          some decoded ∧
        (decoded ["new_flags"]).Same (.int 7) ∧
        (decoded ["label"]).Same (.bytes (.bytes [104, 105])) ∧
        (decoded ["window_id"]).Same (.int 300) ∧
        (encodeGenerated encoder decoded).run (mcPacketInit (.bytes (List.replicate 6 0))) =
          (some (), again) ∧ again.body = bytes := by
  intro value encoder decoder bytes
  let scope : Scope := ⟨⟨[], 776⟩, []⟩
  let fields : List (String × Schema) :=
    [("newFlags", .name "u8"), ("label", .name "string"), ("windowId", .name "varint")]
  have codec (encode : Bool) : scope.packetCodec encode 1 fields = .ok
      ([⟨["new_flags"], .primitive .u8⟩, ⟨["label"], .primitive .string⟩,
        ⟨["window_id"], .primitive .varint⟩].map (Leaf.statement encode)) :=
    packetCodec_cons rfl (by decide) (packetCodec_cons rfl (by decide)
      (packetCodec_cons rfl (by decide) rfl))
  have declared : scope.packetMembers 1 fields = .ok [.scalar (.unsigned 8) "new_flags",
      .scalar .mcBytes "label", .scalar (.signed 32) "window_id"] :=
    packetMembers_cons rfl (by decide) (packetMembers_cons rfl (by decide)
      (packetMembers_cons rfl (by decide) rfl))
  obtain ⟨members, emitted, inverse⟩ :=
    generated_codecs_inverse scope 1 fields (codec true) (codec false)
  obtain rfl := Except.ok.inj (declared.symm.trans emitted)
  have distinct : DistinctMembers [.scalar (.unsigned 8) "new_flags", .scalar .mcBytes "label",
      .scalar (.signed 32) "window_id"] :=
    { names := by decide
      each := by simp [Declaration.Distinct.scalar] }
  have typed : Declared [.scalar (.unsigned 8) "new_flags", .scalar .mcBytes "label",
      .scalar (.signed 32) "window_id"] value := by
    simp [Declared, membersFields, Declaration.fields, value, CType.Holds]
  have short : ∀ expression, .packet .stringN expression ∈ encoder → (value expression).Short := by
    intro expression mem
    obtain rfl : expression = ["label"] := by simpa [encoder] using mem
    exact (by decide : 2 ≤ mcDefaultMaxStringBytes)
  obtain ⟨packet, written, sent⟩ : ∃ packet, (encodeGenerated encoder value).run
      (mcPacketInit (.bytes (List.replicate 6 0))) = (some (), packet) ∧ packet.body = bytes :=
    ⟨_, Prod.ext (by decide +kernel) rfl, by decide +kernel⟩
  obtain ⟨decoded, returned, same⟩ :=
    (inverse distinct).1 value (fun _ => .bool false) _ _ none typed short written
  rw [sent] at returned
  obtain ⟨again, rewritten, body⟩ := (inverse distinct).2 _ _ decoded none returned
    (.bytes (List.replicate 6 0)) id (by decide)
  exact ⟨packet, decoded, again, written, sent, returned,
    same (["new_flags"], .unsigned 8) (by decide), same (["label"], .mcBytes) (by decide),
    same (["window_id"], .signed 32) (by decide), rewritten, body⟩

/-- The length of a text is read before its bytes are, and refused. -/
theorem mcReaderString_long {text : List UInt8} (long : mcDefaultMaxStringBytes < text.length)
    (fits : text.length ≤ int32Max) {reader : McReader}
    (before : reader.Before (encodeVarint text.length ++ text)) :
    (mcReaderString.run reader).1 = none := by
  simp only [int32Max] at fits
  have size := mcReaderVarint_run (v := text.length) ⟨by omega, by omega⟩ before
  have natural : ¬ (text.length : Int) < 0 := by omega
  have refused : mcDefaultMaxStringBytes < (text.length : Int).toNat := by simpa using long
  have run : mcReaderString.run reader = _ :=
    (Prog.bind_some size).trans ((Prog.bind_some (rejectAt_good natural)).trans
      (Prog.bind_none (rejectAt_bad refused)))
  rw [run]

/-- A text that is too long for `mc_reader_string` is encoded and not decoded again. -/
theorem encodeGenerated_long_text {text storage : List UInt8} (length : text.length = 2 ^ 20 + 1)
    (room : storage.length = 2 ^ 20 + 4) :
    ∃ packet, (encodeGenerated [.packet .stringN ["text"]] fun _ => .bytes (.bytes text)).run
        (mcPacketInit (.bytes storage)) = (some (), packet) ∧
      ∀ (object : Object) (error : Option McError),
        ((decodeGenerated [.reader (.primitive .string) ["text"]] object)
          (mcReaderInitMode packet.body .strict error)).1 = none := by
  have head : encodeVarint text.length = [0x81, 0x80, 0x40] := by
    rw [length]
    simp [encodeVarint, encodeGroups, toUnsigned]
  have written : WrittenLeaves [⟨["text"], .primitive .string⟩] (fun _ => .bytes (.bytes text))
      (encodeVarint text.length ++ text) :=
    ⟨_, [], (List.append_nil _).symm, ⟨by rw [length]; decide, rfl⟩, rfl⟩
  have emits := emits_encodeGenerated [⟨["text"], .primitive .string⟩]
    fun _ => .bytes (.bytes text)
  have statement : [(⟨["text"], .primitive .string⟩ : Leaf)].map (Leaf.statement true) =
    [.packet .stringN ["text"]] := rfl
  rw [statement] at emits
  have fits : (mcPacketInit (.bytes storage)).Fits (encodeVarint text.length ++ text).length := by
    refine ⟨rfl, ?_⟩
    change 0 + (encodeVarint text.length ++ text).length ≤ storage.length
    rw [head, List.length_append, length, room]
    simp only [List.length_cons, List.length_nil]
    omega
  refine ⟨_, emits.complete written (mcPacketInit (.bytes storage)) fits, fun object error => ?_⟩
  rw [McPacket.body_append fits.room]
  have refused := mcReaderString_long (by rw [length]; decide)
    (by rw [length]; decide) (mcReaderInitMode_before _ .strict error)
  have body : (runDecoder [.reader (.primitive .string) ["text"]] object
      (mcReaderInitMode (encodeVarint text.length ++ text) .strict error)).1 = none := by
    rcases ran : mcReaderString.run (mcReaderInitMode (encodeVarint text.length ++ text) .strict
      error) with ⟨_ | read, after⟩
    · exact congrArg Prod.fst (Prog.bind_none (Prog.bind_none ran))
    · rw [ran] at refused
      cases refused
  rcases ran : runDecoder [.reader (.primitive .string) ["text"]] object
    (mcReaderInitMode (encodeVarint text.length ++ text) .strict error) with ⟨_ | decoded, after⟩
  · exact congrArg Prod.fst (Prog.bind_none ran)
  · rw [ran] at body
    cases body

/-- One text of `MC_DEFAULT_MAX_STRING_BYTES + 1` bytes is encoded and never decoded. -/
theorem generated_codecs_inverse_long_text :
    (⟨⟨[], 776⟩, []⟩ : Scope).packetCodec true 1 [("text", .name "string")] =
        .ok [.packet .stringN ["text"]] ∧
      (⟨⟨[], 776⟩, []⟩ : Scope).packetCodec false 1 [("text", .name "string")] =
        .ok [.reader (.primitive .string) ["text"]] ∧
      ∃ packet, (encodeGenerated [.packet .stringN ["text"]]
          fun _ => .bytes (.bytes (List.replicate (2 ^ 20 + 1) 0x61))).run
            (mcPacketInit (.bytes (List.replicate (2 ^ 20 + 4) 0))) = (some (), packet) ∧
        ∀ (object : Object) (error : Option McError),
          ((decodeGenerated [.reader (.primitive .string) ["text"]] object)
            (mcReaderInitMode packet.body .strict error)).1 = none := by
  have listed : primitives.lookup "string" = some (.mcBytes, .string) := rfl
  exact ⟨packetCodec_cons listed (by decide) rfl, packetCodec_cons listed (by decide) rfl,
    encodeGenerated_long_text List.length_replicate List.length_replicate⟩

end McProtocol
