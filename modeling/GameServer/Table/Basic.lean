import GameServer.Table.Rule

/- The entries of a table are filed under an opcode for reading and under a kind for writing. -/

namespace GameServer

/-- An opcode is to be read by a length rule and a codec. -/
structure Reads where
  opcode : UInt8
  rule : LengthRule
  codec : PayloadCodec

/-- The messages of a codec are to be written in a framing. -/
structure Writes where
  framing : Framing
  codec : PayloadCodec

/-- The entry of an opcode that is read. -/
structure Inbound where
  opcode : UInt8
  rule : LengthRule
  kind : Message.Kind
  codec : PayloadCodec

/-- The entry of a kind of message that is written. -/
structure Outbound where
  kind : Message.Kind
  framing : Framing
  codec : PayloadCodec

/-- The entry takes its kind from the codec. -/
def Reads.entry (binding : Reads) : Inbound :=
  ⟨binding.opcode, binding.rule, binding.codec.kind, binding.codec⟩

def Writes.entry (binding : Writes) : Outbound :=
  ⟨binding.codec.kind, binding.framing, binding.codec⟩

/-- Entries and the keys that they are filed under, in the order of their registration. -/
structure Bindings where
  name : String
  inbound : List (UInt8 × Inbound)
  outbound : List (Message.Kind × Outbound)

namespace Bindings

/-- Nothing is bound at first, and the name appears in errors. -/
def empty (name : String) : Bindings := ⟨name, [], []⟩

/-- The entry that is filed under an opcode, if there is one. -/
def find? (bindings : Bindings) (opcode : UInt8) : Option Inbound := bindings.inbound.lookup opcode

/-- The entry that is filed under a kind of message, if there is one. -/
def findKind? (bindings : Bindings) (kind : Message.Kind) : Option Outbound :=
  bindings.outbound.lookup kind

/-- An opcode must be bound to be read. -/
def lookup (bindings : Bindings) (opcode : UInt8) : Except ProtocolError Inbound :=
  match bindings.find? opcode with
  | some binding => .ok binding
  | none => .error (.unknownOpcode opcode bindings.name)

/-- A payload is decoded by the codec that its opcode is bound to. -/
def decode (bindings : Bindings) (opcode : UInt8) (payload : Bytes) :
    Except ProtocolError Message := do
  let binding ← bindings.lookup opcode
  binding.codec.decode opcode payload

/-- A kind must be bound to be written. -/
def lookupKind (bindings : Bindings) (kind : Message.Kind) : Except ProtocolError Outbound :=
  match bindings.findKind? kind with
  | some binding => .ok binding
  | none => .error (.unboundKind kind bindings.name)

/-- An opcode is bound for reading once. -/
def register (bindings : Bindings) (binding : Reads) : Except ProtocolError Bindings :=
  if (bindings.find? binding.opcode).isSome then
    .error (.opcodeTaken binding.opcode bindings.name)
  else
    .ok { bindings with inbound := bindings.inbound ++ [(binding.opcode, binding.entry)] }

/-- Whether a framed entry for writing uses the opcode. -/
def frames (bindings : Bindings) (opcode : UInt8) : Bool :=
  bindings.outbound.any fun filed => filed.2.framing.opcode? == some opcode

/-- A kind is bound for writing once, and so is the opcode of its frames. -/
def registerOutbound (bindings : Bindings) (binding : Writes) : Except ProtocolError Bindings :=
  if (bindings.findKind? binding.codec.kind).isSome then
    .error (.kindTaken binding.codec.kind bindings.name)
  else
    let bound :=
      { bindings with outbound := bindings.outbound ++ [(binding.codec.kind, binding.entry)] }
    match binding.framing.opcode? with
    | some opcode =>
        if bindings.frames opcode then .error (.opcodeTaken opcode bindings.name) else .ok bound
    | none => .ok bound

/-- Every kind that will be written must be bound, and the first one missing is reported. -/
def require (bindings : Bindings) : List Message.Kind → Except ProtocolError Unit
  | [] => .ok ()
  | kind :: rest =>
      match bindings.lookupKind kind with
      | .ok _ => bindings.require rest
      | .error error => .error error

/-- The number of opcodes bound for reading. -/
def size (bindings : Bindings) : Nat := bindings.inbound.length

/-- Every entry is filed under its own opcode or kind, and has the kind of its codec. -/
structure Filed (bindings : Bindings) : Prop where
  read : ∀ opcode entry, (opcode, entry) ∈ bindings.inbound →
    entry.opcode = opcode ∧ entry.kind = entry.codec.kind
  write : ∀ kind entry, (kind, entry) ∈ bindings.outbound →
    entry.kind = kind ∧ entry.kind = entry.codec.kind

variable {bindings next : Bindings}

theorem filed_empty (name : String) : (empty name).Filed :=
  ⟨fun _ _ member => absurd member List.not_mem_nil,
    fun _ _ member => absurd member List.not_mem_nil⟩

theorem Filed.register (filed : bindings.Filed) {binding : Reads}
    (accepted : bindings.register binding = .ok next) : next.Filed := by
  unfold Bindings.register at accepted
  split at accepted
  · cases accepted
  · cases accepted
    refine { filed with read := fun opcode entry member => ?_ }
    rcases List.mem_append.mp member with old | new
    · exact filed.read opcode entry old
    · cases List.mem_singleton.mp new
      exact ⟨rfl, rfl⟩

theorem Filed.bind (filed : bindings.Filed) (binding : Writes) :
    Filed { bindings with
      outbound := bindings.outbound ++ [(binding.codec.kind, binding.entry)] } := by
  refine { filed with write := fun kind entry member => ?_ }
  rcases List.mem_append.mp member with old | new
  · exact filed.write kind entry old
  · cases List.mem_singleton.mp new
    exact ⟨rfl, rfl⟩

theorem Filed.registerOutbound (filed : bindings.Filed) {binding : Writes}
    (accepted : bindings.registerOutbound binding = .ok next) : next.Filed := by
  unfold Bindings.registerOutbound at accepted
  split at accepted
  · cases accepted
  · dsimp only at accepted
    split at accepted
    · split at accepted
      · cases accepted
      · cases accepted
        exact filed.bind binding
    · cases accepted
      exact filed.bind binding

theorem mem_of_lookup {A B : Type} [BEq A] [LawfulBEq A] {entries : List (A × B)} {key : A}
    {value : B} (found : entries.lookup key = some value) : (key, value) ∈ entries := by
  obtain ⟨front, back, split, _⟩ := List.lookup_eq_some_iff.mp found
  rw [split]
  exact List.mem_append_right front List.mem_cons_self

end Bindings

/-- A table is made of registrations alone, so its entries are filed where they belong. -/
structure Table extends Bindings where
  filed : toBindings.Filed

namespace Table

/-- A new table binds nothing. -/
def empty (name : String) : Table := ⟨.empty name, Bindings.filed_empty name⟩

/-- A table with these entries. -/
def of (name : String) (reads : List Reads) (writes : List Writes) : Table where
  name
  inbound := reads.map fun binding => (binding.opcode, binding.entry)
  outbound := writes.map fun binding => (binding.codec.kind, binding.entry)
  filed := by
    constructor
    · intro opcode entry member
      obtain ⟨binding, _, same⟩ := List.mem_map.mp member
      cases same
      exact ⟨rfl, rfl⟩
    · intro kind entry member
      obtain ⟨binding, _, same⟩ := List.mem_map.mp member
      cases same
      exact ⟨rfl, rfl⟩

/-- An opcode is bound for reading once. -/
def register (table : Table) (opcode : UInt8) (rule : LengthRule) (codec : PayloadCodec) :
    Except ProtocolError Table :=
  match accepted : table.toBindings.register ⟨opcode, rule, codec⟩ with
  | .ok next => .ok ⟨next, table.filed.register accepted⟩
  | .error error => .error error

/-- A kind is bound for writing once. -/
def registerOutbound (table : Table) (framing : Framing) (codec : PayloadCodec) :
    Except ProtocolError Table :=
  match accepted : table.toBindings.registerOutbound ⟨framing, codec⟩ with
  | .ok next => .ok ⟨next, table.filed.registerOutbound accepted⟩
  | .error error => .error error

/-- A table registers what its bindings register, and refuses what they refuse. -/
theorem map_register (table : Table) (binding : Reads) :
    (table.register binding.opcode binding.rule binding.codec).map toBindings =
      table.toBindings.register binding := by
  unfold register
  split
  · next accepted => exact accepted.symm
  · next refused => exact refused.symm

theorem map_registerOutbound (table : Table) (binding : Writes) :
    (table.registerOutbound binding.framing binding.codec).map toBindings =
      table.toBindings.registerOutbound binding := by
  unfold registerOutbound
  split
  · next accepted => exact accepted.symm
  · next refused => exact refused.symm

/-- Bindings are registered in order until one is refused. -/
def build (name : String) (reads : List Reads) (writes : List Writes) :
    Except ProtocolError Table := do
  let read ← reads.foldlM
    (fun table binding => table.register binding.opcode binding.rule binding.codec) (empty name)
  writes.foldlM (fun table binding => table.registerOutbound binding.framing binding.codec) read

/-- What is found in a table was given to it. -/
theorem exists_of_find?_of {name : String} {reads : List Reads} {writes : List Writes}
    {opcode : UInt8} {entry : Inbound} (found : (of name reads writes).find? opcode = some entry) :
    ∃ binding ∈ reads, binding.entry = entry := by
  obtain ⟨binding, member, same⟩ := List.mem_map.mp (Bindings.mem_of_lookup found)
  exact ⟨binding, member, congrArg Prod.snd same⟩

theorem exists_of_findKind?_of {name : String} {reads : List Reads} {writes : List Writes}
    {kind : Message.Kind} {entry : Outbound}
    (found : (of name reads writes).findKind? kind = some entry) :
    ∃ binding ∈ writes, binding.entry = entry := by
  obtain ⟨binding, member, same⟩ := List.mem_map.mp (Bindings.mem_of_lookup found)
  exact ⟨binding, member, congrArg Prod.snd same⟩

theorem opcode_of_find? (table : Table) (opcode : UInt8) (binding : Inbound)
    (found : table.find? opcode = some binding) : binding.opcode = opcode :=
  (table.filed.read opcode binding (Bindings.mem_of_lookup found)).1

theorem kind_of_findKind? (table : Table) (kind : Message.Kind) (binding : Outbound)
    (found : table.findKind? kind = some binding) : binding.codec.kind = kind := by
  obtain ⟨filed, named⟩ := table.filed.write kind binding (Bindings.mem_of_lookup found)
  exact named.symm.trans filed

end Table

end GameServer
