import GameServer.Proofs.Framer.Frames
import GameServer.Proofs.Payload.Fields

/- This file shows what a client must send before the game. -/

namespace GameServer

namespace Reader

/-- Every message that the reader yields has the property. -/
def Returns (property : Message → Prop) (reader : Reader Message) : Prop :=
  ∀ bytes message rest, reader bytes = .ok (message, rest) → property message

theorem returns_pure {property : Message → Prop} {message : Message} (holds : property message) :
    Returns property (pure message) := by
  intro bytes result rest same
  cases same
  exact holds

theorem returns_refuse {property : Message → Prop} (fault : PayloadFault) :
    Returns property (refuse fault) := by
  intro bytes result rest same
  cases same

theorem returns_refuse_bind {α : Type} {property : Message → Prop} (fault : PayloadFault)
    (next : α → Reader Message) : Returns property (refuse fault >>= next) :=
  returns_refuse fault

theorem returns_bind {α : Type} {property : Message → Prop} {first : Reader α}
    {second : α → Reader Message} (later : ∀ value, Returns property (second value)) :
    Returns property (first >>= second) := by
  intro bytes message rest same
  obtain ⟨value, left, _, followed⟩ := bind_ok same
  exact later value left message rest followed

theorem returns_map {α : Type} {property : Message → Prop} {reader : Reader α}
    {make : α → Message} (holds : ∀ value, property (make value)) :
    Returns property (make <$> reader) := by
  rw [← bind_pure_comp]
  exact returns_bind fun value => returns_pure (holds value)

/-- A whole payload is one message that its reader yields. -/
theorem message_ok (property : Message → Prop) {kind : Message.Kind} {reader : Reader Message}
    {payload : Bytes} {message : Message} (returns : Returns property reader)
    (read : Reader.message kind reader payload = .ok message) : property message :=
  returns payload message [] (read_of_message read)

end Reader

namespace PayloadCodec

theorem handshake_decode (opcode : UInt8) (payload : Bytes) (message : Message)
    (decoded : handshake.decode opcode payload = .ok message) :
    ∃ nameHash, message = .handshake nameHash := by
  refine Reader.message_ok (fun message => ∃ nameHash, message = .handshake nameHash) ?_ decoded
  exact Reader.returns_map fun nameHash => ⟨nameHash, rfl⟩

theorem login_decode (opcode : UInt8) (payload : Bytes) (message : Message)
    (decoded : login.decode opcode payload = .ok message) :
    ∃ block, message = .login block ∧ block.reconnecting = (opcode == reconnectOpcode) := by
  refine Reader.message_ok
    (fun message => ∃ block, message = .login block ∧
      block.reconnecting = (opcode == reconnectOpcode)) ?_ decoded
  unfold readLogin
  refine Reader.returns_bind fun magic => ?_
  refine Reader.returns_bind fun clientVersion => ?_
  refine Reader.returns_bind fun detail => ?_
  refine Reader.returns_bind fun checksums => ?_
  refine Reader.returns_bind fun declared => ?_
  refine Reader.returns_bind fun left => ?_
  dsimp only
  split
  · exact Reader.returns_refuse_bind _ _
  · refine Reader.returns_bind fun operation => ?_
    refine Reader.returns_bind fun sessionKeys => ?_
    refine Reader.returns_bind fun userId => ?_
    refine Reader.returns_bind fun username => ?_
    refine Reader.returns_bind fun password => ?_
    exact Reader.returns_pure ⟨_, rfl, rfl⟩

end PayloadCodec

/-- The bytes are a login frame with this block, and these stand behind it. The opcode tells whether
the client reconnects. -/
def Bytes.IsLogin (source : Bytes) (block : LoginBlock) (left : Bytes) : Prop :=
  ∃ opcode payload, (opcode = 16 ∨ opcode = 18) ∧ payload.length < 65536 ∧
    source = opcode :: Bytes.ofUInt16 (.ofNat payload.length) ++ payload ++ left ∧
    PayloadCodec.login.decode opcode payload = .ok (.login block) ∧
    block.reconnecting = (opcode == 18)

theorem Bytes.ofUInt16_inj {left right : UInt16} (same : ofUInt16 left = ofUInt16 right) :
    left = right := by
  simp only [ofUInt16, List.cons.injEq, and_true] at same
  rw [← toUInt16_halves left, ← toUInt16_halves right, same.1, same.2]

/-- More bytes behind a login frame do not change its block. -/
theorem Bytes.IsLogin.unique {source left more : Bytes} {block other : LoginBlock}
    (login : source.IsLogin block left) {final : Bytes}
    (longer : Bytes.IsLogin (source ++ more) other final) :
    other = block ∧ final = left ++ more := by
  obtain ⟨opcode, payload, _, short, bytes, decoded, _⟩ := login
  obtain ⟨first, second, _, small, whole, found, _⟩ := longer
  subst bytes
  simp only [List.cons_append, List.append_assoc, List.cons.injEq] at whole
  obtain ⟨same, rest⟩ := whole
  obtain ⟨header, rest⟩ := List.append_inj rest rfl
  have count := congrArg UInt16.toNat (ofUInt16_inj header)
  rw [UInt16.toNat_ofNat', UInt16.toNat_ofNat', Nat.mod_eq_of_lt short, Nat.mod_eq_of_lt small]
    at count
  obtain ⟨front, back⟩ := List.append_inj rest count
  subst same front
  rw [decoded] at found
  cases found
  exact ⟨rfl, back.symm⟩

namespace Framer

variable {limit : Nat} {source left : Bytes} {message : Message} {next : Framer}

/-- A plain framer at rest reads a message off a frame, as its codec decodes it. -/
theorem plain_decodes {table : Table}
    (decodes : (plain table limit).Decodes source (.ok message) next left) :
    ∃ binding payload, source = binding.opcode :: binding.rule.header payload.length ++ payload ++
        left ∧
      table.find? binding.opcode = some binding ∧
      binding.rule.check binding.opcode payload.length = .ok () ∧
      binding.codec.decode binding.opcode payload = .ok message ∧ next = plain table limit := by
  obtain ⟨taken, same⟩ := decodes
  have whole := same []
  rw [List.append_nil, List.append_nil] at whole
  obtain ⟨binding, frame, found, decoded⟩ :=
    decode_some (plain table limit) source message (by rw [whole])
  obtain ⟨byte, bytes, opcode, bound, obeyed, final⟩ :=
    takeFrame_some (plain table limit) source binding frame rfl found
  have named : frame.opcode = binding.opcode := (Table.opcode_of_find? _ _ _ bound).symm
  have shown : byte = frame.opcode := opcode.symm
  have rest : ((plain table limit).takeFrame source).rest = left := congrArg Cut.rest whole
  have last : ((plain table limit).takeFrame source).framer = next := congrArg Cut.framer whole
  rw [rest, shown, named] at bytes
  rw [named] at bound obeyed decoded
  exact ⟨binding, frame.payload, bytes, bound, obeyed, decoded, last.symm.trans final⟩

theorem login_inbound (binding : Inbound)
    (bound : Table.login.find? binding.opcode = some binding) :
    binding = Reads.entry ⟨14, .fixed 1, .handshake⟩ ∨
      binding = Reads.entry ⟨16, .declared .short, .login⟩ ∨
      binding = Reads.entry ⟨18, .declared .short, .login⟩ := by
  obtain ⟨reads, member, same⟩ := Table.exists_of_find?_of bound
  simp only [Table.loginInbound, List.mem_cons, List.not_mem_nil, or_false] at member
  rcases member with known | known | known
  all_goals subst known
  · exact .inl same.symm
  · exact .inr (.inl same.symm)
  · exact .inr (.inr same.symm)

theorem decodes_handshake (limit : Nat) (nameHash : UInt8) (left : Bytes) :
    (plain .login limit).Decodes (14 :: nameHash :: left) (.ok (some (.handshake nameHash)))
      (plain .login limit) left :=
  ⟨2, fun _ => rfl⟩

/-- A handshake is read off its opcode and one byte. -/
theorem handshake_decodes (handshake : message.kind = .handshake)
    (decodes : (plain .login limit).Decodes source (.ok message) next left) :
    ∃ nameHash, message = .handshake nameHash ∧ source = 14 :: nameHash :: left ∧
      next = plain .login limit := by
  obtain ⟨binding, payload, bytes, bound, obeyed, decoded, final⟩ := plain_decodes decodes
  rcases login_inbound binding bound with same | same | same
  · subst same
    have size : payload.length = 1 := by
      simp only [Reads.entry, LengthRule.check] at obeyed
      split at obeyed
      · next one => exact one.symm
      · cases obeyed
    obtain ⟨nameHash, single⟩ := List.length_eq_one_iff.mp size
    subst single
    cases decoded
    exact ⟨nameHash, rfl, bytes, final⟩
  · subst same
    obtain ⟨block, login, _⟩ := PayloadCodec.login_decode _ _ _ decoded
    rw [login] at handshake
    cases handshake
  · subst same
    obtain ⟨block, login, _⟩ := PayloadCodec.login_decode _ _ _ decoded
    rw [login] at handshake
    cases handshake

/-- A login block is read off a login frame. -/
theorem login_decodes (login : message.kind = .login)
    (decodes : (plain .login limit).Decodes source (.ok message) next left) :
    ∃ block, message = .login block ∧ source.IsLogin block left ∧ next = plain .login limit := by
  obtain ⟨binding, payload, bytes, bound, obeyed, decoded, final⟩ := plain_decodes decodes
  have short (opcode : UInt8)
      (within : (LengthRule.declared .short).check opcode payload.length = .ok ()) :
      payload.length < 65536 := by
    apply Nat.lt_of_not_le
    intro long
    rw [LengthRule.check, if_pos (show LengthField.short.capacity < payload.length from long)]
      at within
    cases within
  rcases login_inbound binding bound with same | same | same
  · subst same
    obtain ⟨nameHash, handshake⟩ := PayloadCodec.handshake_decode _ _ _ decoded
    rw [handshake] at login
    cases login
  · subst same
    obtain ⟨block, found, reconnecting⟩ := PayloadCodec.login_decode _ _ _ decoded
    subst found
    exact ⟨block, rfl, ⟨16, payload, .inl rfl, short 16 obeyed, bytes, decoded, reconnecting⟩, final⟩
  · subst same
    obtain ⟨block, found, reconnecting⟩ := PayloadCodec.login_decode _ _ _ decoded
    subst found
    exact ⟨block, rfl, ⟨18, payload, .inr rfl, short 18 obeyed, bytes, decoded, reconnecting⟩, final⟩

end Framer

/-- The payload of a login block without archives. -/
def loginPayload : Bytes :=
  255 :: Bytes.ofUInt16 317 ++ 0 :: List.replicate 36 0 ++ 27 :: 10 ::
    [1, 2, 3, 4].flatMap Bytes.ofUInt32 ++ Bytes.ofUInt32 42 ++ Bytes.ofText "ab\ncd\n"

/-- A login frame with that payload. -/
def loginFrame : Bytes := 16 :: Bytes.ofUInt16 (.ofNat loginPayload.length) ++ loginPayload

/-- The block of that login frame. -/
def loginSample : LoginBlock where
  reconnecting := false
  magic := 255
  clientVersion := 317
  detail := 0
  archiveChecksums := .replicate 9 0
  operation := 10
  sessionKeys := [1, 2, 3, 4]
  userId := 42
  username := "ab"
  password := "cd"

/-- The session keys of that block. -/
def loginKeys : SessionKeys := #v[1, 2, 3, 4]

theorem decodes_loginFrame :
    (Framer.plain .login Framer.defaultLimit).Decodes loginFrame
      (.ok (some (.login loginSample))) (.plain .login Framer.defaultLimit) [] := by
  have decoded : ((Framer.plain .login Framer.defaultLimit).decode loginFrame).outcome.toOption =
      some (some (.login loginSample)) := by
    decide +kernel
  have rest : ((Framer.plain .login Framer.defaultLimit).decode loginFrame).rest = [] := by
    decide +kernel
  have found : ((Framer.plain .login Framer.defaultLimit).decode loginFrame).outcome =
      .ok (some (.login loginSample)) := by
    generalize ((Framer.plain .login Framer.defaultLimit).decode loginFrame).outcome = outcome
      at decoded
    cases outcome with
    | error error => cases decoded
    | ok found => exact congrArg _ (Option.some.inj decoded)
  have decodes := Framer.decodes_of_settled (.plain .login Framer.defaultLimit) loginFrame []
    (Framer.Cut.settled_of_some _ _ found)
  rw [List.append_nil, found, rest, List.append_nil] at decodes
  obtain ⟨_, _, _, still⟩ := Framer.login_decodes rfl decodes
  rw [still] at decodes
  exact decodes

end GameServer
