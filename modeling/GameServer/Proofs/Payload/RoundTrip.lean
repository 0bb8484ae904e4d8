import GameServer.Proofs.Payload.Fields

/- This file shows which messages read back from their payloads. -/

namespace GameServer

/-- The bytes behind the length byte of a login block. -/
def LoginBlock.tail (block : LoginBlock) : Bytes :=
  block.operation :: block.sessionKeys.flatMap Bytes.ofUInt32 ++ Bytes.ofUInt32 block.userId ++
    Bytes.ofLine block.username ++ Bytes.ofLine block.password

namespace Message

/-- The texts that a message is written with. -/
def texts : Message → List String
  | .login block => [block.username, block.password]
  | .command line => [line]
  | .serverChat text => [text]
  | _ => []

/-- The payload of a message. -/
def payload : Message → Bytes
  | .handshake nameHash => [nameHash]
  | .login block =>
      PayloadCodec.loginHeader block ++ UInt8.ofNat block.tail.length :: block.tail
  | .ping => []
  | .chat line => (128 - line.effects) :: (128 - line.color) :: line.text.reverse.map (· + 128)
  | .walk route => PayloadCodec.pathBytes route ++ route.trailer
  | .command line => Bytes.ofLine line
  | .handshakeResponse status serverKey =>
      status :: Bytes.ofUInt64 0 ++ Bytes.ofUInt64 serverKey
  | .loginResponse reply => [reply.code.value, reply.privilege, if reply.flagged then 1 else 0]
  | .serverChat text => Bytes.ofLine text

/-- The message does not say more, or something else, than the opcode lets it say. -/
def FitsOpcode (opcode : UInt8) : Message → Prop
  | .login block =>
      block.sessionKeys.length = 4 ∧ (block.reconnecting = true ↔ opcode = reconnectOpcode)
  | .walk route => route.trailer.length = if opcode = minimapOpcode then minimapTrailer else 0
  | .loginResponse reply => reply.code.Canonical
  | _ => True

/-- Why a message of the right kind cannot be written. -/
inductive Unwritable (message : Message) : Prop where
  | lineFeed (text : String) (member : text ∈ message.texts)
      (found : Reader.terminator ∈ Bytes.ofText text)
  | blockTooLong (block : LoginBlock) (same : message = .login block)
      (long : 255 < block.tail.length)

end Message

namespace PayloadCodec

/-- The writer refuses every message that cannot be written, and appends the payload of every
other one. -/
def Writes (codec : PayloadCodec) (message : Message) (written : Bytes) : Prop :=
  (message.Unwritable ∧ ∃ error after, (codec.encode message).run written = .error error after) ∨
    (¬ message.Unwritable ∧
      (codec.encode message).run written = .ok () (written ++ message.payload))

theorem not_unwritable {message : Message} (silent : message.texts = [])
    (other : ∀ block, message ≠ .login block) : ¬ message.Unwritable := by
  intro unwritable
  cases unwritable with
  | lineFeed text member =>
      rw [silent] at member
      cases member
  | blockTooLong block same => exact other block same

/-- A message that is one line is written if its text is a line. -/
theorem writes_line {codec : PayloadCodec} {message : Message} {text : String}
    (texts : message.texts = [text]) (payload : message.payload = Bytes.ofLine text)
    (other : ∀ block, message ≠ .login block)
    (encodes : codec.encode message = Writer.line codec.kind text) (written : Bytes) :
    codec.Writes message written := by
  rw [Writes, encodes]
  by_cases found : Reader.terminator ∈ Bytes.ofText text
  · refine .inl ⟨.lineFeed text ?_ found, _, _, Writer.line_error _ text written found⟩
    rw [texts]
    exact List.mem_singleton_self text
  · refine .inr ⟨?_, ?_⟩
    · intro unwritable
      cases unwritable with
      | lineFeed other member bad =>
          rw [texts] at member
          cases List.mem_singleton.mp member
          exact found bad
      | blockTooLong block same => exact other block same
    · rw [payload]
      exact Writer.line_ok _ text written found

theorem loginBody_ok (block : LoginBlock)
    (free : ∀ text ∈ (Message.login block).texts, Reader.terminator ∉ Bytes.ofText text) :
    (loginBody block).run [] = .ok () block.tail := by
  have name := free block.username List.mem_cons_self
  have word := free block.password (List.mem_cons_of_mem _ List.mem_cons_self)
  have first (written : Bytes) := Writer.line_ok .login block.username written name
  have second (written : Bytes) := Writer.line_ok .login block.password written word
  simp only [loginBody, EStateM.run_bind, Writer.run_append, first, second, List.nil_append]
  rfl


/-- A body with a terminator in one of its texts is not written. -/
theorem loginBody_error (block : LoginBlock) (text : String)
    (member : text ∈ (Message.login block).texts) (found : Reader.terminator ∈ Bytes.ofText text) :
    ∃ error after, (loginBody block).run [] = .error error after := by
  have second (written : Bytes) (bad : Reader.terminator ∈ Bytes.ofText block.password) :=
    Writer.line_error .login block.password written bad
  by_cases name : Reader.terminator ∈ Bytes.ofText block.username
  · have first (written : Bytes) := Writer.line_error .login block.username written name
    simp [loginBody, EStateM.run_bind, first]
  · have first (written : Bytes) := Writer.line_ok .login block.username written name
    have word : Reader.terminator ∈ Bytes.ofText block.password := by
      simp only [Message.texts, List.mem_cons, List.not_mem_nil, or_false] at member
      rcases member with rfl | rfl
      · exact absurd found name
      · exact found
    simp [loginBody, EStateM.run_bind, first, second _ word]

/-- A login block is written if its body is written and its length fits into one byte. -/
theorem writes_login (block : LoginBlock) (written : Bytes) :
    login.Writes (.login block) written := by
  have run : (login.encode (.login block)).run written =
      (writeLogin block).run written := rfl
  rw [Writes, run, writeLogin, EStateM.run_bind, Writer.run_append]
  by_cases bad : ∃ text ∈ (Message.login block).texts, Reader.terminator ∈ Bytes.ofText text
  · obtain ⟨text, member, found⟩ := bad
    obtain ⟨error, after, failed⟩ := loginBody_error block text member found
    dsimp only
    rw [failed]
    exact .inl ⟨.lineFeed text member found, _, _, rfl⟩
  · have free : ∀ text ∈ (Message.login block).texts, Reader.terminator ∉ Bytes.ofText text :=
      fun text member found => bad ⟨text, member, found⟩
    dsimp only
    rw [loginBody_ok block free]
    dsimp only
    by_cases long : 255 < block.tail.length
    · rw [if_pos long]
      exact .inl ⟨.blockTooLong block rfl long, _, _, rfl⟩
    · rw [if_neg long, Writer.run_append, List.append_assoc]
      refine .inr ⟨?_, rfl⟩
      intro unwritable
      cases unwritable with
      | lineFeed text member found => exact free text member found
      | blockTooLong other same tooLong =>
          cases same
          exact long tooLong

/-- A codec writes every message of its kind that can be written. -/
theorem writes_ofKind (message : Message) (written : Bytes) :
    (ofKind message.kind).Writes message written := by
  cases message with
  | handshake nameHash => exact .inr ⟨not_unwritable rfl (by simp), rfl⟩
  | login block => exact writes_login block written
  | ping => exact .inr ⟨not_unwritable rfl (by simp), congrArg _ (List.append_nil written).symm⟩
  | chat line => exact .inr ⟨not_unwritable rfl (by simp), rfl⟩
  | walk route => exact .inr ⟨not_unwritable rfl (by simp), rfl⟩
  | command line => exact writes_line rfl rfl (by simp) rfl written
  | handshakeResponse status serverKey => exact .inr ⟨not_unwritable rfl (by simp), rfl⟩
  | loginResponse reply => exact .inr ⟨not_unwritable rfl (by simp), rfl⟩
  | serverChat text => exact writes_line rfl rfl (by simp) rfl written

/-- A codec refuses every message of another kind and writes nothing of it. -/
theorem encode_other (kind : Message.Kind) (message : Message) (other : message.kind ≠ kind)
    (written : Bytes) :
    ((ofKind kind).encode message).run written =
      .error (.wrongKind kind message.kind) written := by
  cases kind <;> cases message <;> first | rfl | exact absurd rfl other

theorem readOffsets_offsetBytes (offsets : List (Int8 × Int8)) :
    readOffsets (offsetBytes offsets) = offsets := by
  induction offsets with
  | nil => rfl
  | cons offset rest ih =>
      rw [offsetBytes, List.flatMap_cons]
      exact congrArg (offset :: ·) ih

theorem length_offsetBytes (offsets : List (Int8 × Int8)) :
    (offsetBytes offsets).length = 2 * offsets.length := by
  rw [offsetBytes, List.length_flatMap]
  simp only [List.length_cons, List.length_nil, List.map_const', List.sum_replicate_nat]
  omega

/-- A path reads back from its bytes. -/
theorem readPath_pathBytes (route : WalkRoute) (rest : Bytes) :
    readPath (pathBytes route) route.trailer rest = .ok (.walk route, rest) := by
  have size : (pathBytes route).length = 2 * route.offsets.length + 5 := by
    simp [pathBytes, length_offsetBytes]
  have front : (pathBytes route).take 2 =
      [route.startX.toUInt8 + 128, (route.startX >>> 8).toUInt8] := rfl
  have back : (pathBytes route).drop ((pathBytes route).length - 3) =
      [route.startY.toUInt8, (route.startY >>> 8).toUInt8,
        0 - (if route.running then 1 else 0)] := by
    rw [size, pathBytes, List.drop_left']
    simp [length_offsetBytes]
  have middle : ((pathBytes route).drop 2).take ((pathBytes route).length - 5) =
      offsetBytes route.offsets := by
    rw [size, pathBytes, Nat.add_sub_cancel]
    exact List.take_left' (length_offsetBytes route.offsets)
  have running : (0 - (0 - (if route.running then 1 else 0 : UInt8)) == 1) = route.running := by
    cases route.running <;> rfl
  rw [readPath, if_neg (by omega), if_neg (by omega), front, back, middle]
  simp only [readOffsets_offsetBytes, UInt8.add_sub_cancel, Bytes.toUInt16_halves, running]
  rfl

/-- A walk reads back under an opcode that carries its trailer. -/
theorem readWalk_payload (opcode : UInt8) (route : WalkRoute)
    (fits : (Message.walk route).FitsOpcode opcode) :
    readWalk opcode (Message.walk route).payload = .ok (.walk route, []) := by
  have trailer : route.trailer.length = if opcode = minimapOpcode then minimapTrailer else 0 := fits
  rw [readWalk, Reader.bind_eq (show Reader.rest _ = .ok (_, []) from rfl)]
  by_cases minimap : opcode = minimapOpcode
  · rw [if_pos minimap] at trailer
    have size : (Message.walk route).payload.length =
        (pathBytes route).length + minimapTrailer := by
      rw [Message.payload, List.length_append, trailer]
    rw [if_pos minimap, if_neg (by omega)]
    rw [size, Nat.add_sub_cancel, Message.payload, List.take_left, List.drop_left]
    exact readPath_pathBytes route []
  · rw [if_neg minimap] at trailer
    have none := List.length_eq_zero_iff.mp trailer
    have path := readPath_pathBytes route []
    rw [none] at path
    rw [if_neg minimap, Message.payload, none, List.append_nil]
    exact path

theorem ofFn_getD (words : Vector UInt32 9) :
    (Vector.ofFn fun place : Fin 9 => words.toList.getD place 0) = words := by
  apply Vector.ext
  intro place inRange
  simp

/-- A login block reads back under an opcode that tells whether the client reconnects. -/
theorem readLogin_payload (opcode : UInt8) (block : LoginBlock)
    (fits : (Message.login block).FitsOpcode opcode)
    (writable : ¬ (Message.login block).Unwritable) :
    readLogin opcode (Message.login block).payload = .ok (.login block, []) := by
  obtain ⟨keys, reconnecting⟩ := fits
  have short : block.tail.length < 256 := by
    apply Nat.lt_of_not_le
    exact fun long => writable (.blockTooLong block rfl long)
  have username := Reader.line_append "username" block.username (Bytes.ofLine block.password)
    fun found => writable (.lineFeed _ List.mem_cons_self found)
  have password := Reader.line_append "password" block.password []
    fun found => writable (.lineFeed _ (List.mem_cons_of_mem _ List.mem_cons_self) found)
  have checksums (rest : Bytes) := Reader.words32_append "archive checksum"
    block.archiveChecksums.toList rest
  have sessionKeys (rest : Bytes) := Reader.words32_append "session key" block.sessionKeys rest
  rw [Vector.length_toList] at checksums
  rw [keys] at sessionKeys
  rw [List.append_nil] at password
  have flag : (opcode == reconnectOpcode) = block.reconnecting := by
    rw [Bool.eq_iff_iff, reconnecting, beq_iff_eq]
  simp only [Message.payload, loginHeader, List.append_assoc, List.cons_append, List.nil_append]
  rw [readLogin, Reader.bind_eq (Reader.byte_cons _ _ _), Reader.bind_eq (Reader.word16_append _ _ _),
    Reader.bind_eq (Reader.byte_cons _ _ _), Reader.bind_eq (checksums _),
    Reader.bind_eq (Reader.byte_cons _ _ _), Reader.bind_eq (show Reader.left _ = .ok (_, _) from rfl)]
  dsimp only
  rw [if_neg (by simp [Nat.mod_eq_of_lt short])]
  have tail : block.tail = block.operation :: (block.sessionKeys.flatMap Bytes.ofUInt32 ++
      (Bytes.ofUInt32 block.userId ++
        (Bytes.ofLine block.username ++ Bytes.ofLine block.password))) := by
    simp only [LoginBlock.tail, List.append_assoc, List.cons_append]
  rw [tail]
  rw [Reader.bind_eq (Reader.byte_cons _ _ _), Reader.bind_eq (sessionKeys _),
    Reader.bind_eq (Reader.word32_append _ _ _), Reader.bind_eq username, Reader.bind_eq password]
  rw [ofFn_getD, flag]
  rfl

/-- Both halves of a server key read back. -/
theorem decode_handshakeResponse (opcode : UInt8) (status : UInt8) (serverKey : UInt64) :
    handshakeResponse.decode opcode (Message.handshakeResponse status serverKey).payload =
      .ok (.handshakeResponse status serverKey) := by
  have last := Reader.word32_append "server key" serverKey.toUInt32 []
  rw [List.append_nil] at last
  dsimp only [handshakeResponse]
  refine Reader.message_eq _ ?_
  simp only [Message.payload, Bytes.ofUInt64, List.append_assoc, List.cons_append]
  rw [Reader.bind_eq (Reader.byte_cons _ _ _), Reader.bind_eq (Reader.word32_append _ _ _),
    Reader.bind_eq (Reader.word32_append _ _ _), Reader.bind_eq (Reader.word32_append _ _ _),
    Reader.bind_eq last, Bytes.toUInt64_halves]
  rfl

/-- Only a canonical code is the code that its own byte is read as. -/
theorem decode_loginResponse (opcode : UInt8) (reply : LoginReply)
    (canonical : reply.code.Canonical) :
    loginResponse.decode opcode (Message.loginResponse reply).payload =
      .ok (.loginResponse reply) := by
  have flagged : ((if reply.flagged then 1 else 0 : UInt8) != 0) = reply.flagged := by
    cases reply.flagged <;> rfl
  dsimp only [loginResponse]
  refine Reader.message_eq _ ?_
  rw [Message.payload, Reader.bind_eq (Reader.byte_cons _ _ _),
    Reader.bind_eq (Reader.byte_cons _ _ _), Reader.bind_eq (Reader.byte_cons _ _ _), canonical,
    flagged]
  rfl

/-- Subtracting from 128 undoes itself, and so does reversing a text. -/
theorem decode_chat (opcode : UInt8) (line : ChatLine) :
    chat.decode opcode (Message.chat line).payload = .ok (.chat line) := by
  have text : ((line.text.reverse.map (· + 128)).reverse.map (· - 128) : Bytes) = line.text := by
    simp only [List.map_reverse, List.reverse_reverse, List.map_map, Function.comp_def,
      UInt8.add_sub_cancel, List.map_id']
  have undone (value : UInt8) : 128 - (128 - value) = value := by grind
  dsimp only [chat]
  refine Reader.message_eq _ ?_
  rw [Message.payload, Reader.bind_eq (Reader.byte_cons _ _ _),
    Reader.bind_eq (Reader.byte_cons _ _ _),
    Reader.bind_eq (show Reader.rest _ = .ok (_, []) from rfl), text, undone,
    undone]
  rfl

/-- A line is read as a message that is made of its text. -/
theorem decode_line {kind : Message.Kind} {field text : String} {make : String → Message}
    (free : Reader.terminator ∉ Bytes.ofText text) :
    Reader.message kind (make <$> Reader.line field) (Bytes.ofLine text) = .ok (make text) := by
  have line := Reader.line_append field text [] free
  rw [List.append_nil] at line
  exact Reader.message_eq _ (Reader.map_eq line make)

/-- A message that was written reads back under every opcode that can carry it. -/
theorem decode_payload (opcode : UInt8) (message : Message) (fits : message.FitsOpcode opcode)
    (writable : ¬ message.Unwritable) :
    (ofKind message.kind).decode opcode message.payload = .ok message := by
  have free (text : String) (member : text ∈ message.texts) :
      Reader.terminator ∉ Bytes.ofText text :=
    fun found => writable (.lineFeed text member found)
  cases message with
  | handshake nameHash => rfl
  | login block => exact Reader.message_eq _ (readLogin_payload opcode block fits writable)
  | ping => rfl
  | chat line => exact decode_chat opcode line
  | walk route => exact Reader.message_eq _ (readWalk_payload opcode route fits)
  | command line => exact decode_line (free line (List.mem_singleton_self line))
  | handshakeResponse status serverKey => exact decode_handshakeResponse opcode status serverKey
  | loginResponse reply => exact decode_loginResponse opcode reply fits
  | serverChat text => exact decode_line (free text (List.mem_singleton_self text))

/-- Whatever a codec was given to write, it has appended the payload of the message, which reads
back under every opcode that can carry it. A codec refuses exactly the messages of another kind, the
texts with a terminator and the login blocks that are too long. -/
theorem decode_encode (kind : Message.Kind) (message : Message) :
    (∀ written after, ((ofKind kind).encode message).run written = .ok () after →
      after = written ++ message.payload ∧
        ∀ opcode, message.FitsOpcode opcode →
          (ofKind kind).decode opcode message.payload = .ok message) ∧
      ∀ written,
        (∃ error after, ((ofKind kind).encode message).run written = .error error after) ↔
          message.kind ≠ kind ∨ message.Unwritable := by
  by_cases same : message.kind = kind
  · subst same
    refine ⟨?_, ?_⟩
    · intro written after accepted
      rcases writes_ofKind message written with ⟨_, error, left, refused⟩ | ⟨writable, run⟩
      · rw [refused] at accepted
        cases accepted
      · rw [run] at accepted
        cases accepted
        exact ⟨rfl, fun opcode fits => decode_payload opcode message fits writable⟩
    · intro written
      rcases writes_ofKind message written with ⟨unwritable, refused⟩ | ⟨writable, run⟩
      · exact ⟨fun _ => .inr unwritable, fun _ => refused⟩
      · rw [run]
        simp [writable]
  · refine ⟨?_, ?_⟩
    · intro written after accepted
      rw [encode_other kind message same] at accepted
      cases accepted
    · intro written
      rw [encode_other kind message same]
      simp [same]

end PayloadCodec

end GameServer
