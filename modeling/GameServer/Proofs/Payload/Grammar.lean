import GameServer.Proofs.Payload.RoundTrip
import Mathlib.Data.List.Basic

/- This file shows which payloads a codec reads. -/

namespace GameServer

namespace PayloadCodec

/-- A walk ends with so many bytes behind its path. -/
def trailerLength (opcode : UInt8) : Nat := if opcode = minimapOpcode then minimapTrailer else 0

/-- The running flag at the end of a path is written as one of two bytes. -/
def normalPath (path : Bytes) : Bytes :=
  path.take (path.length - 1) ++
    (path.drop (path.length - 1)).map fun flag => if flag = 255 then 255 else 0

/-- A payload with the bytes that do not matter as a codec of the kind writes them. -/
def normal (kind : Message.Kind) (opcode : UInt8) (payload : Bytes) : Bytes :=
  match kind with
  | .walk =>
      let border := payload.length - trailerLength opcode
      normalPath (payload.take border) ++ payload.drop border
  | .handshakeResponse =>
      payload.take 1 ++ ((payload.drop 1).take 8).map (fun _ => 0) ++ payload.drop 9
  | .loginResponse => payload.take 2 ++ (payload.drop 2).map fun flag => if flag = 0 then 0 else 1
  | _ => payload

section Walk

variable {path trailer bytes rest : Bytes} {message : Message}

theorem offsetBytes_readOffsets :
    ∀ steps : Bytes, steps.length % 2 = 0 → offsetBytes (readOffsets steps) = steps
  | [], _ => rfl
  | [_], even => by cases even
  | x :: y :: rest, even => by
      have fewer : rest.length % 2 = 0 := by
        simp only [List.length_cons] at even
        omega
      rw [readOffsets, offsetBytes, List.flatMap_cons]
      exact congrArg (x :: y :: ·) (offsetBytes_readOffsets rest fewer)

/-- A path that is long enough has both ends. -/
theorem exists_path (long : 5 ≤ path.length) :
    ∃ lowX highX steps lowY highY flag, path = lowX :: highX :: steps ++ [lowY, highY, flag] := by
  obtain ⟨lowX, highX, front⟩ := List.length_eq_two.mp (show (path.take 2).length = 2 by simp; omega)
  obtain ⟨lowY, highY, flag, back⟩ :=
    List.length_eq_three.mp (show (path.drop (path.length - 3)).length = 3 by simp; omega)
  refine ⟨lowX, highX, (path.drop 2).take (path.length - 5), lowY, highY, flag, ?_⟩
  have whole := List.take_append_drop 2 path
  have middle := List.take_append_drop (path.length - 5) (path.drop 2)
  rw [List.drop_drop, show 2 + (path.length - 5) = path.length - 3 by omega, back] at middle
  rw [front, ← middle] at whole
  exact whole.symm

variable (lowX highX lowY highY flag : UInt8) (steps : Bytes)

/-- A path is read from both ends, and an odd number of bytes between them is refused. -/
theorem readPath_ends :
    readPath (lowX :: highX :: steps ++ [lowY, highY, flag]) trailer bytes =
      if steps.length % 2 = 1 then .error .oddOffsets
      else .ok (.walk
        { startX := Bytes.toUInt16 highX (lowX - 128)
          startY := Bytes.toUInt16 highY lowY
          offsets := readOffsets steps
          running := 0 - flag == 1
          trailer }, bytes) := by
  have size : (lowX :: highX :: steps ++ [lowY, highY, flag]).length = steps.length + 5 := by simp
  have back : (lowX :: highX :: steps ++ [lowY, highY, flag]).drop (steps.length + 5 - 3) =
      [lowY, highY, flag] := List.drop_left' (by simp)
  have middle : ((lowX :: highX :: steps ++ [lowY, highY, flag]).drop 2).take steps.length =
      steps := List.take_left' rfl
  rw [readPath, size, if_neg (by omega), Nat.add_sub_cancel, back, middle]
  split <;> rfl

theorem normalPath_ends :
    normalPath (lowX :: highX :: steps ++ [lowY, highY, flag]) =
      lowX :: highX :: steps ++ [lowY, highY, if flag = 255 then 255 else 0] := by
  have whole : lowX :: highX :: steps ++ [lowY, highY, flag] =
      (lowX :: highX :: steps ++ [lowY, highY]) ++ [flag] := by simp
  have size : (lowX :: highX :: steps ++ [lowY, highY, flag]).length - 1 =
      (lowX :: highX :: steps ++ [lowY, highY]).length := by simp
  rw [normalPath, size, whole, List.take_left, List.drop_left]
  simp

theorem length_normalPath (path : Bytes) : (normalPath path).length = path.length := by
  simp [normalPath]

/-- The running flag is set by one byte alone. -/
theorem running_flag : (0 - flag == 1) = decide (flag = 255) := by
  have negated : 0 - flag = 1 ↔ flag = 255 := by
    constructor <;> intro same
    · grind
    · subst same; rfl
  rw [Bool.eq_iff_iff, beq_iff_eq, decide_eq_true_iff, negated]

theorem readPath_normalPath (path trailer : Bytes) :
    readPath (normalPath path) trailer = readPath path trailer := by
  funext bytes
  by_cases long : 5 ≤ path.length
  · obtain ⟨lowX, highX, steps, lowY, highY, flag, rfl⟩ := exists_path long
    rw [normalPath_ends, readPath_ends, readPath_ends, running_flag, running_flag]
    by_cases set : flag = 255 <;> simp [set]
  · rw [readPath, readPath, if_pos (by rw [length_normalPath]; omega), if_pos (by omega)]

/-- A path that was read is the path of the route, up to its running flag. -/
theorem readPath_ok (read : readPath path trailer bytes = .ok (message, rest)) :
    ∃ route, message = .walk route ∧ route.trailer = trailer ∧ pathBytes route = normalPath path := by
  by_cases long : 5 ≤ path.length
  · obtain ⟨lowX, highX, steps, lowY, highY, flag, rfl⟩ := exists_path long
    rw [readPath_ends] at read
    split at read
    · cases read
    · next even =>
        cases read
        refine ⟨_, rfl, rfl, ?_⟩
        have firstX := Bytes.halves_toUInt16 highX (lowX - 128)
        have firstY := Bytes.halves_toUInt16 highY lowY
        simp only [Bytes.ofUInt16, List.cons.injEq, and_true] at firstX firstY
        have low : lowX - 128 + 128 = lowX := by grind
        rw [pathBytes, normalPath_ends, offsetBytes_readOffsets steps (by omega), firstX.1,
          firstX.2, firstY.1, firstY.2, running_flag, low]
        by_cases set : flag = 255
        · rw [if_pos set, if_pos (decide_eq_true set)]
          rfl
        · rw [if_neg set, if_neg (by simp [set])]
          rfl
  · rw [readPath, if_pos (by omega)] at read
    cases read

/-- A walk is read as a path and its trailer, if there are enough bytes for a trailer. -/
theorem readWalk_eq (opcode : UInt8) (payload : Bytes) :
    readWalk opcode payload =
      if payload.length < trailerLength opcode then .error .missingTrailer
      else readPath (payload.take (payload.length - trailerLength opcode))
        (payload.drop (payload.length - trailerLength opcode)) [] := by
  rw [readWalk, Reader.bind_eq (show Reader.rest _ = .ok (_, []) from rfl), trailerLength]
  by_cases minimap : opcode = minimapOpcode
  · rw [if_pos minimap, if_pos minimap]
    split <;> rfl
  · rw [if_neg minimap, if_neg minimap, if_neg (Nat.not_lt_zero _), Nat.sub_zero, List.take_length,
      List.drop_length]

theorem readWalk_ok {opcode : UInt8} {payload : Bytes}
    (read : readWalk opcode payload = .ok (message, rest)) :
    ∃ route, message = .walk route ∧ message.FitsOpcode opcode ∧
      message.payload = normal .walk opcode payload := by
  rw [readWalk_eq] at read
  split at read
  · cases read
  · next enough =>
      obtain ⟨route, rfl, trailer, path⟩ := readPath_ok read
      refine ⟨route, rfl, ?_, ?_⟩
      · rw [Message.FitsOpcode, trailer, List.length_drop, trailerLength]
        rw [trailerLength] at enough
        omega
      · rw [Message.payload, path, trailer, normal]

/-- A walk is read alike whatever spells its running flag. -/
theorem readWalk_normal (opcode : UInt8) (payload : Bytes) :
    readWalk opcode (normal .walk opcode payload) = readWalk opcode payload := by
  have border : (normalPath (payload.take (payload.length - trailerLength opcode))).length =
      payload.length - trailerLength opcode := by
    rw [length_normalPath, List.length_take, Nat.min_eq_left (Nat.sub_le _ _)]
  have size : (normal .walk opcode payload).length = payload.length := by
    rw [normal, List.length_append, border, List.length_drop]
    omega
  rw [readWalk_eq, readWalk_eq, size]
  split
  · rfl
  · rw [normal, List.take_left' border, List.drop_left' border, readPath_normalPath]

end Walk

/-- Nine words fill the archives of a login block. -/
theorem toList_ofFn_getD (words : List UInt32) (nine : words.length = 9) :
    (Vector.ofFn fun place : Fin 9 => words.getD place 0).toList = words := by
  apply List.ext_getElem
  · rw [Vector.length_toList, nine]
  · intro place inRange bound
    simp [bound]

/-- A message that was read off a payload: the opcode can carry it, and it can be written. -/
structure Spells (kind : Message.Kind) (opcode : UInt8) (payload : Bytes) (message : Message) :
    Prop where
  same : message.kind = kind
  fits : message.FitsOpcode opcode
  writable : ¬ message.Unwritable
  payload : message.payload = normal kind opcode payload

variable {opcode : UInt8} {payload : Bytes} {message : Message}

/-- A login block was read off its header, the count of the bytes behind it, and those bytes. -/
theorem readLogin_ok (read : readLogin opcode payload = .ok (message, [])) :
    ∃ block declared, message = .login block ∧ message.FitsOpcode opcode ∧
      (∀ text ∈ message.texts, Reader.terminator ∉ Bytes.ofText text) ∧
      payload = loginHeader block ++ declared :: block.tail ∧
      declared.toNat = block.tail.length := by
  obtain ⟨magic, bytes, first, read⟩ := Reader.bind_ok read
  obtain ⟨clientVersion, bytes, second, read⟩ := Reader.bind_ok read
  obtain ⟨detail, bytes, third, read⟩ := Reader.bind_ok read
  obtain ⟨checksums, bytes, archives, read⟩ := Reader.bind_ok read
  obtain ⟨declared, tail, count, read⟩ := Reader.bind_ok read
  obtain ⟨left, bytes, counted, read⟩ := Reader.bind_ok read
  cases counted
  dsimp only at read
  split at read
  · cases read
  · next agreed =>
      obtain ⟨operation, bytes, fourth, read⟩ := Reader.bind_ok read
      obtain ⟨sessionKeys, bytes, keys, read⟩ := Reader.bind_ok read
      obtain ⟨userId, bytes, user, read⟩ := Reader.bind_ok read
      obtain ⟨username, bytes, name, read⟩ := Reader.bind_ok read
      obtain ⟨password, bytes, word, read⟩ := Reader.bind_ok read
      cases read
      obtain ⟨nine, archives⟩ := Reader.words32_ok archives
      obtain ⟨four, keys⟩ := Reader.words32_ok keys
      obtain ⟨freeName, name⟩ := Reader.line_ok name
      obtain ⟨freeWord, word⟩ := Reader.line_ok word
      have behind : tail = operation :: sessionKeys.flatMap Bytes.ofUInt32 ++
          Bytes.ofUInt32 userId ++ Bytes.ofLine username ++ Bytes.ofLine password := by
        rw [Reader.byte_ok fourth, keys, Reader.word32_ok user, name, word]
        simp only [List.append_assoc, List.cons_append, List.append_nil]
      refine ⟨_, declared, rfl, ⟨four, by simp⟩, ?_, ?_, ?_⟩
      · intro text member
        simp only [Message.texts, List.mem_cons, List.not_mem_nil, or_false] at member
        rcases member with rfl | rfl
        · exact freeName
        · exact freeWord
      · rw [LoginBlock.tail, ← behind, loginHeader, toList_ofFn_getD checksums nine,
          Reader.byte_ok first, Reader.word16_ok second, Reader.byte_ok third, archives,
          Reader.byte_ok count]
        simp only [List.append_assoc, List.cons_append, List.nil_append]
      · rw [LoginBlock.tail, ← behind]
        exact not_not.mp agreed

theorem spells_login (read : readLogin opcode payload = .ok (message, [])) :
    Spells .login opcode payload message := by
  obtain ⟨block, declared, rfl, fits, free, whole, size⟩ := readLogin_ok read
  refine ⟨rfl, fits, ?_, ?_⟩
  · intro unwritable
    cases unwritable with
    | lineFeed text member found => exact free text member found
    | blockTooLong other same long =>
        cases same
        rw [← size] at long
        exact absurd declared.toNat_lt (by omega)
  · rw [Message.payload, ← size, UInt8.ofNat_toNat]
    exact whole.symm

/-- Only the bytes of the exchange may be others than those that are written. -/
theorem spells_handshakeResponse
    (decoded : handshakeResponse.decode opcode payload = .ok message) :
    Spells .handshakeResponse opcode payload message := by
  have read := Reader.read_of_message decoded
  obtain ⟨status, bytes, first, read⟩ := Reader.bind_ok read
  obtain ⟨left, bytes, second, read⟩ := Reader.bind_ok read
  obtain ⟨right, bytes, third, read⟩ := Reader.bind_ok read
  obtain ⟨high, bytes, fourth, read⟩ := Reader.bind_ok read
  obtain ⟨low, bytes, fifth, read⟩ := Reader.bind_ok read
  cases read
  rw [Reader.byte_ok first, Reader.word32_ok second, Reader.word32_ok third,
    Reader.word32_ok fourth, Reader.word32_ok fifth]
  refine ⟨rfl, trivial, not_unwritable rfl (by simp), ?_⟩
  rw [Message.payload, Bytes.halves_toUInt64]
  rfl

theorem spells_loginResponse (decoded : loginResponse.decode opcode payload = .ok message) :
    Spells .loginResponse opcode payload message := by
  have read := Reader.read_of_message decoded
  obtain ⟨code, bytes, first, read⟩ := Reader.bind_ok read
  obtain ⟨privilege, bytes, second, read⟩ := Reader.bind_ok read
  obtain ⟨flagged, bytes, third, read⟩ := Reader.bind_ok read
  cases read
  rw [Reader.byte_ok first, Reader.byte_ok second, Reader.byte_ok third]
  refine ⟨rfl, ResponseCode.canonical_ofValue code, not_unwritable rfl (by simp), ?_⟩
  rw [Message.payload, ResponseCode.value_ofValue]
  by_cases unset : flagged = 0 <;> simp [normal, unset]

theorem spells_chat (decoded : chat.decode opcode payload = .ok message) :
    Spells .chat opcode payload message := by
  have read := Reader.read_of_message decoded
  obtain ⟨effects, bytes, first, read⟩ := Reader.bind_ok read
  obtain ⟨color, text, second, read⟩ := Reader.bind_ok read
  obtain ⟨left, bytes, third, read⟩ := Reader.bind_ok read
  cases third
  cases read
  have undone (value : UInt8) : 128 - (128 - value) = value := by grind
  have restored : ((text.reverse.map (· - 128)).reverse.map (· + 128) : Bytes) = text := by
    simp only [List.map_reverse, List.reverse_reverse, List.map_map, Function.comp_def,
      UInt8.sub_add_cancel, List.map_id']
  rw [Reader.byte_ok first, Reader.byte_ok second]
  refine ⟨rfl, trivial, not_unwritable rfl (by simp), ?_⟩
  rw [Message.payload, undone, undone, restored]
  rfl

/-- A message that is one line is the line that was read. -/
theorem spells_line {kind : Message.Kind} {field : String} (make : String → Message)
    (made : ∀ text, (make text).kind = kind ∧ (make text).FitsOpcode opcode ∧
      (make text).texts = [text] ∧ (make text).payload = Bytes.ofLine text ∧
      ∀ block, make text ≠ .login block)
    (plain : normal kind opcode payload = payload)
    (decoded : Reader.message kind (make <$> Reader.line field) payload = .ok message) :
    Spells kind opcode payload message := by
  obtain ⟨text, read, rfl⟩ := Reader.map_ok (Reader.read_of_message decoded)
  obtain ⟨free, same⟩ := Reader.line_ok read
  obtain ⟨kind, fits, texts, written, other⟩ := made text
  refine ⟨kind, fits, ?_, ?_⟩
  · intro unwritable
    cases unwritable with
    | lineFeed found member broken =>
        rw [texts] at member
        cases List.mem_singleton.mp member
        exact free broken
    | blockTooLong block login => exact other block login
  · rw [written, plain, same, List.append_nil]

/-- Whatever a codec reads can be written, and is written as what was read up to the bytes that do
not matter. -/
theorem spells_of_decode (kind : Message.Kind)
    (decoded : (ofKind kind).decode opcode payload = .ok message) :
    Spells kind opcode payload message := by
  cases kind with
  | handshake =>
      obtain ⟨nameHash, read, rfl⟩ := Reader.map_ok (Reader.read_of_message decoded)
      rw [Reader.byte_ok read]
      exact ⟨rfl, trivial, not_unwritable rfl (by simp), rfl⟩
  | login => exact spells_login (Reader.read_of_message decoded)
  | ping =>
      cases Reader.read_of_message decoded
      exact ⟨rfl, trivial, not_unwritable rfl (by simp), rfl⟩
  | chat => exact spells_chat decoded
  | walk =>
      obtain ⟨route, rfl, fits, same⟩ := readWalk_ok (Reader.read_of_message decoded)
      exact ⟨rfl, fits, not_unwritable rfl (by simp), same⟩
  | command =>
      exact spells_line .command (fun text => ⟨rfl, trivial, rfl, rfl, by simp⟩) rfl decoded
  | handshakeResponse => exact spells_handshakeResponse decoded
  | loginResponse => exact spells_loginResponse decoded
  | serverChat =>
      exact spells_line .serverChat (fun text => ⟨rfl, trivial, rfl, rfl, by simp⟩) rfl decoded

theorem decode_cases (kind : Message.Kind) (opcode : UInt8) (payload : Bytes) :
    (∃ message, (ofKind kind).decode opcode payload = .ok message) ∨
      ∃ fault, (ofKind kind).decode opcode payload = .error (.malformed kind fault) := by
  cases kind <;> exact Reader.message_cases _ _ payload

/-- Nothing but the size of the exchange is looked at. -/
theorem decode_exchange (opcode status : UInt8) (bytes : Bytes) :
    handshakeResponse.decode opcode
        (status :: ((bytes.take 8).map (fun _ => 0) ++ bytes.drop 8)) =
      handshakeResponse.decode opcode (status :: bytes) := by
  have size : ((bytes.take 8).map (fun _ => (0 : UInt8)) ++ bytes.drop 8).length = bytes.length := by
    simp
    omega
  refine Reader.message_congr _ ?_
  rw [Reader.bind_eq (Reader.byte_cons _ _ _), Reader.bind_eq (Reader.byte_cons _ _ _)]
  simp only [Reader.skip_word32, size, List.length_drop]
  split
  · rfl
  · split
    · rfl
    · rw [List.drop_drop, List.drop_drop, List.drop_left' (by simp; omega)]

theorem decode_flagged (opcode : UInt8) (payload : Bytes) :
    loginResponse.decode opcode (normal .loginResponse opcode payload) =
      loginResponse.decode opcode payload := by
  match payload with
  | [] | [_] | [_, _] => rfl
  | [code, privilege, flagged] =>
      have read (byte : UInt8) : loginResponse.decode opcode [code, privilege, byte] =
          .ok (.loginResponse ⟨.ofValue code, privilege, byte != 0⟩) := rfl
      have flag : ((if flagged = 0 then 0 else 1 : UInt8) != 0) = (flagged != 0) := by
        by_cases unset : flagged = 0 <;> simp [unset]
      rw [read, ← flag]
      exact read _
  | code :: privilege :: flagged :: more :: rest =>
      have refused (byte other : UInt8) (bytes : Bytes) :
          loginResponse.decode opcode (code :: privilege :: byte :: other :: bytes) =
            .error (.malformed .loginResponse (.trailing (bytes.length + 1))) := rfl
      rw [refused, ← List.length_map fun flag : UInt8 => if flag = 0 then (0 : UInt8) else 1]
      exact refused _ _ _

/-- The bytes that do not matter are not looked at. -/
theorem decode_normal (kind : Message.Kind) (opcode : UInt8) (payload : Bytes) :
    (ofKind kind).decode opcode (normal kind opcode payload) =
      (ofKind kind).decode opcode payload := by
  cases kind with
  | handshake | login | ping | chat | command | serverChat => rfl
  | walk => exact Reader.message_congr _ (readWalk_normal opcode payload)
  | handshakeResponse =>
      cases payload with
      | nil => rfl
      | cons status bytes => exact decode_exchange opcode status bytes
  | loginResponse => exact decode_flagged opcode payload

/-- A codec reads a payload as a message of its own kind, or finds it malformed. It reads exactly the
payloads that it writes, up to the bytes that do not matter, and reads those as what it was given to
write. -/
theorem decode_eq_ok_iff (kind : Message.Kind) (opcode : UInt8) (payload : Bytes) :
    ((∃ message, (ofKind kind).decode opcode payload = .ok message ∧ message.kind = kind) ∨
        ∃ fault, (ofKind kind).decode opcode payload = .error (.malformed kind fault)) ∧
      (∀ message, (ofKind kind).decode opcode payload = .ok message ↔
        message.kind = kind ∧ message.FitsOpcode opcode ∧
          ∀ written, ((ofKind kind).encode message).run written =
            .ok () (written ++ normal kind opcode payload)) ∧
      (ofKind kind).decode opcode (normal kind opcode payload) =
        (ofKind kind).decode opcode payload := by
  refine ⟨?_, ?_, decode_normal kind opcode payload⟩
  · rcases decode_cases kind opcode payload with ⟨message, decoded⟩ | malformed
    · exact .inl ⟨message, decoded, (spells_of_decode kind decoded).same⟩
    · exact .inr malformed
  · intro message
    constructor
    · intro decoded
      obtain ⟨same, fits, writable, spelled⟩ := spells_of_decode kind decoded
      subst same
      refine ⟨rfl, fits, fun written => ?_⟩
      rcases writes_ofKind message written with ⟨unwritable, _⟩ | ⟨_, run⟩
      · exact absurd unwritable writable
      · rw [run, spelled]
    · rintro ⟨same, fits, writes⟩
      subst same
      rcases writes_ofKind message [] with ⟨_, error, after, refused⟩ | ⟨writable, run⟩
      · rw [writes] at refused
        cases refused
      · rw [writes] at run
        have spelled : normal message.kind opcode payload = message.payload := by
          simpa using run
        rw [← decode_normal, spelled]
        exact decode_payload opcode message fits writable

end PayloadCodec

end GameServer
