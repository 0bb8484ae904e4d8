import GameServer.Commands
import GameServer.Proofs.Framer.Messages
import GameServer.Proofs.Login.Opening
import GameServer.Proofs.Payload.Grammar
import GameServer.Proofs.Text.Encoding

/- This file shows which commands are answered. -/

namespace GameServer

/-- The words that a command may begin with. -/
def commandWords : List String := ["help", "whoami", "echo"]

/-- The answer to a command fits into a frame. Only the name of a player and a word that is not
known can be too long for the words around them. -/
structure Answerable (player : Option Player) (line : String) : Prop where
  named : ∀ someone rest, player = some someone → Text.words line = "whoami" :: rest →
    (Bytes.ofText someone.username).length +
      (Bytes.ofText (toString someone.userId.toNat)).length ≤ 240
  known : ∀ word rest, Text.words line = word :: rest → word ∉ commandWords →
    (Bytes.ofText word).length ≤ 237

/-- The name in a login block can be written as a line. -/
theorem PayloadCodec.username_ok {opcode : UInt8} {payload : Bytes} {block : LoginBlock}
    (decoded : login.decode opcode payload = .ok (.login block)) :
    Reader.terminator ∉ Bytes.ofText block.username := by
  obtain ⟨other, _, same, _, free, _⟩ := readLogin_ok (Reader.read_of_message decoded)
  cases same
  exact free block.username List.mem_cons_self

theorem PayloadCodec.command_decode (opcode : UInt8) (line : String)
    (free : Reader.terminator ∉ Bytes.ofText line) :
    command.decode opcode (Bytes.ofLine line) = .ok (.command line) := decode_line free

/-- The sample reads back from its own payload. -/
theorem PayloadCodec.decode_loginSample :
    login.decode 16 (Message.login loginSample).payload = .ok (.login loginSample) := by
  refine decode_payload 16 (.login loginSample) ⟨rfl, by decide⟩ fun unwritable => ?_
  cases unwritable with
  | lineFeed text member found =>
      have free : ∀ text ∈ (Message.login loginSample).texts,
          Reader.terminator ∉ Bytes.ofText text := by decide
      exact free text member found
  | blockTooLong block same long =>
      cases same
      exact absurd long (by decide)

section Reply

variable {player : Option Player} {line : String}

theorem commandReply_named {someone : Player} {rest : List String}
    (found : Text.words line = "whoami" :: rest) :
    commandReply (some someone) line =
      "You are " ++ someone.username ++ " (id " ++ toString someone.userId.toNat ++ ")" := by
  simp [commandReply, found]

theorem commandReply_unknown {word : String} {rest : List String}
    (found : Text.words line = word :: rest) (unknown : word ∉ commandWords) :
    commandReply player line = "Unknown command: " ++ word := by
  simp only [commandWords, List.mem_cons, List.not_mem_nil, or_false, not_or] at unknown
  simp [commandReply, found, unknown]

/-- An answer can be written as a line. -/
theorem terminator_notMem_commandReply
    (named : ∀ someone ∈ player, Reader.terminator ∉ Bytes.ofText someone.username) :
    Reader.terminator ∉ Bytes.ofText (commandReply player line) := by
  have solid (word : String) (member : word ∈ Text.words line) := Text.terminator_notMem_word member
  unfold commandReply
  split
  · decide
  · decide
  · split
    · next someone =>
        have name := named someone rfl
        have number := Text.terminator_notMem_toString someone.userId.toNat
        simp only [Bytes.ofText_append, List.mem_append, not_or]
        exact ⟨⟨⟨⟨by decide, name⟩, by decide⟩, number⟩, by decide⟩
    · decide
  · next rest found =>
      apply Text.terminator_notMem_intercalate
      intro piece member
      exact solid piece (found ▸ List.mem_cons_of_mem _ member)
  · next word rest _ _ _ found =>
      rw [Bytes.ofText_append, List.mem_append, not_or]
      exact ⟨by decide, solid word (found ▸ List.mem_cons_self)⟩

theorem length_named (name number : String) :
    (Bytes.ofText ("You are " ++ name ++ " (id " ++ number ++ ")")).length =
      (Bytes.ofText name).length + (Bytes.ofText number).length + 14 := by
  have front : (Bytes.ofText "You are ").length = 8 := by decide
  have middle : (Bytes.ofText " (id ").length = 5 := by decide
  have back : (Bytes.ofText ")").length = 1 := by decide
  simp only [Bytes.ofText_append, List.length_append, front, middle, back]
  omega

theorem length_unknown (word : String) :
    (Bytes.ofText ("Unknown command: " ++ word)).length = (Bytes.ofText word).length + 17 := by
  have front : (Bytes.ofText "Unknown command: ").length = 17 := by decide
  rw [Bytes.ofText_append, List.length_append, front, Nat.add_comm]

/-- What is echoed is shorter than the command. -/
theorem length_echo {rest : List String} (found : Text.words line = "echo" :: rest) :
    (Bytes.ofText (" ".intercalate rest)).length ≤ (Bytes.ofText line).length := by
  have words := Text.sum_length_words line
  have joined := Text.length_intercalate_le rest
  rw [found, List.map_cons, List.sum_cons] at words
  omega

theorem length_commandReply_le_iff (player : Option Player)
    (short : (Bytes.ofText line).length ≤ 254) :
    (Bytes.ofText (commandReply player line)).length ≤ 254 ↔ Answerable player line := by
  constructor
  · intro fits
    constructor
    · intro someone rest same found
      rw [same, commandReply_named found, length_named] at fits
      omega
    · intro word rest found unknown
      rw [commandReply_unknown found unknown, length_unknown] at fits
      omega
  · intro answerable
    unfold commandReply
    split
    · decide
    · decide
    · next rest found =>
        split
        · next someone =>
            have named := answerable.named someone rest rfl found
            rw [length_named]
            omega
        · decide
    · next rest found => exact Nat.le_trans (length_echo found) short
    · next word rest notHelp notWhoami notEcho found =>
        have known := answerable.known word rest found
          (by simpa [commandWords] using ⟨notHelp, notWhoami, notEcho⟩)
        rw [length_unknown]
        omega

end Reply

namespace Framer

variable {framer : Framer} {line : String}

/-- A line of chat is put into a frame in the game. -/
theorem encode_serverChat (inGame : framer.table = .game)
    (free : Reader.terminator ∉ Bytes.ofText line) :
    encode (.serverChat line) (framer, []) =
      putFrame 253 (.declared .byte) (Bytes.ofLine line) (framer, []) := by
  have bound : framer.table.lookupKind (Message.serverChat line).kind =
      .ok (Writes.entry ⟨.framed 253 (.declared .byte), .serverChat⟩) := by
    rw [inGame]
    rfl
  have written : (PayloadCodec.serverChat.encode (.serverChat line)).run [] =
      .ok () (Bytes.ofLine line) := Writer.line_ok .serverChat line [] free
  simp only [encode, bound, Writes.entry, written]

theorem encodes_serverChat (inGame : framer.table = .game)
    (free : Reader.terminator ∉ Bytes.ofText line) (fits : (Bytes.ofText line).length ≤ 254) :
    framer.Encodes (.serverChat line) := by
  have obeyed : (LengthRule.declared .byte).check 253 (Bytes.ofLine line).length = .ok () := by
    rw [Bytes.length_ofLine]
    exact if_neg (show ¬ 255 < (Bytes.ofText line).length + 1 by omega)
  simp only [Encodes, encode_serverChat inGame free, putFrame, obeyed]
  exact ⟨_, rfl⟩

theorem encode_serverChat_long (inGame : framer.table = .game)
    (free : Reader.terminator ∉ Bytes.ofText line) (long : 254 < (Bytes.ofText line).length) :
    encode (.serverChat line) (framer, []) =
      .error (.payloadTooLong 253 (Bytes.ofLine line).length 255) (framer, []) := by
  have refused : (LengthRule.declared .byte).check 253 (Bytes.ofLine line).length =
      .error (.payloadTooLong 253 (Bytes.ofLine line).length 255) := by
    rw [Bytes.length_ofLine]
    exact if_pos (show 255 < (Bytes.ofText line).length + 1 by omega)
  simp only [encode_serverChat inGame free, putFrame, refused]

end Framer

namespace Session

variable {session next : Session} {message : Message} {error : SessionError}

/-- A message that can be encoded fails to be sent only with the pipe. -/
theorem send_error_of_encodes (opened : session.isClosed = false)
    (encodes : session.framer.Encodes message)
    (failed : sendAll [message] session = .error error next) :
    error = .transport .writeFailed ∨ error = .transport .flushFailed := by
  obtain ⟨⟨after, bytes⟩, encoded⟩ := encodes
  rcases andThen_error failed with refused | ⟨middle, queued, stuck⟩
  · obtain ⟨cause, refused, _⟩ := queueAll_error [message] session next error opened refused
    simp only [Framer.encodeAll, encoded] at refused
    cases refused
  · obtain ⟨_, _, kept, _⟩ := queueAll_ok [message] session middle queued
    have flushes := middle.flushes (kept.isClosed.trans opened)
    rw [stuck] at flushes
    cases flushes with
    | stuck => exact .inl rfl
    | unsent => exact .inr rfl

theorem send_of_refused {cause : ProtocolError} (opened : session.isClosed = false)
    (refused : Framer.encode message (session.framer, []) = .error cause (session.framer, [])) :
    sendAll [message] session = .error (.protocol cause) session := by
  rw [← send_eq, send, Action.andThen, queue, whileOpen_of_open _ session opened]
  simp only [refused]

/-- The answer to a command is sent unless the pipe fails, if it fits. Any other answer is refused as
too long, and nothing of it is written. -/
theorem answers_command {player : Option Player} {opcode : UInt8} {payload : Bytes} {line : String}
    (opened : session.isClosed = false) (inGame : session.framer.table = .game)
    (named : ∀ someone ∈ player, ∃ opcode payload block,
      PayloadCodec.login.decode opcode payload = .ok (.login block) ∧
        someone.username = block.username)
    (heard : PayloadCodec.command.decode opcode payload = .ok (.command line))
    (short : payload.length ≤ 255) :
    let reply := Message.serverChat (commandReply player line)
    Handler.command.replies session.info player (.command line) = [reply] ∧
      (Answerable player line → session.framer.Encodes reply ∧
        ∀ error next, sendAll [reply] session = .error error next →
          error = .transport .writeFailed ∨ error = .transport .flushFailed) ∧
      (¬ Answerable player line → sendAll [reply] session =
        .error (.protocol (.payloadTooLong 253 (Bytes.ofLine (commandReply player line)).length 255))
          session) := by
  intro reply
  have free : Reader.terminator ∉ Bytes.ofText (commandReply player line) := by
    apply terminator_notMem_commandReply
    intro someone member
    obtain ⟨_, _, block, decoded, same⟩ := named someone member
    rw [same]
    exact PayloadCodec.username_ok decoded
  have fits : (Bytes.ofText line).length ≤ 254 := by
    obtain ⟨text, read, same⟩ := Reader.map_ok (Reader.read_of_message heard)
    cases same
    rw [(Reader.line_ok read).2, List.append_nil, Bytes.length_ofLine] at short
    exact Nat.le_of_lt_succ short
  have answerable := length_commandReply_le_iff player fits
  refine ⟨rfl, fun able => ?_, fun unable => ?_⟩
  · have encodes := Framer.encodes_serverChat inGame free (answerable.mpr able)
    exact ⟨encodes, fun error next failed => send_error_of_encodes opened encodes failed⟩
  · have long : 254 < (Bytes.ofText (commandReply player line)).length :=
      Nat.lt_of_not_le fun fits => unable (answerable.mp fits)
    exact send_of_refused opened (Framer.encode_serverChat_long inGame free long)

/-- The session of a player in the game. -/
def gameSample : Session :=
  { Session.start ⟨1, none⟩ .fresh (.ciphered .game Framer.defaultLimit (.server loginKeys)) 0 with
    phase := .inGame }

theorem answers_whoami :
    let player : Player := ⟨loginSample.userId, loginSample.username, 0, false, 1⟩
    gameSample.isClosed = false ∧ gameSample.framer.table = .game ∧
      PayloadCodec.login.decode 16 (Message.login loginSample).payload = .ok (.login loginSample) ∧
      PayloadCodec.command.decode 103 (Bytes.ofLine "whoami") = .ok (.command "whoami") ∧
      (Bytes.ofLine "whoami").length ≤ 255 ∧ Answerable (some player) "whoami" ∧
      gameSample.framer.Encodes (.serverChat (commandReply (some player) "whoami")) := by
  intro player
  have opened : gameSample.isClosed = false := rfl
  have inGame : gameSample.framer.table = .game := rfl
  have login := PayloadCodec.decode_loginSample
  have command := PayloadCodec.command_decode 103 "whoami" (by decide)
  have named : ∀ someone ∈ some player, ∃ opcode payload block,
      PayloadCodec.login.decode opcode payload = .ok (.login block) ∧
        someone.username = block.username := by
    intro someone member
    cases member
    exact ⟨16, _, loginSample, login, rfl⟩
  have words : Text.words "whoami" = ["whoami"] := by decide +kernel
  have able : Answerable (some player) "whoami" := by
    constructor
    · intro someone rest same _
      cases same
      decide
    · intro word rest found unknown
      rw [words] at found
      cases found
      exact absurd (by decide) unknown
  have answers := answers_command opened inGame named command (by decide)
  exact ⟨opened, inGame, login, command, by decide, able, (answers.2.1 able).1⟩

/-- The name of no command is so long, and the client is told nothing. -/
theorem long_word_unanswered :
    let line := String.ofList (List.replicate 238 'x')
    PayloadCodec.command.decode 103 (Bytes.ofLine line) = .ok (.command line) ∧
      (Bytes.ofLine line).length = 239 ∧
      sendAll (Handler.command.replies gameSample.info none (.command line)) gameSample =
        .error (.protocol (.payloadTooLong 253 256 255)) gameSample := by
  intro line
  have long : (Bytes.ofText line).length = 238 := by
    rw [Text.length_ofText, String.toList_ofList]
    decide +kernel
  have words : Text.words line = [line] := by
    rw [Text.words, String.toList_ofList]
    decide +kernel
  have solid := Text.terminator_notMem_word (words ▸ List.mem_singleton_self line)
  have unknown : line ∉ commandWords := by
    intro member
    have short : ∀ word ∈ commandWords, (Bytes.ofText word).length ≤ 6 := by decide
    have := short line member
    omega
  have reply : commandReply none line = "Unknown command: " ++ line :=
    commandReply_unknown words unknown
  have free : Reader.terminator ∉ Bytes.ofText (commandReply none line) :=
    terminator_notMem_commandReply nofun
  have size : (Bytes.ofText (commandReply none line)).length = 255 := by
    rw [reply, length_unknown, long]
  have whole : (Bytes.ofLine (commandReply none line)).length = 256 := by
    rw [Bytes.length_ofLine, size]
  refine ⟨PayloadCodec.command_decode 103 line solid, ?_, ?_⟩
  · rw [Bytes.length_ofLine, long]
  · have inGame : gameSample.framer.table = .game := rfl
    have refused := Framer.encode_serverChat_long inGame free (by omega)
    rw [whole] at refused
    exact send_of_refused rfl refused

end Session

end GameServer
