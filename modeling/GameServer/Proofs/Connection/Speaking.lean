import GameServer.Proofs.Connection.Service
import GameServer.Proofs.Framer.Duplex
import GameServer.Proofs.Payload.Fields
import GameServer.Proofs.Session.Written

/- This file shows what a session says in the game and at its end. -/

namespace GameServer

/-- A line that fits into a frame. -/
def Sayable (line : String) : Prop :=
  Reader.terminator ∉ Bytes.ofText line ∧ (Bytes.ofLine line).length ≤ 255

/-- Lines of chat as they are written: each has an opcode that the next byte of the stream hides, its
length and its text. -/
def chatFrames (stream : Isaac) : List String → Bytes
  | [] => []
  | line :: rest =>
      (253 + stream.nextByte.1) :: UInt8.ofNat (Bytes.ofLine line).length ::
        (Bytes.ofLine line ++ chatFrames stream.nextByte.2 rest)

theorem chatFrames_append (stream : Isaac) (first second : List String) :
    chatFrames stream (first ++ second) =
      chatFrames stream first ++ chatFrames (stream.take first.length).2 second := by
  induction first generalizing stream with
  | nil => rfl
  | cons line rest ih =>
      rw [List.cons_append, chatFrames, chatFrames, ih, List.cons_append, List.cons_append,
        List.append_assoc]
      rfl

namespace Framer

/-- In the game only a line of chat can be written. -/
theorem encode_game {limit : Nat} {pair : KeystreamPair} {message : Message} {next : Framer}
    {bytes : Bytes}
    (accepted : encode message (ciphered .game limit pair, []) = .ok () (next, bytes)) :
    ∃ line, message = .serverChat line ∧ Sayable line ∧ bytes = chatFrames pair.outgoing [line] ∧
      next = ciphered .game limit (pair.skipOutgoing 1) := by
  obtain ⟨binding, payload, found, written, framing⟩ := encode_ok message _ _ accepted
  have bound := Duplex.game_outbound message.kind binding found
  have kind : Message.Kind.serverChat = message.kind := by
    have named := Table.kind_of_findKind? _ _ _ found
    rw [bound] at named
    exact named
  obtain ⟨line, rfl⟩ : ∃ line, message = .serverChat line := by
    cases message with
    | serverChat line => exact ⟨line, rfl⟩
    | handshake | login | handshakeResponse | loginResponse => cases kind
    | ping | chat | walk | command => cases kind
  rw [bound] at written framing
  have free : Reader.terminator ∉ Bytes.ofText line := by
    intro broken
    have refused := Writer.line_error .serverChat line [] broken
    cases written.symm.trans refused
  have whole : Bytes.ofLine line = payload := by
    have said := Writer.line_ok .serverChat line [] free
    cases written.symm.trans said
    rfl
  obtain ⟨obeyed, final⟩ := putFrame_ok _ _ _ _ _ framing
  rw [hide_ciphered _ pair _ rfl, Prod.mk.injEq] at final
  obtain ⟨framer, frame⟩ := final
  have short : payload.length ≤ 255 := by
    apply Nat.le_of_not_lt
    intro long
    have refused : (LengthRule.declared .byte).check 253 payload.length =
        .error (.payloadTooLong 253 payload.length 255) := if_pos long
    cases refused.symm.trans obeyed
  subst whole
  refine ⟨line, rfl, ⟨free, short⟩, ?_, framer⟩
  rw [frame, chatFrames, chatFrames, List.append_nil]
  rfl

/-- Lines of chat are written one after another, and nothing else can be written in the game. -/
theorem encodeAll_game {limit : Nat} {pair : KeystreamPair} {messages : List Message}
    {last : Framer} {bytes : Bytes}
    (accepted : (ciphered .game limit pair).encodeAll messages = .ok (last, bytes)) :
    ∃ lines, messages = lines.map .serverChat ∧ (∀ line ∈ lines, Sayable line) ∧
      bytes = chatFrames pair.outgoing lines ∧
      last = ciphered .game limit (pair.skipOutgoing lines.length) := by
  induction messages generalizing pair bytes with
  | nil =>
      cases accepted
      exact ⟨[], rfl, List.forall_mem_nil _, rfl, rfl⟩
  | cons message rest ih =>
      obtain ⟨middle, front, more, encoded, others, rfl⟩ := encodeAll_cons_ok accepted
      obtain ⟨line, rfl, sayable, first, rfl⟩ := encode_game encoded
      obtain ⟨lines, rfl, all, later, rfl⟩ := ih others
      refine ⟨line :: lines, rfl, List.forall_mem_cons.mpr ⟨sayable, all⟩, ?_, ?_⟩
      · rw [first, later]
        exact (chatFrames_append pair.outgoing [line] lines).symm
      · rw [← KeystreamPair.skipOutgoing_add, List.length_cons, Nat.add_comm]

end Framer

namespace Session

/-- A session in a phase that has written these bytes and goes on writing as this framer does. -/
structure Speaks (info : SessionInfo) (serverKey : UInt64) (phase : Phase) (framer : Framer)
    (written : Bytes) (session : Session) : Prop where
  info : session.info = info
  serverKey : session.serverKey = serverKey
  phase : session.phase = phase
  like : framer.WritesLike session.framer
  queued : session.queued.toList = []
  written : session.pipe.written.toList = written
  clean : session.pipe.Clean

section Speaks

variable {info : SessionInfo} {serverKey : UInt64} {phase : Phase} {framer : Framer}
  {written : Bytes} {session next : Session} {messages : List Message} {error : SessionError}

theorem Speaks.onPipe (speaks : Speaks info serverKey phase framer written session) (pipe : Pipe)
    (same : pipe.written = session.pipe.written) (clean : pipe.Clean) :
    Speaks info serverKey phase framer written { session with pipe } :=
  ⟨speaks.info, speaks.serverKey, speaks.phase, speaks.like, speaks.queued,
    (congrArg _ same).trans speaks.written, clean⟩

/-- A read does not change what a session says. -/
theorem Speaks.read (speaks : Speaks info serverKey phase framer written session)
    (kept : KeptByRead session next) (like : session.framer.WritesLike next.framer) :
    Speaks info serverKey phase framer written next where
  info := kept.info.trans speaks.info
  serverKey := kept.serverKey.trans speaks.serverKey
  phase := kept.phase.trans speaks.phase
  like := speaks.like.trans like
  queued := by rw [kept.queued, speaks.queued]
  written := by rw [kept.written, speaks.written]
  clean := speaks.clean.of_eq kept.writeFault

theorem Hears.read {since limit now : Nat} {hearing : Hearing}
    (hears : Hears session since limit now hearing next) :
    KeptByRead session next ∧ session.framer.WritesLike next.framer := by
  cases hears with
  | message message next settles accepted => exact ⟨settles.kept, settles.decodes.writesLike⟩
  | failed error next fails => exact fails.read
  | waiting next continues => exact ⟨continues.kept, continues.leads.writesLike⟩
  | ended next continues => exact ⟨continues.kept, continues.leads.writesLike⟩
  | late next continues => exact ⟨continues.kept, continues.leads.writesLike⟩

/-- Whatever an open session hears, it has said the same as before. -/
theorem Speaks.hear (speaks : Speaks info serverKey phase framer written session)
    (going : phase ≠ .closed) (since limit now : Nat) :
    Speaks info serverKey phase framer written (session.hear since limit now).2 ∧
      (session.hear since limit now).2.pipe.written.toList = session.pipe.written.toList ∧
      (session.hear since limit now).2.pipe.writeFault = session.pipe.writeFault := by
  have opened := isClosed_of_phase speaks.phase going
  obtain ⟨kept, like⟩ := (session.hears_hear since limit now opened).read
  exact ⟨speaks.read kept like, congrArg _ kept.written, kept.writeFault⟩

/-- Messages that are sent are said behind what was said before. -/
theorem Speaks.sendAll (speaks : Speaks info serverKey phase framer written session)
    (sent : Session.sendAll messages session = .ok () next) :
    ∃ after bytes, framer.encodeAll messages = .ok (after, bytes) ∧
      Speaks info serverKey phase after (written ++ bytes) next := by
  obtain ⟨bytes, encoded, kept, queued, more⟩ := sendAll_ok _ session next speaks.queued sent
  rcases speaks.like.encodeAll messages with ⟨error, _, failed⟩ |
    ⟨after, last, same, accepted, other, like⟩
  · rw [encoded] at failed
    cases failed
  · rw [encoded] at other
    cases other
    refine ⟨after, bytes, accepted, kept.info.trans speaks.info,
      kept.serverKey.trans speaks.serverKey, kept.phase.trans speaks.phase, like, queued, ?_,
      speaks.clean.of_eq kept.writeFault⟩
    rw [more, speaks.written]

/-- Why these bytes are not sent: none of them is written, or all of them are and the flush behind
them fails. -/
inductive Falters (session : Session) (bytes : Bytes) : SessionError → Session → Prop where
  | silent (error : SessionError) (next : Session) (untold : error.refusal? = none)
      (same : next.pipe.written.toList = session.pipe.written.toList) :
      Falters session bytes error next
  | unsent (middle next : Session)
      (same : middle.pipe.written.toList = session.pipe.written.toList)
      (failed : middle.flush = .error (.transport .flushFailed) next)
      (whole : next.pipe.written.toList = session.pipe.written.toList ++ bytes) :
      Falters session bytes (.transport .flushFailed) next

theorem Falters.untold {bytes : Bytes} (falters : Falters session bytes error next) :
    error.refusal? = none := by
  cases falters with
  | silent error next untold => exact untold
  | unsent => rfl

/-- What is encoded is these bytes, so nothing else is written. -/
theorem Speaks.falters {bytes : Bytes}
    (speaks : Speaks info serverKey phase framer written session) (going : phase ≠ .closed)
    (encodes : ∀ after other, framer.encodeAll messages = .ok (after, other) → other = bytes)
    (refused : Session.sendAll messages session = .error error next) :
    Falters session bytes error next := by
  have opened := isClosed_of_phase speaks.phase going
  rcases andThen_error refused with failed | ⟨middle, queued, failed⟩
  · obtain ⟨cause, _, rfl, pipe⟩ := queueAll_error messages session next error opened failed
    exact .silent _ _ rfl (by rw [pipe])
  · obtain ⟨other, encoded, kept, pipe, waiting⟩ := queueAll_ok messages session middle queued
    have flushes := middle.flushes (kept.isClosed.trans opened)
    rw [failed] at flushes
    cases flushes with
    | stuck taken fault =>
        rw [pipe] at fault
        refine .silent _ _ rfl ?_
        rw [ByteQueue.toList_push, speaks.clean taken fault, List.take_zero, List.append_nil, pipe]
    | unsent written queued whole taken empty fault =>
        refine .unsent middle _ (by rw [pipe]) failed ?_
        rcases speaks.like.encodeAll messages with ⟨_, _, broken⟩ | ⟨after, _, _, mine, same, _⟩
        · rw [encoded] at broken
          cases broken
        · rw [encoded] at same
          cases same
          rw [whole, pipe, waiting, speaks.queued, encodes after other mine, List.nil_append]

/-- Before the game a refusal is written in full, unless the write fails. -/
theorem Speaks.conclude {limit : Nat} {code : ResponseCode}
    (speaks : Speaks info serverKey phase (.plain .login limit) written session)
    (going : phase ≠ .closed) (told : error.refusal? = some code) :
    (session.conclude (.error error)).pipe.written.toList =
      written ++ if session.pipe.writeFault.isSome then [] else loginAnswer code := by
  have opened := isClosed_of_phase speaks.phase going
  have encoded := Framer.encodeAll_loginResponse limit code
  have refusal : LoginReply.refusal code = ⟨code, 0, false⟩ := rfl
  have same : (session.conclude (.error error)).pipe.written =
      (after (Session.sendAll [.loginResponse ⟨code, 0, false⟩] session)).pipe.written := by
    rw [Session.conclude, told]
    dsimp only
    rw [send_eq, refusal]
    split
    · next last sent => rw [sent, (close_pipe last).1, after]
    · next cause last sent => rw [sent, (close_pipe last).1, after]
  rw [same, Session.sendAll, Action.andThen]
  rcases speaks.like.encodeAll [.loginResponse ⟨code, 0, false⟩] with ⟨_, refused, _⟩ |
    ⟨_, last, bytes, mine, other, _⟩
  · rw [encoded] at refused
    cases refused
  rw [encoded] at mine
  cases mine
  cases queued : queueAll [.loginResponse ⟨code, 0, false⟩] session with
  | error cause next =>
      obtain ⟨_, refused, _⟩ := queueAll_error _ session next cause opened queued
      rw [other] at refused
      cases refused
  | ok value middle =>
      obtain ⟨bytes, accepted, kept, pipe, waiting⟩ := queueAll_ok _ session middle queued
      rw [other] at accepted
      cases accepted
      rw [speaks.queued, List.nil_append] at waiting
      have full : middle.queued.toList ≠ [] := by
        rw [waiting]
        exact List.cons_ne_nil _ _
      have flushes := middle.flushes (kept.isClosed.trans opened)
      dsimp only
      generalize middle.flush = result at flushes
      rw [← speaks.written, ← pipe]
      cases flushes with
      | sent written queued whole taken | unsent written queued whole taken =>
          rw [after, whole, waiting, taken.resolve_left full]
          rfl
      | stuck taken fault =>
          rw [after, ByteQueue.toList_push, fault, speaks.clean taken (pipe ▸ fault)]
          rfl

/-- What a connection has written in its last move, if it does not tell a refusal there. -/
inductive Hushed (before after : Session) (result : Except SessionError Unit) : Prop where
  | quiet (same : after.pipe.written.toList = before.pipe.written.toList)
  /-- The flush has failed behind it. -/
  | unsent (middle last : Session) (failure : result = .error (.transport .flushFailed))
      (same : middle.pipe.written.toList = before.pipe.written.toList)
      (failed : middle.flush = .error (.transport .flushFailed) last)
      (rest : after.pipe.written.toList = last.pipe.written.toList)

/-- What a session says when it ends with a result: a refusal follows the answer to the handshake,
unless the write fails, and nothing follows any other result. -/
structure Concludes (serverKey : UInt64) (before after : Session)
    (result : Except SessionError Unit) : Prop where
  closed : after.isClosed = true
  silent : (∀ error, result = .error error → error.refusal? = none) → Hushed before after result
  told : ∀ error code, result = .error error → error.refusal? = some code →
    (code.value ≠ 2 ∧ code.value ≠ 15) ∧
      before.pipe.written.toList = handshakeAnswer serverKey ∧
      after.pipe.written.toList = handshakeAnswer serverKey ++
        if before.pipe.writeFault.isSome then [] else loginAnswer code

/-- What a session has read before it ends changes nothing of what it says. -/
theorem Concludes.before {before next after : Session} {result : Except SessionError Unit}
    (concludes : Concludes serverKey next after result) (kept : KeptByRead before next) :
    Concludes serverKey before after result where
  closed := concludes.closed
  silent untold := by
    cases concludes.silent untold with
    | quiet same => exact .quiet (by rw [same, kept.written])
    | unsent middle last failure same failed rest =>
        exact .unsent middle last failure (by rw [same, kept.written]) failed rest
  told error code failed told := by
    have tells := concludes.told error code failed told
    rw [kept.written, kept.writeFault] at tells
    exact tells

/-- A session that ends for no refusal says nothing. -/
theorem concludes_of_silent {before : Session} (result : Except SessionError Unit)
    (silent : ∀ error, result = .error error → error.refusal? = none)
    (same : session.pipe.written.toList = before.pipe.written.toList) :
    Concludes serverKey before (session.conclude result) result where
  closed := conclude_isClosed session result
  silent _ := .quiet (by rw [(conclude_pipe session result silent).1, same])
  told error code failed told := by
    rw [silent error failed] at told
    cases told

theorem Falters.written_conclude {bytes : Bytes} (falters : Falters session bytes error next) :
    (next.conclude (.error error)).pipe.written = next.pipe.written := by
  refine (conclude_pipe next (.error error) ?_).1
  intro other same
  cases same
  exact falters.untold

/-- A session that cannot send says no more when it ends. -/
theorem Falters.concludes {before : Session} {bytes : Bytes}
    (falters : Falters session bytes error next)
    (said : session.pipe.written.toList = before.pipe.written.toList) :
    Concludes serverKey before (next.conclude (.error error)) (.error error) where
  closed := conclude_isClosed next (.error error)
  silent _ := by
    have rest := congrArg ByteQueue.toList falters.written_conclude
    cases falters with
    | silent error next untold same => exact .quiet (rest.trans (same.trans said))
    | unsent middle next same failed whole =>
        exact .unsent middle next rfl (same.trans said) failed rest
  told other code same told := by
    cases same
    rw [falters.untold] at told
    cases told

/-- A session that ends for a refusal says it, unless the write fails. -/
theorem Speaks.concludes {before : Session} {limit : Nat} {code : ResponseCode}
    (speaks : Speaks info serverKey phase (.plain .login limit) (handshakeAnswer serverKey) session)
    (going : phase ≠ .closed)
    (said : before.pipe.written.toList = session.pipe.written.toList)
    (fault : before.pipe.writeFault = session.pipe.writeFault)
    (told : error.refusal? = some code) (refused : code.isSuccess = false) :
    Concludes serverKey before (session.conclude (.error error)) (.error error) where
  closed := conclude_isClosed session (.error error)
  silent silent := by
    rw [silent error rfl] at told
    cases told
  told other refusal same answer := by
    cases same
    rw [told] at answer
    cases answer
    refine ⟨?_, said.trans speaks.written, ?_⟩
    · rw [Bool.eq_false_iff, ne_eq, ResponseCode.isSuccess_iff, not_or] at refused
      exact refused
    · rw [fault]
      exact speaks.conclude going told

/-- A session that answers a handshake says so in full, unless that fails. -/
theorem Speaks.respond {limit : Nat}
    (speaks : Speaks info serverKey .awaitingHandshake (.plain .login limit) [] session) :
    match respondToHandshake session with
    | .ok () next =>
        Speaks info serverKey .awaitingLogin (.plain .login limit) (handshakeAnswer serverKey) next
    | .error error next => Falters session (handshakeAnswer serverKey) error next := by
  cases responded : respondToHandshake session with
  | ok value next =>
      rw [respondToHandshake, during_eq _ _ _ session speaks.phase (by decide), send_eq] at responded
      obtain ⟨middle, sent, later⟩ := andThen_ok _ _ session next () responded
      obtain ⟨after, bytes, encoded, told⟩ := speaks.sendAll sent
      rw [speaks.serverKey, Framer.encodeAll_handshakeResponse] at encoded
      cases encoded
      cases later
      exact ⟨told.info, told.serverKey, rfl, told.like, told.queued, told.written, told.clean⟩
  | error error next =>
      rw [respondToHandshake, during_eq _ _ _ session speaks.phase (by decide), send_eq] at responded
      rcases andThen_error responded with refused | ⟨middle, sent, refused⟩
      · refine speaks.falters (by decide) (fun after other encoded => ?_) refused
        rw [speaks.serverKey, Framer.encodeAll_handshakeResponse] at encoded
        cases encoded
        rfl
      · cases refused

/-- A player is welcomed in full and then spoken to under the cipher, unless that fails. -/
theorem Speaks.welcome {limit : Nat} (code : ResponseCode) (pair : KeystreamPair)
    (speaks : Speaks info serverKey .authenticating (.plain .login limit) written session) :
    match ((send (.loginResponse ⟨code, 0, false⟩)).andThen (enterGame .game pair)) session with
    | .ok () next =>
        Speaks info serverKey .inGame (.ciphered .game limit pair) (written ++ loginAnswer code) next
    | .error error next => Falters session (loginAnswer code) error next := by
  rw [send_eq, Action.andThen]
  cases sent : Session.sendAll [.loginResponse ⟨code, 0, false⟩] session with
  | error error next =>
      refine speaks.falters (by decide) (fun after other encoded => ?_) sent
      rw [Framer.encodeAll_loginResponse] at encoded
      cases encoded
      rfl
  | ok value next =>
      obtain ⟨after, bytes, encoded, told⟩ := speaks.sendAll sent
      rw [Framer.encodeAll_loginResponse] at encoded
      cases encoded
      dsimp only
      rw [enterGame, during_eq _ _ _ next told.phase (by decide)]
      exact ⟨told.info, told.serverKey, rfl, ⟨rfl, rfl⟩, told.queued, told.written, told.clean⟩

/-- In the game more lines of chat are said, unless that fails. -/
theorem Speaks.chat {limit : Nat} {pair : KeystreamPair}
    (speaks : Speaks info serverKey .inGame (.ciphered .game limit pair) written session)
    (messages : List Message) :
    ∃ lines, (∀ line ∈ lines, Sayable line) ∧
      match Session.sendAll messages session with
      | .ok () next =>
          Speaks info serverKey .inGame (.ciphered .game limit (pair.skipOutgoing lines.length))
            (written ++ chatFrames pair.outgoing lines) next
      | .error error next => Falters session (chatFrames pair.outgoing lines) error next := by
  cases encoded : (Framer.ciphered .game limit pair).encodeAll messages with
  | error cause =>
      refine ⟨[], List.forall_mem_nil _, ?_⟩
      cases sent : Session.sendAll messages session with
      | error error next =>
          refine speaks.falters (by decide) (fun after other accepted => ?_) sent
          rw [encoded] at accepted
          cases accepted
      | ok value next =>
          obtain ⟨after, bytes, accepted, told⟩ := speaks.sendAll sent
          rw [encoded] at accepted
          cases accepted
  | ok last =>
      obtain ⟨last, whole⟩ := last
      obtain ⟨lines, _, sayable, rfl, rfl⟩ := Framer.encodeAll_game encoded
      refine ⟨lines, sayable, ?_⟩
      cases sent : Session.sendAll messages session with
      | error error next =>
          refine speaks.falters (by decide) (fun after other accepted => ?_) sent
          rw [encoded] at accepted
          cases accepted
          rfl
      | ok value next =>
          obtain ⟨after, bytes, accepted, told⟩ := speaks.sendAll sent
          rw [encoded] at accepted
          cases accepted
          exact told

end Speaks

end Session

end GameServer
