import GameServer.Proofs.Session.Operations

/- This file leads a session through its phases. -/

namespace GameServer

namespace Framer

/-- Framers of one make have one table and one limit, and both hide their opcodes or neither does. -/
structure SameMake (left right : Framer) : Prop where
  table : left.table = right.table
  limit : left.limit = right.limit
  ciphered : left.cipher.isSome = right.cipher.isSome

theorem SameMake.refl (framer : Framer) : SameMake framer framer := ⟨rfl, rfl, rfl⟩

theorem SameMake.symm {left right : Framer} (same : SameMake left right) : SameMake right left :=
  ⟨same.table.symm, same.limit.symm, same.ciphered.symm⟩

theorem SameMake.trans {first second third : Framer} (one : SameMake first second)
    (two : SameMake second third) : SameMake first third :=
  ⟨one.table.trans two.table, one.limit.trans two.limit, one.ciphered.trans two.ciphered⟩

theorem sameMake_decode (framer : Framer) (source : Bytes) :
    SameMake (framer.decode source).framer framer := by
  have rules := takeFrame_rules framer source
  refine ⟨rules.1, rules.2, ?_⟩
  rw [decode]
  simp only [Cut.message, cipher_takeFrame, Option.isSome_map]

theorem LeadsTo.sameMake {framer next : Framer} {source left : Bytes}
    (leads : framer.LeadsTo source next left) : SameMake next framer := by
  obtain ⟨taken, same⟩ := leads
  have final := congrArg Cut.framer (same [])
  rw [List.append_nil, List.append_nil] at final
  have made := sameMake_decode framer source
  rw [final] at made
  exact (sameMake_decode next left).symm.trans made

theorem Decodes.sameMake {framer next : Framer} {source left : Bytes}
    {outcome : Except ProtocolError (Option Message)}
    (decodes : framer.Decodes source outcome next left) : SameMake next framer := by
  obtain ⟨taken, same⟩ := decodes
  have final := congrArg Cut.framer (same [])
  rw [List.append_nil] at final
  have made := sameMake_decode framer source
  rw [final] at made
  exact made

theorem sameMake_hide (framer : Framer) (opcode : UInt8) :
    SameMake (framer.hide opcode).2 framer := by
  cases ciphered : framer.cipher with
  | none =>
      rw [hide, ciphered]
      exact .refl framer
  | some pair =>
      rw [hide_ciphered framer pair opcode ciphered]
      exact ⟨rfl, rfl, Option.isSome_map⟩

theorem sameMake_encode {message : Message} {framer next : Framer} {bytes : Bytes}
    (accepted : encode message (framer, []) = .ok () (next, bytes)) : SameMake next framer := by
  obtain ⟨binding, payload, _, _, framing⟩ := encode_ok message _ _ accepted
  split at framing
  · cases framing
    exact .refl framer
  · obtain ⟨_, final⟩ := putFrame_ok _ _ _ _ _ framing
    cases final
    exact sameMake_hide framer _

end Framer

namespace Session

/-- The session is where it was, with a framer of the same make. -/
structure Stays (before after : Session) : Prop where
  info : after.info = before.info
  serverKey : after.serverKey = before.serverKey
  phase : after.phase = before.phase
  make : after.framer.SameMake before.framer

theorem Stays.refl (session : Session) : Stays session session := ⟨rfl, rfl, rfl, .refl _⟩

theorem Stays.trans {first second third : Session} (one : Stays first second)
    (two : Stays second third) : Stays first third :=
  ⟨two.info.trans one.info, two.serverKey.trans one.serverKey, two.phase.trans one.phase,
    two.make.trans one.make⟩

theorem Continues.stays {before after : Session} (continues : Continues before after) :
    Stays before after :=
  ⟨continues.kept.info, continues.kept.serverKey, continues.kept.phase, continues.leads.sameMake⟩

theorem Settles.stays {before after : Session}
    {outcome : Except ProtocolError (Option Message)} (settles : Settles before outcome after) :
    Stays before after :=
  ⟨settles.kept.info, settles.kept.serverKey, settles.kept.phase, settles.decodes.sameMake⟩

theorem stays_read (session : Session) : Stays session (after session.read) := by
  unfold read
  split
  · exact .refl session
  · have reads := session.reads_readOpen
    generalize session.readOpen = result at reads
    cases reads with
    | message message next settles accepted => exact settles.stays
    | waiting next continues starved going => exact continues.stays
    | ended next continues starved finished => exact continues.stays
    | failed error next fails =>
        cases fails with
        | unexpected message next settles refused => exact settles.stays
        | broken error next settles => exact settles.stays
        | cutShort next continues starved finished => exact continues.stays
        | disturbed next continues fault => exact continues.stays

theorem stays_buffer (session : Session) : Stays session (after session.buffer) := by
  refine after_whileOpen (.refl session) fun opened => ?_
  split <;> exact ⟨rfl, rfl, rfl, .refl _⟩

theorem stays_queue (message : Message) (session : Session) :
    Stays session (after (queue message session)) := by
  refine after_whileOpen (.refl session) fun opened => ?_
  split
  · next framer bytes encoded => exact ⟨rfl, rfl, rfl, Framer.sameMake_encode encoded⟩
  · next error framer bytes refused =>
      cases Framer.encode_error _ _ _ _ refused
      exact ⟨rfl, rfl, rfl, .refl _⟩

theorem stays_flush (session : Session) : Stays session (after session.flush) := by
  cases closed : session.isClosed with
  | true =>
      rw [flush, whileOpen_of_closed _ closed]
      exact .refl session
  | false =>
      have flushes := session.flushes closed
      generalize session.flush = result at flushes
      cases flushes <;> exact ⟨rfl, rfl, rfl, .refl _⟩

theorem stays_send (message : Message) (session : Session) :
    Stays session (after (send message session)) := by
  have queued := stays_queue message session
  rw [send, Action.andThen]
  split
  · next middle done =>
      rw [done] at queued
      exact queued.trans (stays_flush middle)
  · next error next failed =>
      rw [failed] at queued
      exact queued

/-- The phase that an operation leads to if it succeeds. -/
def Operation.target : Operation → Phase → Phase
  | .respond, _ => .awaitingLogin
  | .authenticate, _ => .authenticating
  | .enter _ _, _ => .inGame
  | .close, _ => .closed
  | _, phase => phase

/-- The framer of which make is left by an operation that succeeds. -/
def Operation.reframe : Operation → Framer → Framer
  | .enter table pair, framer => .ciphered table framer.limit pair
  | _, framer => framer

/-- The operation has led from the one session to the other. -/
structure Operation.Leads (operation : Operation) (before after : Session) : Prop where
  info : after.info = before.info
  serverKey : after.serverKey = before.serverKey
  place : ∀ phase, operation.phase? = some phase → before.phase = phase
  phase : after.phase = operation.target before.phase
  make : after.framer.SameMake (operation.reframe before.framer)

theorem during_ok {α : Type} {phase : Phase} {kind : Message.Kind} {action : Action α}
    {session next : Session} {value : α}
    (done : during phase kind action session = .ok value next) :
    session.phase = phase ∧ action session = .ok value next := by
  obtain ⟨_, done⟩ := whileOpen_ok _ session next value done
  split at done
  · next same => exact ⟨same, done⟩
  · cases done

/-- An operation that belongs to no phase leaves an open session open. -/
theorem stays_act (operation : Operation) (session : Session) (free : operation.phase? = none)
    (going : operation ≠ .close) : Stays session (after (operation.act session)) := by
  cases operation with
  | read =>
      rw [Operation.act, after_yield]
      exact stays_read session
  | buffer =>
      rw [Operation.act, after_yield]
      exact stays_buffer session
  | queue message =>
      rw [Operation.act, after_yield]
      exact stays_queue message session
  | flush =>
      rw [Operation.act, after_yield]
      exact stays_flush session
  | send message =>
      rw [Operation.act, after_yield]
      exact stays_send message session
  | respond => cases free
  | authenticate => cases free
  | enter table pair => cases free
  | close => exact absurd rfl going

theorem Stays.leads {operation : Operation} {before after : Session} (stays : Stays before after)
    (free : operation.phase? = none) (target : operation.target before.phase = before.phase)
    (reframe : operation.reframe before.framer = before.framer) :
    operation.Leads before after where
  info := stays.info
  serverKey := stays.serverKey
  place phase belongs := by
    rw [free] at belongs
    cases belongs
  phase := stays.phase.trans target.symm
  make := by
    rw [reframe]
    exact stays.make

theorem leads_close (session : Session) : Operation.close.Leads session session.close := by
  cases closed : session.isClosed with
  | true =>
      have same : session.close = session := if_pos closed
      rw [same]
      refine ⟨rfl, rfl, ?_, eq_of_beq closed, .refl _⟩
      intro phase belongs
      cases belongs
  | false =>
      rw [close, closed]
      refine ⟨rfl, rfl, ?_, rfl, .refl _⟩
      intro phase belongs
      cases belongs

/-- An operation that succeeds leads where it should. -/
theorem leads_act (operation : Operation) (session next : Session) (yield : Yield)
    (done : operation.act session = .ok yield next) : operation.Leads session next := by
  have stays := stays_act operation session
  rw [done] at stays
  cases operation with
  | read => exact (stays rfl nofun).leads rfl rfl rfl
  | buffer => exact (stays rfl nofun).leads rfl rfl rfl
  | queue message => exact (stays rfl nofun).leads rfl rfl rfl
  | flush => exact (stays rfl nofun).leads rfl rfl rfl
  | send message => exact (stays rfl nofun).leads rfl rfl rfl
  | respond =>
      obtain ⟨value, done, _⟩ := yield_ok done
      obtain ⟨place, done⟩ := during_ok done
      obtain ⟨middle, sent, done⟩ := andThen_ok _ _ session next () done
      have told := stays_send (.handshakeResponse 0 session.serverKey) session
      rw [sent] at told
      cases done
      refine ⟨told.info, told.serverKey, ?_, rfl, told.make⟩
      intro phase belongs
      cases belongs
      exact place
  | authenticate =>
      obtain ⟨value, done, _⟩ := yield_ok done
      obtain ⟨place, done⟩ := during_ok done
      cases done
      refine ⟨rfl, rfl, ?_, rfl, .refl _⟩
      intro phase belongs
      cases belongs
      exact place
  | enter table pair =>
      obtain ⟨value, done, _⟩ := yield_ok done
      obtain ⟨place, done⟩ := during_ok done
      cases done
      refine ⟨rfl, rfl, ?_, rfl, .refl _⟩
      intro phase belongs
      cases belongs
      exact place
  | close =>
      cases done
      exact leads_close session

/-- An operation that fails leads nowhere. -/
theorem stays_of_error (operation : Operation) (session next : Session) (error : SessionError)
    (failed : operation.act session = .error error next) : Stays session next := by
  have stays := stays_act operation session
  rw [failed] at stays
  cases belongs : operation.phase? with
  | none =>
      refine stays belongs ?_
      rintro rfl
      cases failed
  | some phase =>
      by_cases place : session.phase = phase
      · cases operation with
        | respond =>
            cases belongs
            have refused := yield_error failed
            rw [respondToHandshake, during_eq _ _ _ session place (by decide)] at refused
            have stays := stays_send (.handshakeResponse 0 session.serverKey) session
            rcases andThen_error refused with sent | ⟨middle, sent, advanced⟩
            · rw [sent] at stays
              exact stays
            · cases advanced
        | authenticate =>
            cases belongs
            have refused := yield_error failed
            rw [beginAuthentication, during_eq _ _ _ session place (by decide)] at refused
            cases refused
        | enter table pair =>
            cases belongs
            have refused := yield_error failed
            rw [enterGame, during_eq _ _ _ session place (by decide)] at refused
            cases refused
        | read | buffer | queue | flush | send | close => cases belongs
      · obtain ⟨cause, same⟩ := act_other operation session phase belongs place
        rw [failed] at same
        cases same
        exact .refl session

end Session

end GameServer
