import GameServer.Proofs.Framer.Messages
import GameServer.Proofs.Session.Greeting

/- This file shows what an operation in the wrong phase or on a closed session does. -/

namespace GameServer.Session

/-- What a server may do with a session. -/
inductive Operation where
  /-- A read that waits is given up, and another one may follow. -/
  | read
  | buffer
  | queue (message : Message)
  | flush
  | send (message : Message)
  | respond
  | authenticate
  | enter (table : Table) (pair : KeystreamPair)
  | close

/-- What an operation yields. -/
inductive Yield where
  | incoming (incoming : Incoming)
  | buffering (buffering : Buffering)
  | done
deriving DecidableEq

/-- The yield of an action is made of its value. -/
def Action.yield {α : Type} (make : α → Yield) (action : Action α) : Action Yield := fun session =>
  match action session with
  | .ok value next => .ok (make value) next
  | .error error next => .error error next

/-- An operation is an action that yields. -/
def Operation.act : Operation → Action Yield
  | .read => Session.read.yield .incoming
  | .buffer => Session.buffer.yield .buffering
  | .queue message => (Session.queue message).yield fun _ => .done
  | .flush => Session.flush.yield fun _ => .done
  | .send message => (Session.send message).yield fun _ => .done
  | .respond => respondToHandshake.yield fun _ => .done
  | .authenticate => beginAuthentication.yield fun _ => .done
  | .enter table pair => (enterGame table pair).yield fun _ => .done
  | .close => fun session => .ok .done session.close

/-- The phase to which an operation belongs, if it belongs to one. -/
def Operation.phase? : Operation → Option Phase
  | .respond => some .awaitingHandshake
  | .authenticate => some .awaitingLogin
  | .enter _ _ => some .authenticating
  | _ => none

/-- The session that an action leaves, whether it succeeds or fails. -/
def after {α : Type} : EStateM.Result SessionError Session α → Session
  | .ok _ next => next
  | .error _ next => next

/-- What happens to a session. -/
inductive Event where
  | perform (operation : Operation)
  | deliver (bytes : Bytes)
  | finish
  | disturb (call : Pipe.Call)

/-- One event happens. -/
def next (session : Session) : Event → Session
  | .perform operation => after (operation.act session)
  | .deliver bytes => { session with pipe := session.pipe.deliver bytes }
  | .finish => { session with pipe := session.pipe.finish }
  | .disturb call => { session with pipe := session.pipe.disturb call }

/-- Events happen one after another. -/
def run (session : Session) (events : List Event) : Session := events.foldl next session

theorem run_append (session : Session) (first second : List Event) :
    session.run (first ++ second) = (session.run first).run second := List.foldl_append

section Action

variable {α β : Type} {session next : Session} {error : SessionError}

theorem yield_ok {make : α → Yield} {action : Action α} {yield : Yield}
    (same : action.yield make session = .ok yield next) :
    ∃ value, action session = .ok value next ∧ yield = make value := by
  unfold Action.yield at same
  split at same
  · next value last done =>
      cases same
      exact ⟨value, done, rfl⟩
  · cases same

theorem yield_error {make : α → Yield} {action : Action α}
    (same : action.yield make session = .error error next) :
    action session = .error error next := by
  unfold Action.yield at same
  split at same
  · cases same
  · next cause last failed =>
      cases same
      exact failed

theorem after_yield (make : α → Yield) (action : Action α) (session : Session) :
    after (action.yield make session) = after (action session) := by
  unfold Action.yield
  split
  · next done => rw [done]; rfl
  · next failed => rw [failed]; rfl

theorem whileOpen_of_closed (action : Action α) (closed : session.isClosed = true) :
    whileOpen action session = .error .closed session := if_pos closed

/-- What holds of a closed session and of what an action leaves of an open one holds of what is left
of either. -/
theorem after_whileOpen {property : Session → Prop} {action : Action α} (still : property session)
    (acts : session.isClosed = false → property (after (action session))) :
    property (after (whileOpen action session)) := by
  cases closed : session.isClosed with
  | true =>
      rw [whileOpen_of_closed action closed]
      exact still
  | false =>
      rw [whileOpen_of_open action session closed]
      exact acts closed

end Action

/-- An operation in the wrong phase changes nothing. -/
theorem act_other (operation : Operation) (session : Session) (phase : Phase)
    (belongs : operation.phase? = some phase) (other : session.phase ≠ phase) :
    ∃ error, operation.act session = .error error session := by
  have refused {kind : Message.Kind} {action : Action Unit} (make : Unit → Yield) :
      ∃ error, (during phase kind action).yield make session = .error error session := by
    obtain ⟨error, same⟩ := during_other phase kind action session other
    exact ⟨error, by rw [Action.yield, same]⟩
  cases operation with
  | respond => cases belongs; exact refused _
  | authenticate => cases belongs; exact refused _
  | enter table pair => cases belongs; exact refused _
  | read | buffer | queue | flush | send | close => cases belongs

/-- A closed session reads as one whose stream has ended, can be closed again, and refuses every
other operation. None of them changes it. -/
theorem act_closed (operation : Operation) (session : Session)
    (closed : session.isClosed = true) :
    operation.act session =
      match operation with
      | .read => .ok (.incoming .ended) session
      | .close => .ok .done session
      | _ => .error .closed session := by
  have refused {α : Type} (action : Action α) (make : α → Yield) :
      (whileOpen action).yield make session = .error .closed session := by
    rw [Action.yield, whileOpen_of_closed action closed]
  have misplaced (phase : Phase) (kind : Message.Kind) (action : Action Unit) (make : Unit → Yield) :
      (during phase kind action).yield make session = .error .closed session :=
    refused _ make
  cases operation with
  | read => rw [Operation.act, Action.yield, read, if_pos closed]
  | close =>
      have same : session.close = session := if_pos closed
      exact congrArg _ same
  | send message =>
      rw [Operation.act, Action.yield, send, Action.andThen, queue,
        whileOpen_of_closed _ closed]
  | buffer => exact refused _ _
  | queue message => exact refused _ _
  | flush => exact refused _ _
  | respond => exact misplaced _ _ _ _
  | authenticate => exact misplaced _ _ _ _
  | enter table pair => exact misplaced _ _ _ _

/-- What an action may fail for. -/
inductive Blames (session : Session) : SessionError → Prop where
  | protocol (cause : ProtocolError) : Blames session (.protocol cause)
  | transport (fault : TransportFault) : Blames session (.transport fault)
  | closed (closed : session.isClosed = true) : Blames session .closed

section Blames

variable {session next : Session} {error : SessionError}

theorem Blames.before {middle : Session} (blames : Blames middle error)
    (same : middle.isClosed = session.isClosed) : Blames session error := by
  cases blames with
  | protocol cause => exact .protocol cause
  | transport fault => exact .transport fault
  | closed closed => exact .closed (same.symm.trans closed)

theorem Fails.read (fails : Fails session error next) :
    KeptByRead session next ∧ session.framer.WritesLike next.framer := by
  cases fails with
  | unexpected message next settles refused => exact ⟨settles.kept, settles.decodes.writesLike⟩
  | broken error next settles => exact ⟨settles.kept, settles.decodes.writesLike⟩
  | cutShort next continues starved finished => exact ⟨continues.kept, continues.leads.writesLike⟩
  | disturbed next continues fault => exact ⟨continues.kept, continues.leads.writesLike⟩

theorem Fails.blames (fails : Fails session error next) : Blames session error := by
  cases fails with
  | unexpected | broken => exact .protocol _
  | cutShort | disturbed => exact .transport _

theorem blames_whileOpen {α : Type} {action : Action α}
    (failed : whileOpen action session = .error error next)
    (acts : session.isClosed = false → action session = .error error next →
      Blames session error) : Blames session error := by
  cases closed : session.isClosed with
  | true =>
      rw [whileOpen_of_closed action closed] at failed
      cases failed
      exact .closed closed
  | false =>
      rw [whileOpen_of_open action session closed] at failed
      exact acts closed failed

theorem blames_read (failed : session.read = .error error next) : Blames session error := by
  unfold read at failed
  split at failed
  · cases failed
  · have reads := session.reads_readOpen
    rw [failed] at reads
    cases reads with
    | failed error next fails => exact fails.blames

theorem blames_buffer (failed : session.buffer = .error error next) : Blames session error := by
  cases closed : session.isClosed with
  | true =>
      rw [buffer, whileOpen_of_closed _ closed] at failed
      cases failed
      exact .closed closed
  | false =>
      have buffers := session.buffers_buffer closed
      rw [failed] at buffers
      cases buffers with
      | failed fault => exact .transport _

theorem blames_queue {message : Message} (failed : queue message session = .error error next) :
    Blames session error := by
  refine blames_whileOpen failed fun opened failed => ?_
  split at failed
  · cases failed
  · cases failed
    exact .protocol _

theorem blames_flush (failed : session.flush = .error error next) : Blames session error := by
  refine blames_whileOpen failed fun opened _ => ?_
  have flushes := session.flushes opened
  rw [failed] at flushes
  cases flushes with
  | stuck | unsent => exact .transport _

theorem blames_queueAll {messages : List Message}
    (failed : queueAll messages session = .error error next) : Blames session error := by
  induction messages generalizing session with
  | nil => cases failed
  | cons message rest ih =>
      rcases andThen_error failed with refused | ⟨middle, queued, refused⟩
      · exact blames_queue refused
      · obtain ⟨bytes, _, same⟩ := queue_ok message session middle queued
        exact (ih refused).before (by rw [same]; rfl)

theorem blames_sendAll {messages : List Message}
    (failed : sendAll messages session = .error error next) : Blames session error := by
  rcases andThen_error failed with refused | ⟨middle, queued, refused⟩
  · exact blames_queueAll refused
  · obtain ⟨bytes, _, kept, _⟩ := queueAll_ok messages session middle queued
    exact (blames_flush refused).before kept.isClosed

theorem blames_during {phase : Phase} {kind : Message.Kind} {action : Action Unit}
    (failed : during phase kind action session = .error error next)
    (acts : action session = .error error next → Blames session error) :
    Blames session error := by
  refine blames_whileOpen failed fun opened failed => ?_
  split at failed
  · exact acts failed
  · cases failed
    exact .protocol _

theorem blames_send {message : Message} (failed : send message session = .error error next) :
    Blames session error := by
  rw [send_eq] at failed
  exact blames_sendAll failed

theorem blames_respond (failed : respondToHandshake session = .error error next) :
    Blames session error := by
  refine blames_during failed fun failed => ?_
  rcases andThen_error failed with refused | ⟨middle, sent, refused⟩
  · exact blames_send refused
  · cases refused

theorem blames_authenticate (failed : beginAuthentication session = .error error next) :
    Blames session error := blames_during failed nofun

theorem blames_enter {table : Table} {pair : KeystreamPair}
    (failed : enterGame table pair session = .error error next) : Blames session error :=
  blames_during failed nofun

/-- What an action fails for is told to nobody. -/
theorem Blames.silent (blames : Blames session error) : error.refusal? = none := by
  cases blames <;> rfl

/-- The client is not told what a session has failed to hear. -/
theorem silent_of_hear {since limit now : Nat}
    (heard : (session.hear since limit now).1 = .failed error) : error.refusal? = none := by
  unfold hear at heard
  split at heard
  · cases heard
  · cases heard
  · split at heard
    · cases heard
      rfl
    · cases heard
  · next failed =>
      cases heard
      exact (blames_read failed).silent

end Blames

theorem blames_act {operation : Operation} {session next : Session} {error : SessionError}
    (failed : operation.act session = .error error next) : Blames session error := by
  cases operation with
  | read => exact blames_read (yield_error failed)
  | buffer => exact blames_buffer (yield_error failed)
  | queue message => exact blames_queue (yield_error failed)
  | flush => exact blames_flush (yield_error failed)
  | send message => exact blames_send (yield_error failed)
  | respond => exact blames_respond (yield_error failed)
  | authenticate => exact blames_authenticate (yield_error failed)
  | enter table pair => exact blames_enter (yield_error failed)
  | close => cases failed

/-- Only a closed session answers that it is closed, and the answer changes nothing. -/
theorem eq_of_answered {operation : Operation} {session next : Session}
    (answered : operation.act session = .error .closed next) : next = session := by
  cases blames_act answered with
  | closed closed =>
      rw [act_closed operation session closed] at answered
      cases operation with
      | read | close => cases answered
      | buffer | queue | flush | send | respond | authenticate | enter =>
          cases answered
          rfl

/-- Something can happen to the one session that makes the other one of it. -/
def Reaches (session next : Session) : Prop := ∃ events, next = session.run events

section Reaches

variable {first second third : Session}

theorem Reaches.refl (session : Session) : Reaches session session := ⟨[], rfl⟩

theorem Reaches.trans (one : Reaches first second) (two : Reaches second third) :
    Reaches first third := by
  obtain ⟨before, rfl⟩ := one
  obtain ⟨later, rfl⟩ := two
  exact ⟨before ++ later, (run_append first before later).symm⟩

theorem reaches_act (operation : Operation) (session : Session) :
    Reaches session (after (operation.act session)) := ⟨[.perform operation], rfl⟩

theorem reaches_read (session : Session) : Reaches session (after session.read) := by
  rw [← after_yield .incoming]
  exact reaches_act .read session

theorem reaches_buffer (session : Session) : Reaches session (after session.buffer) := by
  rw [← after_yield .buffering]
  exact reaches_act .buffer session

theorem reaches_queue (message : Message) (session : Session) :
    Reaches session (after (queue message session)) := by
  rw [← after_yield fun _ => .done]
  exact reaches_act (.queue message) session

theorem reaches_flush (session : Session) : Reaches session (after session.flush) := by
  rw [← after_yield fun _ => .done]
  exact reaches_act .flush session

theorem reaches_send (message : Message) (session : Session) :
    Reaches session (after (send message session)) := by
  rw [← after_yield fun _ => .done]
  exact reaches_act (.send message) session

theorem reaches_respond (session : Session) :
    Reaches session (after (respondToHandshake session)) := by
  rw [← after_yield fun _ => .done]
  exact reaches_act .respond session

theorem reaches_authenticate (session : Session) :
    Reaches session (after (beginAuthentication session)) := by
  rw [← after_yield fun _ => .done]
  exact reaches_act .authenticate session

theorem reaches_enter (table : Table) (pair : KeystreamPair) (session : Session) :
    Reaches session (after (enterGame table pair session)) := by
  rw [← after_yield fun _ => .done]
  exact reaches_act (.enter table pair) session

theorem reaches_andThen {α : Type} {action : Action Unit} {later : Action α} {session : Session}
    (one : Reaches session (after (action session)))
    (two : ∀ next, Reaches next (after (later next))) :
    Reaches session (after (action.andThen later session)) := by
  rw [Action.andThen]
  split
  · next middle done =>
      rw [done] at one
      exact one.trans (two middle)
  · next error last failed =>
      rw [failed] at one
      exact one

theorem reaches_queueAll (messages : List Message) (session : Session) :
    Reaches session (after (queueAll messages session)) := by
  induction messages generalizing session with
  | nil => exact .refl session
  | cons message rest ih => exact reaches_andThen (reaches_queue message session) ih

theorem reaches_sendAll (messages : List Message) (session : Session) :
    Reaches session (after (sendAll messages session)) :=
  reaches_andThen (reaches_queueAll messages session) reaches_flush

theorem reaches_close (session : Session) : Reaches session session.close :=
  reaches_act .close session

theorem reaches_hear (session : Session) (since limit now : Nat) :
    Reaches session (session.hear since limit now).2 := by
  have reads := reaches_read session
  unfold hear
  split
  · next done =>
      rw [done] at reads
      exact reads
  · next done =>
      rw [done] at reads
      exact reads
  · next done =>
      rw [done] at reads
      exact reads
  · next failed =>
      rw [failed] at reads
      exact reads

theorem reaches_conclude (session : Session) (result : Except SessionError Unit) :
    Reaches session (session.conclude result) := by
  cases result with
  | ok value => exact reaches_close session
  | error error =>
      cases told : error.refusal? with
      | none =>
          rw [conclude, told]
          exact reaches_close session
      | some code =>
          have sends := reaches_send (.loginResponse (.refusal code)) session
          rw [conclude, told]
          dsimp only
          split
          · next next sent =>
              rw [sent] at sends
              exact sends.trans (reaches_close next)
          · next error next failed =>
              rw [failed] at sends
              exact sends.trans (reaches_close next)

end Reaches

end GameServer.Session
