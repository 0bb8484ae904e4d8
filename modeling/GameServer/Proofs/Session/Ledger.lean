import GameServer.Proofs.Keystream.Position
import GameServer.Proofs.Session.Course
import GameServer.Proofs.Session.Written

/- This file accounts for all that a session says. -/

namespace GameServer

/-- The number of words of the outgoing stream that a message of this kind takes. -/
def Table.opcodes (table : Table) (kind : Message.Kind) : Nat :=
  match table.findKind? kind with
  | some ⟨_, .framed _ _, _⟩ => 1
  | _ => 0

/-- A framer as it was put in place, and the number of opcodes that it has written since. -/
structure Pen where
  installed : Framer
  opcodes : Nat

namespace Pen

/-- The framer with its outgoing stream at the place of the next opcode. -/
def framer (pen : Pen) : Framer :=
  { pen.installed with cipher := pen.installed.cipher.map (·.skipOutgoing pen.opcodes) }

/-- The bytes that the message is written as. -/
def Writes (pen : Pen) (message : Message) (bytes : Bytes) : Prop :=
  ∃ after, Framer.encode message (pen.framer, []) = .ok () (after, bytes)

/-- The pen after a message, if there is one. -/
def onward (pen : Pen) : Option Message → Pen
  | none => pen
  | some message =>
      { pen with opcodes := pen.opcodes + pen.installed.table.opcodes message.kind }

theorem like_zero (framer : Framer) : (Pen.mk framer 0).framer.WritesLike framer := by
  obtain ⟨table, cipher, progress, limit⟩ := framer
  cases cipher <;> exact ⟨rfl, rfl⟩

theorem hide_framer (pen : Pen) (opcode : UInt8) :
    (pen.framer.hide opcode).2 = { pen with opcodes := pen.opcodes + 1 }.framer := by
  obtain ⟨⟨table, cipher, progress, limit⟩, opcodes⟩ := pen
  cases cipher with
  | none => rfl
  | some pair =>
      simp only [framer, Option.map_some, KeystreamPair.skipOutgoing_add]
      rfl

/-- A message that is written moves the outgoing stream by its opcode. -/
theorem framer_onward {pen : Pen} {message : Message} {after : Framer} {bytes : Bytes}
    (accepted : Framer.encode message (pen.framer, []) = .ok () (after, bytes)) :
    after = (pen.onward (some message)).framer := by
  obtain ⟨⟨kind, form, codec⟩, payload, found, _, framing⟩ := Framer.encode_ok message _ _ accepted
  replace found : pen.installed.table.findKind? message.kind =
      some ⟨kind, form, codec⟩ := found
  simp only [onward, Table.opcodes, found]
  cases form with
  | headless =>
      cases framing
      rfl
  | framed opcode rule =>
      obtain ⟨_, final⟩ := Framer.putFrame_ok _ _ _ _ _ framing
      cases final
      exact hide_framer pen opcode

/-- A session that goes on writing as the pen does writes what the pen writes. -/
theorem writes_of_like {pen : Pen} {framer next : Framer} {message : Message} {bytes : Bytes}
    (like : pen.framer.WritesLike framer)
    (encoded : Framer.encode message (framer, []) = .ok () (next, bytes)) :
    pen.Writes message bytes ∧ (pen.onward (some message)).framer.WritesLike next := by
  rcases like.encode message with ⟨_, _, _, _, refused⟩ | ⟨after, _, _, mine, other, later⟩
  · rw [encoded] at refused
    cases refused
  · rw [encoded] at other
    cases other
    rw [← framer_onward mine]
    exact ⟨⟨after, mine⟩, later⟩

end Pen

namespace Session

/-- What was written, and what is held back behind it. -/
def output (session : Session) : Bytes := session.pipe.written.toList ++ session.queued.toList

/-- The message, if it can be queued. -/
def queued? (session : Session) (message : Message) : Option Message :=
  match queue message session with
  | .ok _ _ => some message
  | .error _ _ => none

/-- The message that an event queues, if it queues one. It is queued even if it cannot be written at
once. -/
def told? (session : Session) : Event → Option Message
  | .perform (.queue message) => session.queued? message
  | .perform (.send message) => session.queued? message
  | .perform .respond =>
      if session.phase = .awaitingHandshake then
        session.queued? (.handshakeResponse 0 session.serverKey)
      else none
  | _ => none

/-- The pen after an event. A game that begins puts a new framer in place. -/
def penAfter (session : Session) (pen : Pen) (event : Event) : Pen :=
  match session.begun? event with
  | some (table, pair) => ⟨.ciphered table session.framer.limit pair, 0⟩
  | none => pen.onward (session.told? event)

/-- The messages that events queue one after another, each with the pen that writes it. -/
def ledger (session : Session) (pen : Pen) : List Event → List (Pen × Message)
  | [] => []
  | event :: rest =>
      (session.told? event).toList.map (Prod.mk pen) ++
        (session.next event).ledger (session.penAfter pen event) rest

/-- The bytes are what the pens write of their messages, one after another. -/
inductive Account : List (Pen × Message) → Bytes → Prop where
  | nil : Account [] []
  | cons {pen : Pen} {message : Message} {front more : Bytes} {entries : List (Pen × Message)}
      (wrote : pen.Writes message front) (rest : Account entries more) :
      Account ((pen, message) :: entries) (front ++ more)

section Step

variable {session next last : Session} {told : Option Message} {message : Message}

/-- These bytes have come to the output. A write that fails may have taken some bytes that are still
held back, and then they stand in the output twice. -/
structure Gains (before : Session) (bytes : Bytes) (after : Session) : Prop where
  part : (before.output ++ bytes).Sublist after.output
  whole : before.pipe.Clean → after.output = before.output ++ bytes

theorem gains_of_eq {bytes : Bytes} (same : next.output = session.output ++ bytes) :
    Gains session bytes next :=
  ⟨by rw [same], fun _ => same⟩

theorem gains_nothing (same : next.output = session.output) : Gains session [] next :=
  gains_of_eq (by rw [same, List.append_nil])

theorem Gains.trans {bytes more : Bytes} (one : Gains session bytes next)
    (clean : session.pipe.Clean → next.pipe.Clean) (two : Gains next more last) :
    Gains session (bytes ++ more) last where
  part := by
    rw [← List.append_assoc]
    exact (one.part.append_right more).trans two.part
  whole sound := by rw [two.whole (clean sound), one.whole sound, List.append_assoc]

/-- An open session has become another open one, and this message is all that has come to its
output. -/
inductive Adds (session : Session) : Option Message → Session → Prop where
  | nothing (next : Session) (gains : Gains session [] next)
      (like : session.framer.WritesLike next.framer) (opened : next.isClosed = false) :
      Adds session none next
  | message (message : Message) (framer : Framer) (bytes : Bytes) (next : Session)
      (encoded : Framer.encode message (session.framer, []) = .ok () (framer, bytes))
      (gains : Gains session bytes next) (like : framer.WritesLike next.framer)
      (opened : next.isClosed = false) : Adds session (some message) next

theorem Adds.opened (adds : Adds session told next) : next.isClosed = false := by
  cases adds <;> assumption

/-- Nothing more is added. -/
theorem Adds.silent (adds : Adds session told next)
    (clean : session.pipe.Clean → next.pipe.Clean) (quiet : Adds next none last) :
    Adds session told last := by
  cases quiet with
  | nothing last still like opened =>
      cases adds with
      | nothing next gains before _ =>
          exact .nothing last (gains.trans clean still) (before.trans like) opened
      | message message framer bytes next encoded gains before _ =>
          have gains := gains.trans clean still
          rw [List.append_nil] at gains
          exact .message message framer bytes last encoded gains (before.trans like) opened

theorem Adds.yield {α : Type} {action : Action α}
    (adds : Adds session told (after (action session))) (make : α → Yield) :
    Adds session told (after (action.yield make session)) := by
  rw [after_yield]
  exact adds

theorem KeptByRead.adds (kept : KeptByRead session next)
    (like : session.framer.WritesLike next.framer) (opened : session.isClosed = false) :
    Adds session none next := by
  refine .nothing next (gains_nothing ?_) like (kept.isClosed.trans opened)
  rw [output, output, kept.written, kept.queued]

theorem adds_read (opened : session.isClosed = false) : Adds session none (after session.read) := by
  have reads := session.reads_readOpen
  rw [read, if_neg (by rw [opened]; exact Bool.false_ne_true)]
  generalize session.readOpen = result at reads
  cases reads with
  | message message next settles accepted =>
      exact settles.kept.adds settles.decodes.writesLike opened
  | waiting next continues => exact continues.kept.adds continues.leads.writesLike opened
  | ended next continues => exact continues.kept.adds continues.leads.writesLike opened
  | failed error next fails => exact fails.read.1.adds fails.read.2 opened

theorem adds_buffer (opened : session.isClosed = false) :
    Adds session none (after session.buffer) := by
  rw [buffer, whileOpen_of_open _ session opened]
  split
  · exact .nothing _ (gains_nothing rfl) (.refl _) opened
  · next pipe failing =>
      refine .nothing _ (gains_nothing ?_) (.refl _) opened
      rw [after, (Pipe.read_failed _ _ _ failing).2]
      rfl
  · exact .nothing _ (gains_nothing rfl) (.refl _) opened
  · next bytes pipe taken =>
      have continues := (receive_continues session pipe bytes taken).1
      exact continues.kept.adds continues.leads.writesLike opened

/-- A message that is refused leaves the session as it was. -/
theorem eq_of_queue_error {error : SessionError}
    (refused : queue message session = .error error next) : next = session := by
  cases closed : session.isClosed with
  | true =>
      rw [queue, whileOpen_of_closed _ closed] at refused
      cases refused
      rfl
  | false =>
      rw [queue, whileOpen_of_open _ session closed] at refused
      split at refused
      · cases refused
      · next cause framer bytes encoded =>
          cases Framer.encode_error _ _ _ _ encoded
          cases refused
          rfl

theorem adds_queue (message : Message) (opened : session.isClosed = false) :
    Adds session (session.queued? message) (after (queue message session)) := by
  rw [queued?]
  cases queued : queue message session with
  | ok value next =>
      obtain ⟨bytes, encoded, same⟩ := queue_ok message session next queued
      rw [same]
      refine .message message next.framer bytes _ encoded (gains_of_eq ?_) (.refl _) opened
      simp only [after, output, ByteQueue.toList_push, List.append_assoc]
  | error error next =>
      cases eq_of_queue_error queued
      exact .nothing session (gains_nothing rfl) (.refl _) opened

/-- What is held back is written in its place or held back still. -/
theorem adds_flush (opened : session.isClosed = false) :
    Adds session none (after session.flush) := by
  have flushes := session.flushes opened
  generalize session.flush = result at flushes
  cases flushes with
  | sent written queued whole taken empty | unsent written queued whole taken empty =>
      refine .nothing _ (gains_nothing ?_) (.refl _) opened
      simp only [after, output, whole, empty, List.append_nil]
  | stuck taken fault =>
      refine .nothing _ ⟨?_, fun clean => ?_⟩ (.refl _) opened
      · simp only [after, output, ByteQueue.toList_push, List.append_nil]
        exact (List.sublist_append_left _ _).append_right _
      · simp only [after, output, clean taken fault, List.take_zero, ByteQueue.toList_push,
          List.append_nil]

theorem adds_send (message : Message) (opened : session.isClosed = false) :
    Adds session (session.queued? message) (after (send message session)) := by
  have queues := adds_queue message opened
  have grows := grows_queue message session
  rw [send, Action.andThen]
  split
  · next middle done =>
      rw [done] at queues grows
      exact queues.silent grows.clean (adds_flush queues.opened)
  · next error last failed =>
      rw [failed] at queues
      exact queues

theorem adds_respond (opened : session.isClosed = false) :
    Adds session (session.told? (.perform .respond)) (after (respondToHandshake session)) := by
  rw [told?]
  split
  · next place =>
      have sends := adds_send (.handshakeResponse 0 session.serverKey) opened
      have grows := grows_send (.handshakeResponse 0 session.serverKey) session
      rw [respondToHandshake, during_eq _ _ _ session place (by decide), Action.andThen]
      split
      · next middle done =>
          rw [done] at sends grows
          exact sends.silent grows.clean (.nothing _ (gains_nothing rfl) (.refl _) rfl)
      · next error last failed =>
          rw [failed] at sends
          exact sends
  · next other =>
      obtain ⟨error, refused⟩ := during_other .awaitingHandshake .handshakeResponse
        (fun session => (send (.handshakeResponse 0 session.serverKey)).andThen
          (advance .awaitingLogin) session) session other
      rw [respondToHandshake, refused]
      exact .nothing session (gains_nothing rfl) (.refl _) opened

theorem adds_authenticate (opened : session.isClosed = false) :
    Adds session none (after (beginAuthentication session)) := by
  rw [beginAuthentication, during, whileOpen_of_open _ session opened]
  split
  · exact .nothing _ (gains_nothing rfl) (.refl _) rfl
  · exact .nothing _ (gains_nothing rfl) (.refl _) opened

/-- A game begins with a framer of its own, or it is refused. -/
theorem enter_cases (table : Table) (pair : KeystreamPair) (session : Session) :
    (session.begun? (.perform (.enter table pair)) = some (table, pair) ∧
      after (enterGame table pair session) =
        { session with framer := .ciphered table session.framer.limit pair, phase := .inGame }) ∨
    (session.begun? (.perform (.enter table pair)) = none ∧
      after (enterGame table pair session) = session) := by
  by_cases place : session.phase = .authenticating
  · have entered : enterGame table pair session = .ok ()
        { session with framer := .ciphered table session.framer.limit pair, phase := .inGame } :=
      during_eq _ _ _ session place (by decide)
    exact .inl ⟨by rw [begun?, entered], by rw [entered, after]⟩
  · obtain ⟨error, refused⟩ := during_other .authenticating .loginResponse
      (fun session => advance .inGame
        { session with framer := .ciphered table session.framer.limit pair }) session place
    have refused : enterGame table pair session = .error error session := refused
    exact .inr ⟨by rw [begun?, refused], by rw [refused, after]⟩

end Step

section Run

variable {session : Session}

/-- What an event does to an open session: what it tells is added, or a game begins and nothing
is added, or the session is closed. -/
theorem next_adds (event : Event) (opened : session.isClosed = false) :
    (session.begun? event = none ∧ Adds session (session.told? event) (session.next event)) ∨
      (∃ table pair, session.begun? event = some (table, pair) ∧ session.told? event = none ∧
        session.next event =
          { session with
            framer := .ciphered table session.framer.limit pair
            phase := .inGame }) ∨
      event = .perform .close := by
  cases event with
  | deliver | finish => exact .inl ⟨rfl, .nothing _ (gains_nothing rfl) (.refl _) opened⟩
  | disturb call =>
      refine .inl ⟨rfl, .nothing _ (gains_nothing ?_) (.refl _) opened⟩
      cases call <;> rfl
  | perform operation =>
      cases operation with
      | read => exact .inl ⟨rfl, (adds_read opened).yield _⟩
      | buffer => exact .inl ⟨rfl, (adds_buffer opened).yield _⟩
      | queue message => exact .inl ⟨rfl, (adds_queue message opened).yield _⟩
      | flush => exact .inl ⟨rfl, (adds_flush opened).yield _⟩
      | send message => exact .inl ⟨rfl, (adds_send message opened).yield _⟩
      | respond => exact .inl ⟨rfl, (adds_respond opened).yield _⟩
      | authenticate => exact .inl ⟨rfl, (adds_authenticate opened).yield _⟩
      | close => exact .inr (.inr rfl)
      | enter table pair =>
          rw [next, Operation.act, after_yield]
          rcases enter_cases table pair session with ⟨begun, entered⟩ | ⟨refused, same⟩
          · exact .inr (.inl ⟨table, pair, begun, rfl, entered⟩)
          · rw [same]
            exact .inl ⟨refused, .nothing session (gains_nothing rfl) (.refl _) opened⟩

/-- Nothing is added to a closed session. -/
theorem next_closed (closed : session.isClosed = true) (event : Event) :
    (session.next event).isClosed = true ∧
      (session.next event).pipe.written = session.pipe.written ∧ session.told? event = none := by
  have refused (message : Message) : session.queued? message = none := by
    rw [queued?, queue, whileOpen_of_closed _ closed]
  cases event with
  | deliver | finish => exact ⟨closed, rfl, rfl⟩
  | disturb call => cases call <;> exact ⟨closed, rfl, rfl⟩
  | perform operation =>
      have same := (orderly session operation).finished (beq_iff_eq.mp closed)
      rw [next, same]
      refine ⟨closed, rfl, ?_⟩
      cases operation with
      | queue message => exact refused message
      | send message => exact refused message
      | respond => rw [told?, refused, ite_self]
      | read | buffer | flush | authenticate | enter | close => rfl

/-- A closed session stays as it is, and nothing more comes into its ledger. -/
theorem run_closed (closed : session.isClosed = true) (events : List Event) :
    (session.run events).isClosed = true ∧
      (session.run events).pipe.written = session.pipe.written ∧
      ∀ pen, session.ledger pen events = [] := by
  induction events generalizing session with
  | nil => exact ⟨closed, rfl, fun pen => rfl⟩
  | cons event rest ih =>
      obtain ⟨still, written, untold⟩ := next_closed closed event
      obtain ⟨last, more, empty⟩ := ih still
      refine ⟨last, more.trans written, fun pen => ?_⟩
      simp only [ledger, untold, empty, Option.toList_none, List.map_nil, List.append_nil]

/-- A session has become another one, and these entries account for what has come to its output. -/
def Accounted (session : Session) (entries : List (Pen × Message)) (last : Session) : Prop :=
  ∃ said, Account entries said ∧
    (last.isClosed = false → last.output = session.output ++ said) ∧
    last.pipe.written.toList <+: session.output ++ said

theorem Accounted.refl (session : Session) : Accounted session [] session := by
  refine ⟨[], .nil, fun _ => (List.append_nil _).symm, ?_⟩
  rw [List.append_nil, output]
  exact List.prefix_append _ _

/-- Of a closed session the bytes that were held back are missing. -/
theorem accounted_of_closed {last : Session} (closed : last.isClosed = true)
    (kept : last.pipe.written = session.pipe.written) : Accounted session [] last := by
  refine ⟨[], .nil, fun opened => ?_, ?_⟩
  · rw [closed] at opened
    cases opened
  · rw [List.append_nil, output, kept]
    exact List.prefix_append _ _

/-- Events are accounted for by a pen that writes as the framer of the session does. -/
theorem accounted_run (pen : Pen) (like : pen.framer.WritesLike session.framer)
    (events : List Event) (clean : session.pipe.Clean) (gentle : ∀ event ∈ events, event.Clean) :
    Accounted session (session.ledger pen events) (session.run events) := by
  -- The framer of the session reads too, so all that the pen and the framer go on sharing is how
  -- they write.
  induction events generalizing session pen with
  | nil => exact .refl session
  | cons event rest ih =>
      cases closed : session.isClosed with
      | true =>
          obtain ⟨last, written, empty⟩ := run_closed closed (event :: rest)
          rw [empty]
          exact accounted_of_closed last written
      | false =>
          obtain ⟨mild, gentle⟩ := List.forall_mem_cons.mp gentle
          replace ih (pen : Pen)
              (like : pen.framer.WritesLike (session.next event).framer) :=
            ih pen like (clean_next clean mild) gentle
          rcases next_adds event closed with
            ⟨begun, adds⟩ | ⟨table, pair, begun, untold, same⟩ | rfl
          · rw [ledger, penAfter, begun]
            generalize session.told? event = told at adds ⊢
            cases adds with
            | nothing next gains more opened =>
                have output := gains.whole clean
                rw [List.append_nil] at output
                rw [Accounted, ← output]
                exact ih pen (like.trans more)
            | message message framer bytes next encoded gains more opened =>
                obtain ⟨wrote, later⟩ := Pen.writes_of_like like encoded
                obtain ⟨said, account, whole, part⟩ := ih _ (later.trans more)
                rw [gains.whole clean, List.append_assoc] at whole part
                exact ⟨bytes ++ said, .cons wrote account, whole, part⟩
          · have output : (session.next event).output = session.output := by rw [same]; rfl
            rw [ledger, penAfter, begun, untold, Accounted, ← output]
            refine ih ⟨.ciphered table session.framer.limit pair, 0⟩ ?_
            rw [same]
            exact Pen.like_zero _
          · obtain ⟨last, written, empty⟩ := run_closed session.close_isClosed rest
            have nothing : session.ledger pen (.perform .close :: rest) = [] := empty _
            rw [nothing]
            exact accounted_of_closed last (written.trans session.close_pipe.1)

/-- Whatever happens to a session and to its stream, if the writes that fail take no bytes: while it
is open, what it has written and what it holds back are what it had before and the messages that
were queued since, each once and in order, and written by the framer in place with an outgoing
stream that has moved by one word for each opcode. What it has written when it is closed stays the
beginning of that, and a message that cannot be queued leaves the session as it was. -/
theorem account_run (session : Session) (events : List Event) (clean : session.pipe.Clean)
    (gentle : ∀ event ∈ events, event.Clean) :
    let last := session.run events
    ∃ said, Account (session.ledger ⟨session.framer, 0⟩ events) said ∧
      (last.isClosed = false → last.output = session.output ++ said) ∧
      (last.isClosed = true → ∀ later,
        (last.run later).pipe.written.toList <+: session.output ++ said) ∧
      ∀ message error next, queue message last = .error error next → next = last := by
  intro last
  obtain ⟨said, account, whole, part⟩ :=
    accounted_run _ (Pen.like_zero session.framer) events clean gentle
  refine ⟨said, account, whole, fun closed later => ?_, fun _ _ _ => eq_of_queue_error⟩
  rw [(run_closed closed later).2.1]
  exact part

/-- The response is held back when its write fails, and written in front of the next one. -/
theorem account_run_of_retry :
    let origin := start ⟨1, none⟩ .fresh (.plain .login 65535) 1
    let events : List Event := [.disturb (.write 0), .perform .respond, .perform .respond]
    origin.pipe.Clean ∧ (∀ event ∈ events, event.Clean) ∧
      (origin.run events).output = handshakeAnswer 1 ++ handshakeAnswer 1 ∧
      Account (origin.ledger ⟨origin.framer, 0⟩ events) (origin.run events).output := by
  intro origin events
  have clean : origin.pipe.Clean := nofun
  have gentle : ∀ event ∈ events, event.Clean := by simp [events, Event.Clean, Pipe.Call.Clean]
  have written : (origin.run events).output = handshakeAnswer 1 ++ handshakeAnswer 1 := by
    decide +kernel
  have opened : (origin.run events).isClosed = false := by decide +kernel
  obtain ⟨said, account, whole, _⟩ := account_run origin events clean gentle
  refine ⟨clean, gentle, written, ?_⟩
  rw [whole opened]
  exact account

end Run

end Session

end GameServer
