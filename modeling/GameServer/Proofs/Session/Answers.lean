import GameServer.Proofs.Session.Ledger

namespace GameServer.Session

/-- The bytes that a message is written as, if it can be encoded. -/
def wording (session : Session) (message : Message) : Bytes :=
  match Framer.encode message (session.framer, []) with
  | .ok _ (_, bytes) => bytes
  | .error _ _ => []

/-- The bytes that the response to the handshake is written as. -/
def response (session : Session) : Bytes :=
  session.wording (.handshakeResponse 0 session.serverKey)

/-- How a call to respond ends. -/
inductive Responds (session : Session) : EStateM.Result SessionError Session Unit → Prop where
  | closed (closed : session.phase = .closed) : Responds session (.error .closed session)
  | misplaced (opened : session.phase ≠ .closed) (other : session.phase ≠ .awaitingHandshake) :
      Responds session (.error (.protocol (.unexpected .handshakeResponse session.phase)) session)
  | refused (error : ProtocolError) (last : Framer × Bytes)
      (place : session.phase = .awaitingHandshake)
      (unencoded : Framer.encode (.handshakeResponse 0 session.serverKey) (session.framer, []) =
        .error error last) : Responds session (.error (.protocol error) session)
  /-- The response is held back, and the handshake still waits for it. The pipe may have taken some
  of the bytes that are held back. -/
  | stuck (framer : Framer) (bytes : Bytes) (taken : Nat)
      (place : session.phase = .awaitingHandshake)
      (encoded : Framer.encode (.handshakeResponse 0 session.serverKey) (session.framer, []) =
        .ok () (framer, bytes)) (fault : session.pipe.writeFault = some taken) :
      Responds session (.error (.transport .writeFailed)
        { session with
          framer
          queued := session.queued.push bytes
          pipe := { session.pipe with
            written := session.pipe.written.push
              ((session.queued.push bytes).toList.dropLast.take taken)
            writeFault := none } })
  /-- The response is written, and the handshake still waits for it. -/
  | unsent (framer : Framer) (bytes : Bytes) (written queued : ByteQueue)
      (place : session.phase = .awaitingHandshake)
      (encoded : Framer.encode (.handshakeResponse 0 session.serverKey) (session.framer, []) =
        .ok () (framer, bytes)) (whole : written.toList = session.output ++ bytes)
      (empty : queued.toList = []) (fault : session.pipe.flushFault = true) :
      Responds session (.error (.transport .flushFailed)
        { session with
          framer
          queued
          pipe := { session.pipe with written, flushFault := false } })
  /-- All that was held back is written in front of the response. -/
  | answered (framer : Framer) (bytes : Bytes) (written queued : ByteQueue)
      (place : session.phase = .awaitingHandshake)
      (encoded : Framer.encode (.handshakeResponse 0 session.serverKey) (session.framer, []) =
        .ok () (framer, bytes)) (whole : written.toList = session.output ++ bytes)
      (empty : queued.toList = []) :
      Responds session (.ok ()
        { session with
          framer
          queued
          pipe := { session.pipe with written }
          phase := .awaitingLogin })

/-- The error of an action that fails. -/
def failure? {α : Type} : EStateM.Result SessionError Session α → Option SessionError
  | .ok _ _ => none
  | .error error _ => some error

/-- A call brings the response to the output if it succeeds, and also if its write or its flush
fails. -/
def brings : Option SessionError → Bool
  | none => true
  | some (.transport .writeFailed) => true
  | some (.transport .flushFailed) => true
  | some _ => false

/-- The events one after another, each with the session that it meets. -/
def encounters (session : Session) : List Event → List (Session × Event)
  | [] => []
  | event :: rest => (session, event) :: (session.next event).encounters rest

/-- The bytes that an event brings to the output of the session that it meets. -/
def brought : Session × Event → Bytes
  | (session, event) => (session.told? event).elim [] session.wording

/-- The session that is called to respond. -/
def called? : Session × Event → Option Session
  | (session, .perform .respond) => some session
  | _ => none

/-- The sessions that are called to respond, one after another. -/
def calls (session : Session) (events : List Event) : List Session :=
  (session.encounters events).filterMap called?

/-- The errors of the calls to respond, one after another. -/
def failures (session : Session) (events : List Event) : List (Option SessionError) :=
  (session.calls events).map fun session => failure? (respondToHandshake session)

section Step

variable {session next : Session} {event : Event} {bytes : Bytes}

theorem responds (session : Session) : Responds session (respondToHandshake session) := by
  by_cases place : session.phase = .awaitingHandshake
  · have opened := isClosed_of_phase place (by decide)
    rw [respondToHandshake, during_eq _ _ _ session place (by decide), Action.andThen, send,
      Action.andThen, queue, whileOpen_of_open _ session opened]
    cases encoded : Framer.encode (.handshakeResponse 0 session.serverKey) (session.framer, []) with
    | error error last =>
        cases Framer.encode_error _ _ _ _ encoded
        exact .refused error _ place encoded
    | ok value last =>
        obtain ⟨framer, bytes⟩ := last
        have flushes :=
          flushes { session with framer, queued := session.queued.push bytes } opened
        have whole : session.pipe.written.toList ++ (session.queued.push bytes).toList =
            session.output ++ bytes := by
          rw [ByteQueue.toList_push, ← List.append_assoc]
          rfl
        dsimp only
        generalize flush { session with framer, queued := session.queued.push bytes } = result
          at flushes
        cases flushes with
        | sent written queued same taken empty =>
            exact .answered framer bytes written queued place encoded (same.trans whole) empty
        | stuck taken fault => exact .stuck framer bytes taken place encoded fault
        | unsent written queued same taken empty fault =>
            exact .unsent framer bytes written queued place encoded (same.trans whole) empty fault
  · rw [respondToHandshake, during, whileOpen]
    split
    · next closed => exact .closed (eq_of_beq closed)
    · next opened => exact .misplaced (fun same => opened (beq_iff_eq.mpr same)) place

theorem next_respond (session : Session) :
    session.next (.perform .respond) = after (respondToHandshake session) := after_yield _ _ _

/-- A call queues the response if it comes in its place and the response can be encoded. -/
theorem told_respond (place : session.phase = .awaitingHandshake) :
    session.told? (.perform .respond) =
      match Framer.encode (.handshakeResponse 0 session.serverKey) (session.framer, []) with
      | .ok _ _ => some (.handshakeResponse 0 session.serverKey)
      | .error _ _ => none := by
  have opened := isClosed_of_phase place (by decide)
  rw [told?, if_pos place, queued?, queue, whileOpen_of_open _ session opened]
  cases Framer.encode (.handshakeResponse 0 session.serverKey) (session.framer, []) <;> rfl

/-- A call queues the response, or it brings nothing. -/
theorem told_of_brings (session : Session) :
    session.told? (.perform .respond) =
      if brings (failure? (respondToHandshake session)) then
        some (.handshakeResponse 0 session.serverKey)
      else none := by
  have ends := responds session
  generalize respondToHandshake session = result at ends
  cases ends with
  | closed closed => exact if_neg (by rw [closed]; decide)
  | misplaced opened other => exact if_neg other
  | refused error last place unencoded =>
      rw [told_respond place, unencoded]
      rfl
  | stuck framer bytes taken place encoded | unsent framer bytes written queued place encoded
  | answered framer bytes written queued place encoded =>
      rw [told_respond place, encoded]
      rfl

/-- A call that brings the response finds the session in front of its answer. -/
theorem place_of_brings
    (brought : brings (failure? (respondToHandshake session)) = true) :
    session.phase = .awaitingHandshake := by
  have told := told_of_brings session
  rw [if_pos brought] at told
  by_contra other
  cases (if_neg other).symm.trans told

/-- A call succeeds once, on the way from the handshake to the login. -/
theorem answered_respond (done : failure? (respondToHandshake session) = none) :
    session.phase = .awaitingHandshake ∧
      (session.next (.perform .respond)).phase = .awaitingLogin := by
  have acted := next_respond session
  have ends := responds session
  generalize respondToHandshake session = result at acted ends done
  cases ends with
  | closed | misplaced | refused | stuck | unsent => cases done
  | answered framer bytes written queued place =>
      rw [acted]
      exact ⟨place, rfl⟩

/-- No event leads back to the handshake. -/
theorem past_next (past : session.phase ≠ .awaitingHandshake) (event : Event) :
    (session.next event).phase ≠ .awaitingHandshake := by
  rcases passage_next session event with same | ⟨operation, _, passage⟩
  · rw [same]
    exact past
  · intro back
    rw [back] at passage
    generalize session.phase = first at passage
    cases passage

theorem Adds.gains {told : Option Message} (adds : Adds session told next) :
    Gains session (told.elim [] session.wording) next := by
  cases adds with
  | nothing next gains => exact gains
  | message message framer bytes next encoded gains =>
      rw [Option.elim_some, wording, encoded]
      exact gains

/-- Only closing takes something off the output. -/
theorem gains_next (event : Event) (opened : session.isClosed = false) :
    Gains session (brought (session, event)) (session.next event) ∨ event = .perform .close := by
  rcases next_adds event opened with ⟨_, adds⟩ | ⟨table, pair, _, untold, same⟩ | closes
  · exact .inl adds.gains
  · rw [brought, untold, same]
    exact .inl (gains_nothing rfl)
  · exact .inr closes

end Step

section Run

variable {session : Session}

/-- While a session is open, all that the events have brought is in its output. -/
theorem brought_sublist_output (session : Session) (events : List Event)
    (opened : (session.run events).isClosed = false) :
    (session.output ++ (session.encounters events).flatMap brought).Sublist
      (session.run events).output := by
  induction events generalizing session with
  | nil =>
      rw [encounters, List.flatMap_nil, List.append_nil]
      exact List.Sublist.refl _
  | cons event rest ih =>
      have going : session.isClosed = false := by
        by_contra closed
        have still := (run_closed (by simpa using closed) (event :: rest)).1
        exact absurd (still.symm.trans opened) (by decide)
      rcases gains_next event going with gains | rfl
      · rw [encounters, List.flatMap_cons, ← List.append_assoc]
        exact (gains.part.append_right _).trans (ih (session.next event) opened)
      · have still := (run_closed session.close_isClosed rest).1
        exact absurd (still.symm.trans opened) (by decide)

/-- While a session is open, its output is what the events have brought, if the writes that fail
take no bytes. What is written when it is closed is a part of that. -/
theorem output_run (session : Session) (events : List Event) (clean : session.pipe.Clean)
    (gentle : ∀ event ∈ events, event.Clean) :
    (session.run events).pipe.written.toList <+:
        session.output ++ (session.encounters events).flatMap brought ∧
      ((session.run events).isClosed = false →
        (session.run events).output =
          session.output ++ (session.encounters events).flatMap brought) := by
  induction events generalizing session with
  | nil =>
      rw [encounters, List.flatMap_nil, List.append_nil]
      exact ⟨List.prefix_append _ _, fun opened => rfl⟩
  | cons event rest ih =>
      obtain ⟨mild, gentle⟩ := List.forall_mem_cons.mp gentle
      cases closed : session.isClosed with
      | true =>
          obtain ⟨still, written, _⟩ := run_closed closed (event :: rest)
          rw [written, still, output, List.append_assoc]
          exact ⟨List.prefix_append _ _, fun opened => absurd opened (by decide)⟩
      | false =>
          rcases gains_next event closed with gains | rfl
          · rw [encounters, List.flatMap_cons, ← List.append_assoc, ← gains.whole clean]
            exact ih (session.next event) (clean_next clean mild) gentle
          · obtain ⟨still, written, _⟩ := run_closed session.close_isClosed rest
            have last : session.run (.perform .close :: rest) = session.close.run rest := rfl
            rw [last, written, still, (close_pipe session).1, output, List.append_assoc]
            exact ⟨List.prefix_append _ _, fun opened => absurd opened (by decide)⟩

theorem calls_cons (event : Event) (rest : List Event) :
    session.calls (event :: rest) =
      (called? (session, event)).toList ++ (session.next event).calls rest := by
  rw [calls, encounters, List.filterMap_cons]
  cases called? (session, event) <;> rfl

theorem failures_cons (event : Event) (rest : List Event) :
    session.failures (event :: rest) =
      (called? (session, event)).toList.map (fun called => failure? (respondToHandshake called)) ++
        (session.next event).failures rest := by
  rw [failures, calls_cons, List.map_append, ← failures]

theorem called?_eq_some {event : Event} {called : Session}
    (same : called? (session, event) = some called) :
    event = .perform .respond ∧ called = session := by
  unfold called? at same
  split at same
  · next found =>
      cases found
      cases same
      exact ⟨rfl, rfl⟩
  · cases same

/-- A session that is called is one that the events lead to. -/
theorem exists_run_of_mem_calls {called : Session} (events : List Event)
    (member : called ∈ session.calls events) : ∃ before, called = session.run before := by
  induction events generalizing session with
  | nil => cases member
  | cons event rest ih =>
      rw [calls_cons] at member
      rcases List.mem_append.mp member with now | later
      · obtain ⟨_, rfl⟩ := called?_eq_some (Option.mem_toList.mp now)
        exact ⟨[], rfl⟩
      · obtain ⟨before, same⟩ := ih later
        exact ⟨event :: before, same⟩

/-- No call succeeds past the handshake. -/
theorem count_past (past : session.phase ≠ .awaitingHandshake) (events : List Event) :
    (session.failures events).count none = 0 := by
  induction events generalizing session with
  | nil => rfl
  | cons event rest ih =>
      have later := ih (past_next past event)
      rw [failures_cons, List.count_append, later]
      cases found : called? (session, event) with
      | none => rfl
      | some called =>
          obtain ⟨_, rfl⟩ := called?_eq_some found
          refine List.count_eq_zero.mpr fun member => ?_
          have done := List.mem_singleton.mp member
          exact past (answered_respond done.symm).1

/-- One call succeeds at most. -/
theorem count_none_le (session : Session) (events : List Event) :
    (session.failures events).count none ≤ 1 := by
  induction events generalizing session with
  | nil => exact Nat.zero_le 1
  | cons event rest ih =>
      have later := ih (session.next event)
      rw [failures_cons, List.count_append]
      cases found : called? (session, event) with
      | none => simpa using later
      | some called =>
          obtain ⟨rfl, rfl⟩ := called?_eq_some found
          by_cases done : failure? (respondToHandshake called) = none
          · have past : (called.next (.perform .respond)).phase ≠ .awaitingHandshake := by
              rw [(answered_respond done).2]
              decide
            rw [count_past past]
            exact List.count_le_length
          · have failed : [failure? (respondToHandshake called)].count none = 0 :=
              List.count_eq_zero.mpr fun member => done (List.mem_singleton.mp member).symm
            simpa [failed] using later

theorem countP_brings (failures : List (Option SessionError)) :
    failures.countP brings =
      failures.count none + failures.count (some (.transport .writeFailed)) +
        failures.count (some (.transport .flushFailed)) := by
  induction failures with
  | nil => rfl
  | cons failure rest ih =>
      rw [List.countP_cons, List.count_cons, List.count_cons, List.count_cons, ih]
      cases failure using brings.fun_cases with
      | case1 => simp [brings]; omega
      | case2 => simp [brings]; omega
      | case3 => simp [brings]; omega
      | case4 error unwritten unsent =>
          have unwritten : error ≠ .transport .writeFailed := unwritten
          have unsent : error ≠ .transport .flushFailed := unsent
          simp [brings, unwritten, unsent]

/-- Every call that brings a response queues the same message. -/
theorem told_calls (serverKey : UInt64) (calls : List Session)
    (same : ∀ session ∈ calls, session.serverKey = serverKey) :
    calls.filterMap (·.told? (.perform .respond)) =
      List.replicate
        ((calls.map fun session => failure? (respondToHandshake session)).countP brings)
        (.handshakeResponse 0 serverKey) := by
  induction calls with
  | nil => rfl
  | cons session rest ih =>
      obtain ⟨key, same⟩ := List.forall_mem_cons.mp same
      rw [List.filterMap_cons, List.map_cons, List.countP_cons, ih same]
      rw [told_of_brings, key]
      by_cases brings : brings (failure? (respondToHandshake session)) = true
      · rw [if_pos brings, if_pos brings, List.replicate_succ]
      · rw [if_neg brings, if_neg brings, Nat.add_zero]

/-- Calls that write alike bring the same bytes each time. -/
theorem brought_calls (bytes : Bytes) (calls : List Session)
    (same : ∀ session ∈ calls, session.phase = .awaitingHandshake → session.response = bytes) :
    calls.flatMap (fun session => brought (session, .perform .respond)) =
      (List.replicate
        ((calls.map fun session => failure? (respondToHandshake session)).countP brings)
        bytes).flatten := by
  induction calls with
  | nil => rfl
  | cons session rest ih =>
      obtain ⟨alike, same⟩ := List.forall_mem_cons.mp same
      rw [List.flatMap_cons, List.map_cons, List.countP_cons, ih same]
      rw [brought, told_of_brings]
      by_cases brings : brings (failure? (respondToHandshake session)) = true
      · rw [if_pos brings, if_pos brings, List.replicate_succ, List.flatten_cons,
          ← alike (place_of_brings brings)]
        rfl
      · rw [if_neg brings, if_neg brings, Nat.add_zero]
        rfl

theorem serverKey_run (session : Session) (events : List Event) :
    (session.run events).serverKey = session.serverKey := by
  induction events generalizing session with
  | nil => rfl
  | cons event rest ih => exact (ih _).trans (identity_next session event).2.1

theorem response_of_like {left right : Session} (key : left.serverKey = right.serverKey)
    (like : left.framer.WritesLike right.framer) : left.response = right.response := by
  rw [response, response, wording, wording, key]
  rcases like.encode (.handshakeResponse 0 right.serverKey) with
    ⟨error, mine, other, refused, same⟩ | ⟨mine, other, bytes, wrote, same, _⟩
  · rw [refused, same]
  · rw [wrote, same]

/-- Until the handshake is answered, a plain framer writes as it did at first. -/
theorem response_run {info : SessionInfo} {pipe : Pipe} {framer : Framer} {serverKey : UInt64}
    (bare : framer.cipher = none) (events : List Event)
    (place : ((start info pipe framer serverKey).run events).phase = .awaitingHandshake) :
    ((start info pipe framer serverKey).run events).response =
      (start info pipe framer serverKey).response := by
  have begins : OnCourse (start info pipe framer serverKey) [] (start info pipe framer serverKey) :=
    ⟨rfl, rfl, rfl, .plain rfl bare nofun, nofun⟩
  obtain ⟨_, key, _, framed, _⟩ := begins.run events
  generalize (start info pipe framer serverKey).run events = session at place key framed ⊢
  generalize [] ++ (start info pipe framer serverKey).entries events = entered at framed
  cases framed with
  | plain table cipher before =>
      refine response_of_like key ⟨table, ?_⟩
      rw [cipher, start, bare]
  | ciphered entered pair table hidden within =>
      rw [place] at within
      rcases within with within | within <;> cases within

/-- Whatever happens to a new session and to its stream, one call to respond succeeds at most, and
no call that fails changes anything unless its write or its flush fails. The calls bring as many
responses as there are calls whose write or flush fails, and one more if a call succeeds, and a
plain framer writes the same bytes each time. All of them are in the output, and nothing else than
what was queued is there unless a write that failed has taken some bytes. -/
theorem responses_run (info : SessionInfo) (pipe : Pipe) (framer : Framer) (serverKey : UInt64)
    (events : List Event) :
    let origin := start info pipe framer serverKey
    let last := origin.run events
    let said := (origin.encounters events).flatMap brought
    let calls := origin.calls events
    let failures := origin.failures events
    let answers := failures.count none + failures.count (some (.transport .writeFailed)) +
      failures.count (some (.transport .flushFailed))
    Responds last (respondToHandshake last) ∧ failures.count none ≤ 1 ∧
      (last.isClosed = false → (origin.output ++ said).Sublist last.output) ∧
      (pipe.Clean → (∀ event ∈ events, event.Clean) →
        last.pipe.written.toList <+: origin.output ++ said ∧
          (last.isClosed = false → last.output = origin.output ++ said)) ∧
      calls.filterMap (·.told? (.perform .respond)) =
        List.replicate answers (.handshakeResponse 0 serverKey) ∧
      (framer.cipher = none →
        calls.flatMap (fun session => brought (session, .perform .respond)) =
          (List.replicate answers origin.response).flatten) := by
  intro origin last said calls failures answers
  have counted : failures.countP brings = answers := countP_brings failures
  refine ⟨responds last, origin.count_none_le events, brought_sublist_output origin events,
    output_run origin events, ?_, fun bare => ?_⟩
  · rw [← counted]
    refine told_calls serverKey calls fun session member => ?_
    obtain ⟨before, rfl⟩ := exists_run_of_mem_calls events member
    exact serverKey_run origin before
  · rw [← counted]
    refine brought_calls origin.response calls fun session member place => ?_
    obtain ⟨before, rfl⟩ := exists_run_of_mem_calls events member
    exact response_run bare before place

/-- A response that could not be written is held back and written again by the next call. -/
theorem responded_twice :
    let origin := start ⟨1, none⟩ .fresh (.plain .login 65535) 1
    let stuck := origin.run [.disturb (.write 0), .perform .respond]
    let last := stuck.next (.perform .respond)
    origin.failures [.disturb (.write 0), .perform .respond, .perform .respond] =
        [some (.transport .writeFailed), none] ∧
      stuck.phase = .awaitingHandshake ∧ stuck.queued.toList = handshakeAnswer 1 ∧
      last.pipe.written.toList = handshakeAnswer 1 ++ handshakeAnswer 1 := by
  decide +kernel

end Run

end GameServer.Session
