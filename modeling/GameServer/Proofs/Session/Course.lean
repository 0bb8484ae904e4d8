import GameServer.Proofs.Session.Phases

/- This file shows the only course that a session can take. -/

namespace GameServer.Session

/-- The operations that lead from one phase to another. -/
inductive Passage : Operation → Phase → Phase → Prop where
  | answered : Passage .respond .awaitingHandshake .awaitingLogin
  | asked : Passage .authenticate .awaitingLogin .authenticating
  | entered (table : Table) (pair : KeystreamPair) :
      Passage (.enter table pair) .authenticating .inGame
  | closed (phase : Phase) : Passage .close phase .closed

/-- Only closing leads out of the game. -/
theorem Passage.closed_of_within {operation : Operation} {first last : Phase}
    (passage : Passage operation first last) (within : first = .inGame ∨ first = .closed) :
    last = .closed := by
  cases passage with
  | closed => rfl
  | answered | asked | entered => rcases within with within | within <;> cases within

/-- The messages that each phase lets through. -/
inductive Admits : Phase → Message.Kind → Prop where
  | handshake : Admits .awaitingHandshake .handshake
  | login : Admits .awaitingLogin .login
  | game (kind : Message.Kind) (later : kind ≠ .handshake) (entered : kind ≠ .login) :
      Admits .inGame kind

/-- The game that an event begins, if it begins one. -/
def begun? (session : Session) : Event → Option (Table × KeystreamPair)
  | .perform (.enter table pair) =>
      match enterGame table pair session with
      | .ok _ _ => some (table, pair)
      | .error _ _ => none
  | _ => none

/-- The games that events begin one after another. -/
def entries (session : Session) : List Event → List (Table × KeystreamPair)
  | [] => []
  | event :: rest => (session.begun? event).toList ++ (session.next event).entries rest

/-- The framer of a session in which these games have begun is the plain one over the first table,
or the ciphered one over the table of the only game. -/
inductive Framed (table : Table) (session : Session) : List (Table × KeystreamPair) → Prop where
  | plain (same : session.framer.table = table) (bare : session.framer.cipher = none)
      (before : session.phase ≠ .inGame) : Framed table session []
  | ciphered (entered : Table) (pair : KeystreamPair) (same : session.framer.table = entered)
      (hidden : session.framer.cipher.isSome = true)
      (within : session.phase = .inGame ∨ session.phase = .closed) :
      Framed table session [(entered, pair)]

/-- A session on its course from its origin, after these games have begun. -/
structure OnCourse (origin : Session) (entered : List (Table × KeystreamPair))
    (session : Session) : Prop where
  info : session.info = origin.info
  serverKey : session.serverKey = origin.serverKey
  limit : session.framer.limit = origin.framer.limit
  framed : Framed origin.framer.table session entered
  /-- A closed session holds nothing back and has ended its stream. -/
  closed : session.phase = .closed →
    session.received.bytes.toList = [] ∧ session.queued.toList = [] ∧ session.pipe.shut = true

/-- What an operation may do with a session. -/
structure Orderly (session : Session) (operation : Operation) : Prop where
  misplaced : ∀ phase, operation.phase? = some phase → session.phase ≠ phase →
    ∃ error, operation.act session = .error error session
  answered : ∀ next, operation.act session = .error .closed next → next = session
  failed : ∀ error next, operation.act session = .error error next → next.phase = session.phase
  finished : session.phase = .closed → after (operation.act session) = session
  read : ∀ message next, operation.act session = .ok (.incoming (.message message)) next →
    Admits session.phase message.kind

theorem admits_of_accepts {phase : Phase} {kind : Message.Kind}
    (accepted : accepts phase kind = true) : Admits phase kind := by
  cases phase with
  | awaitingHandshake =>
      have same : kind = .handshake := eq_of_beq accepted
      exact same ▸ .handshake
  | awaitingLogin =>
      have same : kind = .login := eq_of_beq accepted
      exact same ▸ .login
  | authenticating => cases accepted
  | inGame =>
      obtain ⟨later, entered⟩ := (Bool.and_eq_true _ _).mp accepted
      exact .game kind (bne_iff_ne.mp later) (bne_iff_ne.mp entered)
  | closed => cases accepted

theorem admits_of_read {session next : Session} {message : Message}
    (heard : session.read = .ok (.message message) next) : Admits session.phase message.kind := by
  unfold read at heard
  split at heard
  · cases heard
  · have reads := session.reads_readOpen
    rw [heard] at reads
    cases reads with
    | message message next settles accepted => exact admits_of_accepts accepted

theorem orderly (session : Session) (operation : Operation) : Orderly session operation where
  misplaced phase belongs other := act_other operation session phase belongs other
  answered next answered := eq_of_answered answered
  failed error next failed := (stays_of_error operation session next error failed).phase
  finished closed := by
    rw [act_closed operation session (beq_iff_eq.mpr closed)]
    cases operation <;> rfl
  read message next heard := by
    obtain ⟨value, heard, same⟩ : ∃ value, session.read = .ok value next ∧
        Yield.incoming (.message message) = .incoming value := by
      cases operation with
      | read => exact yield_ok heard
      | close => cases heard
      | buffer =>
          obtain ⟨value, _, same⟩ := yield_ok heard
          cases same
      | queue | flush | send | respond | authenticate | enter =>
          obtain ⟨value, _, same⟩ := yield_ok heard
          cases same
    cases same
    exact admits_of_read heard

/-- A passage is all that an operation can do to the phase. -/
theorem Operation.Leads.passage {operation : Operation} {before after : Session}
    (leads : operation.Leads before after) :
    after.phase = before.phase ∨ Passage operation before.phase after.phase := by
  have place := leads.place
  rw [leads.phase]
  cases operation with
  | read | buffer | queue | flush | send => exact .inl rfl
  | respond => exact .inr (place _ rfl ▸ .answered)
  | authenticate => exact .inr (place _ rfl ▸ .asked)
  | enter table pair => exact .inr (place _ rfl ▸ .entered table pair)
  | close => exact .inr (.closed _)

/-- An event leaves the session where it was, or it is an operation that succeeds. -/
theorem next_cases (session : Session) (event : Event) :
    Stays session (session.next event) ∨
      ∃ operation yield, event = .perform operation ∧
        operation.act session = .ok yield (session.next event) := by
  cases event with
  | perform operation =>
      rw [next]
      cases acted : operation.act session with
      | ok yield after => exact .inr ⟨operation, yield, rfl, acted⟩
      | error error after => exact .inl (stays_of_error operation session after error acted)
  | deliver | finish => exact .inl ⟨rfl, rfl, rfl, .refl _⟩
  | disturb => exact .inl ⟨rfl, rfl, rfl, .refl _⟩

/-- The phase changes only by a passage. -/
theorem passage_next (session : Session) (event : Event) :
    (session.next event).phase = session.phase ∨
      ∃ operation, event = .perform operation ∧
        Passage operation session.phase (session.next event).phase := by
  rcases next_cases session event with stays | ⟨operation, yield, same, acted⟩
  · exact .inl stays.phase
  · refine (leads_act operation session _ yield acted).passage.imp_right fun passage => ?_
    exact ⟨operation, same, passage⟩

/-- A game begins by an operation that succeeds. -/
theorem begun?_eq_some {session : Session} {event : Event} {table : Table} {pair : KeystreamPair}
    (begun : session.begun? event = some (table, pair)) :
    event = .perform (.enter table pair) ∧
      (Operation.enter table pair).act session = .ok .done (session.next event) := by
  unfold begun? at begun
  split at begun
  · next entered keys =>
      split at begun
      · next value next done =>
          cases begun
          refine ⟨rfl, ?_⟩
          simp only [Session.next, Operation.act, Action.yield, done, after]
      · cases begun
  · cases begun

/-- Without a new game the framer stays of one make. -/
theorem sameMake_of_begun?_eq_none {session : Session} {event : Event}
    (none : session.begun? event = none) :
    (session.next event).framer.SameMake session.framer ∧
      ((session.next event).phase = .inGame → session.phase = .inGame) := by
  rcases next_cases session event with stays | ⟨operation, yield, rfl, acted⟩
  · exact ⟨stays.make, fun within => stays.phase.symm.trans within⟩
  · have leads := leads_act operation session _ yield acted
    have make := leads.make
    have phase := leads.phase
    cases operation with
    | read | buffer | queue | flush | send =>
        exact ⟨make, fun within => phase.symm.trans within⟩
    | respond | authenticate | close =>
        refine ⟨make, fun within => ?_⟩
        rw [within] at phase
        cases phase
    | enter table pair =>
        obtain ⟨value, done, _⟩ := yield_ok acted
        rw [begun?, done] at none
        cases none

theorem Framed.next {table : Table} {session : Session} {entered : List (Table × KeystreamPair)}
    (framed : Framed table session entered) (event : Event) :
    Framed table (session.next event) (entered ++ (session.begun? event).toList) := by
  cases begun : session.begun? event with
  | some game =>
      obtain ⟨same, acted⟩ := begun?_eq_some begun
      have leads := leads_act _ session _ _ acted
      have place := leads.place _ rfl
      -- A second game cannot begin: only a session that authenticates enters one.
      cases framed with
      | plain same bare before =>
          exact .ciphered game.1 game.2 leads.make.table leads.make.ciphered (.inl leads.phase)
      | ciphered entered pair same hidden within =>
          rw [place] at within
          rcases within with within | within <;> cases within
  | none =>
      obtain ⟨make, within⟩ := sameMake_of_begun?_eq_none begun
      rw [Option.toList_none, List.append_nil]
      cases framed with
      | plain same bare before =>
          refine .plain (make.table.trans same) ?_ fun entered => before (within entered)
          rw [← Option.isNone_iff_eq_none, ← Option.not_isSome, make.ciphered, bare]
          rfl
      | ciphered entered pair same hidden inside =>
          refine .ciphered entered pair (make.table.trans same) (make.ciphered.trans hidden) ?_
          rcases passage_next session event with phase | ⟨operation, _, passage⟩
          · rw [phase]
            exact inside
          · exact .inr (passage.closed_of_within inside)

/-- Who speaks, with which key and within which limit never changes. -/
theorem identity_next (session : Session) (event : Event) :
    (session.next event).info = session.info ∧
      (session.next event).serverKey = session.serverKey ∧
      (session.next event).framer.limit = session.framer.limit := by
  rcases next_cases session event with stays | ⟨operation, yield, _, acted⟩
  · exact ⟨stays.info, stays.serverKey, stays.make.limit⟩
  · have leads := leads_act operation session _ yield acted
    refine ⟨leads.info, leads.serverKey, leads.make.limit.trans ?_⟩
    cases operation <;> rfl

theorem Reaches.info {session last : Session} (reaches : Reaches session last) :
    last.info = session.info := by
  obtain ⟨events, rfl⟩ := reaches
  induction events generalizing session with
  | nil => rfl
  | cons event rest ih => exact ih.trans (identity_next session event).1

/-- A session that an event closes holds nothing back. -/
theorem emptied_next {session : Session} (event : Event)
    (still : session.phase = .closed →
      session.received.bytes.toList = [] ∧ session.queued.toList = [] ∧ session.pipe.shut = true)
    (closed : (session.next event).phase = .closed) :
    (session.next event).received.bytes.toList = [] ∧
      (session.next event).queued.toList = [] ∧ (session.next event).pipe.shut = true := by
  by_cases already : session.phase = .closed
  · cases event with
    | perform operation =>
        have same := (orderly session operation).finished already
        rw [Session.next, same]
        exact still already
    | deliver | finish => exact still already
    | disturb call => cases call <;> exact still already
  · rcases passage_next session event with phase | ⟨operation, rfl, passage⟩
    · exact absurd (phase.symm.trans closed) already
    · rw [closed] at passage
      generalize session.phase = first at passage
      cases passage with
      | closed =>
          have opened : session.isClosed = false := beq_eq_false_iff_ne.mpr already
          rw [Session.next, Operation.act, after, close, opened]
          exact ⟨rfl, rfl, rfl⟩

theorem OnCourse.next {origin session : Session} {entered : List (Table × KeystreamPair)}
    (course : OnCourse origin entered session) (event : Event) :
    OnCourse origin (entered ++ (session.begun? event).toList) (session.next event) := by
  obtain ⟨info, serverKey, limit⟩ := identity_next session event
  exact ⟨info.trans course.info, serverKey.trans course.serverKey, limit.trans course.limit,
    course.framed.next event, emptied_next event course.closed⟩

theorem OnCourse.run {origin session : Session} {entered : List (Table × KeystreamPair)}
    (course : OnCourse origin entered session) (events : List Event) :
    OnCourse origin (entered ++ session.entries events) (session.run events) := by
  induction events generalizing session entered with
  | nil =>
      rw [entries, List.append_nil]
      exact course
  | cons event rest ih =>
      rw [entries, ← List.append_assoc]
      exact ih (course.next event)

/-- Whatever is done with a session that starts with a plain framer, and whatever its stream does
meanwhile: it stays on its course, its phase changes only by a passage, and every operation on it is
orderly. -/
theorem course_of_start (info : SessionInfo) (pipe : Pipe) (table : Table)
    (progress : Framer.Progress) (limit : Nat) (serverKey : UInt64) (events : List Event) :
    let origin := Session.start info pipe ⟨table, none, progress, limit⟩ serverKey
    let session := origin.run events
    OnCourse origin (origin.entries events) session ∧
      (∀ event, (session.next event).phase = session.phase ∨
        ∃ operation, event = .perform operation ∧
          Passage operation session.phase (session.next event).phase) ∧
      ∀ operation, Orderly session operation := by
  intro origin session
  have begins : OnCourse origin [] origin :=
    ⟨rfl, rfl, rfl, .plain rfl rfl nofun, nofun⟩
  exact ⟨begins.run events, passage_next session, orderly session⟩

end GameServer.Session
