import GameServer.Connection.Basic

/- This file tells what a move of the wait for a verdict may come to. -/

namespace GameServer.Connection

variable {server : Server} {now : Nat} {registry : PlayerRegistry} {attempt : LoginAttempt}
  {since : Nat} {session : Session}

/-- No bytes can be received for now. -/
def Blocked (server : Server) (session : Session) : Prop :=
  server.settings.maxPayload + frameOverhead ≤ session.received.bytes.size ∨
    ∃ next, session.buffer = .ok .waiting next

theorem Blocked.quiet (blocked : Blocked server session)
    (room : session.received.bytes.size < server.settings.maxPayload + frameOverhead) :
    ∃ next, session.buffer = .ok .waiting next :=
  blocked.resolve_left (Nat.not_le_of_lt room)

theorem poll_verdict_eq_none_iff :
    poll server now registry session attempt since .verdict = none ↔ attempt.verdict = none := by
  simp only [poll, Option.map_eq_none_iff]

theorem poll_deadline_eq_none_iff :
    poll server now registry session attempt since .deadline = none ↔
      now < verdictDue since server.settings.authenticationLimit := by
  simp only [poll]
  split
  · next elapsed => simp [elapsed]
  · next early => simpa using early

theorem poll_bytes_eq_none_iff :
    poll server now registry session attempt since .bytes = none ↔ Blocked server session := by
  simp only [poll, Blocked]
  split
  · next full => simp [full]
  · next room =>
      split
      · next failed => simp [room, failed]
      · next ended => simp [room, ended]
      · next quiet => simp [quiet]
      · next taken => simp [room, taken]

/-- What a move of the wait for a verdict may come to. -/
inductive Awaits (server : Server) (now : Nat) (registry : PlayerRegistry)
    (attempt : LoginAttempt) (since : Nat) : Session → Move → Prop where
  | decided (session : Session) (verdict : Verdict) (known : attempt.verdict = some verdict) :
      Awaits server now registry attempt since session
        (concludeLogin server now registry session attempt verdict.outcome)
  | late (session : Session)
      (elapsed : verdictDue since server.settings.authenticationLimit ≤ now) :
      Awaits server now registry attempt since session
        (concludeLogin server now registry session attempt .loginServerOffline)
  | failed (session next : Session) (error : SessionError)
      (room : session.received.bytes.size < server.settings.maxPayload + frameOverhead)
      (failed : session.buffer = .error error next) :
      Awaits server now registry attempt since session (finish next (.error error) registry [])
  | left (session next : Session)
      (room : session.received.bytes.size < server.settings.maxPayload + frameOverhead)
      (ended : session.buffer = .ok .ended next) :
      Awaits server now registry attempt since session (finish next (.ok ()) registry [])
  | waits (session : Session) (undecided : attempt.verdict = none)
      (early : now < verdictDue since server.settings.authenticationLimit)
      (blocked : Blocked server session) :
      Awaits server now registry attempt since session
        (wait session (.authenticating attempt since) registry)
  | reads (session next : Session) (count : Nat) (undecided : attempt.verdict = none)
      (early : now < verdictDue since server.settings.authenticationLimit)
      (room : session.received.bytes.size < server.settings.maxPayload + frameOverhead)
      (taken : session.buffer = .ok (.bytes count) next) :
      Awaits server now registry attempt since session
        ⟨⟨next, .authenticating attempt since⟩, registry, [], false⟩
  /-- Another branch may be ready, and bytes are received first. -/
  | again (session next : Session) (count : Nat) (moved : Move)
      (room : session.received.bytes.size < server.settings.maxPayload + frameOverhead)
      (taken : session.buffer = .ok (.bytes count) next)
      (later : Awaits server now registry attempt since next moved) :
      Awaits server now registry attempt since session moved

/-- A branch ends the wait as it may end. -/
theorem awaits_of_ends {branch : Branch} {moved : Move}
    (ends : poll server now registry session attempt since branch = some (.ends moved)) :
    Awaits server now registry attempt since session moved := by
  cases branch with
  | verdict =>
      obtain ⟨verdict, known, same⟩ := Option.map_eq_some_iff.mp ends
      cases same
      exact .decided session verdict known
  | deadline =>
      simp only [poll] at ends
      split at ends
      · next elapsed =>
          cases ends
          exact .late session elapsed
      · cases ends
  | bytes =>
      simp only [poll] at ends
      split at ends
      · cases ends
      · next full =>
          have room := Nat.lt_of_not_le full
          split at ends
          · next failed =>
              cases ends
              exact .failed session _ _ room failed
          · next ended =>
              cases ends
              exact .left session _ room ended
          · cases ends
          · cases ends

theorem taken_of_reads {branch : Branch} {next : Session}
    (reads : poll server now registry session attempt since branch = some (.reads next)) :
    session.received.bytes.size < server.settings.maxPayload + frameOverhead ∧
      ∃ count, session.buffer = .ok (.bytes count) next := by
  cases branch with
  | verdict =>
      obtain ⟨verdict, known, same⟩ := Option.map_eq_some_iff.mp reads
      cases same
  | deadline =>
      simp only [poll] at reads
      split at reads <;> cases reads
  | bytes =>
      simp only [poll] at reads
      split at reads
      · cases reads
      · next full =>
          split at reads
          · cases reads
          · cases reads
          · cases reads
          · next count received taken =>
              cases reads
              exact ⟨Nat.lt_of_not_le full, count, taken⟩

/-- The picked branch is taken if it is ready. -/
theorem select_of_poll {pick : Branch} {outcome : Outcome}
    (ready : poll server now registry session attempt since pick = some outcome) :
    select server now registry session attempt since pick = some outcome := by
  simp only [select, List.findSome?_cons, ready]

/-- Bytes that nobody has picked are received only if nothing else is ready. -/
theorem quiet_of_select {next : Session}
    (reads : select server now registry session attempt since .deadline = some (.reads next)) :
    attempt.verdict = none ∧ now < verdictDue since server.settings.authenticationLimit := by
  have early : poll server now registry session attempt since .deadline = none := by
    cases ready : poll server now registry session attempt since .deadline with
    | none => rfl
    | some outcome =>
        rw [select_of_poll ready] at reads
        cases reads
        simp only [poll] at ready
        split at ready <;> cases ready
  refine ⟨?_, poll_deadline_eq_none_iff.mp early⟩
  simp only [select, List.findSome?_cons, early] at reads
  cases known : attempt.verdict with
  | none => rfl
  | some verdict =>
      rw [poll, known] at reads
      cases reads

theorem select_eq_none {pick : Branch}
    (none : select server now registry session attempt since pick = none) :
    attempt.verdict = .none ∧ now < verdictDue since server.settings.authenticationLimit ∧
      Blocked server session := by
  have blocked := List.findSome?_eq_none_iff.mp none
  exact ⟨poll_verdict_eq_none_iff.mp (blocked .verdict (by simp)),
    poll_deadline_eq_none_iff.mp (blocked .deadline (by simp)),
    poll_bytes_eq_none_iff.mp (blocked .bytes (by simp))⟩

/-- Nothing is ready whatever is picked, and with whatever registry. -/
theorem awaitVerdict_of_blocked (undecided : attempt.verdict = none)
    (early : now < verdictDue since server.settings.authenticationLimit)
    (blocked : Blocked server session) (registry : PlayerRegistry) (picks : List Branch) :
    awaitVerdict server now registry session attempt since picks =
      wait session (.authenticating attempt since) registry := by
  have none (pick : Branch) : select server now registry session attempt since pick = none := by
    rw [select, List.findSome?_eq_none_iff]
    intro branch _
    cases branch with
    | verdict => exact poll_verdict_eq_none_iff.mpr undecided
    | deadline => exact poll_deadline_eq_none_iff.mpr early
    | bytes => exact poll_bytes_eq_none_iff.mpr blocked
  cases picks <;> rw [awaitVerdict, none]

theorem waits_of_select {pick : Branch}
    (none : select server now registry session attempt since pick = none) :
    Awaits server now registry attempt since session
      (wait session (.authenticating attempt since) registry) := by
  obtain ⟨undecided, early, blocked⟩ := select_eq_none none
  exact .waits session undecided early blocked

theorem awaits_of_select {pick : Branch} {moved : Move}
    (ends : select server now registry session attempt since pick = some (.ends moved)) :
    Awaits server now registry attempt since session moved := by
  obtain ⟨branch, _, ends⟩ := List.exists_of_findSome?_eq_some ends
  exact awaits_of_ends ends

theorem taken_of_select {pick : Branch} {next : Session}
    (reads : select server now registry session attempt since pick = some (.reads next)) :
    session.received.bytes.size < server.settings.maxPayload + frameOverhead ∧
      ∃ count, session.buffer = .ok (.bytes count) next := by
  obtain ⟨branch, _, reads⟩ := List.exists_of_findSome?_eq_some reads
  exact taken_of_reads reads

theorem awaits_awaitVerdict (session : Session) (picks : List Branch) :
    Awaits server now registry attempt since session
      (awaitVerdict server now registry session attempt since picks) := by
  induction picks generalizing session with
  | nil =>
      rw [awaitVerdict]
      split
      · next none => exact waits_of_select none
      · next moved ends => exact awaits_of_select ends
      · next next reads =>
          obtain ⟨undecided, early⟩ := quiet_of_select reads
          obtain ⟨room, count, taken⟩ := taken_of_select reads
          exact .reads session next count undecided early room taken
  | cons pick rest ih =>
      rw [awaitVerdict]
      split
      · next none => exact waits_of_select none
      · next moved ends => exact awaits_of_select ends
      · next next reads =>
          obtain ⟨room, count, taken⟩ := taken_of_select reads
          exact .again session next count _ room taken (ih next)

/-- A branch that ends the wait does so when it is picked. -/
theorem awaitVerdict_of_ends {pick : Branch} {moved : Move}
    (ready : poll server now registry session attempt since pick = some (.ends moved)) :
    awaitVerdict server now registry session attempt since [pick] = moved := by
  rw [awaitVerdict, List.headD_cons, select_of_poll ready]

theorem poll_bytes_of_taken {next : Session} {count : Nat}
    (room : session.received.bytes.size < server.settings.maxPayload + frameOverhead)
    (taken : session.buffer = .ok (.bytes count) next) :
    poll server now registry session attempt since .bytes = some (.reads next) := by
  rw [poll, if_neg (Nat.not_le_of_lt room), taken]

/-- Whatever the wait may come to, some picks bring it there. -/
theorem exists_awaitVerdict {moved : Move}
    (awaits : Awaits server now registry attempt since session moved) :
    ∃ picks, awaitVerdict server now registry session attempt since picks = moved := by
  induction awaits with
  | decided session verdict known =>
      refine ⟨[.verdict], awaitVerdict_of_ends ?_⟩
      rw [poll, known, Option.map_some]
  | late session elapsed => exact ⟨[.deadline], awaitVerdict_of_ends (if_pos elapsed)⟩
  | failed session next error room failed =>
      refine ⟨[.bytes], awaitVerdict_of_ends ?_⟩
      rw [poll, if_neg (Nat.not_le_of_lt room), failed]
  | left session next room ended =>
      refine ⟨[.bytes], awaitVerdict_of_ends ?_⟩
      rw [poll, if_neg (Nat.not_le_of_lt room), ended]
  | waits session undecided early blocked =>
      exact ⟨[], awaitVerdict_of_blocked undecided early blocked registry []⟩
  | reads session next count undecided early room taken =>
      have reads : select server now registry session attempt since .deadline =
          some (.reads next) := by
        simp only [select, List.findSome?_cons, poll_deadline_eq_none_iff.mpr early,
          poll_verdict_eq_none_iff.mpr undecided, poll_bytes_of_taken room taken]
      refine ⟨[], ?_⟩
      rw [awaitVerdict, List.headD_nil, reads]
  | again session next count moved room taken later ih =>
      obtain ⟨picks, same⟩ := ih
      refine ⟨.bytes :: picks, ?_⟩
      rw [awaitVerdict, List.headD_cons, select_of_poll (poll_bytes_of_taken room taken)]
      exact same

end GameServer.Connection
