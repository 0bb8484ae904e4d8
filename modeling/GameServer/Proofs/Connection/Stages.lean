import GameServer.Proofs.Connection.Opening

/- This file tells what the moves of a connection come to that has asked. -/

namespace GameServer

namespace Connection

/-- What a move comes to that waits for a verdict. -/
inductive AwaitsVerdict (server : Server) (registry : PlayerRegistry) (session : Session)
    (attempt : LoginAttempt) (since now : Nat) (moved : Move) : Prop where
  | ends (result : Except SessionError Unit) (stage : moved.connection.stage = .finished result)
      (quiet : moved.reports = []) (closed : moved.connection.session.isClosed = true)
      (late : attempt.verdict = none → session.pipe.Sound false →
        verdictDue since server.settings.authenticationLimit ≤ now)
  | waits (undecided : attempt.verdict = none)
      (early : now < verdictDue since server.settings.authenticationLimit)
      (stage : moved.connection.stage = .authenticating attempt since) (quiet : moved.reports = [])
      (kept : session.KeptByRead moved.connection.session)
      (framer : moved.connection.session.framer = session.framer)
      (unread : moved.connection.session.unread = session.unread)
  | joins (verdict : Verdict) (joined : PlayerRegistry) (decided : attempt.verdict = some verdict)
      (success : verdict.outcome.isSuccess = true)
      (joining : registry.join attempt.player = .ok joined) (quiet : moved.reports = [])
      (stage : (∃ since, moved.connection.stage = .playing attempt.player since) ∨
        ∃ result, moved.connection.stage = .leaving result attempt.player)

theorem concludes_login {server : Server} {now : Nat} {registry : PlayerRegistry}
    {session : Session} {attempt : LoginAttempt} {since : Nat} (code : ResponseCode)
    (late : attempt.verdict = none → session.pipe.Sound false →
      verdictDue since server.settings.authenticationLimit ≤ now)
    (decided : code.isSuccess = true →
      ∃ verdict, attempt.verdict = some verdict ∧ verdict.outcome = code) :
    AwaitsVerdict server registry session attempt since now
      (concludeLogin server now registry session attempt code) := by
  rw [concludeLogin]
  by_cases success : code.isSuccess = true
  · rw [if_pos success]
    cases joining : registry.join attempt.player with
    | error refusal => exact .ends _ rfl rfl (Session.conclude_isClosed _ _) late
    | ok joined =>
        obtain ⟨verdict, known, answer⟩ := decided success
        rw [← answer] at success
        dsimp only
        split
        · exact .joins verdict joined known success joining rfl (.inr ⟨_, rfl⟩)
        · exact .joins verdict joined known success joining rfl (.inl ⟨_, rfl⟩)
  · rw [if_neg success]
    exact .ends _ rfl rfl (Session.conclude_isClosed _ _) late

/-- What was received before the move has ended stays unread, and is not looked at. -/
theorem AwaitsVerdict.before {server : Server} {now : Nat} {registry : PlayerRegistry}
    {session next : Session} {attempt : LoginAttempt} {since : Nat} {moved : Move}
    (awaits : AwaitsVerdict server registry next attempt since now moved)
    (kept : session.KeptByRead next) (framer : next.framer = session.framer)
    (unread : next.unread = session.unread) :
    AwaitsVerdict server registry session attempt since now moved := by
  cases awaits with
  | ends result stage quiet closed late =>
      exact .ends result stage quiet closed fun undecided sound => late undecided (kept.sound sound)
  | waits undecided early stage quiet later same more =>
      exact .waits undecided early stage quiet (kept.trans later) (same.trans framer)
        (more.trans unread)
  | joins verdict joined decided success joining quiet stage =>
      exact .joins verdict joined decided success joining quiet stage

theorem awaitsVerdict {server : Server} {now : Nat} {registry : PlayerRegistry}
    {session : Session} {attempt : LoginAttempt} {since : Nat} {moved : Move}
    (opened : session.isClosed = false)
    (awaits : Awaits server now registry attempt since session moved) :
    AwaitsVerdict server registry session attempt since now moved := by
  induction awaits with
  | decided session verdict known =>
      refine concludes_login _ (fun undecided => ?_) fun _ => ⟨verdict, known, rfl⟩
      rw [known] at undecided
      cases undecided
  | late session elapsed => exact concludes_login _ (fun _ _ => elapsed) nofun
  | failed session next error room failed =>
      have buffers := session.buffers_buffer opened
      rw [failed] at buffers
      cases buffers with
      | failed fault =>
          refine .ends _ rfl rfl (Session.conclude_isClosed _ _) fun _ sound => ?_
          rw [sound.readFault] at fault
          cases fault
  | left session next room ended =>
      have buffers := session.buffers_buffer opened
      rw [ended] at buffers
      cases buffers with
      | ended silent finished =>
          refine .ends _ rfl rfl (Session.conclude_isClosed _ _) fun _ sound => ?_
          rw [sound.ended] at finished
          cases finished
  | waits session undecided early blocked =>
      exact .waits undecided early rfl rfl (.refl session) rfl rfl
  | reads session next count undecided early room taken =>
      have buffers := session.buffers_buffer opened
      rw [taken] at buffers
      cases buffers with
      | bytes count next kept framer unread =>
          exact .waits undecided early rfl rfl kept framer unread
  | again session next count moved room taken later ih =>
      have buffers := session.buffers_buffer opened
      rw [taken] at buffers
      cases buffers with
      | bytes count next kept framer unread =>
          exact (ih (kept.isClosed.trans opened)).before kept framer unread

/-- In the game every handler is called with the player, who stays in it until the end. -/
theorem play_cases {server : Server} (now : Nat) (registry : PlayerRegistry) (session : Session)
    (player : Player) (since : Nat) (moved : Move)
    (same : play server now registry session player since = moved) :
    (∀ report ∈ moved.reports, ∃ call, report = .called call ∧ call.player = some player) ∧
      ((∃ since, moved.connection.stage = .playing player since) ∨
        ∃ result, moved.connection.stage = .leaving result player) := by
  have named (next : Session) (message : Message) :=
    server.calls_player next.info (some player) message
  unfold play at same
  split at same
  · subst same
    exact ⟨List.forall_mem_nil _, .inr ⟨_, rfl⟩⟩
  · subst same
    exact ⟨List.forall_mem_nil _, .inr ⟨_, rfl⟩⟩
  · subst same
    exact ⟨List.forall_mem_nil _, .inl ⟨_, rfl⟩⟩
  · next message next heard =>
      have calls := named next message
      dsimp only at same
      split at same
      · subst same
        exact ⟨calls, .inr ⟨_, rfl⟩⟩
      · subst same
        exact ⟨calls, .inl ⟨_, rfl⟩⟩

end Connection

end GameServer
