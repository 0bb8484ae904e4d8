import GameServer.Proofs.Player.Registry
import GameServer.Proofs.Session.Course

/- This file follows the place of a player in the registry through the moves of a connection. -/

namespace GameServer

/-- The player whose place in the registry belongs to a connection at this stage. -/
def Stage.player? : Stage → Option Player
  | .playing player _ => some player
  | .leaving _ player => some player
  | _ => none

/-- The player that a connection at this stage brings into the game, or has brought. -/
def Stage.candidate? : Stage → Option Player
  | .authenticating attempt _ => some attempt.player
  | stage => stage.player?

namespace Connection

/-- What a move does to the registry. -/
inductive Transit (registry : PlayerRegistry) (connection : Connection) (moved : Move) : Prop where
  | stays (same : moved.registry = registry)
      (player : moved.connection.stage.player? = connection.stage.player?)
  | joins (player : Player) (outside : connection.stage.player? = none)
      (candidate : connection.stage.candidate? = some player)
      (joining : registry.join player = .ok moved.registry)
      (inside : moved.connection.stage.player? = some player)
  | leaves (result : Except SessionError Unit) (player : Player)
      (stage : connection.stage = .leaving result player)
      (after : moved.connection.stage = .finished result)
      (removed : moved.registry = (registry.remove player.username player.connection).2)

/-- What a move does to the connection and to the registry. -/
structure Moves (registry : PlayerRegistry) (connection : Connection) (moved : Move) : Prop where
  transit : Transit registry connection moved
  session : connection.session.Reaches moved.connection.session
  /-- A player comes from the connection. -/
  own : ∀ player, moved.connection.stage.candidate? = some player →
    connection.stage.candidate? = some player ∨
      player.connection = connection.session.info.connection
  /-- No player leaves the game for a refusal. -/
  silent : ∀ error player, moved.connection.stage = .leaving (.error error) player →
    error.refusal? = none

section Moves

variable {server : Server} {now : Nat} {registry : PlayerRegistry} {session : Session}
  {since : Nat} {connection : Connection}

/-- A connection that ends before the game has no place to leave. -/
theorem finish_moves {next : Session} (reaches : connection.session.Reaches next)
    (outside : connection.stage.player? = none) (result : Except SessionError Unit)
    (reports : List Report) : Moves registry connection (finish next result registry reports) where
  transit := .stays rfl outside.symm
  session := reaches.trans (Session.reaches_conclude next result)
  own player candidate := by cases candidate
  silent error player leaving := by cases leaving

/-- A connection goes on at a stage before the game. -/
theorem outside_moves {moved : Move} (reaches : connection.session.Reaches moved.connection.session)
    (same : moved.registry = registry) (before : connection.stage.player? = none)
    (after : moved.connection.stage.player? = none)
    (own : ∀ player, moved.connection.stage.candidate? = some player →
      connection.stage.candidate? = some player ∨
        player.connection = connection.session.info.connection) :
    Moves registry connection moved where
  transit := .stays same (after.trans before.symm)
  session := reaches
  own := own
  silent error player leaving := by
    rw [leaving] at after
    cases after

theorem awaitHandshake_moves :
    Moves registry ⟨session, .handshake since⟩
      (awaitHandshake server now registry session since) := by
  have reaches := session.reaches_hear since server.settings.handshakeLimit now
  unfold awaitHandshake
  generalize session.hear since server.settings.handshakeLimit now = heard at reaches
  obtain ⟨hearing, next⟩ := heard
  cases hearing with
  | failed error => exact finish_moves reaches rfl _ _
  | ended => exact finish_moves reaches rfl _ _
  | waiting => exact outside_moves reaches rfl rfl rfl nofun
  | message message =>
      have responds := Session.reaches_respond next
      dsimp only at reaches ⊢
      split
      · next failed =>
          rw [failed] at responds
          exact finish_moves (reaches.trans responds) rfl _ _
      · next done =>
          rw [done] at responds
          exact outside_moves (reaches.trans responds) rfl rfl rfl nofun

theorem authenticate_moves {next : Session} (reaches : session.Reaches next) (block : LoginBlock)
    (keys : SessionKeys) (reports : List Report) (picks : List Branch) :
    Moves registry ⟨session, .login since⟩
      (authenticate server now registry next block keys reports picks) := by
  have begins := Session.reaches_authenticate next
  unfold authenticate
  split
  · next failed =>
      rw [failed] at begins
      exact finish_moves (reaches.trans begins) rfl _ _
  · next last done =>
      rw [done] at begins
      have info : last.info = session.info := (reaches.trans begins).info
      have own := congrArg SessionInfo.connection info
      dsimp only
      split
      · refine outside_moves (reaches.trans begins) rfl rfl rfl ?_
        rintro player ⟨⟩
        exact .inr own
      · refine outside_moves (reaches.trans begins) rfl rfl rfl ?_
        rintro player ⟨⟩
        exact .inr own

theorem awaitLogin_moves (picks : List Branch) :
    Moves registry ⟨session, .login since⟩
      (awaitLogin server now registry session since picks) := by
  have reaches := session.reaches_hear since server.settings.handshakeLimit now
  unfold awaitLogin
  generalize session.hear since server.settings.handshakeLimit now = heard at reaches
  obtain ⟨hearing, next⟩ := heard
  cases hearing with
  | failed error => exact finish_moves reaches rfl _ _
  | ended => exact finish_moves reaches rfl _ _
  | waiting => exact outside_moves reaches rfl rfl rfl nofun
  | message message =>
      dsimp only at reaches ⊢
      split
      · split
        · exact finish_moves reaches rfl _ _
        · exact authenticate_moves reaches _ _ _ picks
      · exact finish_moves reaches rfl _ _

/-- A player joins before the welcome, and stays in the registry whether it is said or not. -/
theorem concludeLogin_moves {attempt : LoginAttempt} {code : ResponseCode} :
    Moves registry ⟨session, .authenticating attempt since⟩
      (concludeLogin server now registry session attempt code) := by
  unfold concludeLogin
  dsimp only
  split
  · cases joining : registry.join attempt.player with
    | error refusal => exact finish_moves (.refl session) rfl _ _
    | ok joined =>
        have reaches := Session.reaches_andThen
          (Session.reaches_send (.loginResponse ⟨code, attempt.player.privilege, false⟩) session)
          (Session.reaches_enter server.gameTable (.server attempt.keys))
        dsimp only
        split
        · next error next failed =>
            rw [failed] at reaches
            -- The player has joined all the same, and leaves in the next move.
            have concludes := Session.reaches_conclude next (.error error)
            refine ⟨.joins attempt.player rfl rfl joining rfl, reaches.trans concludes, ?_, ?_⟩
            · rintro player ⟨⟩
              exact .inl rfl
            · rintro other player ⟨⟩
              rcases Session.andThen_error failed with refused | ⟨middle, _, refused⟩
              · exact (Session.blames_send refused).silent
              · exact (Session.blames_enter refused).silent
        · next done =>
            rw [done] at reaches
            refine ⟨.joins attempt.player rfl rfl joining rfl, reaches, ?_, ?_⟩
            · rintro player ⟨⟩
              exact .inl rfl
            · rintro error player ⟨⟩
  · exact finish_moves (.refl session) rfl _ _

/-- What a move does after more was received, it does in all. -/
theorem Moves.before {next : Session} {stage : Stage} {moved : Move}
    (moves : Moves registry ⟨next, stage⟩ moved) (reaches : session.Reaches next) :
    Moves registry ⟨session, stage⟩ moved where
  transit := by
    cases moves.transit with
    | stays same player => exact .stays same player
    | joins player outside candidate joining inside =>
        exact .joins player outside candidate joining inside
    | leaves result player leaving after removed =>
        exact .leaves result player leaving after removed
  session := reaches.trans moves.session
  own player candidate := by
    have info := congrArg SessionInfo.connection reaches.info
    exact (moves.own player candidate).imp_right fun same => same.trans info
  silent := moves.silent

theorem Awaits.moves {attempt : LoginAttempt} {moved : Move}
    (awaits : Awaits server now registry attempt since session moved) :
    Moves registry ⟨session, .authenticating attempt since⟩ moved := by
  have reaches {session : Session}
      {result : EStateM.Result SessionError Session Session.Buffering}
      (same : session.buffer = result) :
      session.Reaches (Session.after result) := same ▸ session.reaches_buffer
  induction awaits with
  | decided | late => exact concludeLogin_moves
  | failed session next error room failed =>
      have received := reaches failed
      exact finish_moves received rfl _ _
  | left session next room ended =>
      have received := reaches ended
      exact finish_moves received rfl _ _
  | waits session => exact outside_moves (.refl session) rfl rfl rfl fun _ => .inl
  | reads session next count undecided early room taken =>
      exact outside_moves (reaches taken) rfl rfl rfl fun _ => .inl
  | again session next count moved room taken later ih => exact ih.before (reaches taken)

/-- A player in the game keeps the place until the connection has ended. -/
theorem play_moves {player : Player} :
    Moves registry ⟨session, .playing player since⟩
      (play server now registry session player since) := by
  have reaches := session.reaches_hear since server.settings.idleLimit now
  have silent {error : SessionError} := @Session.silent_of_hear session error since
    server.settings.idleLimit now
  have keeps (stage : Stage) (same : stage.candidate? = some player) (other : Player)
      (candidate : stage.candidate? = some other) :
      (Stage.playing player since).candidate? = some other ∨
        other.connection = session.info.connection := .inl (same.symm.trans candidate)
  have stays {next : Session} (reached : session.Reaches next) (since' : Nat)
      (reports : List Report) (waits : Bool) :
      Moves registry ⟨session, .playing player since⟩
        ⟨⟨next, .playing player since'⟩, registry, reports, waits⟩ := by
    refine ⟨.stays rfl rfl, reached, keeps (.playing player since') rfl, ?_⟩
    rintro error other ⟨⟩
  have leaves {next : Session} {result : Except SessionError Unit}
      (reached : session.Reaches next)
      (silent : ∀ error, result = .error error → error.refusal? = none)
      (reports : List Report) :
      Moves registry ⟨session, .playing player since⟩
        (leave next result player registry reports) := by
    refine ⟨.stays rfl rfl, reached.trans (Session.reaches_conclude next result),
      keeps (.leaving result player) rfl, ?_⟩
    rintro error other ⟨⟩
    exact silent error rfl
  unfold play
  generalize session.hear since server.settings.idleLimit now = heard at reaches silent
  obtain ⟨hearing, next⟩ := heard
  cases hearing with
  | failed error =>
      refine leaves reaches ?_ _
      rintro other ⟨⟩
      exact silent rfl
  | ended =>
      refine leaves reaches ?_ _
      rintro other ⟨⟩
  | waiting => exact stays reaches since _ _
  | message message =>
      dsimp only at reaches ⊢
      have sends := Session.reaches_sendAll (offer server next (some player) message).2 next
      split
      · next error last failed =>
          rw [failed] at sends
          refine leaves (reaches.trans sends) ?_ _
          rintro other ⟨⟩
          exact (Session.blames_sendAll failed).silent
      · next done =>
          rw [done] at sends
          exact stays (reaches.trans sends) now _ _

theorem move_moves (server : Server) (now : Nat) (registry : PlayerRegistry)
    (connection : Connection) (picks : List Branch) :
    Moves registry connection (connection.move server now registry picks) := by
  obtain ⟨session, stage⟩ := connection
  cases stage with
  | handshake since => exact awaitHandshake_moves
  | login since => exact awaitLogin_moves picks
  | authenticating attempt since => exact (awaits_awaitVerdict session picks).moves
  | playing player since => exact play_moves
  | leaving result player =>
      refine ⟨.leaves result player rfl rfl rfl, .refl session, ?_, ?_⟩
      · rintro other ⟨⟩
      · rintro error other ⟨⟩
  | finished result =>
      refine ⟨.stays rfl rfl, .refl session, ?_, ?_⟩
      · rintro other ⟨⟩
      · rintro error other ⟨⟩

/-- A connection keeps its name. -/
theorem info_move (server : Server) (now : Nat) (registry : PlayerRegistry)
    (connection : Connection) (picks : List Branch) :
    (connection.move server now registry picks).connection.session.info =
      connection.session.info :=
  (move_moves server now registry connection picks).session.info

/-- A connection that is refused was never in the registry. -/
theorem Moves.refused {moved : Move} (moves : Moves registry connection moved)
    (going : connection.result? = none) {error : SessionError}
    (ended : moved.connection.result? = some (.error error)) (told : error.refusal? ≠ none) :
    moved.registry = registry ∧ moved.connection.stage = .finished (.error error) := by
  have finished : moved.connection.stage = .finished (.error error) := by
    unfold result? at ended
    split at ended
    · next left player leaving =>
        cases ended
        exact absurd (moves.silent error player leaving) told
    · next left last =>
        cases ended
        exact last
    · cases ended
  refine ⟨?_, finished⟩
  cases moves.transit with
  | stays same player => exact same
  | joins player outside candidate joining inside =>
      rw [finished] at inside
      cases inside
  | leaves result player stage =>
      rw [result?, stage] at going
      cases going

end Moves

end Connection

end GameServer
