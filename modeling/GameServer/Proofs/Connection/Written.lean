import GameServer.Proofs.Connection.Admission
import GameServer.Proofs.Connection.Speaking

/- This file shows what a connection writes from its first byte to its end. -/

namespace GameServer

theorem LoginPolicy.validate_error {policy : LoginPolicy} {block : LoginBlock} {serverKey : UInt64}
    {code : ResponseCode} (refused : policy.validate block serverKey = .error code) :
    code.isSuccess = false := by
  unfold validate at refused
  split at refused
  · cases refused; rfl
  · split at refused
    · cases refused; rfl
    · split at refused
      · cases refused; rfl
      · split at refused
        · cases refused; rfl
        · split at refused
          · cases refused; rfl
          · split at refused
            · cases refused; rfl
            · cases refused

theorem PlayerRegistry.join_error {registry : PlayerRegistry} {player : Player}
    {code : ResponseCode} (refused : registry.join player = .error code) :
    code.isSuccess = false := by
  unfold join at refused
  split at refused
  · cases refused; rfl
  · split at refused
    · cases refused; rfl
    · cases refused

/-- All that a connection can have written, given who has entered the game with which code and keys,
and what the result is. -/
inductive Wrote (serverKey : UInt64) (entered : ResponseCode → SessionKeys → Prop)
    (result? : Option (Except SessionError Unit)) : Bytes → Prop where
  | nothing : Wrote serverKey entered result? []
  | greeting : Wrote serverKey entered result? (handshakeAnswer serverKey)
  | refusal (error : SessionError) (code : ResponseCode) (result : result? = some (.error error))
      (told : error.refusal? = some code) (refused : code.value ≠ 2 ∧ code.value ≠ 15) :
      Wrote serverKey entered result? (handshakeAnswer serverKey ++ loginAnswer code)
  | game (code : ResponseCode) (keys : SessionKeys) (lines : List String)
      (success : code.value = 2 ∨ code.value = 15) (joined : entered code keys)
      (sayable : ∀ line ∈ lines, Sayable line) :
      Wrote serverKey entered result? (handshakeAnswer serverKey ++ loginAnswer code ++
        chatFrames (KeystreamPair.server keys).outgoing lines)

namespace Wrote

variable {serverKey : UInt64} {entered later : ResponseCode → SessionKeys → Prop}
  {result? : Option (Except SessionError Unit)} {bytes : Bytes}

theorem mono (wrote : Wrote serverKey entered result? bytes)
    (more : ∀ code keys, entered code keys → later code keys) :
    Wrote serverKey later result? bytes := by
  cases wrote with
  | nothing => exact .nothing
  | greeting => exact .greeting
  | refusal error code result told refused => exact .refusal error code result told refused
  | game code keys lines success joined sayable =>
      exact .game code keys lines success (more code keys joined) sayable

/-- Nothing is written by the end itself. -/
theorem ended (wrote : Wrote serverKey entered none bytes) :
    Wrote serverKey entered result? bytes := by
  cases wrote with
  | nothing => exact .nothing
  | greeting => exact .greeting
  | refusal error code result => cases result
  | game code keys lines success joined sayable =>
      exact .game code keys lines success joined sayable

/-- A refusal follows the answer to the handshake, unless its write fails. -/
theorem refuses {before after : Session} {error : SessionError} {code : ResponseCode}
    (concludes : Session.Concludes serverKey before after (.error error))
    (told : error.refusal? = some code) :
    Wrote serverKey entered (some (.error error)) after.pipe.written.toList := by
  obtain ⟨refused, _, written⟩ := concludes.told error code rfl told
  rw [written]
  split
  · rw [List.append_nil]
    exact .greeting
  · exact .refusal error code rfl told refused

/-- What could not be sent was not written, or all of it was. -/
theorem falters {session next : Session} {error : SessionError}
    (falters : Session.Falters session bytes error next)
    (before : Wrote serverKey entered none session.pipe.written.toList)
    (whole : Wrote serverKey entered none (session.pipe.written.toList ++ bytes)) :
    Wrote serverKey entered result? (next.conclude (.error error)).pipe.written.toList := by
  rw [falters.written_conclude]
  cases falters with
  | silent error next untold same =>
      rw [same]
      exact before.ended
  | unsent middle next same failed all =>
      rw [all]
      exact whole.ended

end Wrote

namespace Connection

/-- What a connection has said at each stage. -/
inductive Voice (server : Server) (info : SessionInfo) (serverKey : UInt64)
    (entered : ResponseCode → SessionKeys → Prop) (connection : Connection) : Prop where
  | handshake (since : Nat) (stage : connection.stage = .handshake since)
      (speaks : Session.Speaks info serverKey .awaitingHandshake
        (.plain .login server.settings.maxPayload) [] connection.session)
  | login (since : Nat) (stage : connection.stage = .login since)
      (speaks : Session.Speaks info serverKey .awaitingLogin
        (.plain .login server.settings.maxPayload) (handshakeAnswer serverKey) connection.session)
  | authenticating (attempt : LoginAttempt) (since : Nat)
      (stage : connection.stage = .authenticating attempt since)
      (own : attempt.player.connection = info.connection) (common : attempt.player.privilege = 0)
      (speaks : Session.Speaks info serverKey .authenticating
        (.plain .login server.settings.maxPayload) (handshakeAnswer serverKey) connection.session)
  | playing (player : Player) (since : Nat) (stage : connection.stage = .playing player since)
      (code : ResponseCode) (keys : SessionKeys) (lines : List String)
      (success : code.value = 2 ∨ code.value = 15) (joined : entered code keys)
      (sayable : ∀ line ∈ lines, Sayable line)
      (speaks : Session.Speaks info serverKey .inGame
        (.ciphered .game server.settings.maxPayload
          ((KeystreamPair.server keys).skipOutgoing lines.length))
        (handshakeAnswer serverKey ++ loginAnswer code ++
          chatFrames (KeystreamPair.server keys).outgoing lines) connection.session)
  | gone (result : Except SessionError Unit) (ended : connection.result? = some result)
      (closed : connection.session.isClosed = true)
      (wrote : Wrote serverKey entered (some result) connection.session.pipe.written.toList)

/-- A move goes on speaking, or it ends and says why. -/
inductive Speech (server : Server) (info : SessionInfo) (serverKey : UInt64)
    (entered : ResponseCode → SessionKeys → Prop) (session : Session) (moved : Move) : Prop where
  | goesOn (going : moved.connection.result? = none)
      (voice : Voice server info serverKey entered moved.connection)
  | ends (result : Except SessionError Unit) (ended : moved.connection.result? = some result)
      (concludes : Session.Concludes serverKey session moved.connection.session result)
      (wrote : Wrote serverKey entered (some result) moved.connection.session.pipe.written.toList)

section Speech

variable {server : Server} {info : SessionInfo} {serverKey : UInt64}
  {entered : ResponseCode → SessionKeys → Prop} {session : Session}

/-- A connection that ends for no refusal says nothing. -/
theorem speech_of_silent {next : Session} {moved : Move} {result : Except SessionError Unit}
    (ended : moved.connection.result? = some result)
    (left : moved.connection.session = next.conclude result)
    (wrote : Wrote serverKey entered none session.pipe.written.toList)
    (said : next.pipe.written.toList = session.pipe.written.toList)
    (silent : ∀ error, result = .error error → error.refusal? = none) :
    Speech server info serverKey entered session moved := by
  refine .ends result ended ?_ ?_
  · rw [left]
    exact Session.concludes_of_silent result silent said
  · rw [left, (next.conclude_pipe result silent).1, said]
    exact wrote.ended

theorem speech_of_error {next : Session} {moved : Move} {error : SessionError}
    (ended : moved.connection.result? = some (.error error))
    (left : moved.connection.session = next.conclude (.error error))
    (wrote : Wrote serverKey entered none session.pipe.written.toList)
    (said : next.pipe.written.toList = session.pipe.written.toList)
    (silent : error.refusal? = none) : Speech server info serverKey entered session moved := by
  refine speech_of_silent ended left wrote said ?_
  intro other same
  cases same
  exact silent

/-- A connection that cannot send these bytes ends. -/
theorem speech_of_falters {next last : Session} {moved : Move} {error : SessionError}
    {bytes : Bytes} (falters : Session.Falters next bytes error last)
    (ended : moved.connection.result? = some (.error error))
    (left : moved.connection.session = last.conclude (.error error))
    (wrote : Wrote serverKey entered none next.pipe.written.toList)
    (whole : Wrote serverKey entered none (next.pipe.written.toList ++ bytes))
    (said : next.pipe.written.toList = session.pipe.written.toList) :
    Speech server info serverKey entered session moved := by
  refine .ends (.error error) ended ?_ ?_
  · rw [left]
    exact falters.concludes said
  · rw [left]
    exact Wrote.falters falters wrote whole

/-- A connection that ends for a refusal says it. -/
theorem speech_of_refusal {next : Session} {moved : Move} {error : SessionError}
    {code : ResponseCode} (ended : moved.connection.result? = some (.error error))
    (left : moved.connection.session = next.conclude (.error error))
    (told : error.refusal? = some code)
    (concludes : Session.Concludes serverKey session (next.conclude (.error error)) (.error error)) :
    Speech server info serverKey entered session moved := by
  refine .ends (.error error) ended ?_ ?_
  · rw [left]
    exact concludes
  · rw [left]
    exact Wrote.refuses concludes told

theorem awaitHandshake_speech
    (speaks : Session.Speaks info serverKey .awaitingHandshake
      (.plain .login server.settings.maxPayload) [] session)
    (now : Nat) (registry : PlayerRegistry) (since : Nat) :
    Speech server info serverKey entered session
      (awaitHandshake server now registry session since) := by
  obtain ⟨listens, said, _⟩ := speaks.hear (by decide) since server.settings.handshakeLimit now
  have silent {error : SessionError} := @Session.silent_of_hear session error since
    server.settings.handshakeLimit now
  unfold awaitHandshake
  generalize session.hear since server.settings.handshakeLimit now = heard at listens said silent
  obtain ⟨hearing, next⟩ := heard
  have wrote : Wrote serverKey entered none session.pipe.written.toList := by
    rw [speaks.written]
    exact .nothing
  cases hearing with
  | failed error => exact speech_of_error rfl rfl wrote said (silent rfl)
  | ended => exact speech_of_silent rfl rfl wrote said nofun
  | waiting => exact .goesOn rfl (.handshake since rfl listens)
  | message message =>
      have responds := listens.respond
      dsimp only
      cases responded : Session.respondToHandshake next with
      | error error last =>
          rw [responded] at responds
          refine speech_of_falters responds rfl rfl (said ▸ wrote) ?_ said
          rw [listens.written]
          exact .greeting
      | ok value last =>
          rw [responded] at responds
          exact .goesOn rfl (.login now rfl responds)

theorem awaitLogin_speech
    (speaks : Session.Speaks info serverKey .awaitingLogin
      (.plain .login server.settings.maxPayload) (handshakeAnswer serverKey) session)
    (now : Nat) (registry : PlayerRegistry) (since : Nat) (picks : List Branch) :
    Speech server info serverKey entered session
      (awaitLogin server now registry session since picks) := by
  obtain ⟨listens, said, fault⟩ := speaks.hear (by decide) since server.settings.handshakeLimit now
  have silent {error : SessionError} := @Session.silent_of_hear session error since
    server.settings.handshakeLimit now
  unfold awaitLogin
  generalize session.hear since server.settings.handshakeLimit now = heard
    at listens said fault silent
  obtain ⟨hearing, next⟩ := heard
  have wrote : Wrote serverKey entered none session.pipe.written.toList := by
    rw [speaks.written]
    exact .greeting
  cases hearing with
  | failed error => exact speech_of_error rfl rfl wrote said (silent rfl)
  | ended => exact speech_of_silent rfl rfl wrote said nofun
  | waiting => exact .goesOn rfl (.login since rfl listens)
  | message message =>
      dsimp only
      split
      · next block =>
          cases valid : server.settings.loginPolicy.validate block next.serverKey with
          | error code =>
              refine speech_of_refusal rfl rfl rfl ?_
              exact listens.concludes (by decide) said.symm fault.symm rfl
                (LoginPolicy.validate_error valid)
          | ok keys =>
              have begun : Session.beginAuthentication next =
                  .ok () { next with phase := .authenticating } := by
                rw [Session.beginAuthentication,
                  Session.during_eq _ _ _ next listens.phase (by decide)]
                rfl
              have asks : Session.Speaks info serverKey .authenticating
                  (.plain .login server.settings.maxPayload) (handshakeAnswer serverKey)
                  { next with phase := .authenticating } :=
                ⟨listens.info, listens.serverKey, rfl, listens.like, listens.queued,
                  listens.written, listens.clean⟩
              have own := congrArg SessionInfo.connection listens.info
              dsimp only
              rw [authenticate, begun]
              dsimp only
              split <;> exact .goesOn rfl (.authenticating _ now rfl own rfl asks)
      · exact speech_of_error rfl rfl wrote said rfl

/-- A verdict of success is told only to a player who joins the registry, and every other verdict is
a refusal. -/
theorem concludeLogin_speech {attempt : LoginAttempt} {code : ResponseCode}
    (reference : server.gameTable = .game) (common : attempt.player.privilege = 0)
    (speaks : Session.Speaks info serverKey .authenticating
      (.plain .login server.settings.maxPayload) (handshakeAnswer serverKey) session)
    (now : Nat) (registry : PlayerRegistry)
    (enters : ∀ joined, code.isSuccess = true → registry.join attempt.player = .ok joined →
      entered code attempt.keys) :
    Speech server info serverKey entered session
      (concludeLogin server now registry session attempt code) := by
  rw [concludeLogin]
  cases success : code.isSuccess with
  | false =>
      exact speech_of_refusal rfl rfl rfl (speaks.concludes (by decide) rfl rfl rfl success)
  | true =>
      rw [if_pos rfl]
      cases joining : registry.join attempt.player with
      | error refusal =>
          refine speech_of_refusal rfl rfl rfl ?_
          exact speaks.concludes (by decide) rfl rfl rfl (PlayerRegistry.join_error joining)
      | ok joined =>
          -- The place is taken before anything is said, so a welcome is told to a player who joined.
          have joins := enters joined success joining
          have answered := (ResponseCode.isSuccess_iff code).mp success
          have welcomes := speaks.welcome code (.server attempt.keys)
          dsimp only
          rw [common, reference]
          generalize ((Session.send (.loginResponse ⟨code, 0, false⟩)).andThen
            (Session.enterGame .game (.server attempt.keys))) session = welcomed at welcomes
          cases welcomed with
          | error error next =>
              refine speech_of_falters welcomes rfl rfl ?_ ?_ rfl
              · rw [speaks.written]
                exact .greeting
              · rw [speaks.written, ← List.append_nil (_ ++ _)]
                exact .game code attempt.keys [] answered joins (List.forall_mem_nil _)
          | ok value next =>
              refine .goesOn rfl (.playing _ now rfl code attempt.keys [] answered joins
                (List.forall_mem_nil _) ?_)
              rw [chatFrames, List.append_nil]
              exact welcomes

/-- A player who has joined stays in the registry, whether the welcome is said or not. -/
theorem registry_concludeLogin {attempt : LoginAttempt} {code : ResponseCode} {now : Nat}
    {registry joined : PlayerRegistry} (success : code.isSuccess = true)
    (joining : registry.join attempt.player = .ok joined) :
    (concludeLogin server now registry session attempt code).registry = joined := by
  rw [concludeLogin, if_pos success, joining]
  dsimp only
  split <;> rfl

/-- What a connection has read before its move has ended is not said. -/
theorem Speech.before {next : Session} {moved : Move}
    (speech : Speech server info serverKey entered next moved) (kept : session.KeptByRead next) :
    Speech server info serverKey entered session moved := by
  cases speech with
  | goesOn going voice => exact .goesOn going voice
  | ends result ended concludes wrote => exact .ends result ended (concludes.before kept) wrote

theorem Awaits.speech {attempt : LoginAttempt} {now : Nat} {registry : PlayerRegistry}
    {since : Nat} {moved : Move} (reference : server.gameTable = .game)
    (own : attempt.player.connection = info.connection) (common : attempt.player.privilege = 0)
    (awaits : Awaits server now registry attempt since session moved)
    (speaks : Session.Speaks info serverKey .authenticating
      (.plain .login server.settings.maxPayload) (handshakeAnswer serverKey) session)
    (enters : ∀ verdict joined, attempt.verdict = some verdict →
      verdict.outcome.isSuccess = true → registry.join attempt.player = .ok joined →
      moved.registry = joined → entered verdict.outcome attempt.keys) :
    Speech server info serverKey entered session moved := by
  have wrote {session : Session} (speaks : Session.Speaks info serverKey .authenticating
      (.plain .login server.settings.maxPayload) (handshakeAnswer serverKey) session) :
      Wrote serverKey entered none session.pipe.written.toList := by
    rw [speaks.written]
    exact .greeting
  have buffers {session : Session} (speaks : Session.Speaks info serverKey .authenticating
      (.plain .login server.settings.maxPayload) (handshakeAnswer serverKey) session) :=
    session.buffers_buffer (Session.isClosed_of_phase speaks.phase (by decide))
  induction awaits with
  | decided session verdict known =>
      exact concludeLogin_speech reference common speaks now registry fun joined success joining =>
        enters verdict joined known success joining (registry_concludeLogin success joining)
  | late session elapsed =>
      -- A verdict that is too late counts as a refusal, so nobody enters by it.
      exact concludeLogin_speech reference common speaks now registry nofun
  | failed session next error room failed =>
      have buffers := buffers speaks
      rw [failed] at buffers
      cases buffers with
      | failed fault => exact speech_of_error rfl rfl (wrote speaks) rfl rfl
  | left session next room ended =>
      have buffers := buffers speaks
      rw [ended] at buffers
      cases buffers with
      | ended silent finished => exact speech_of_silent rfl rfl (wrote speaks) rfl nofun
  | waits session => exact .goesOn rfl (.authenticating attempt since rfl own common speaks)
  | reads session next count undecided early room taken =>
      have buffers := buffers speaks
      rw [taken] at buffers
      cases buffers with
      | bytes count next kept framer unread =>
          have listens := speaks.read kept (framer ▸ .refl _)
          exact .goesOn rfl (.authenticating attempt since rfl own common listens)
  | again session next count moved room taken later ih =>
      have buffers := buffers speaks
      rw [taken] at buffers
      cases buffers with
      | bytes count next kept framer unread =>
          exact (ih (speaks.read kept (framer ▸ .refl _)) enters).before kept

/-- A player's connection says more lines of chat, or it ends and says no more. -/
theorem play_speech {code : ResponseCode} {keys : SessionKeys} {lines : List String}
    (success : code.value = 2 ∨ code.value = 15) (joined : entered code keys)
    (sayable : ∀ line ∈ lines, Sayable line)
    (speaks : Session.Speaks info serverKey .inGame
      (.ciphered .game server.settings.maxPayload
        ((KeystreamPair.server keys).skipOutgoing lines.length))
      (handshakeAnswer serverKey ++ loginAnswer code ++
        chatFrames (KeystreamPair.server keys).outgoing lines) session)
    (now : Nat) (registry : PlayerRegistry) (player : Player) (since : Nat) :
    Speech server info serverKey entered session
      (play server now registry session player since) := by
  obtain ⟨listens, said, _⟩ := speaks.hear (by decide) since server.settings.idleLimit now
  have silent {error : SessionError} := @Session.silent_of_hear session error since
    server.settings.idleLimit now
  unfold play
  generalize session.hear since server.settings.idleLimit now = heard at listens said silent
  obtain ⟨hearing, next⟩ := heard
  have wrote : Wrote serverKey entered none session.pipe.written.toList := by
    rw [speaks.written]
    exact .game code keys lines success joined sayable
  -- The cipher of the new lines starts where the cipher of the old ones has stopped.
  have joint (more : List String) : handshakeAnswer serverKey ++ loginAnswer code ++
      chatFrames (KeystreamPair.server keys).outgoing lines ++
        chatFrames ((KeystreamPair.server keys).skipOutgoing lines.length).outgoing more =
      handshakeAnswer serverKey ++ loginAnswer code ++
        chatFrames (KeystreamPair.server keys).outgoing (lines ++ more) := by
    rw [chatFrames_append, ← List.append_assoc]
    rfl
  cases hearing with
  | failed error => exact speech_of_error rfl rfl wrote said (silent rfl)
  | ended => exact speech_of_silent rfl rfl wrote said nofun
  | waiting =>
      exact .goesOn rfl (.playing player since rfl code keys lines success joined sayable listens)
  | message message =>
      dsimp only
      rw [offer_eq]
      dsimp only
      obtain ⟨more, others, chats⟩ :=
        listens.chat (server.replies next.info (some player) message)
      generalize Session.sendAll (server.replies next.info (some player) message) next = sent
        at chats
      cases sent with
      | error error last =>
          refine speech_of_falters chats rfl rfl (said ▸ wrote) ?_ said
          rw [listens.written, joint more]
          exact .game code keys (lines ++ more) success joined
            (List.forall_mem_append.mpr ⟨sayable, others⟩)
      | ok value last =>
          refine .goesOn rfl (.playing player now rfl code keys (lines ++ more) success joined
            (List.forall_mem_append.mpr ⟨sayable, others⟩) ?_)
          rw [← joint more, List.length_append, KeystreamPair.skipOutgoing_add]
          exact chats

/-- What is said at the end follows what was said before. -/
theorem Speech.voice {moved : Move} (speech : Speech server info serverKey entered session moved) :
    Voice server info serverKey entered moved.connection := by
  cases speech with
  | goesOn going voice => exact voice
  | ends result ended concludes wrote =>
      exact .gone result ended concludes.closed wrote

end Speech

/-- The writes that are made to fail take no bytes. -/
def Happening.Clean : Happening → Prop
  | .disturb call => call.Clean
  | _ => True

section Voice

variable {server : Server} {info : SessionInfo} {serverKey : UInt64}
  {entered later : ResponseCode → SessionKeys → Prop} {connection : Connection}

theorem Voice.wrote (voice : Voice server info serverKey entered connection) :
    Wrote serverKey entered connection.result? connection.session.pipe.written.toList := by
  cases voice with
  | handshake since stage speaks =>
      rw [speaks.written]
      exact .nothing
  | login since stage speaks =>
      rw [speaks.written]
      exact .greeting
  | authenticating attempt since stage own common speaks =>
      rw [speaks.written]
      exact .greeting
  | playing player since stage code keys lines success joined sayable speaks =>
      rw [speaks.written]
      exact .game code keys lines success joined sayable
  | gone result ended closed wrote =>
      rw [ended]
      exact wrote

theorem Voice.mono (voice : Voice server info serverKey entered connection)
    (more : ∀ code keys, entered code keys → later code keys) :
    Voice server info serverKey later connection := by
  cases voice with
  | handshake since stage speaks => exact .handshake since stage speaks
  | login since stage speaks => exact .login since stage speaks
  | authenticating attempt since stage own common speaks =>
      exact .authenticating attempt since stage own common speaks
  | playing player since stage code keys lines success joined sayable speaks =>
      exact .playing player since stage code keys lines success (more code keys joined) sayable
        speaks
  | gone result ended closed wrote => exact .gone result ended closed (wrote.mono more)

/-- The pipe may change in all but what is written. -/
theorem Voice.onPipe (voice : Voice server info serverKey entered connection) (pipe : Pipe)
    (same : pipe.written = connection.session.pipe.written)
    (clean : connection.session.pipe.Clean → pipe.Clean) :
    Voice server info serverKey entered
      { connection with session := { connection.session with pipe } } := by
  cases voice with
  | handshake since stage speaks =>
      exact .handshake since stage (speaks.onPipe pipe same (clean speaks.clean))
  | login since stage speaks =>
      exact .login since stage (speaks.onPipe pipe same (clean speaks.clean))
  | authenticating attempt since stage own common speaks =>
      exact .authenticating attempt since stage own common
        (speaks.onPipe pipe same (clean speaks.clean))
  | playing player since stage code keys lines success joined sayable speaks =>
      exact .playing player since stage code keys lines success joined sayable
        (speaks.onPipe pipe same (clean speaks.clean))
  | gone result ended closed wrote =>
      refine .gone result ended closed ?_
      dsimp only
      rw [same]
      exact wrote

/-- A verdict says nothing by itself. -/
theorem Voice.resolve (voice : Voice server info serverKey entered connection)
    (verdict : Verdict) : Voice server info serverKey entered (connection.resolve verdict) := by
  unfold Connection.resolve
  split
  · next waiting since waits =>
      cases voice with
      | authenticating attempt since stage own common speaks =>
          rw [stage] at waits
          cases waits
          exact .authenticating _ since rfl own common speaks
      | handshake since stage | login since stage | playing player since stage =>
          rw [stage] at waits
          cases waits
      | gone result ended =>
          rw [result?, waits] at ended
          cases ended
  · exact voice

theorem Voice.isClosed (voice : Voice server info serverKey entered connection)
    {result : Except SessionError Unit} (ended : connection.result? = some result) :
    connection.session.isClosed = true := by
  cases voice with
  | gone other same closed => exact closed
  | handshake since stage | login since stage | authenticating attempt since stage
  | playing player since stage =>
      rw [result?, stage] at ended
      cases ended

/-- A connection that has ended stays as it is. -/
theorem move_over (server : Server) (now : Nat) (registry : PlayerRegistry) (picks : List Branch)
    {result : Except SessionError Unit} (ended : connection.result? = some result) :
    (connection.move server now registry picks).connection.result? = some result ∧
      (connection.move server now registry picks).connection.session = connection.session := by
  obtain ⟨session, stage⟩ := connection
  cases stage with
  | leaving left player => exact ⟨ended, rfl⟩
  | finished left => exact ⟨ended, rfl⟩
  | handshake | login | authenticating | playing => cases ended

end Voice

end Connection

namespace Life

open Connection (Happening Voice Speech)

/-- A player with these keys has joined the registry in a move, after the handshake was answered and
the authenticator has answered with this code. -/
inductive Entered (server : Server) (born : Life) (info : SessionInfo) (serverKey : UInt64)
    (history : List Happening) (code : ResponseCode) (keys : SessionKeys) : Prop where
  | joined (before : List Happening) (seconds : Nat) (registry joined : PlayerRegistry)
      (picks : List Connection.Branch) (later : List Happening) (attempt : LoginAttempt)
      (since : Nat) (verdict : Verdict)
      (same : history = before ++ .move seconds registry picks :: later)
      (stage : (born.run server before).connection.stage = .authenticating attempt since)
      (decided : attempt.verdict = some verdict) (answer : verdict.outcome = code)
      (named : attempt.keys = keys) (own : attempt.player.connection = info.connection)
      (joining : registry.join attempt.player = .ok joined)
      (left : ((born.run server before).moveAfter server seconds registry picks).registry = joined)
      (written : (born.run server before).connection.session.pipe.written.toList =
        handshakeAnswer serverKey)

theorem Entered.append {server : Server} {born : Life} {info : SessionInfo} {serverKey : UInt64}
    {history : List Happening} {code : ResponseCode} {keys : SessionKeys}
    (entered : Entered server born info serverKey history code keys) (more : List Happening) :
    Entered server born info serverKey (history ++ more) code keys := by
  obtain ⟨before, seconds, registry, joined, picks, later, attempt, since, verdict, same, stage,
    decided, answer, named, own, joining, left, written⟩ := entered
  refine ⟨before, seconds, registry, joined, picks, later ++ more, attempt, since, verdict, ?_,
    stage, decided, answer, named, own, joining, left, written⟩
  rw [same, List.append_assoc, List.cons_append]

section Voice

variable {server : Server} {born : Life} {info : SessionInfo} {serverKey : UInt64}
  {history : List Happening}

/-- A move of a connection that has not ended goes on speaking, or it ends and says why. -/
theorem speech_move (reference : server.gameTable = .game)
    (voice : Voice server info serverKey (Entered server born info serverKey history)
      (born.run server history).connection)
    (going : (born.run server history).connection.result? = none) (seconds : Nat)
    (registry : PlayerRegistry) (picks : List Connection.Branch) :
    Speech server info serverKey
      (Entered server born info serverKey (history ++ [.move seconds registry picks]))
      (born.run server history).connection.session
      ((born.run server history).moveAfter server seconds registry picks) := by
  cases voice with
  | handshake since stage speaks =>
      rw [moveAfter, Connection.move, stage]
      exact Connection.awaitHandshake_speech speaks _ registry since
  | login since stage speaks =>
      rw [moveAfter, Connection.move, stage]
      exact Connection.awaitLogin_speech speaks _ registry since picks
  | authenticating attempt since stage own common speaks =>
      refine (awaits_moveAfter stage server seconds registry picks).speech reference own common
        speaks ?_
      intro verdict joined decided success joining left
      exact .joined history seconds registry joined picks [] attempt since verdict rfl stage
        decided rfl rfl own joining left speaks.written
  | playing player since stage code keys lines success joined sayable speaks =>
      rw [moveAfter, Connection.move, stage]
      exact Connection.play_speech success (joined.append _) sayable speaks _ registry player since
  | gone result ended =>
      rw [ended] at going
      cases going

theorem voice_next (reference : server.gameTable = .game) {happening : Happening}
    (gentle : happening.Clean)
    (voice : Voice server info serverKey (Entered server born info serverKey history)
      (born.run server history).connection) :
    Voice server info serverKey (Entered server born info serverKey (history ++ [happening]))
      (born.run server (history ++ [happening])).connection := by
  have later : Voice server info serverKey
      (Entered server born info serverKey (history ++ [happening]))
      (born.run server history).connection :=
    voice.mono fun code keys entered => entered.append _
  rw [run_concat]
  cases happening with
  | deliver bytes => exact later.onPipe _ rfl id
  | finish => exact later.onPipe _ rfl id
  | disturb call =>
      exact later.onPipe _ (by cases call <;> rfl) fun clean => clean.disturb gentle
  | answer verdict => exact later.resolve verdict
  | move seconds registry picks =>
      cases going : (born.run server history).connection.result? with
      | none =>
          exact (speech_move reference voice going seconds registry picks).voice
      | some result =>
          obtain ⟨ended, same⟩ := Connection.move_over server
            ((born.run server history).now + seconds) registry picks going
          have wrote := later.wrote
          rw [going] at wrote
          refine .gone result ended ?_ ?_
          · exact (congrArg Session.isClosed same).trans (voice.isClosed going)
          · exact (congrArg (·.pipe.written.toList) same) ▸ wrote

theorem voice_run (server : Server) (login : server.loginTable = .login)
    (game : server.gameTable = .game) (info : SessionInfo) (serverKey : UInt64) (now : Nat)
    (history : List Happening) (gentle : ∀ happening ∈ history, happening.Clean) :
    let born := start server info serverKey now
    Voice server info serverKey (Entered server born info serverKey history)
      (born.run server history).connection := by
  intro born
  induction history using List.reverseRecOn with
  | nil =>
      refine .handshake now rfl ⟨rfl, rfl, rfl, ?_, rfl, rfl, nofun⟩
      simp only [run_nil, born, start, Connection.start, login]
      exact .refl _
  | append_singleton history happening ih =>
      obtain ⟨before, last⟩ := List.forall_mem_append.mp gentle
      exact voice_next game (List.forall_mem_singleton.mp last) (ih before)

/-- Nothing is written after the end. -/
theorem over_next (server : Server) {life : Life} {result : Except SessionError Unit}
    (ended : life.connection.result? = some result) (happening : Happening) :
    (life.next server happening).connection.result? = some result ∧
      (life.next server happening).connection.session.pipe.written =
        life.connection.session.pipe.written := by
  cases happening with
  | deliver bytes => exact ⟨ended, rfl⟩
  | finish => exact ⟨ended, rfl⟩
  | disturb call => exact ⟨ended, by cases call <;> rfl⟩
  | answer verdict =>
      have same : life.connection.resolve verdict = life.connection := by
        unfold Connection.resolve
        split
        · next attempt since waits =>
            rw [Connection.result?, waits] at ended
            cases ended
        · rfl
      rw [next, same]
      exact ⟨ended, rfl⟩
  | move seconds registry picks =>
      obtain ⟨after, same⟩ := Connection.move_over server (life.now + seconds) registry picks ended
      exact ⟨after, congrArg (·.pipe.written) same⟩

theorem over_run (server : Server) {life : Life} {result : Except SessionError Unit}
    (ended : life.connection.result? = some result) (later : List Happening) :
    (life.run server later).connection.result? = some result ∧
      (life.run server later).connection.session.pipe.written =
        life.connection.session.pipe.written := by
  induction later using List.reverseRecOn with
  | nil => exact ⟨ended, rfl⟩
  | append_singleton later happening ih =>
      rw [run_concat]
      obtain ⟨after, same⟩ := over_next server ih.1 happening
      exact ⟨after, same.trans ih.2⟩

/-- A connection ends only in a move. -/
theorem ends_next {life : Life} {result : Except SessionError Unit} {happening : Happening}
    (going : life.connection.result? = none)
    (ended : (life.next server happening).connection.result? = some result) :
    ∃ seconds registry picks, happening = .move seconds registry picks := by
  cases happening with
  | move seconds registry picks => exact ⟨seconds, registry, picks, rfl⟩
  | deliver bytes => cases going.symm.trans ended
  | finish => cases going.symm.trans ended
  | disturb call => cases going.symm.trans ended
  | answer verdict =>
      have same : (life.connection.resolve verdict).result? = none := by
        unfold Connection.resolve
        split
        · rfl
        · exact going
      cases same.symm.trans ended

end Voice

/-- A connection on the tables of the client writes nothing, or the answer to the handshake, and
behind it the refusal that is its result, or a welcome and whole lines of chat for a player who has
joined the registry, if the writes that fail take no bytes. A connection that ends is closed. What it
writes when it ends is its refusal, if there is one and the write does not fail, and after that it
writes nothing. -/
theorem wrote_run (server : Server) (login : server.loginTable = .login)
    (game : server.gameTable = .game) (info : SessionInfo) (serverKey : UInt64) (now : Nat)
    (history : List Happening) (gentle : ∀ happening ∈ history, happening.Clean) :
    let born := start server info serverKey now
    let life := born.run server history
    Wrote serverKey (Entered server born info serverKey history) life.connection.result?
        life.connection.session.pipe.written.toList ∧
      (∀ result, life.connection.result? = some result →
        life.connection.session.isClosed = true) ∧
      ∀ before happening later result, history = before ++ happening :: later →
        (born.run server before).connection.result? = none →
        (born.run server (before ++ [happening])).connection.result? = some result →
          Session.Concludes serverKey (born.run server before).connection.session
              (born.run server (before ++ [happening])).connection.session result ∧
            life.connection.result? = some result ∧
            life.connection.session.pipe.written.toList =
              (born.run server (before ++ [happening])).connection.session.pipe.written.toList := by
  intro born life
  have voice := voice_run server login game info serverKey now history gentle
  refine ⟨voice.wrote, fun result ended => voice.isClosed ended, ?_⟩
  intro before happening later result same going ended
  -- The history splits at the move that ends the connection, and the rest of it writes nothing.
  have whole : life = (born.run server (before ++ [happening])).run server later := by
    rw [← run_append, List.append_assoc, List.singleton_append, ← same]
  obtain ⟨after, written⟩ := over_run server ended later
  rw [whole, written]
  refine ⟨?_, after, rfl⟩
  rw [run_concat] at ended ⊢
  obtain ⟨seconds, registry, picks, rfl⟩ := ends_next going ended
  have spoken := voice_run server login game info serverKey now before fun one member =>
    gentle one (same ▸ List.mem_append_left _ member)
  cases speech_move game spoken going seconds registry picks with
  | goesOn still => cases still.symm.trans ended
  | ends other same concludes =>
      cases same.symm.trans ended
      exact concludes

/-- The patient client is told of its success, and has joined the registry. -/
theorem wrote_run_of_patient :
    slowServer.loginTable = .login ∧ slowServer.gameTable = .game ∧
      (∀ happening ∈ patientHistory, happening.Clean) ∧
      (patientLife.run slowServer patientHistory).connection.session.pipe.written.toList =
        handshakeAnswer 0x0000000300000004 ++ [2, 0, 0] ∧
      ∃ code keys, code.value = 2 ∧
        Entered slowServer patientLife ⟨1, none⟩ 0x0000000300000004 patientHistory code keys := by
  have written : (patientLife.run slowServer patientHistory).connection.session.pipe.written.toList =
      handshakeAnswer 0x0000000300000004 ++ [2, 0, 0] := by
    decide +kernel
  have gentle : ∀ happening ∈ patientHistory, happening.Clean := by
    simp [patientHistory, Question.followedBy, patientQuestion, Connection.Happening.Clean]
  refine ⟨rfl, rfl, gentle, written, ?_⟩
  have wrote : Wrote 0x0000000300000004
      (Entered slowServer patientLife ⟨1, none⟩ 0x0000000300000004 patientHistory)
      (patientLife.run slowServer patientHistory).connection.result?
      (patientLife.run slowServer patientHistory).connection.session.pipe.written.toList :=
    (wrote_run slowServer rfl rfl ⟨1, none⟩ 0x0000000300000004 0 patientHistory gentle).1
  rw [written] at wrote
  generalize total : handshakeAnswer 0x0000000300000004 ++ [2, 0, 0] = bytes at wrote
  cases wrote with
  | nothing => cases total
  | greeting => cases congrArg List.length total
  | refusal error code result told refused =>
      have answer := List.append_cancel_left total
      rw [loginAnswer, List.cons.injEq] at answer
      exact absurd answer.1.symm refused.1
  | game code keys lines success joined sayable =>
      rw [List.append_assoc] at total
      have answer := List.append_cancel_left total
      rw [loginAnswer, List.cons_append, List.cons.injEq] at answer
      exact ⟨code, keys, answer.1.symm, joined⟩

end Life

end GameServer
