import GameServer.Proofs.Connection.Deadlines
import GameServer.Proofs.Connection.Indifference
import GameServer.Proofs.World.Occupancy

/- This file shows that the authenticator has let in whoever is in the registry. -/

namespace GameServer

open Life (questions)

/-- The login block has not been heard at this stage. -/
def Stage.isOpening : Stage → Bool
  | .handshake _ => true
  | .login _ => true
  | _ => false

namespace Connection

/-- How far a move brings a connection on its way into the game. -/
inductive Passage (server : Server) (connection : Connection) (moved : Move) : Prop where
  | stays (silent : questions moved.reports = [])
      (same : moved.connection.stage = connection.stage)
  | opens (silent : questions moved.reports = []) (opening : connection.stage.isOpening = true)
      (since : Nat) (after : moved.connection.stage = .login since)
  | asks (opening : connection.stage.isOpening = true) (request : AuthenticationRequest)
      (asked : questions moved.reports = [request])
      (own : request.session = connection.session.info) (block : LoginBlock) (next : Session)
      (heard : connection.session.read = .ok (.message (.login block)) next) (keys : SessionKeys)
      (repeats : request.credentials = .ofLogin block keys) (since : Nat)
      (after : moved.connection.stage =
        .authenticating ⟨request.player, keys, server.authenticator request⟩ since)
  | hopeless (silent : questions moved.reports = [])
      (opening : connection.stage.isOpening = true) (player : Player) (keys : SessionKeys)
      (since : Nat) (after : moved.connection.stage = .authenticating ⟨player, keys, none⟩ since)
  | joins (silent : questions moved.reports = []) (attempt : LoginAttempt) (since : Nat)
      (before : connection.stage = .authenticating attempt since) (verdict : Verdict)
      (decided : attempt.verdict = some verdict) (success : verdict.outcome.isSuccess = true)
      (after : moved.connection.stage.player? = some attempt.player)
  | plays (silent : questions moved.reports = []) (player : Player)
      (before : connection.stage.player? = some player)
      (after : moved.connection.stage.player? = some player)
  | ends (silent : questions moved.reports = []) (result : Except SessionError Unit)
      (after : moved.connection.stage = .finished result)

section Passage

variable {server : Server} {now : Nat} {registry : PlayerRegistry} {session : Session}
  {since : Nat}

theorem awaitHandshake_passage :
    Passage server ⟨session, .handshake since⟩
      (awaitHandshake server now registry session since) := by
  unfold awaitHandshake
  generalize session.hear since server.settings.handshakeLimit now = heard
  obtain ⟨hearing, next⟩ := heard
  cases hearing with
  | failed error => exact .ends rfl _ rfl
  | ended => exact .ends rfl _ rfl
  | waiting => exact .stays rfl rfl
  | message message =>
      have silent := questions_offer server next none message
      dsimp only
      split
      · exact .ends silent _ rfl
      · exact .opens silent rfl now rfl

theorem authenticate_passage {next : Session} {block : LoginBlock}
    (heard : session.read = .ok (.message (.login block)) next) (info : next.info = session.info)
    (keys : SessionKeys) {reports : List Report} (silent : questions reports = [])
    (picks : List Branch) :
    Passage server ⟨session, .login since⟩
      (authenticate server now registry next block keys reports picks) := by
  have begins := Session.reaches_authenticate next
  unfold authenticate
  split
  · exact .ends silent _ rfl
  · next last done =>
      rw [done] at begins
      dsimp only
      split
      · exact .hopeless silent rfl _ keys now rfl
      · refine .asks rfl ⟨last.info, .ofLogin block keys⟩ ?_ (begins.info.trans info) block next
          heard keys rfl now rfl
        rw [Life.questions_append, silent]
        rfl

theorem awaitLogin_passage (picks : List Branch) :
    Passage server ⟨session, .login since⟩
      (awaitLogin server now registry session since picks) := by
  have reaches := session.reaches_hear since server.settings.handshakeLimit now
  have attends := session.attends_hear since server.settings.handshakeLimit now
  unfold awaitLogin
  generalize session.hear since server.settings.handshakeLimit now = heard at reaches attends
  obtain ⟨hearing, next⟩ := heard
  cases attends with
  | failed error => exact .ends rfl _ rfl
  | late => exact .ends rfl _ rfl
  | ended => exact .ends rfl _ rfl
  | waiting => exact .stays rfl rfl
  | message message next reading =>
      have silent := questions_offer server next none message
      dsimp only at reaches ⊢
      split
      · split
        · exact .ends silent _ rfl
        · exact authenticate_passage reading reaches.info _ silent picks
      · exact .ends silent _ rfl

/-- A player joins only for a verdict of success. -/
theorem concludeLogin_passage {attempt : LoginAttempt} {code : ResponseCode}
    (decided : code.isSuccess = true →
      ∃ verdict, attempt.verdict = some verdict ∧ verdict.outcome = code) :
    Passage server ⟨session, .authenticating attempt since⟩
      (concludeLogin server now registry session attempt code) := by
  unfold concludeLogin
  dsimp only
  split
  · next success =>
      obtain ⟨verdict, known, rfl⟩ := decided success
      split
      · exact .ends rfl _ rfl
      · split
        · exact .joins rfl attempt since rfl verdict known success rfl
        · exact .joins rfl attempt since rfl verdict known success rfl
  · exact .ends rfl _ rfl

theorem Awaits.passage {attempt : LoginAttempt} {moved : Move}
    (awaits : Awaits server now registry attempt since session moved) :
    Passage server ⟨session, .authenticating attempt since⟩ moved := by
  induction awaits with
  | decided session verdict known => exact concludeLogin_passage fun _ => ⟨verdict, known, rfl⟩
  | late => exact concludeLogin_passage nofun
  | failed | left => exact .ends rfl _ rfl
  | waits | reads => exact .stays rfl rfl
  | again session next count moved room taken later ih =>
      -- What was received is not read before the move has ended.
      cases ih with
      | stays silent same => exact .stays silent same
      | opens silent opening => cases opening
      | asks opening => cases opening
      | hopeless silent opening => cases opening
      | joins silent attempt since before verdict decided success after =>
          exact .joins silent attempt since before verdict decided success after
      | plays silent player before => cases before
      | ends silent result after => exact .ends silent result after

theorem play_passage {player : Player} :
    Passage server ⟨session, .playing player since⟩
      (play server now registry session player since) := by
  unfold play
  generalize session.hear since server.settings.idleLimit now = heard
  obtain ⟨hearing, next⟩ := heard
  cases hearing with
  | failed error => exact .plays rfl player rfl rfl
  | ended => exact .plays rfl player rfl rfl
  | waiting => exact .stays rfl rfl
  | message message =>
      have silent := questions_offer server next (some player) message
      dsimp only
      split
      · exact .plays silent player rfl rfl
      · exact .plays silent player rfl rfl

theorem move_passage (server : Server) (now : Nat) (registry : PlayerRegistry)
    (connection : Connection) (picks : List Branch) :
    Passage server connection (connection.move server now registry picks) := by
  obtain ⟨session, stage⟩ := connection
  cases stage with
  | handshake since => exact awaitHandshake_passage
  | login since => exact awaitLogin_passage picks
  | authenticating attempt since => exact (awaits_awaitVerdict session picks).passage
  | playing player since => exact play_passage
  | leaving result player => exact .ends rfl result rfl
  | finished result => exact .stays rfl rfl

/-- A connection asks about the login block that it reads, and in its own name. -/
theorem Passage.asked {connection : Connection} {moved : Move}
    (passage : Passage server connection moved) {request : AuthenticationRequest}
    (among : request ∈ questions moved.reports) :
    request.session = connection.session.info ∧
      ∃ block next, connection.session.read = .ok (.message (.login block)) next ∧
        request.credentials = .ofLogin block request.credentials.sessionKeys := by
  cases passage with
  | asks opening other asked own block next heard keys repeats =>
      rw [asked] at among
      cases List.mem_singleton.mp among
      refine ⟨own, block, next, heard, ?_⟩
      rw [repeats]
      rfl
  | stays silent | opens silent | hopeless silent | joins silent | plays silent | ends silent =>
      rw [silent] at among
      cases among

end Passage

end Connection

section Vetted

variable (judge : AuthenticationRequest → ResponseCode) (asked : List AuthenticationRequest)

/-- The judge has let a player in for a question that was asked. -/
def Admits (player : Player) : Prop :=
  ∃ request ∈ asked, request.player = player ∧
    (Verdict.decided (judge request)).outcome.isSuccess = true

/-- The questions that were asked bear out a connection of that number at this stage. -/
def Stage.Vetted (number : ConnectionId) : Stage → Prop
  | .handshake _ => ∀ request ∈ asked, request.session.connection ≠ number
  | .login _ => ∀ request ∈ asked, request.session.connection ≠ number
  | .authenticating attempt _ =>
      (∀ request ∈ asked, request.session.connection = number →
        request.player = attempt.player) ∧
      ∀ code, attempt.verdict = some (.decided code) →
        ∃ request ∈ asked, request.player = attempt.player ∧ judge request = code
  | .playing player _ => Admits judge asked player
  | .leaving _ player => Admits judge asked player
  | .finished _ => True

/-- Every code of the authenticator is the judge's. -/
def Server.Trusts (server : Server) (judge : AuthenticationRequest → ResponseCode) : Prop :=
  ∀ request code, server.authenticator request = some (.decided code) → judge request = code

end Vetted

section Vetted

variable {judge : AuthenticationRequest → ResponseCode} {asked more : List AuthenticationRequest}
  {number : ConnectionId} {stage : Stage}

theorem Stage.vetted_of_isOpening (opening : stage.isOpening = true) :
    stage.Vetted judge asked number ↔
      ∀ request ∈ asked, request.session.connection ≠ number := by
  cases stage with
  | handshake | login => exact .rfl
  | authenticating | playing | leaving | finished => cases opening

theorem Stage.vetted_of_player? {player : Player} (inside : stage.player? = some player) :
    stage.Vetted judge asked number ↔ Admits judge asked player := by
  cases stage with
  | playing | leaving =>
      cases inside
      exact .rfl
  | handshake | login | authenticating | finished => cases inside

theorem Admits.append {player : Player} (admits : Admits judge asked player) :
    Admits judge (asked ++ more) player := by
  obtain ⟨request, among, found⟩ := admits
  exact ⟨request, List.mem_append_left more among, found⟩

/-- Questions of other connections are no objection. -/
theorem Stage.Vetted.append (vetted : stage.Vetted judge asked number)
    (others : ∀ request ∈ more, request.session.connection ≠ number) :
    stage.Vetted judge (asked ++ more) number := by
  have apart (earlier : ∀ request ∈ asked, request.session.connection ≠ number) :
      ∀ request ∈ asked ++ more, request.session.connection ≠ number :=
    List.forall_mem_append.mpr ⟨earlier, others⟩
  cases stage with
  | handshake | login => exact apart vetted
  | authenticating attempt since =>
      refine ⟨?_, ?_⟩
      · intro request among same
        rcases List.mem_append.mp among with early | late
        · exact vetted.1 request early same
        · exact absurd same (others request late)
      · intro code known
        obtain ⟨request, among, found⟩ := vetted.2 code known
        exact ⟨request, List.mem_append_left more among, found⟩
  | playing | leaving => exact Admits.append vetted
  | finished => trivial

/-- A move leads from one stage that is borne out to the next. -/
theorem Connection.Passage.vetted {server : Server} {connection : Connection} {moved : Move}
    (passage : Passage server connection moved) (trusts : server.Trusts judge)
    (vetted : connection.stage.Vetted judge asked connection.session.info.connection) :
    moved.connection.stage.Vetted judge (asked ++ questions moved.reports)
      connection.session.info.connection := by
  cases passage with
  | stays silent same =>
      rw [silent, List.append_nil, same]
      exact vetted
  | opens silent opening since after =>
      rw [silent, List.append_nil, after]
      exact (Stage.vetted_of_isOpening opening).mp vetted
  | asks opening request asks own block next heard keys repeats since after =>
      have fresh := (Stage.vetted_of_isOpening opening).mp vetted
      rw [asks, after]
      refine ⟨?_, ?_⟩
      · intro other among same
        rcases List.mem_append.mp among with early | late
        · exact absurd same (fresh other early)
        · rw [List.mem_singleton.mp late]
      · intro code decided
        exact ⟨request, List.mem_append_right asked List.mem_cons_self, rfl,
          trusts request code decided⟩
  | hopeless silent opening player keys since after =>
      have fresh := (Stage.vetted_of_isOpening opening).mp vetted
      rw [silent, List.append_nil, after]
      exact ⟨fun other among same => absurd same (fresh other among), nofun⟩
  | joins silent attempt since before verdict decided success after =>
      rw [silent, List.append_nil, Stage.vetted_of_player? after]
      rw [before] at vetted
      cases verdict with
      | crashed => cases success
      | decided code =>
          obtain ⟨request, among, same, judged⟩ := vetted.2 code decided
          exact ⟨request, among, same, judged ▸ success⟩
  | plays silent player before after =>
      rw [silent, List.append_nil, Stage.vetted_of_player? after]
      exact (Stage.vetted_of_player? before).mp vetted
  | ends silent result after =>
      rw [after]
      trivial

end Vetted

namespace World

/-- The questions that are asked in a turn. -/
def questionsIn (world : World) : Turn → List AuthenticationRequest
  | .moves number picks =>
      match world.find? number with
      | none => []
      | some connection =>
          questions (connection.move world.server world.now world.registry picks).reports
  | .happens _ => []
  | .givesUp _ => []

/-- The questions that are asked in turns. -/
def asked (world : World) : List Turn → List AuthenticationRequest
  | [] => []
  | turn :: rest => world.questionsIn turn ++ (world.turn turn).asked rest

theorem asked_concat (world : World) (list : List Turn) (turn : Turn) :
    world.asked (list ++ [turn]) = world.asked list ++ (world.turns list).questionsIn turn := by
  induction list generalizing world with
  | nil => exact List.append_nil _
  | cons first rest ih =>
      rw [List.cons_append, asked, asked, ih, List.append_assoc]
      rfl

/-- The connection of that number has this login block to read. -/
def Hears (world : World) (number : ConnectionId) (block : LoginBlock) : Prop :=
  ∃ connection next, world.find? number = some connection ∧
    connection.session.read = .ok (.message (.login block)) next

/-- Every question repeats a login block that its connection reads in one of the turns. -/
theorem hears_of_asked {world : World} {list : List Turn} {request : AuthenticationRequest}
    (among : request ∈ world.asked list) :
    ∃ before picks after block, list = before ++ .moves request.session.connection picks :: after ∧
      (world.turns before).Hears request.session.connection block ∧
      request.credentials = .ofLogin block request.credentials.sessionKeys := by
  induction list generalizing world with
  | nil => cases among
  | cons turn rest ih =>
      rcases List.mem_append.mp among with now | later
      · cases turn with
        | happens | givesUp => cases now
        | moves number picks =>
            cases found : world.find? number with
            | none =>
                rw [questionsIn, found] at now
                cases now
            | some connection =>
                rw [questionsIn, found] at now
                have passage := connection.move_passage world.server world.now world.registry picks
                obtain ⟨session, block, next, heard, repeats⟩ := passage.asked now
                have own : request.session.connection = number :=
                  (congrArg SessionInfo.connection session).trans (exists_split found).1
                subst own
                exact ⟨[], picks, rest, block, rfl, ⟨connection, next, found, heard⟩, repeats⟩
      · obtain ⟨before, picks, after, block, split, heard⟩ := ih later
        exact ⟨turn :: before, picks, after, block, by rw [split]; rfl, heard⟩

/-- A code that comes later is the judge's on a question of that connection. -/
def Fair (judge : AuthenticationRequest → ResponseCode) (world : World) (list : List Turn) : Prop :=
  ∀ before number code after,
    list = before ++ .happens (.resolve number (.decided code)) :: after →
      ∃ request ∈ world.asked before,
        request.session.connection = number ∧ judge request = code

theorem fair_of_silence {judge : AuthenticationRequest → ResponseCode} {world : World}
    {list : List Turn} (silent : ∀ number verdict, .happens (.resolve number verdict) ∉ list) :
    Fair judge world list := by
  intro before number code after same
  refine absurd ?_ (silent number (.decided code))
  rw [same]
  exact List.mem_append_right before List.mem_cons_self

theorem fair_concat {judge : AuthenticationRequest → ResponseCode} {world : World}
    {list : List Turn} {turn : Turn} :
    Fair judge world (list ++ [turn]) ↔ Fair judge world list ∧
      ∀ number code, turn = .happens (.resolve number (.decided code)) →
        ∃ request ∈ world.asked list,
          request.session.connection = number ∧ judge request = code := by
  constructor
  · intro fair
    refine ⟨?_, ?_⟩
    · intro before number code after same
      exact fair before number code (after ++ [turn]) (by rw [same, List.append_assoc]; rfl)
    · rintro number code rfl
      exact fair list number code [] rfl
  · rintro ⟨fair, last⟩ before number code after same
    rcases List.eq_nil_or_concat after with rfl | ⟨rest, final, rfl⟩
    · obtain ⟨rfl, closing⟩ := List.append_inj' same rfl
      exact last number code (List.singleton_inj.mp closing)
    · rw [List.concat_eq_append, ← List.cons_append, ← List.append_assoc] at same
      obtain ⟨first, _⟩ := List.append_inj' same rfl
      exact fair before number code rest first

/-- The questions that were asked bear out all connections. -/
structure Approved (judge : AuthenticationRequest → ResponseCode)
    (asked : List AuthenticationRequest) (world : World) : Prop where
  trusts : world.server.Trusts judge
  known : ∀ request ∈ asked, request.session.connection ∈ world.numbers
  vetted : ∀ connection ∈ world.connections,
    connection.stage.Vetted judge asked (numberOf connection)

section Approved

variable {judge : AuthenticationRequest → ResponseCode} {asked : List AuthenticationRequest}
  {world : World}

theorem Approved.update (approved : Approved judge asked world) {number : ConnectionId}
    {change : Connection → Connection}
    (keeps : ∀ connection, numberOf (change connection) = numberOf connection)
    (vets : ∀ connection, connection.stage.Vetted judge asked number →
      (change connection).stage.Vetted judge asked number) :
    Approved judge asked (world.update number change) where
  trusts := approved.trusts
  known := by
    rw [numbers_update fun connection _ same => (keeps connection).trans same]
    exact approved.known
  vetted := by
    intro connection member
    obtain ⟨former, among, same⟩ := List.mem_map.mp member
    have vetted := approved.vetted former among
    split at same
    · next named =>
        subst same named
        rw [keeps former]
        exact vets former vetted
    · exact same ▸ vetted

/-- A new connection has not asked anything. -/
theorem Approved.connect (approved : Approved judge asked world) {info : SessionInfo}
    (fresh : info.connection ∉ world.numbers) (serverKey : UInt64) (sent : Bytes) :
    Approved judge asked (world.connect info serverKey sent) where
  trusts := approved.trusts
  known := by
    intro request among
    rw [numbers, connections_connect fresh, List.map_append]
    exact List.mem_append_left _ (approved.known request among)
  vetted := by
    intro connection member
    rw [connections_connect fresh, List.mem_append, List.mem_singleton] at member
    rcases member with former | rfl
    · exact approved.vetted connection former
    · intro request among same
      have own : request.session.connection = info.connection := same
      exact fresh (own ▸ approved.known request among)

theorem Approved.resolve (approved : Approved judge asked world) (number : ConnectionId)
    (verdict : Verdict)
    (fair : ∀ code, verdict = .decided code →
      ∃ request ∈ asked, request.session.connection = number ∧ judge request = code) :
    Approved judge asked (world.update number (·.resolve verdict)) := by
  refine approved.update (numberOf_resolve · verdict) ?_
  rintro ⟨session, stage⟩ vetted
  cases stage with
  | authenticating attempt since =>
      refine ⟨vetted.1, ?_⟩
      rintro code ⟨⟩
      obtain ⟨request, among, own, judged⟩ := fair code rfl
      exact ⟨request, among, vetted.1 request among own, judged⟩
  | handshake | login | playing | leaving | finished => exact vetted

theorem Approved.giveUp (approved : Approved judge asked world) (number : ConnectionId) :
    Approved judge asked (world.update number Connection.giveUp) := by
  refine approved.update numberOf_giveUp ?_
  rintro ⟨session, stage⟩ vetted
  cases stage with
  | playing | leaving => exact vetted
  | handshake | login | authenticating | finished => trivial

/-- The connection that moves may have asked, and the others have not. -/
theorem Approved.moveOne (approved : Approved judge asked world) (distinct : world.numbers.Nodup)
    (number : ConnectionId) (picks : List Connection.Branch) :
    Approved judge (asked ++ world.questionsIn (.moves number picks))
      (world.moveOne number picks) := by
  cases found : world.find? number with
  | none =>
      rw [questionsIn, World.moveOne, found, List.append_nil]
      exact approved
  | some connection =>
      obtain ⟨rfl, front, back, split⟩ := exists_split found
      have passage := connection.move_passage world.server world.now world.registry picks
      have info := connection.info_move world.server world.now world.registry picks
      have numbers : (world.moveOne (numberOf connection) picks).numbers = world.numbers :=
        numbers_turns_of_nil (show connects [.moves (numberOf connection) picks] = [] from rfl)
          distinct
      -- What is asked in this turn is asked in the name of the connection that moves.
      have own : ∀ request ∈ world.questionsIn (.moves (numberOf connection) picks),
          request.session.connection = numberOf connection := by
        rw [questionsIn, found]
        intro request among
        exact congrArg SessionInfo.connection (passage.asked among).1
      have moved := moveOne_of_split split distinct picks
      have present : connection ∈ world.connections := split ▸ List.mem_append_right front
        List.mem_cons_self
      refine ⟨?_, ?_, ?_⟩
      · rw [moved]
        exact approved.trusts
      · intro request among
        rw [numbers]
        rcases List.mem_append.mp among with early | late
        · exact approved.known request early
        · rw [own request late]
          exact List.mem_map_of_mem present
      · intro other member
        rw [moved] at member
        rcases List.mem_cons.mp (List.perm_middle.mem_iff.mp member) with rfl | among
        · have same :
              numberOf (connection.move world.server world.now world.registry picks).connection =
                numberOf connection := congrArg SessionInfo.connection info
          rw [same, questionsIn, found]
          exact passage.vetted approved.trusts (approved.vetted connection present)
        · have present : other ∈ world.connections := by
            rw [split]
            exact List.perm_middle.mem_iff.mpr (List.mem_cons_of_mem _ among)
          refine (approved.vetted other present).append ?_
          intro request late
          rw [own request late]
          obtain ⟨before, behind⟩ := numberOf_ne_of_split split distinct
          rcases List.mem_append.mp among with early | later
          · exact (before other early).symm
          · exact (behind other later).symm

/-- A turn keeps all connections borne out. -/
theorem Approved.turn (approved : Approved judge asked world) {turn : Turn}
    (distinct : (world.numbers ++ turn.number?.toList).Nodup)
    (fair : ∀ number code, turn = .happens (.resolve number (.decided code)) →
      ∃ request ∈ asked, request.session.connection = number ∧ judge request = code) :
    Approved judge (asked ++ world.questionsIn turn) (world.turn turn) := by
  cases turn with
  | moves number picks => exact approved.moveOne (List.nodup_append.mp distinct).1 number picks
  | givesUp number =>
      rw [questionsIn, List.append_nil]
      exact approved.giveUp number
  | happens event =>
      rw [questionsIn, List.append_nil]
      cases event with
      | connect info serverKey sent =>
          exact approved.connect (fresh_of_nodup distinct) serverKey sent
      | deliver | finish | disturb => exact approved.update (fun _ => rfl) fun _ => id
      | resolve number verdict =>
          exact approved.resolve number verdict fun code same => fair number code (same ▸ rfl)
      | advance seconds => exact ⟨approved.trusts, approved.known, approved.vetted⟩

end Approved

theorem approved_turns {server : Server} {judge : AuthenticationRequest → ResponseCode}
    (trusts : server.Trusts judge) (list : List Turn) (distinct : (connects list).Nodup)
    (fair : Fair judge (start server) list) :
    Approved judge ((start server).asked list) ((start server).turns list) := by
  induction list using List.reverseRecOn with
  | nil => exact ⟨trusts, List.forall_mem_nil _, List.forall_mem_nil _⟩
  | append_singleton list turn ih =>
      have begun : connects (list ++ [turn]) = connects list ++ turn.number?.toList := by
        rw [connects_append, connects_cons]
        exact congrArg _ (List.append_nil _)
      rw [begun] at distinct
      have former := (List.nodup_append.mp distinct).1
      obtain ⟨earlier, last⟩ := fair_concat.mp fair
      rw [asked_concat, turns_append]
      refine (ih former earlier).turn ?_ last
      rw [numbers_start server former]
      exact distinct

/-- Whoever has a place in the registry was let in by the judge. -/
theorem admits_turns {server : Server} {judge : AuthenticationRequest → ResponseCode}
    (trusts : server.Trusts judge) (list : List Turn) (distinct : (connects list).Nodup)
    (fair : Fair judge (start server) list) :
    ∀ place ∈ ((start server).turns list).registry.online,
      Admits judge ((start server).asked list) place.2 := by
  intro place standing
  obtain ⟨_, connection, known, inside, _⟩ :=
    (housed_turns server distinct).exists_connection standing
  have approved := approved_turns trusts list distinct fair
  exact (Stage.vetted_of_player? inside).mp (approved.vetted connection known)

end World

end GameServer
