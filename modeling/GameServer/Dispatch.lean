import GameServer.Message.Diagnostic
import GameServer.Player.Basic

/- This file chooses one handler for each message. -/

namespace GameServer

/-- A handler answers a message with replies, and its label stands in reports. -/
structure Handler where
  label : String
  replies (session : SessionInfo) (player : Option Player) (message : Message) : List Message

/-- Messages are dispatched for a session and its player, if it has one. -/
structure DispatchContext where
  session : SessionInfo
  player : Option Player
  /-- The replies of all handlers that ran, in order. -/
  outbox : List Message

/-- A report that a handler ran. -/
structure HandlerCall where
  label : String
  session : SessionInfo
  player : Option Player
  message : Message
deriving DecidableEq

/-- A dispatcher has at most one handler for each kind. -/
structure Dispatcher where
  handler? : Message.Kind → Option Handler

namespace Dispatcher

/-- No kind has a handler. -/
def empty : Dispatcher := ⟨fun _ => none⟩

/-- Whether a kind has a handler. -/
def contains (dispatcher : Dispatcher) (kind : Message.Kind) : Bool :=
  (dispatcher.handler? kind).isSome

/-- A handler takes the place of the one before it. The flag tells whether there was one. -/
def register (dispatcher : Dispatcher) (kind : Message.Kind) (handler : Handler) :
    Bool × Dispatcher :=
  (dispatcher.contains kind,
    ⟨fun other => if other = kind then some handler else dispatcher.handler? other⟩)

/-- The kinds with a handler. -/
def kinds (dispatcher : Dispatcher) : List Message.Kind :=
  Message.Kind.all.filter dispatcher.contains

/-- The replies of the handler are added to the outbox, and a message without one is dropped. -/
def dispatch (dispatcher : Dispatcher) (context : DispatchContext) (message : Message) :
    Option HandlerCall × DispatchContext :=
  match dispatcher.handler? message.kind with
  | some handler =>
      (some ⟨handler.label, context.session, context.player, message⟩,
        { context with
          outbox := context.outbox ++ handler.replies context.session context.player message })
  | none => (none, context)

theorem handler?_register_same (dispatcher : Dispatcher) (kind : Message.Kind)
    (handler : Handler) : (dispatcher.register kind handler).2.handler? kind = some handler := by
  simp [register]

theorem handler?_register_other (dispatcher : Dispatcher) (kind other : Message.Kind)
    (handler : Handler) (different : other ≠ kind) :
    (dispatcher.register kind handler).2.handler? other = dispatcher.handler? other := by
  simp [register, different]

/-- A dispatcher shows the kinds that have a handler. -/
def diagnostic (dispatcher : Dispatcher) : String :=
  Diagnostic.record "DispatchRegistry"
    [("kinds", Diagnostic.list (dispatcher.kinds.map Message.Kind.label))]

end Dispatcher

/-- A context shows the name of its player and the number of replies. -/
def DispatchContext.diagnostic (context : DispatchContext) : String :=
  Diagnostic.record "DispatchContext"
    [("session", context.session.diagnostic),
      ("player", Diagnostic.optional
        (context.player.map fun player => Diagnostic.quoted player.username)),
      ("outbox", toString context.outbox.length)]

end GameServer
