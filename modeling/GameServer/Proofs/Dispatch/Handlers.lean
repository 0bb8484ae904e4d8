import GameServer.Dispatch
import Mathlib.Data.List.Basic
import Mathlib.Data.List.Induction

/- This file shows which handlers run. -/

namespace GameServer

/-- The report on a handler that runs for a message. -/
def Handler.call (handler : Handler) (context : DispatchContext) (message : Message) : HandlerCall :=
  ⟨handler.label, context.session, context.player, message⟩

/-- The replies of a handler stand behind those of the handlers that ran before. -/
def Handler.run (handler : Handler) (context : DispatchContext) (message : Message) :
    DispatchContext :=
  { context with
    outbox := context.outbox ++ handler.replies context.session context.player message }

namespace Dispatcher

/-- A handler is registered for a kind of message. -/
structure Registration where
  kind : Message.Kind
  handler : Handler

/-- The handler was registered for the kind, and no other one since. -/
def Latest (registrations : List Registration) (kind : Message.Kind) (handler : Handler) : Prop :=
  ∃ earlier later, registrations = earlier ++ ⟨kind, handler⟩ :: later ∧
    ∀ registration ∈ later, registration.kind ≠ kind

/-- Handlers are registered one after another, and each time it is told whether one was replaced. -/
def registerAll (dispatcher : Dispatcher) : List Registration → List Bool × Dispatcher
  | [] => ([], dispatcher)
  | registration :: rest =>
      let first := dispatcher.register registration.kind registration.handler
      let others := first.2.registerAll rest
      (first.1 :: others.1, others.2)

/-- Messages are dispatched one after another through one context. -/
def dispatchAll (dispatcher : Dispatcher) (context : DispatchContext) :
    List Message → List (Option HandlerCall) × DispatchContext
  | [] => ([], context)
  | message :: rest =>
      let first := dispatcher.dispatch context message
      let others := dispatcher.dispatchAll first.2 rest
      (first.1 :: others.1, others.2)

/-- What becomes of a message: the latest handler for its kind runs, or nothing happens. -/
inductive Serves (registrations : List Registration) (context : DispatchContext)
    (message : Message) : Option HandlerCall × DispatchContext → Prop
  | runs (handler : Handler) (latest : Latest registrations message.kind handler) :
      Serves registrations context message
        (some (handler.call context message), handler.run context message)
  | drops (unbound : ∀ registration ∈ registrations, registration.kind ≠ message.kind) :
      Serves registrations context message (none, context)

/-- The replies to a message in a session. -/
def replies (dispatcher : Dispatcher) (context : DispatchContext) (message : Message) :
    List Message :=
  match dispatcher.handler? message.kind with
  | some handler => handler.replies context.session context.player message
  | none => []

/-- Of all registrations of a kind, the last one counts. -/
theorem latest_concat_iff {registrations : List Registration} {registration : Registration}
    {kind : Message.Kind} {handler : Handler} :
    Latest (registrations ++ [registration]) kind handler ↔
      if kind = registration.kind then registration.handler = handler
      else Latest registrations kind handler := by
  constructor
  · rintro ⟨earlier, later, whole, others⟩
    -- The registration that counts is the one at the end, or it stands before it.
    rcases List.eq_nil_or_concat' later with rfl | ⟨front, last, rfl⟩
    · obtain ⟨_, same⟩ := List.append_inj' whole rfl
      cases same
      rw [if_pos rfl]
    · rw [← List.cons_append, ← List.append_assoc] at whole
      obtain ⟨before, same⟩ := List.append_inj' whole rfl
      cases same
      obtain ⟨others, own⟩ := List.forall_mem_append.mp others
      rw [if_neg (own registration List.mem_cons_self).symm]
      exact ⟨earlier, front, before, others⟩
  · split
    · next same =>
        rintro rfl
        exact ⟨registrations, [], by rw [same], List.forall_mem_nil _⟩
    · next other =>
        rintro ⟨earlier, later, rfl, others⟩
        refine ⟨earlier, later ++ [registration], by simp, ?_⟩
        exact List.forall_mem_append.mpr ⟨others, List.forall_mem_singleton.mpr (Ne.symm other)⟩

theorem registerAll_append (dispatcher : Dispatcher) (first second : List Registration) :
    dispatcher.registerAll (first ++ second) =
      ((dispatcher.registerAll first).1 ++
          ((dispatcher.registerAll first).2.registerAll second).1,
        ((dispatcher.registerAll first).2.registerAll second).2) := by
  induction first generalizing dispatcher with
  | nil => rfl
  | cons registration rest ih =>
      rw [List.cons_append, registerAll, ih]
      rfl

/-- The handler of a kind is the one that was registered last. -/
theorem handler?_registerAll_iff (registrations : List Registration) (kind : Message.Kind)
    (handler : Handler) :
    (empty.registerAll registrations).2.handler? kind = some handler ↔
      Latest registrations kind handler := by
  induction registrations using List.reverseRecOn with
  | nil =>
      refine ⟨nofun, ?_⟩
      rintro ⟨earlier, later, whole, _⟩
      simp at whole
  | append_singleton registrations registration ih =>
      rw [registerAll_append, latest_concat_iff]
      simp only [registerAll, register]
      split
      · exact Option.some_inj
      · exact ih

theorem contains_register (dispatcher : Dispatcher) (kind other : Message.Kind)
    (handler : Handler) :
    (dispatcher.register kind handler).2.contains other =
      (dispatcher.contains other || kind == other) := by
  rw [contains, contains]
  by_cases same : other = kind
  · rw [same, handler?_register_same, beq_self_eq_true, Bool.or_true]
    rfl
  · rw [handler?_register_other _ _ _ _ same, beq_eq_false_iff_ne.mpr (Ne.symm same),
      Bool.or_false]

theorem contains_registerAll (dispatcher : Dispatcher) (registrations : List Registration)
    (kind : Message.Kind) :
    (dispatcher.registerAll registrations).2.contains kind =
      (dispatcher.contains kind ||
        registrations.any fun registration => registration.kind == kind) := by
  induction registrations generalizing dispatcher with
  | nil => exact (Bool.or_false _).symm
  | cons registration rest ih =>
      refine (ih _).trans ?_
      rw [contains_register, List.any_cons, Bool.or_assoc]

/-- A registration replaces a handler exactly if the kind was registered before. -/
theorem registerAll_fst (dispatcher : Dispatcher) (registrations : List Registration) :
    (dispatcher.registerAll registrations).1 =
      registrations.mapIdx fun place registration =>
        dispatcher.contains registration.kind ||
          (registrations.take place).any fun earlier => earlier.kind == registration.kind := by
  induction registrations generalizing dispatcher with
  | nil => rfl
  | cons registration rest ih =>
      rw [registerAll, ih, List.mapIdx_cons, List.take_zero, List.any_nil, Bool.or_false]
      simp only [contains_register, List.take_succ_cons, List.any_cons, Bool.or_assoc]
      rfl

theorem dispatch_eq (dispatcher : Dispatcher) (context : DispatchContext) (message : Message) :
    dispatcher.dispatch context message =
      ((dispatcher.handler? message.kind).map (·.call context message),
        { context with outbox := context.outbox ++ dispatcher.replies context message }) := by
  rw [dispatch, replies]
  cases dispatcher.handler? message.kind with
  | some handler => rfl
  | none =>
      rw [List.append_nil]
      rfl

/-- Only a message of a kind that nobody has registered is dropped. -/
theorem serves_dispatch (registrations : List Registration) (context : DispatchContext)
    (message : Message) :
    Serves registrations context message
      ((empty.registerAll registrations).2.dispatch context message) := by
  have bound := empty.contains_registerAll registrations message.kind
  rw [contains] at bound
  rw [dispatch]
  split
  · next handler found => exact .runs handler ((handler?_registerAll_iff _ _ _).mp found)
  · next missing =>
      rw [missing] at bound
      refine .drops fun registration member same => ?_
      exact List.any_eq_false.mp bound.symm registration member (beq_iff_eq.mpr same)

/-- Each message is dispatched once, and all replies to it come before those to the next one. -/
theorem dispatchAll_eq (dispatcher : Dispatcher) (context : DispatchContext)
    (messages : List Message) :
    dispatcher.dispatchAll context messages =
      (messages.map fun message =>
          (dispatcher.handler? message.kind).map (·.call context message),
        { context with
          outbox := context.outbox ++ messages.flatMap (dispatcher.replies context) }) := by
  induction messages generalizing context with
  | nil => simp [dispatchAll]
  | cons message rest ih =>
      rw [dispatchAll, dispatch_eq, ih, List.map_cons, List.flatMap_cons, ← List.append_assoc]
      rfl

/-- A handler that is registered for a kind serves the messages of this kind and no other ones. -/
theorem dispatch_register (dispatcher : Dispatcher) (kind : Message.Kind) (handler : Handler)
    (context : DispatchContext) (message : Message) :
    (dispatcher.register kind handler).2.dispatch context message =
      if message.kind = kind then (some (handler.call context message), handler.run context message)
      else dispatcher.dispatch context message := by
  split
  · next same =>
      rw [dispatch, same, handler?_register_same]
      rfl
  · next other =>
      rw [dispatch, handler?_register_other _ _ _ _ other]
      rfl

/-- Whatever handlers were registered, a kind has the one that was registered last for it, and every
registration tells whether the kind had one before. A message is served by the handler of its kind,
which runs once, or it is dropped. When messages go through one context, their replies stand in the
order of the messages, and those to one message in the order of its handler. One more registration
changes nothing for the messages of another kind. -/
theorem dispatch_run (registrations : List Registration) (context : DispatchContext)
    (messages : List Message) :
    let registered := empty.registerAll registrations
    let dispatcher := registered.2
    let dispatched := dispatcher.dispatchAll context messages
    let bound := fun kind => registrations.any fun registration => registration.kind == kind
    (∀ kind handler, dispatcher.handler? kind = some handler ↔
        Latest registrations kind handler) ∧
      registered.1 = (registrations.mapIdx fun place registration =>
        (registrations.take place).any fun earlier => earlier.kind == registration.kind) ∧
      (∀ context message,
        Serves registrations context message (dispatcher.dispatch context message)) ∧
      dispatched.1.map Option.isSome = (messages.map fun message => bound message.kind) ∧
      dispatched.1 = (messages.map fun message =>
        (dispatcher.handler? message.kind).map (·.call context message)) ∧
      dispatched.2 = { context with
        outbox := context.outbox ++ messages.flatMap (dispatcher.replies context) } ∧
      ∀ kind handler, (dispatcher.register kind handler).1 = bound kind ∧
        ∀ context message, (dispatcher.register kind handler).2.dispatch context message =
          if message.kind = kind then
            (some (handler.call context message), handler.run context message)
          else dispatcher.dispatch context message := by
  intro registered dispatcher dispatched bound
  have contained : ∀ kind, dispatcher.contains kind = bound kind :=
    empty.contains_registerAll registrations
  have all := dispatcher.dispatchAll_eq context messages
  have calls : dispatched.1 = messages.map fun message =>
      (dispatcher.handler? message.kind).map (·.call context message) := congrArg Prod.fst all
  have ran : dispatched.1.map Option.isSome = messages.map fun message => bound message.kind := by
    rw [calls, List.map_map]
    refine List.map_congr_left fun message _ => ?_
    exact Option.isSome_map.trans (contained message.kind)
  exact ⟨handler?_registerAll_iff registrations, empty.registerAll_fst registrations,
    serves_dispatch registrations, ran, calls, congrArg Prod.snd all,
    fun kind handler => ⟨contained kind, dispatcher.dispatch_register kind handler⟩⟩

/-- The second handler has taken the place of the first one, and a message without one is dropped. -/
example :
    let handler (label : String) (reply : Message) : Handler := ⟨label, fun _ _ _ => [reply]⟩
    let registered := empty.registerAll
      [⟨.ping, handler "first" .ping⟩, ⟨.ping, handler "second" (.command "a")⟩]
    let dispatched := registered.2.dispatchAll ⟨⟨1, none⟩, none, []⟩ [.ping, .command "b", .ping]
    registered.1 = [false, true] ∧ dispatched.1.map Option.isSome = [true, false, true] ∧
      dispatched.2.outbox = [.command "a", .command "a"] := by
  exact ⟨rfl, rfl, rfl⟩

end Dispatcher

end GameServer
