import DatagramMux.Proofs.Server.Reading

/-!
# A server never goes deaf

An event takes back the request for the read loop before the read loop runs, so each way in which the
read loop may end has to ask for it again, unless the endpoint is closed. Here nothing is assumed of the
system: whatever waiting, receiving and sending answer, and whatever the factory, the sessions and the
callbacks do, somebody has asked for the read loop or is going to, as long as the connection is open.
-/

namespace DatagramMux.Server

open Component

variable {Callback Session : Type}
variable {server next : Server Callback Session} {move : ServerMove Callback Session}
variable {taken put : List (ServerFrame Callback Session)}

/-- Somebody has asked for the read loop, or one of some frames is going to. -/
def Armed (server : Server Callback Session) (frames : List (ServerFrame Callback Session)) : Prop :=
  server.udp.interest = true ∨ ∃ frame ∈ frames, (role frame).arms = true

/-- What a move of a server whose connection stays open keeps of the wish to read. -/
structure Rearms (server : Server Callback Session) (taken : List (ServerFrame Callback Session))
    (next : Server Callback Session) (put : List (ServerFrame Callback Session)) : Prop where
  inputOpen : next.udp.inputOpen = true
  unbarred : ∀ frame ∈ put, role frame ≠ .barred
  armed : Armed server taken → Armed next put

theorem Plain.unbarred {frame : ServerFrame Callback Session} (plain : Plain frame) :
    role frame ≠ .barred := by
  rcases plain with same | same <;> rw [same] <;> nofun

/-- A move that has nothing to do with the wish to read. -/
theorem Rearms.aside (inputOpen : next.udp.inputOpen = true)
    (interest : next.udp.interest = server.udp.interest)
    (unarmed : ∀ frame ∈ taken, (role frame).arms = false)
    (unbarred : ∀ frame ∈ put, role frame ≠ .barred) : Rearms server taken next put where
  inputOpen := inputOpen
  unbarred := unbarred
  armed
    | .inl before => .inl (interest.trans before)
    | .inr ⟨frame, member, arms⟩ => by
        rw [unarmed frame member] at arms
        cases arms

/-- A frame takes over that asks for the read loop in the end. -/
theorem Rearms.onward {frame : ServerFrame Callback Session} (inputOpen : next.udp.inputOpen = true)
    (unbarred : ∀ frame ∈ put, role frame ≠ .barred) (member : frame ∈ put)
    (arms : (role frame).arms = true) : Rearms server taken next put :=
  ⟨inputOpen, unbarred, fun _ => .inr ⟨frame, member, arms⟩⟩

theorem Rearms.single {frame : ServerFrame Callback Session} (inputOpen : next.udp.inputOpen = true)
    (arms : (role frame).arms = true) : Rearms server taken next [frame] := by
  refine .onward inputOpen (fun other member barred => ?_) List.mem_cons_self arms
  rw [List.mem_singleton.1 member] at barred
  rw [barred] at arms
  cases arms

theorem Rearms.goesOn (inputOpen : next.udp.inputOpen = true) (goesOn : GoesOn put) :
    Rearms server taken next put := by
  obtain ⟨plain, frame, member, reading⟩ := goesOn
  have arms : (role frame).arms = true := by rw [reading]; rfl
  exact .onward inputOpen (fun other member => (plain other member).unbarred) member arms

theorem unbarred_of_bystander {frames : List (ServerFrame Callback Session)}
    (bystanders : ∀ frame ∈ frames, role frame = .bystander) :
    ∀ frame ∈ frames, role frame ≠ .barred :=
  fun frame member => Plain.unbarred (.inl (bystanders frame member))

/-- A frame that has nothing to do with reading is replaced by others of the kind. -/
theorem Rearms.pass {frame : ServerFrame Callback Session} (inputOpen : next.udp.inputOpen = true)
    (interest : next.udp.interest = server.udp.interest) (bystander : role frame = .bystander)
    (bystanders : ∀ frame ∈ put, role frame = .bystander) : Rearms server [frame] next put := by
  refine .aside inputOpen interest (fun other member => ?_) (unbarred_of_bystander bystanders)
  rw [List.mem_singleton.1 member, bystander]
  rfl

/-! ## What every move keeps -/

theorem rearms_connection (task : Connection.Task Callback Session)
    (unbarred : connectionRole task ≠ .barred) (inputOpen : server.udp.inputOpen = true)
    (alive : (Connection.step server.connection task).1.closed = false) :
    Rearms server [.task (.link (.connection task))]
      (step server (.link (.connection task))).1 (step server (.link (.connection task))).2 := by
  have shape : (step server (.link (.connection task))).2 =
      (Connection.step server.connection task).2.map lift := List.map_map
  rw [shape]
  rcases connectionRole_cases task with bystander | reading | barred
  · exact .pass inputOpen rfl bystander (bystander_step bystander alive)
  · exact .goesOn inputOpen (goesOn_step reading)
  · exact absurd barred unbarred

theorem rearms_told {frame : ServerFrame Callback Session}
    (request : Connection.Request Callback Session) (reply : Connection.Reply request)
    (same : role frame = requestRole request) (unbarred : requestRole request ≠ .barred)
    (inputOpen : server.udp.inputOpen = true) : Rearms server [frame] server (told request reply) := by
  rcases requestRole_cases request with bystander | reading | barred
  · exact .pass inputOpen rfl (same.trans bystander) (bystander_resumed bystander reply)
  · rcases goesOn_resumed reading reply with goesOn | ⟨buffer, error, shape⟩
    · exact .goesOn inputOpen goesOn
    · rw [shape]
      exact .single inputOpen rfl
  · exact absurd barred unbarred

theorem rearms_udp (task : Udp.Task Nat) (stays : task ≠ .closeInput)
    (inputOpen : server.udp.inputOpen = true) :
    Rearms server [.task (.link (.udp task))] (step server (.link (.udp task))).1
      (step server (.link (.udp task))).2 := by
  have same := sameInput_udpStep server.udp stays
  have bystander : linkRole (.udp task : Link.Task Callback Session) = .bystander := by
    cases task <;> first | rfl | exact absurd rfl stays
  exact .pass (same.inputOpen.trans inputOpen) same.interest bystander
    (bystander_udpStep server.udp task stays)

theorem rearms_endpoint (task : Link.EndpointTask Callback) (unbarred : endpointRole task ≠ .barred)
    (inputOpen : server.udp.inputOpen = true) :
    Rearms server [.task (.link (.endpoint task))] (step server (.link (.endpoint task))).1
      (step server (.link (.endpoint task))).2 := by
  have openNow : server.link.udp.inputOpen = true := inputOpen
  cases task with
  | fill buffer =>
      simp only [step, Link.step, Link.endpointStep, openNow, if_true]
      exact .single inputOpen rfl
  | receive buffer =>
      simp only [step, Link.step, Link.endpointStep, Udp.receive]
      split <;> exact .single inputOpen rfl
  | isOpen =>
      simp only [step, Link.step, Link.endpointStep, openNow, if_true]
      exact .single inputOpen rfl
  | interest => exact ⟨inputOpen, by rintro _ ⟨⟩, fun _ => .inl rfl⟩
  | write | shutdownOutput =>
      refine .pass inputOpen rfl rfl fun frame member => ?_
      rcases List.mem_cons.1 member with rfl | member
      · rfl
      · exact List.mem_singleton.1 member ▸ rfl
  | isOutputOpen | close => exact absurd rfl unbarred

/-- The request for the read loop is taken back only in favour of the read loop. -/
theorem rearms_read (readable looping : Bool) (inputOpen : server.udp.inputOpen = true) :
    Rearms server [.task (.read readable looping)] (step server (.read readable looping)).1
      (step server (.read readable looping)).2 := by
  have unarmed (frame : ServerFrame Callback Session)
      (member : frame ∈ [.task (.read readable looping)]) : (role frame).arms = false := by
    rw [List.mem_singleton.1 member]
    cases readable <;> rfl
  have calm (frame : ServerFrame Callback Session)
      (member : frame ∈ [.task (.endRound (.ok 1) looping)]) : role frame = .bystander :=
    List.mem_singleton.1 member ▸ rfl
  cases readable with
  | false => exact .aside inputOpen rfl unarmed (unbarred_of_bystander calm)
  | true =>
      simp only [step]
      cases interested : server.udp.interest with
      | true =>
          simp only [if_true, Udp.takeInterest, interested]
          refine .goesOn inputOpen ⟨fun frame member => ?_, _, List.mem_cons_self, rfl⟩
          rcases List.mem_cons.1 member with rfl | member
          · exact .inr rfl
          · exact .inl (calm frame member)
      | false =>
          simp only [if_true, Udp.takeInterest, interested, Bool.false_eq_true, if_false,
            List.nil_append]
          exact .aside inputOpen interested.symm unarmed (unbarred_of_bystander calm)

theorem rearms_work (task : Task Callback Session)
    (unbarred : role (.task task : ServerFrame Callback Session) ≠ .barred)
    (inputOpen : server.udp.inputOpen = true)
    (alive : (step server task).1.connection.closed = false) :
    Rearms server [.task task] (step server task).1 (step server task).2 := by
  cases task with
  | link task =>
      cases task with
      | connection task => exact rearms_connection task unbarred inputOpen alive
      | udp task => exact rearms_udp task (fun same => unbarred (same ▸ rfl)) inputOpen
      | endpoint task => exact rearms_endpoint task unbarred inputOpen
      | answer request reply => exact rearms_told request reply rfl unbarred inputOpen
  | lend least direct => exact .single inputOpen rfl
  | takeBack buffer ending =>
      cases ending with
      | closed => exact absurd rfl unbarred
      | empty | failed => exact .single inputOpen rfl
  | consult | consultConnection =>
      simp only [step]
      split
      · exact .pass inputOpen rfl rfl (bystander_leave (.ok ()))
      · exact .pass inputOpen rfl rfl (role_singleton rfl)
  | poll looping =>
      simp only [step]
      split
      · exact .pass inputOpen rfl rfl (role_singleton rfl)
      · exact .pass inputOpen rfl rfl (role_singleton rfl)
      · exact .pass inputOpen rfl rfl (role_singleton rfl)
      · next socket readable polled =>
        refine .aside inputOpen rfl (fun frame member => ?_) fun frame member => ?_
        · rw [List.mem_singleton.1 member]
          rfl
        · rcases List.mem_cons.1 member with rfl | member
          · rintro ⟨⟩
          · rw [List.mem_singleton.1 member]
            cases readable <;> rintro ⟨⟩
  | read readable looping => exact rearms_read readable looping inputOpen
  | endRound result looping =>
      rcases looping with - | -
      · exact .pass inputOpen rfl rfl (by rintro _ ⟨⟩)
      · rcases result with error | count
        · exact .pass inputOpen rfl rfl (bystander_leave (.error error))
        · exact .pass inputOpen rfl rfl (role_singleton rfl)
  | endLoop result => exact .pass inputOpen rfl rfl (by rintro _ ⟨⟩)

theorem rearms_of_exchange
    (exchange : Exchange (component Callback Session) server move taken next put)
    (unbarred : ∀ frame ∈ taken, role frame ≠ .barred) (inputOpen : server.udp.inputOpen = true)
    (alive : next.connection.closed = false) : Rearms server taken next put := by
  cases exchange with
  | work task => exact rearms_work task (unbarred _ List.mem_cons_self) inputOpen alive
  | «begin» request =>
      refine ⟨inputOpen, fun frame member => ?_, ?_⟩
      · rw [List.mem_singleton.1 member]
        exact unbarred (.call request) List.mem_cons_self
      · rintro (interest | ⟨frame, member, arms⟩)
        · exact .inl interest
        · rw [List.mem_singleton.1 member] at arms
          exact .inr ⟨_, List.mem_cons_self, arms⟩
  | finish request reply =>
      exact rearms_told request reply rfl (unbarred _ List.mem_cons_self) inputOpen
  | enter method =>
      exact .aside inputOpen rfl (fun _ member => (nomatch member)) fun frame member =>
        (plain_body method frame member).unbarred

/-! ## Runs -/

/-- The input is open, and somebody has asked for the read loop or is going to. -/
structure Alert (server : Server Callback Session) (stack : List (ServerFrame Callback Session)) :
    Prop where
  inputOpen : server.udp.inputOpen = true
  unbarred : ∀ frame ∈ stack, role frame ≠ .barred
  armed : Armed server stack

theorem Alert.step {stack nextStack : List (ServerFrame Callback Session)} (alert : Alert server stack)
    (step : Step (component Callback Session) server stack move next nextStack)
    (alive : next.connection.closed = false) : Alert next nextStack := by
  obtain ⟨taken, put, rest, rfl, rfl, exchange⟩ := step.exchange
  have rearms := rearms_of_exchange exchange
    (fun frame member => alert.unbarred frame (List.mem_append_left rest member)) alert.inputOpen alive
  have onward (before : Armed server taken) : Armed next (put ++ rest) :=
    (rearms.armed before).imp_right fun ⟨frame, member, arms⟩ =>
      ⟨frame, List.mem_append_left rest member, arms⟩
  refine ⟨rearms.inputOpen, fun frame member => ?_, ?_⟩
  · rcases List.mem_append.1 member with inPut | inRest
    · exact rearms.unbarred frame inPut
    · exact alert.unbarred frame (List.mem_append_right taken inRest)
  · rcases alert.armed with interest | ⟨frame, member, arms⟩
    · exact onward (.inl interest)
    · rcases List.mem_append.1 member with inTaken | inRest
      · exact onward (.inr ⟨frame, inTaken, arms⟩)
      · exact .inr ⟨frame, List.mem_append_right put inRest, arms⟩

theorem alert_of_bind {answers : BindAnswers} {config : Config} {taken routed : Bool}
    {first : Server Callback Session} (bound : bind answers config taken routed = .ok first) :
    Alert first [] := by
  obtain ⟨connection, -, rfl⟩ := eq_of_bind bound
  exact ⟨rfl, fun _ member => (nomatch member), .inl rfl⟩

theorem alert_of_run {answers : BindAnswers} {config : Config} {taken routed : Bool}
    {first last : Server Callback Session} {moves : List (ServerMove Callback Session)}
    {sockets : List Socket} {stack : List (ServerFrame Callback Session)}
    (bound : bind answers config taken routed = .ok first)
    (run : EventRun (component Callback Session) setSocket first [] moves sockets last stack)
    (alive : last.connection.closed = false) : Alert last stack := by
  refine run.invariant (fun _ _ server stack =>
    server.connection.closed = false → Alert server stack) ?_ ?_ (fun _ => alert_of_bind bound) alive
  · intro moves sockets server stack move next nextStack step before alive
    refine (before ?_).step step alive
    rw [Bool.eq_false_iff]
    intro closed
    obtain ⟨taken, put, rest, -, -, exchange⟩ := step.exchange
    exact absurd ((closed_of_exchange exchange closed).symm.trans alive) (by decide)
  · intro moves sockets server stack socket before alive
    obtain ⟨inputOpen, unbarred, armed⟩ := before alive
    exact ⟨inputOpen, unbarred, armed⟩

/--
Whatever the system answers, and whatever the factory, the sessions and the callbacks do: whenever a
round of the event loop is over, the connection is closed, or the input is open and the read loop has
been asked for. So the next readable event runs the read loop, once what is parked has been sent, unless
the connection has been closed by then.
-/
theorem never_deaf {answers : BindAnswers} {config : Config} {taken routed : Bool}
    {first last : Server Callback Session} {moves : List (ServerMove Callback Session)}
    {sockets : List Socket} {stack : List (ServerFrame Callback Session)}
    (bound : bind answers config taken routed = .ok first)
    (run : EventRun (component Callback Session) setSocket first [] moves sockets last stack)
    (alive : last.connection.closed = false) :
    last.udp.inputOpen = true ∧
      (stack = [] ∨ stack = [.task .consult] → last.udp.interest = true) ∧
        ∀ looping move next nextStack, stack = [.task (.read true looping)] →
          Step (component Callback Session) last stack move next nextStack →
            nextStack = enterLink (.connection .fillable) ++ [.task (.endRound (.ok 1) looping)] := by
  have alert := alert_of_run bound run alive
  -- Between the rounds no frame is left that could still ask for the read loop.
  have interest (unarmed : ∀ frame ∈ stack, (role frame).arms = false) : last.udp.interest = true := by
    refine alert.armed.resolve_right ?_
    rintro ⟨frame, member, arms⟩
    rw [unarmed frame member] at arms
    cases arms
  refine ⟨alert.inputOpen, ?_, ?_⟩
  · rintro (rfl | rfl)
    · exact interest fun _ member => nomatch member
    · exact interest fun frame member => List.mem_singleton.1 member ▸ rfl
  · rintro looping move next nextStack rfl step
    have asked := interest fun frame member => List.mem_singleton.1 member ▸ rfl
    cases step with
    | work => simp [component, Server.step, Udp.takeInterest, asked]
    | enter method _ enterable => cases enterable _ rfl

/-- A datagram arrives, but the system is going to deny it. -/
def denial : Socket :=
  (plainServer.undergo (.answer [] [some .wouldBlock] []) |>.undergo (.arrive default [17])).socket

/-- The read loop of a round is told that there is nothing, and the next round would start it again. -/
theorem armed_after_denial :
    let trace := Trace.follow (component Unit Unit) (plainServer.setSocket denial) soleRound
    let again := Trace.followFrom (component Unit Unit) (trace.state.setSocket denial) trace.stack
      (.enter .runOnce :: List.replicate 4 .proceed)
    trace.stack = [] ∧ trace.state.returned? = some (.round (.ok 1)) ∧
      trace.state.socket.inbox = [(default, [17])] ∧ trace.state.udp.interest = true ∧
        (step again.state (.read true false)).2 =
          enterLink (.connection .fillable) ++ [.task (.endRound (.ok 1) false)] := by
  intro trace again
  have bound : bind {} {} false true = .ok plainServer := rfl
  have quiet : trace.stack = [] := List.isEmpty_iff.1 (by decide +kernel)
  have returned : trace.state.returned? = some (.round (.ok 1)) := rfl
  have left : trace.state.socket.inbox = [(default, [17])] := by decide +kernel
  have alive : trace.state.connection.closed = false := by decide +kernel
  have aliveAgain : again.state.connection.closed = false := by decide +kernel
  have alerted : again.stack = [.task (.read true false)] := rfl
  have run : EventRun (component Unit Unit) setSocket plainServer [] trace.moves [denial] trace.state
      trace.stack :=
    (EventRun.event denial (.refl plainServer [])).append
      (Trace.run_follow (component Unit Unit) _ soleRound)
  have onward : EventRun (component Unit Unit) setSocket plainServer [] (trace.moves ++ again.moves)
      [denial, denial] again.state again.stack :=
    (run.event denial).append (Trace.run_followFrom (component Unit Unit) _ trace.stack _)
  clear_value trace again
  obtain ⟨-, armed, -⟩ := never_deaf bound run alive
  obtain ⟨-, -, starts⟩ := never_deaf bound onward aliveAgain
  have next : Step (component Unit Unit) again.state again.stack (.work (.read true false))
      (step again.state (.read true false)).1 ((step again.state (.read true false)).2 ++ []) := by
    rw [alerted]
    exact .work again.state _ [] rfl
  have reads := starts false _ _ _ alerted next
  rw [List.append_nil] at reads
  exact ⟨quiet, returned, left, armed (.inl quiet), reads⟩

end DatagramMux.Server
