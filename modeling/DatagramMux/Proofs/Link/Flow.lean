import DatagramMux.Proofs.Endpoint.Surroundings
import DatagramMux.Proofs.Link.Wire

/-!
# The flow of writes to an endpoint that works

As long as the operating system accepts what is sent, or would block, no write is lost, doubled or
overtaken, and none fails. All that was submitted and not yet sent is with one frame, parked or
queued, and from there it reaches the wire in order.
-/

namespace DatagramMux.Link

open Component

variable {Callback Session : Type}

def flusherTask (task : Flusher.Task Callback) : LinkFrame Callback Session :=
  .task (.connection (.flusher task))

/-- The writes that are queued, as they will be on the wire. -/
def queued (flusher : Flusher Callback) : List Parcel := flusher.queue.map WriteEntry.wire

/-- The flusher has stopped with some datagrams to be sent: one is parked, the others are queued. -/
inductive Rest (flusher : Flusher Callback) (parked : Option (Udp.Outgoing Nat)) :
    List Parcel → Prop where
  | idle : flusher.phase = .idle → flusher.queue = [] → parked = none → Rest flusher parked []
  | pending (outgoing : Udp.Outgoing Nat) : flusher.phase = .pending → parked = some outgoing →
      outgoing.token ∈ flusher.outstanding →
        Rest flusher parked (outgoing.wire :: queued flusher)

/-- A frame on the way from a write that was sent to its callback and back to the flusher. -/
inductive Reports (flusher : Flusher Callback) : LinkFrame Callback Session → Prop where
  | unlock (ticket : Nat) : ticket ∈ flusher.outstanding →
      Reports flusher (.task (.udp (.unlock (some (ticket, .ok ())))))
  | redeem (ticket : Nat) : ticket ∈ flusher.outstanding →
      Reports flusher (flusherTask (.redeem ticket (.ok ())))
  | collect : Reports flusher (flusherTask (.collect (.ok ())))
  | tally (callback? : Option Callback) : Reports flusher (flusherTask (.tally callback? (.ok ())))
  | call (callback : Callback) :
      Reports flusher (.call (.flusher (.notify callback (.ok ()) .succeed)))
  | inside (callback : Callback) :
      Reports flusher (.inside (.flusher (.notify callback (.ok ()) .succeed)))
  | succeed : Reports flusher (flusherTask .succeed)

/-- What lies below while a write is reported: a call of the endpoint, unless it was parked. -/
inductive Awaits (flusher : Flusher Callback) : List (LinkFrame Callback Session) → Prop where
  | returning (ticket : Nat) (entry : WriteEntry Callback) : flusher.phase = .iterating →
      Awaits flusher [.task (.answer (.flusher (.write ticket entry)) ())]
  | parked : flusher.phase = .pending → Awaits flusher []

/-- What a thread is doing with the writes, and the datagrams that are still to be sent. -/
inductive Flow (flusher : Flusher Callback) (parked : Option (Udp.Outgoing Nat)) :
    List (LinkFrame Callback Session) → List Parcel → Prop where
  | rest {parcels : List Parcel} : Rest flusher parked parcels → Flow flusher parked [] parcels
  | count {parcels : List Parcel} (entry : WriteEntry Callback) : Rest flusher parked parcels →
      Flow flusher parked [flusherTask (.count entry)] (parcels ++ [entry.wire])
  | enqueue {parcels : List Parcel} (entry : WriteEntry Callback) : Rest flusher parked parcels →
      Flow flusher parked [flusherTask (.enqueue entry)] (parcels ++ [entry.wire])
  | start : flusher.phase = .idle → parked = none →
      Flow flusher parked [flusherTask .iterate] (queued flusher)
  | wait {parcels : List Parcel} : flusher.phase = .pending → Rest flusher parked parcels →
      Flow flusher parked [flusherTask .iterate] parcels
  | take : flusher.phase = .iterating → parked = none →
      Flow flusher parked [flusherTask .take] (queued flusher)
  | check (entry : WriteEntry Callback) : flusher.phase = .iterating → parked = none →
      Flow flusher parked [flusherTask (.check entry)] (entry.wire :: queued flusher)
  | hand (entry : WriteEntry Callback) : flusher.phase = .iterating → parked = none →
      Flow flusher parked [flusherTask (.hand entry)] (entry.wire :: queued flusher)
  | give (ticket : Nat) (entry : WriteEntry Callback) : flusher.phase = .iterating →
      parked = none → ticket ∈ flusher.outstanding →
        Flow flusher parked [.task (.endpoint (.write ticket entry))] (entry.wire :: queued flusher)
  | lock (outgoing : Udp.Outgoing Nat) (ticket : Nat) (entry : WriteEntry Callback) :
      flusher.phase = .iterating → parked = none → outgoing.token ∈ flusher.outstanding →
        Flow flusher parked
          [.task (.udp (.lockForWrite outgoing)),
            .task (.answer (.flusher (.write ticket entry)) ())]
          (outgoing.wire :: queued flusher)
  | write (outgoing : Udp.Outgoing Nat) (ticket : Nat) (entry : WriteEntry Callback) :
      flusher.phase = .iterating → parked = none → outgoing.token ∈ flusher.outstanding →
        Flow flusher parked
          [.task (.udp (.write outgoing)), .task (.answer (.flusher (.write ticket entry)) ())]
          (outgoing.wire :: queued flusher)
  | park (outgoing : Udp.Outgoing Nat) (ticket : Nat) (entry : WriteEntry Callback) :
      flusher.phase = .iterating → parked = some outgoing →
        outgoing.token ∈ flusher.outstanding →
          Flow flusher parked
            [.task (.udp (.unlock none)), .task (.answer (.flusher (.write ticket entry)) ())]
            (outgoing.wire :: queued flusher)
  | parked (outgoing : Udp.Outgoing Nat) (ticket : Nat) (entry : WriteEntry Callback) :
      flusher.phase = .iterating → parked = some outgoing →
        outgoing.token ∈ flusher.outstanding →
          Flow flusher parked [.task (.answer (.flusher (.write ticket entry)) ())]
            (outgoing.wire :: queued flusher)
  | pend (outgoing : Udp.Outgoing Nat) : flusher.phase = .iterating → parked = some outgoing →
      outgoing.token ∈ flusher.outstanding →
        Flow flusher parked [flusherTask .written] (outgoing.wire :: queued flusher)
  | report {frame : LinkFrame Callback Session} {below : List (LinkFrame Callback Session)} :
      Reports flusher frame → Awaits flusher below → parked = none →
        Flow flusher parked (frame :: below) (queued flusher)
  | mark (ticket : Nat) (entry : WriteEntry Callback) : flusher.phase = .iterating →
      parked = none →
        Flow flusher parked
          [flusherTask .mark, .task (.answer (.flusher (.write ticket entry)) ())] (queued flusher)
  | called (ticket : Nat) (entry : WriteEntry Callback) : flusher.phase = .called →
      parked = none →
        Flow flusher parked [.task (.answer (.flusher (.write ticket entry)) ())] (queued flusher)
  | written : flusher.phase = .called → parked = none →
      Flow flusher parked [flusherTask .written] (queued flusher)
  | regain : flusher.phase = .called → parked = none →
      Flow flusher parked [flusherTask .regain] (queued flusher)
  | resume : flusher.phase = .pending → parked = none →
      Flow flusher parked [flusherTask .resume] (queued flusher)
  | settle : flusher.phase = .iterating → parked = none → flusher.queue = [] →
      Flow flusher parked [flusherTask .settle] []
  | look : Rest flusher parked [] → flusher.queue = [] → Flow flusher parked [flusherTask .look] []
  | lockForRetry {parcels : List Parcel} : Rest flusher parked parcels →
      Flow flusher parked [.task (.udp .lockForRetry)] parcels
  | retry {parcels : List Parcel} : Rest flusher parked parcels →
      Flow flusher parked [.task (.udp .retry)] parcels
  | unlock {parcels : List Parcel} : Rest flusher parked parcels →
      Flow flusher parked [.task (.udp (.unlock none))] parcels

/-- What a move may change while the writes flow: the flusher, and what the socket has accepted. -/
structure Sent (link : Link Callback Session) (parcels : List Parcel)
    (next : Link Callback Session) : Prop where
  connection : next.connection = { link.connection with flusher := next.connection.flusher }
  input : next.udp.inputOpen = link.udp.inputOpen
  output : next.udp.outputOpen = link.udp.outputOpen
  socket : link.udp.socket.Accepts parcels next.udp.socket

section Step

variable {link next : Link Callback Session} {move : LinkMove Callback Session}
variable {frames nextFrames : List (LinkFrame Callback Session)} {parcels : List Parcel}

theorem Rest.same {flusher other : Flusher Callback} {parked : Option (Udp.Outgoing Nat)}
    (rest : Rest flusher parked parcels) (phase : other.phase = flusher.phase)
    (queue : other.queue = flusher.queue) (outstanding : other.outstanding = flusher.outstanding) :
    Rest other parked parcels := by
  cases rest with
  | idle idle empty vacant => exact .idle (phase.trans idle) (queue.trans empty) vacant
  | pending outgoing pending slot ticket =>
      have same : queued other = queued flusher := by rw [queued, queue, queued]
      rw [← same]
      exact .pending outgoing (phase.trans pending) slot (outstanding ▸ ticket)

theorem Awaits.same {flusher other : Flusher Callback}
    {below : List (LinkFrame Callback Session)} (awaits : Awaits flusher below)
    (phase : other.phase = flusher.phase) : Awaits other below := by
  cases awaits with
  | returning ticket entry iterating => exact .returning ticket entry (phase.trans iterating)
  | parked pending => exact .parked (phase.trans pending)

theorem Sent.flusher {flusher : Flusher Callback} (sends : link.udp.socket.Sends) :
    Sent link [] { link with connection := { link.connection with flusher := flusher } } :=
  ⟨rfl, rfl, rfl, Socket.accepts_nil rfl rfl rfl rfl sends⟩

theorem Sent.refl (sends : link.udp.socket.Sends) : Sent link [] link := .flusher sends

theorem eq_of_step_task {task : Task Callback Session} {below : List (LinkFrame Callback Session)}
    (step : Step (component Callback Session) link (.task task :: below) move next nextFrames)
    (own : ∀ method, move ≠ .enter method) :
    next = (Link.step link task).1 ∧ nextFrames = (Link.step link task).2 ++ below :=
  step.eq_of_task own

/-- What a move makes of the flow: some datagrams are sent, and the others are left in order. -/
def Flows (link : Link Callback Session) (parcels : List Parcel) (next : Link Callback Session)
    (frames : List (LinkFrame Callback Session)) : Prop :=
  ∃ sent left, Flow next.connection.flusher next.udp.parked frames left ∧ Sent link sent next ∧
    parcels = sent ++ left

theorem Flows.quietly {flusher : Flusher Callback} (sends : link.udp.socket.Sends)
    (flow : Flow flusher link.udp.parked frames parcels) :
    Flows link parcels { link with connection := { link.connection with flusher := flusher } }
      frames :=
  ⟨[], parcels, flow, .flusher sends, rfl⟩

theorem Flows.aside {udp : Udp Nat} (input : udp.inputOpen = link.udp.inputOpen)
    (output : udp.outputOpen = link.udp.outputOpen) (socket : udp.socket = link.udp.socket)
    (sends : link.udp.socket.Sends)
    (flow : Flow link.connection.flusher udp.parked frames parcels) :
    Flows link parcels { link with udp := udp } frames := by
  refine ⟨[], parcels, flow, ⟨rfl, input, output, ?_⟩, rfl⟩
  rw [socket]
  exact Socket.accepts_nil rfl rfl rfl rfl sends

theorem flows_enqueue (entry : WriteEntry Callback)
    (rest : Rest link.connection.flusher link.udp.parked parcels)
    (sends : link.udp.socket.Sends) :
    Flows link (parcels ++ [entry.wire])
      (Link.step link (.connection (.flusher (.enqueue entry)))).1
      (Link.step link (.connection (.flusher (.enqueue entry)))).2 := by
  have longer : queued
      (Link.step link (.connection (.flusher (.enqueue entry)))).1.connection.flusher =
      queued link.connection.flusher ++ [entry.wire] := List.map_append
  refine .quietly sends ?_
  cases rest with
  | idle idle empty vacant =>
      have alone : queued link.connection.flusher = [] := congrArg (List.map WriteEntry.wire) empty
      rw [alone] at longer
      exact longer ▸ .start idle vacant
  | pending outgoing pending slot ticket =>
      rw [List.cons_append, ← longer]
      exact .wait pending (.pending outgoing pending slot ticket)

theorem flows_iterate (start : link.connection.flusher.phase = .idle ∧ link.udp.parked = none ∧
      parcels = queued link.connection.flusher ∨
      link.connection.flusher.phase = .pending ∧
        Rest link.connection.flusher link.udp.parked parcels)
    (sends : link.udp.socket.Sends) :
    Flows link parcels (Link.step link (.connection (.flusher .iterate))).1
      (Link.step link (.connection (.flusher .iterate))).2 := by
  rcases start with ⟨idle, vacant, rfl⟩ | ⟨pending, rest⟩
  · simp only [Link.step, Connection.step, Flusher.step, idle]
    exact .quietly sends (.take rfl vacant)
  · simp only [Link.step, Connection.step, Flusher.step, pending]
    exact .quietly sends (.rest rest)

theorem flows_take (iterating : link.connection.flusher.phase = .iterating)
    (vacant : link.udp.parked = none) (sends : link.udp.socket.Sends) :
    Flows link (queued link.connection.flusher) (Link.step link (.connection (.flusher .take))).1
      (Link.step link (.connection (.flusher .take))).2 := by
  cases waiting : link.connection.flusher.queue with
  | nil =>
      have nothing : queued link.connection.flusher = [] :=
        congrArg (List.map WriteEntry.wire) waiting
      rw [nothing]
      simp only [Link.step, Connection.step, Flusher.step, waiting]
      exact .quietly sends (.settle iterating vacant waiting)
  | cons entry others =>
      have first : queued link.connection.flusher = entry.wire :: others.map WriteEntry.wire :=
        congrArg (List.map WriteEntry.wire) waiting
      rw [first]
      simp only [Link.step, Connection.step, Flusher.step, waiting]
      exact .quietly sends (.check entry iterating vacant)

/-- A datagram that is tried is sent, or it is parked. -/
theorem sendOrPark_cases (udp : Udp Nat) (sends : udp.socket.Sends) (outgoing : Udp.Outgoing Nat) :
    (∃ socket,
      udp.sendOrPark outgoing = ({ udp with socket := socket }, some (outgoing.token, .ok ())) ∧
      udp.socket.Accepts [outgoing.wire] socket) ∨
    ∃ socket,
      udp.sendOrPark outgoing = ({ udp with socket := socket, parked := some outgoing }, none) ∧
      udp.socket.Accepts [] socket := by
  rcases Socket.send_cases sends outgoing.receiver outgoing.datagram with
    ⟨socket, sent, accepts⟩ | ⟨socket, blocks, accepts⟩
  · exact .inl ⟨socket, by simp only [Udp.sendOrPark, sent], accepts⟩
  · exact .inr ⟨socket, by simp only [Udp.sendOrPark, blocks], accepts⟩

theorem retry_cases (udp : Udp Nat) {outgoing : Udp.Outgoing Nat}
    (slot : udp.parked = some outgoing) (output : udp.outputOpen = true)
    (sends : udp.socket.Sends) :
    (∃ socket, Udp.step udp .retry = ({ udp with socket := socket, parked := none },
        [.task (.unlock (some (outgoing.token, .ok ())))]) ∧
      udp.socket.Accepts [outgoing.wire] socket) ∨
    ∃ socket, Udp.step udp .retry = ({ udp with socket := socket, parked := some outgoing },
        [.task (.unlock none)]) ∧
      udp.socket.Accepts [] socket := by
  simp only [Udp.step, slot]
  rw [if_pos output]
  rcases sendOrPark_cases { udp with parked := none } sends outgoing with
    ⟨socket, tried, accepts⟩ | ⟨socket, tried, accepts⟩
  · exact .inl ⟨socket, by rw [tried], accepts⟩
  · exact .inr ⟨socket, by rw [tried], accepts⟩

theorem flows_write {outgoing : Udp.Outgoing Nat} {ticket : Nat} {entry : WriteEntry Callback}
    (iterating : link.connection.flusher.phase = .iterating) (vacant : link.udp.parked = none)
    (known : outgoing.token ∈ link.connection.flusher.outstanding)
    (output : link.udp.outputOpen = true) (sends : link.udp.socket.Sends) :
    Flows link (outgoing.wire :: queued link.connection.flusher)
      (Link.step link (.udp (.write outgoing))).1
      ((Link.step link (.udp (.write outgoing))).2 ++
        [.task (.answer (.flusher (.write ticket entry)) ())]) := by
  simp only [Link.step, Udp.step, output, if_true]
  rcases sendOrPark_cases link.udp sends outgoing with
    ⟨socket, tried, accepts⟩ | ⟨socket, tried, accepts⟩
  · rw [tried]
    exact ⟨[outgoing.wire], queued link.connection.flusher,
      .report (.unlock outgoing.token known) (.returning ticket entry iterating) vacant,
      ⟨rfl, rfl, rfl, accepts⟩, rfl⟩
  · rw [tried]
    exact ⟨[], _, .park outgoing ticket entry iterating rfl known, ⟨rfl, rfl, rfl, accepts⟩, rfl⟩

theorem flows_retry (rest : Rest link.connection.flusher link.udp.parked parcels)
    (output : link.udp.outputOpen = true) (sends : link.udp.socket.Sends) :
    Flows link parcels (Link.step link (.udp .retry)).1 (Link.step link (.udp .retry)).2 := by
  cases rest with
  | idle idle empty vacant =>
      simp only [Link.step, Udp.step, vacant]
      exact ⟨[], [], .unlock (.idle idle empty vacant), .refl sends, rfl⟩
  | pending outgoing pending slot known =>
      rcases retry_cases link.udp slot output sends with
        ⟨socket, tried, accepts⟩ | ⟨socket, tried, accepts⟩
      · simp only [Link.step, tried]
        exact ⟨[outgoing.wire], queued link.connection.flusher,
          .report (.unlock outgoing.token known) (.parked pending) rfl, ⟨rfl, rfl, rfl, accepts⟩,
          rfl⟩
      · simp only [Link.step, tried]
        exact ⟨[], _, .unlock (.pending outgoing pending rfl known), ⟨rfl, rfl, rfl, accepts⟩, rfl⟩

/-- A completed write is reported step by step, and then the flusher goes on. -/
theorem flows_report {frame : LinkFrame Callback Session}
    {below : List (LinkFrame Callback Session)} (reports : Reports link.connection.flusher frame)
    (awaits : Awaits link.connection.flusher below) (vacant : link.udp.parked = none)
    (sends : link.udp.socket.Sends)
    (step : Step (component Callback Session) link (frame :: below) move next nextFrames)
    (own : ∀ method, move ≠ .enter method) :
    Flows link (queued link.connection.flusher) next nextFrames := by
  cases reports with
  | unlock ticket known =>
      obtain ⟨rfl, rfl⟩ := eq_of_step_task step own
      exact .aside rfl rfl rfl sends (.report (.redeem ticket known) awaits vacant)
  | redeem ticket known =>
      obtain ⟨rfl, rfl⟩ := eq_of_step_task step own
      simp only [Link.step, Connection.step, Flusher.step, known, if_true]
      exact .quietly sends (.report .collect (awaits.same rfl) vacant)
  | collect =>
      obtain ⟨rfl, rfl⟩ := eq_of_step_task step own
      exact .quietly sends
        (.report (.tally link.connection.flusher.current) (awaits.same rfl) vacant)
  | tally callback? =>
      obtain ⟨rfl, rfl⟩ := eq_of_step_task step own
      cases callback? with
      | none => exact .quietly sends (.report .succeed (awaits.same rfl) vacant)
      | some callback => exact .quietly sends (.report (.call callback) (awaits.same rfl) vacant)
  | call callback =>
      cases step with
      | «begin» => exact ⟨[], _, .report (.inside callback) awaits vacant, .refl sends, rfl⟩
      | enter => exact absurd rfl (own _)
  | inside callback =>
      cases step with
      | finish => exact ⟨[], _, .report .succeed awaits vacant, .refl sends, rfl⟩
      | enter => exact absurd rfl (own _)
  | succeed =>
      obtain ⟨rfl, rfl⟩ := eq_of_step_task step own
      cases awaits with
      | returning ticket entry iterating =>
          simp only [Link.step, Connection.step, Flusher.step, iterating]
          exact .quietly sends (.mark ticket entry iterating vacant)
      | parked pending =>
          simp only [Link.step, Connection.step, Flusher.step, pending]
          exact .quietly sends (.resume pending vacant)

theorem Flow.step (flow : Flow link.connection.flusher link.udp.parked frames parcels)
    (output : link.udp.outputOpen = true) (sends : link.udp.socket.Sends)
    (step : Step (component Callback Session) link frames move next nextFrames)
    (own : ∀ method, move ≠ .enter method) : Flows link parcels next nextFrames := by
  cases flow with
  | count entry rest =>
      obtain ⟨rfl, rfl⟩ := eq_of_step_task step own
      exact .quietly sends (.enqueue entry (rest.same rfl rfl rfl))
  | enqueue entry rest =>
      obtain ⟨rfl, rfl⟩ := eq_of_step_task step own
      rw [List.append_nil]
      exact flows_enqueue entry rest sends
  | start idle vacant =>
      obtain ⟨rfl, rfl⟩ := eq_of_step_task step own
      rw [List.append_nil]
      exact flows_iterate (.inl ⟨idle, vacant, rfl⟩) sends
  | wait pending rest =>
      obtain ⟨rfl, rfl⟩ := eq_of_step_task step own
      rw [List.append_nil]
      exact flows_iterate (.inr ⟨pending, rest⟩) sends
  | take iterating vacant =>
      obtain ⟨rfl, rfl⟩ := eq_of_step_task step own
      rw [List.append_nil]
      exact flows_take iterating vacant sends
  | check entry iterating vacant =>
      obtain ⟨rfl, rfl⟩ := eq_of_step_task step own
      simp only [Link.step, Connection.step, Flusher.step, iterating]
      exact .quietly sends (.hand entry iterating vacant)
  | hand entry iterating vacant =>
      obtain ⟨rfl, rfl⟩ := eq_of_step_task step own
      exact .quietly sends (.give link.connection.flusher.handed entry iterating vacant
        (List.mem_append_right _ List.mem_cons_self))
  | give ticket entry iterating vacant known =>
      obtain ⟨rfl, rfl⟩ := eq_of_step_task step own
      exact .quietly sends
        (.lock ⟨entry.address, entry.buffers.flatten, ticket⟩ ticket entry iterating vacant known)
  | lock outgoing ticket entry iterating vacant known =>
      obtain ⟨rfl, rfl⟩ := eq_of_step_task step own
      exact .aside rfl rfl rfl sends (.write outgoing ticket entry iterating vacant known)
  | write outgoing ticket entry iterating vacant known =>
      obtain ⟨rfl, rfl⟩ := eq_of_step_task step own
      exact flows_write iterating vacant known output sends
  | park outgoing ticket entry iterating slot known =>
      obtain ⟨rfl, rfl⟩ := eq_of_step_task step own
      exact .aside rfl rfl rfl sends (.parked outgoing ticket entry iterating slot known)
  | parked outgoing ticket entry iterating slot known =>
      obtain ⟨rfl, rfl⟩ := eq_of_step_task step own
      exact .quietly sends (.pend outgoing iterating slot known)
  | pend outgoing iterating slot known =>
      obtain ⟨rfl, rfl⟩ := eq_of_step_task step own
      simp only [Link.step, Connection.step, Flusher.step, iterating]
      exact .quietly sends (.rest (.pending outgoing rfl slot known))
  | report reports awaits vacant => exact flows_report reports awaits vacant sends step own
  | mark ticket entry iterating vacant =>
      obtain ⟨rfl, rfl⟩ := eq_of_step_task step own
      simp only [Link.step, Connection.step, Flusher.step, iterating]
      exact .quietly sends (.called ticket entry rfl vacant)
  | called ticket entry called vacant =>
      obtain ⟨rfl, rfl⟩ := eq_of_step_task step own
      exact .quietly sends (.written called vacant)
  | written called vacant =>
      obtain ⟨rfl, rfl⟩ := eq_of_step_task step own
      simp only [Link.step, Connection.step, Flusher.step, called]
      exact .quietly sends (.regain called vacant)
  | regain called vacant =>
      obtain ⟨rfl, rfl⟩ := eq_of_step_task step own
      simp only [Link.step, Connection.step, Flusher.step, called]
      exact .quietly sends (.take rfl vacant)
  | resume pending vacant =>
      obtain ⟨rfl, rfl⟩ := eq_of_step_task step own
      simp only [Link.step, Connection.step, Flusher.step, pending]
      exact .quietly sends (.take rfl vacant)
  | settle iterating vacant empty =>
      obtain ⟨rfl, rfl⟩ := eq_of_step_task step own
      simp only [Link.step, Connection.step, Flusher.step, iterating]
      exact .quietly sends (.look (.idle rfl empty vacant) empty)
  | look rest empty =>
      obtain ⟨rfl, rfl⟩ := eq_of_step_task step own
      simp only [Link.step, Connection.step, Flusher.step, empty]
      exact .quietly sends (.rest rest)
  | lockForRetry rest =>
      obtain ⟨rfl, rfl⟩ := eq_of_step_task step own
      exact .aside rfl rfl rfl sends (.retry rest)
  | retry rest =>
      obtain ⟨rfl, rfl⟩ := eq_of_step_task step own
      rw [List.append_nil]
      exact flows_retry rest output sends
  | unlock rest =>
      obtain ⟨rfl, rfl⟩ := eq_of_step_task step own
      exact .aside rfl rfl rfl sends (.rest rest)
  | rest rest =>
      cases step with
      | enter => exact absurd rfl (own _)

end Step

end DatagramMux.Link
