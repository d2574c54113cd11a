import DatagramMux.Endpoint.Socket

/-!
# What happens to a socket

Datagrams arrive at a socket, the socket becomes writable, and the operating system makes up its mind
what it will answer to coming calls. Each of these may happen at any time. A socket that was read
until nothing was left stays so unless it becomes readable again.
-/

namespace DatagramMux

/-- A datagram with the address that it comes from or goes to. -/
abbrev Parcel := SocketAddress × Bytes

/-- What may happen to a socket without its being used. -/
inductive SocketEvent where
  | arrive (sender : SocketAddress) (datagram : Bytes)
  | writable
  /-- Lay down what the operating system answers to coming calls. -/
  | answer (send receive poll : Answers)

/-- The operating system is not going to say that nothing waits although something does. -/
def SocketEvent.Honest : SocketEvent → Prop
  | .answer _ receive _ => some .wouldBlock ∉ receive
  | .arrive _ _ | .writable => True

namespace Socket

def undergo (socket : Socket) : SocketEvent → Socket
  | .arrive sender datagram => socket.arrive sender datagram
  | .writable => { socket with writable := true }
  | .answer send receive poll =>
      { socket with
        sendAnswers := socket.sendAnswers ++ send
        receiveAnswers := socket.receiveAnswers ++ receive
        pollAnswers := socket.pollAnswers ++ poll }

/-! ## The input -/

/-- Nothing waits to be received but what an event will report. -/
def Heeded (socket : Socket) : Prop := socket.inbox = [] ∨ socket.readable = true

/-- The operating system is not going to say that nothing waits although something does. -/
def Honest (socket : Socket) : Prop := some .wouldBlock ∉ socket.receiveAnswers

theorem heeded_arrive (socket : Socket) (sender : SocketAddress) (datagram : Bytes) :
    (socket.arrive sender datagram).Heeded := .inr rfl

theorem Heeded.undergo {socket : Socket} (heeded : socket.Heeded) (event : SocketEvent) :
    (socket.undergo event).Heeded := by
  cases event with
  | arrive sender datagram => exact heeded_arrive socket sender datagram
  | writable | answer => exact heeded

theorem Honest.undergo {socket : Socket} {event : SocketEvent} (honest : socket.Honest)
    (fair : event.Honest) : (socket.undergo event).Honest := by
  cases event with
  | arrive | writable => exact honest
  | answer send receive poll => exact fun member => (List.mem_append.1 member).elim honest fair

/-- What goes to the socket itself makes it readable, and all else leaves its input alone. -/
theorem Heeded.accept {socket : Socket} (heeded : socket.Heeded) (receiver : SocketAddress)
    (datagram : Bytes) : (socket.accept receiver datagram).Heeded := by
  simp only [Socket.accept]
  split
  · exact heeded_arrive _ _ _
  · exact heeded

theorem Heeded.send {socket : Socket} (heeded : socket.Heeded) (receiver : SocketAddress)
    (datagram : Bytes) : (socket.send receiver datagram).1.Heeded := by
  have kept : { socket with sendAnswers := socket.sendAnswers.tail }.Heeded := heeded
  simp only [Socket.send]
  split
  · exact kept
  · split
    · exact kept.accept receiver datagram
    · exact kept

theorem receiveAnswers_send (socket : Socket) (receiver : SocketAddress) (datagram : Bytes) :
    (socket.send receiver datagram).1.receiveAnswers = socket.receiveAnswers := by
  simp only [Socket.send]
  split
  · rfl
  · split
    · simp only [Socket.accept]
      split <;> rfl
    · rfl

theorem inbox_of_wouldBlock {socket next : Socket} (honest : socket.Honest)
    (received : socket.receive = (next, .error .wouldBlock)) : next.inbox = [] := by
  unfold Socket.receive at received
  cases answer : socket.receiveAnswers.head?.join with
  | some kind =>
      simp only [answer, Prod.mk.injEq, Except.error.injEq] at received
      have laid := List.mem_of_mem_head? (Option.join_eq_some_iff.1 answer)
      rw [received.2] at laid
      exact absurd laid honest
  | none =>
      cases waiting : socket.inbox with
      | nil =>
          simp only [answer, waiting, Prod.mk.injEq] at received
          rw [← received.1]
      | cons => simp [answer, waiting] at received

theorem Honest.receive {socket : Socket} (honest : socket.Honest) : socket.receive.1.Honest := by
  have tail : some IoKind.wouldBlock ∉ socket.receiveAnswers.tail :=
    fun member => honest (List.mem_of_mem_tail member)
  simp only [Socket.receive]
  split <;> exact tail

theorem Honest.poll {socket : Socket} (honest : socket.Honest) : socket.poll.1.Honest := by
  simp only [Socket.poll]
  split
  · exact honest
  · split <;> exact honest

theorem heeded_poll {socket next : Socket} {result : Except IoKind (Option Bool)}
    (polled : socket.poll = (next, result)) (heeded : socket.Heeded) :
    next.Heeded ∨ result = .ok (some true) := by
  simp only [Socket.poll] at polled
  split at polled
  · cases polled
    exact .inl heeded
  · split at polled
    · cases polled
      rcases heeded with nothing | readable
      · exact .inl (.inl nothing)
      · rw [readable]
        exact .inr rfl
    · cases polled
      exact .inl heeded

theorem eq_of_poll (socket : Socket) :
    ∃ readable writable answers, socket.poll.1 =
      { socket with readable := readable, writable := writable, pollAnswers := answers } := by
  simp only [Socket.poll]
  split
  · exact ⟨_, _, _, rfl⟩
  · split <;> exact ⟨_, _, _, rfl⟩

/-! ## The output -/

/-- A send is either accepted or would block. -/
def Sends (socket : Socket) : Prop :=
  socket.routed = true ∧ ∀ answer ∈ socket.sendAnswers, answer = none ∨ answer = some .wouldBlock

/-- A socket has accepted some datagrams; those that go to the socket itself arrive there. -/
structure Accepts (socket : Socket) (parcels : List Parcel) (next : Socket) : Prop where
  sent : next.sent = socket.sent ++ parcels
  inbox : next.inbox = socket.inbox ++ parcels.filter fun parcel => parcel.1 = socket.address
  address : next.address = socket.address
  receives : next.receiveAnswers = socket.receiveAnswers
  sends : next.Sends

theorem accepts_nil {socket next : Socket} (sent : next.sent = socket.sent)
    (inbox : next.inbox = socket.inbox) (address : next.address = socket.address)
    (receives : next.receiveAnswers = socket.receiveAnswers) (sends : next.Sends) :
    socket.Accepts [] next :=
  ⟨by rw [sent, List.append_nil], by rw [inbox, List.filter_nil, List.append_nil], address, receives,
    sends⟩

theorem accepts_accept {socket : Socket} (sends : socket.Sends) (receiver : SocketAddress)
    (datagram : Bytes) :
    socket.Accepts [(receiver, datagram)] (socket.accept receiver datagram) := by
  simp only [Socket.accept]
  split
  · next same => exact ⟨rfl, by simp [Socket.arrive, same], rfl, rfl, sends⟩
  · next other => exact ⟨rfl, by simp [other], rfl, rfl, sends⟩

theorem send_cases {socket : Socket} (sends : socket.Sends) (receiver : SocketAddress)
    (datagram : Bytes) :
    (∃ next, socket.send receiver datagram = (next, .ok ()) ∧
      socket.Accepts [(receiver, datagram)] next) ∨
    ∃ next, socket.send receiver datagram = (next, .error .wouldBlock) ∧ socket.Accepts [] next := by
  obtain ⟨routed, answers⟩ := sends
  have later : { socket with sendAnswers := socket.sendAnswers.tail }.Sends :=
    ⟨routed, fun answer member => answers answer (List.mem_of_mem_tail member)⟩
  cases head : socket.sendAnswers.head?.join with
  | some kind =>
      have laid := answers (some kind) (List.mem_of_mem_head? (Option.join_eq_some_iff.1 head))
      obtain rfl := Option.some.inj (laid.resolve_left nofun)
      refine .inr ⟨{ socket with sendAnswers := socket.sendAnswers.tail }, ?_,
        accepts_nil rfl rfl rfl rfl later⟩
      simp only [Socket.send, head]
  | none =>
      have accepted := accepts_accept later receiver datagram
      refine .inl ⟨_, ?_, ⟨accepted.sent, accepted.inbox, accepted.address, accepted.receives,
        accepted.sends⟩⟩
      simp only [Socket.send, head]
      exact if_pos routed

end Socket

end DatagramMux
