import DatagramMux.Endpoint.Udp
import DatagramMux.Proofs.Connection.Loans

/-!
# A datagram in a buffer

An endpoint fills up the room of a buffer, has a datagram written over it, and cuts off the rest. The
read loop hands on what it then finds in the buffer until the datagram is routed. It asks the pool for
buffers of one size only, and empties a buffer whenever it is to be filled.
-/

namespace DatagramMux

/-! ## Receiving one datagram -/

namespace Udp

theorem receive_of_ok {Token : Type} {udp : Udp Token} {buffer : Buffer} {socket : Socket}
    {sender : SocketAddress} {datagram : Bytes} (empty : buffer.contents = [])
    (received : udp.socket.receive = (socket, .ok (sender, datagram))) :
    ∃ filled, udp.receive buffer = ({ udp with socket := socket }, filled,
        .ok (.datagram (min datagram.length buffer.capacity) sender)) ∧
      filled.capacity = buffer.capacity ∧
        filled.contents = datagram.take (min datagram.length buffer.capacity) := by
  refine ⟨(buffer.fillUp.overwrite datagram).truncate (min datagram.length buffer.capacity), ?_, rfl,
    Buffer.contents_received empty datagram⟩
  simp only [receive, received, Buffer.length_fillUp empty]

/-- Without a datagram the buffer is handed back, and there is nothing to route. -/
theorem receive_of_error {Token : Type} {udp : Udp Token} (buffer : Buffer) {socket : Socket}
    {kind : IoKind} (received : udp.socket.receive = (socket, .error kind)) :
    ∃ filled result, udp.receive buffer = ({ udp with socket := socket }, filled, result) ∧
      filled.capacity = buffer.capacity ∧ ∀ length sender, result ≠ .ok (.datagram length sender) := by
  simp only [receive, received]
  cases kind <;> exact ⟨_, _, rfl, rfl, nofun⟩

end Udp

/-! ## What a read loop makes of it -/

namespace Connection

variable {Callback Session : Type}

/-- The datagram that was received and has yet to be routed. -/
def arrived? : ConnectionFrame Callback Session → Option Arrival
  | .task (.countDatagram arrival _) | .task (.countBytes arrival _) | .task (.identify arrival) =>
      some arrival
  | _ => none

/-- The room of the buffer that a frame has. -/
def room? (frame : ConnectionFrame Callback Session) : Option Nat :=
  (buffer? frame).map Buffer.capacity

/-- Buffers of one size are asked for, and only an empty buffer is to be filled. -/
def Prompt (size : Nat) : ConnectionFrame Callback Session → Prop
  | .call (.acquire least _) | .inside (.acquire least _) => least = size
  | .call (.fill buffer) => buffer.contents = []
  | .inside (.fill _) => False
  | _ => True

theorem filterMap_room_eq_nil {frames : List (ConnectionFrame Callback Session)}
    (unknown : ∀ frame ∈ frames, buffer? frame = none) : frames.filterMap room? = [] :=
  List.filterMap_eq_nil_iff.2 fun frame member => by rw [room?, unknown frame member]; rfl

theorem Carries.filterMap_room {frame : ConnectionFrame Callback Session} {capacity : Nat}
    (carries : Carries capacity frame) : [frame].filterMap room? = [capacity] := by
  obtain ⟨buffer, known, rfl, -⟩ := carries
  rw [List.filterMap_cons_some (show room? frame = some buffer.capacity by rw [room?, known]; rfl)]
  rfl

theorem rooms_step (connection : Connection Callback Session) (task : Task Callback Session) :
    (step connection task).2.filterMap room? = (room? (.task task)).toList := by
  cases known : buffer? (.task task : ConnectionFrame Callback Session) with
  | none => rw [filterMap_room_eq_nil (step_buffer? known), room?, known]; rfl
  | some buffer =>
      obtain ⟨frame, single, carries, -⟩ := step_carries connection known
      rw [single, carries.filterMap_room, room?, known]
      rfl

theorem rooms_resumed (request : Request Callback Session) (reply : Reply request) :
    (resumed request reply).filterMap room? =
      ((returned? request reply).map Buffer.capacity).toList := by
  cases known : returned? request reply with
  | none => rw [filterMap_room_eq_nil (resumed_buffer? known)]; rfl
  | some buffer =>
      obtain ⟨frame, single, carries⟩ := resumed_carries known
      rw [single, carries.filterMap_room]
      rfl

theorem arrived_liftFlusher (frames : List (Flusher.FlusherFrame Callback)) :
    (frames.map liftFlusher : List (ConnectionFrame Callback Session)).filterMap arrived? = [] :=
  List.filterMap_eq_nil_iff.2 (forall_mem_liftFlusher (fun frame => arrived? frame = none)
    (fun _ => rfl) rfl (fun _ => rfl) (fun _ => rfl) frames)

theorem arrived_liftSweep (frames : List (Registry.SweepFrame Session Purpose)) :
    (frames.map liftSweep : List (ConnectionFrame Callback Session)).filterMap arrived? = [] :=
  List.filterMap_eq_nil_iff.2 (forall_mem_liftSweep (fun frame => arrived? frame = none)
    (fun _ => rfl) (fun _ => rfl) (fun _ => rfl) (fun _ => rfl) frames)

/-- A datagram that was received stays the same until it is routed. -/
theorem arrived_step (connection : Connection Callback Session) {task : Task Callback Session}
    (other : ∀ arrival, task ≠ .identify arrival) :
    (step connection task).2.filterMap arrived? = (arrived? (.task task)).toList := by
  cases task with
  | flusher task => exact arrived_liftFlusher _
  | sweep task => exact arrived_liftSweep _
  | identify arrival => exact absurd rfl (other arrival)
  | hold method => cases method <;> rfl
  | react | shut | unregister | route | vet | register | confirm | withdraw =>
      simp only [step]
      split <;> rfl
  | _ => rfl

theorem arrived_identify (connection : Connection Callback Session) (arrival : Arrival) :
    (step connection (.identify arrival)).2.filterMap arrived? = [] := by
  simp only [step]
  split <;> rfl

/-- Nobody but the endpoint brings a datagram. -/
theorem arrived_resumed {request : Request Callback Session} (reply : Reply request)
    (other : ∀ buffer, request ≠ .fill buffer) : (resumed request reply).filterMap arrived? = [] := by
  cases request with
  | fill buffer => exact absurd rfl (other buffer)
  | flusher request => exact arrived_liftFlusher _
  | sweep request => exact arrived_liftSweep _
  | release buffer ending => cases ending <;> rfl
  | isOpen => obtain - | - := reply <;> rfl
  | create => obtain error | - | session := reply <;> rfl
  | process => obtain error | consumed := reply <;> rfl
  | _ => rfl

theorem prompt_liftFlusher (size : Nat) (frames : List (Flusher.FlusherFrame Callback)) :
    ∀ frame ∈ (frames.map liftFlusher : List (ConnectionFrame Callback Session)),
      Prompt size frame :=
  forall_mem_liftFlusher _ (fun _ => trivial) trivial (fun _ => trivial) (fun _ => trivial) frames

theorem prompt_liftSweep (size : Nat) (frames : List (Registry.SweepFrame Session Purpose)) :
    ∀ frame ∈ (frames.map liftSweep : List (ConnectionFrame Callback Session)),
      Prompt size frame :=
  forall_mem_liftSweep _ (fun _ => trivial) (fun _ => trivial) (fun _ => trivial)
    (fun _ => trivial) frames

theorem prompt_step (connection : Connection Callback Session) (task : Task Callback Session) :
    ∀ frame ∈ (step connection task).2, Prompt connection.config.readBufferSize.toNat frame := by
  cases task with
  | flusher task => exact prompt_liftFlusher _ _
  | sweep task => exact prompt_liftSweep _ _
  | hold method => cases method <;> simp [step, begun, Prompt]
  | react | shut | unregister | identify | route | vet | register | confirm | withdraw =>
      simp only [step]
      split <;> simp [Prompt, refill]
  | _ => simp [step, Prompt, refill]

theorem prompt_resumed (size : Nat) (request : Request Callback Session) (reply : Reply request) :
    ∀ frame ∈ resumed request reply, Prompt size frame := by
  have single {frame : ConnectionFrame Callback Session} (prompt : Prompt size frame) :
      ∀ other ∈ [frame], Prompt size other := List.forall_mem_singleton.2 prompt
  cases request with
  | acquire | discard => exact single rfl
  | fill buffer =>
      obtain ⟨filled, cause | ⟨- | - | -⟩⟩ := reply <;> exact single trivial
  | flusher request => exact prompt_liftFlusher _ _
  | sweep request => exact prompt_liftSweep _ _
  | release buffer ending => cases ending <;> exact single trivial
  | isOpen =>
      obtain - | - := reply
      · exact fun _ member => nomatch member
      · exact single trivial
  | create => obtain error | - | session := reply <;> exact single trivial
  | process =>
      obtain error | consumed := reply
      · exact single trivial
      · exact single rfl
  | assign => exact single trivial
  | interest | shutdownOutput | closeEndpoint => exact fun _ member => nomatch member

end Connection

end DatagramMux
