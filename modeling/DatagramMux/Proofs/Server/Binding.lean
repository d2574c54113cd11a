import DatagramMux.Proofs.Endpoint.Surroundings
import DatagramMux.Server.Steps

/-!
# A server that was just made

Making a server can fail at many points, but a server that was made is always the same: its
connection is new, nothing has arrived at its socket, and what happens to the socket later leaves all
else alone.
-/

namespace DatagramMux

theorem exists_of_bind_eq_ok {Fault First Second : Type} {first : Except Fault First}
    {next : First → Except Fault Second} {result : Second}
    (succeeded : first >>= next = .ok result) :
    ∃ value, first = .ok value ∧ next value = .ok result := by
  cases first with
  | error fault => cases succeeded
  | ok value => exact ⟨value, rfl, succeeded⟩

theorem Socket.eq_of_bind {answers : BindAnswers} {address : SocketAddress} {taken routed : Bool}
    {socket : Socket} (bound : Socket.bind answers address taken routed = .ok socket) :
    socket = { address := address, routed := routed } := by
  obtain ⟨_, _, bound⟩ := exists_of_bind_eq_ok bound
  cases taken with
  | true => cases bound
  | false =>
      obtain ⟨_, _, bound⟩ := exists_of_bind_eq_ok bound
      exact (Except.ok.inj bound).symm

theorem Connection.eq_of_new {Callback Session : Type} {config : Config}
    {connection : Connection Callback Session} (opened : Connection.new config = .ok connection) :
    connection = { config := config } := by
  simp only [Connection.new, Config.validate] at opened
  cases fault : config.fault? with
  | some _ => simp [fault] at opened
  | none =>
      simp only [fault, Except.ok.injEq] at opened
      exact opened.symm

namespace Server

variable {Callback Session : Type}

theorem eq_of_bind {answers : BindAnswers} {config : Config} {taken routed : Bool}
    {server : Server Callback Session} (bound : bind answers config taken routed = .ok server) :
    ∃ connection, Connection.new config = .ok connection ∧
      server =
        { link :=
            { connection := connection
              udp := { socket := { address := config.bindAddress, routed := routed } } }
          pool := .new config.poolCapacity.toNat } := by
  obtain ⟨connection, opened, bound⟩ := exists_of_bind_eq_ok bound
  obtain ⟨_, _, bound⟩ := exists_of_bind_eq_ok bound
  obtain ⟨socket, made, bound⟩ := exists_of_bind_eq_ok bound
  obtain ⟨_, _, bound⟩ := exists_of_bind_eq_ok bound
  have bare : socket = { address := config.bindAddress, routed := routed } := by
    cases result : Socket.bind answers config.bindAddress taken routed with
    | error error =>
        rw [result] at made
        cases made
    | ok other =>
        rw [result] at made
        obtain rfl := Except.ok.inj made
        exact Socket.eq_of_bind result
  exact ⟨connection, opened, bare ▸ (Except.ok.inj bound).symm⟩

/-- What may happen to a server without its being used. -/
def undergo (server : Server Callback Session) (event : SocketEvent) : Server Callback Session :=
  server.setSocket (server.socket.undergo event)

end Server

end DatagramMux
