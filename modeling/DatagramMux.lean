import DatagramMux.Config
import DatagramMux.Stats.Counters
import DatagramMux.Pool.Holder
import DatagramMux.Machine.Run
import DatagramMux.Registry.Shared
import DatagramMux.Connection.Steps
import DatagramMux.Echo.Basic
import DatagramMux.Scenario.Script
import DatagramMux.Scenario.Event
import DatagramMux.Scenario.World
import DatagramMux.Endpoint.Udp
import DatagramMux.Scenario.Exchange
import DatagramMux.Server.Steps
import DatagramMux.Echo.Host
import DatagramMux.CommandLine.Parse
import DatagramMux.Scenario.Service
import DatagramMux.Scenario.Launch
import DatagramMux.Scenario.Race.Serving
import DatagramMux.Scenario.Race.Sweeping
import DatagramMux.Scenario.Dialogue
import DatagramMux.Main
import DatagramMux.Proofs.Machine.Exchange
import DatagramMux.Proofs.Machine.Script
import DatagramMux.Proofs.Flusher.Invariant
import DatagramMux.Proofs.Flusher.Threads
import DatagramMux.Proofs.Flusher.Reentrancy
import DatagramMux.Proofs.Flusher.Callbacks
import DatagramMux.Proofs.Connection.Nesting
import DatagramMux.Proofs.Connection.Life
import DatagramMux.Proofs.Connection.Acts
import DatagramMux.Proofs.Connection.Lifecycle
import DatagramMux.Proofs.Connection.Flushing
import DatagramMux.Proofs.Flusher.Failure
import DatagramMux.Proofs.Connection.Closing
import DatagramMux.Proofs.Connection.Teardown
import DatagramMux.Proofs.Connection.Failure
import DatagramMux.Proofs.Connection.Routing
import DatagramMux.Proofs.Endpoint.Custody
import DatagramMux.Proofs.Flusher.Successes
import DatagramMux.Proofs.Link.Flushing
import DatagramMux.Proofs.Link.Wire
import DatagramMux.Proofs.Machine.Listing
import DatagramMux.Proofs.Registry.Sweeping
import DatagramMux.Proofs.Connection.Shutdown
import DatagramMux.Proofs.Machine.Events
import DatagramMux.Proofs.Endpoint.Surroundings
import DatagramMux.Proofs.Server.Binding
import DatagramMux.Proofs.Server.Reading
import DatagramMux.Proofs.Link.Flow
import DatagramMux.Proofs.Echo.Reference
import DatagramMux.Proofs.Echo.Handling
import DatagramMux.Proofs.Echo.Service
import DatagramMux.Proofs.Flusher.Counting
import DatagramMux.Proofs.Flusher.Dispatch
import DatagramMux.Proofs.Flusher.Timing
import DatagramMux.Proofs.Flusher.Loops
import DatagramMux.Proofs.Flusher.Cascade
import DatagramMux.Proofs.Endpoint.Locking
import DatagramMux.Proofs.Endpoint.Completions
import DatagramMux.Proofs.Connection.Isolation
import DatagramMux.Proofs.Connection.Departure
import DatagramMux.Proofs.Connection.Scenes
import DatagramMux.Proofs.Connection.Loudness
import DatagramMux.Proofs.Link.Settlement
import DatagramMux.Proofs.Link.Surface
import DatagramMux.Proofs.Server.Alertness
import DatagramMux.Proofs.Server.Serving
import DatagramMux.Proofs.Server.Looping
import DatagramMux.Proofs.Server.Exit
import DatagramMux.Proofs.Connection.Headcount
import DatagramMux.Proofs.Connection.Conservation
import DatagramMux.Proofs.Connection.Arrivals
import DatagramMux.Proofs.Machine.Agenda
import DatagramMux.Proofs.Machine.Visit
import DatagramMux.Proofs.Connection.Loans
import DatagramMux.Proofs.Connection.Invocations
import DatagramMux.Proofs.Connection.Reception
import DatagramMux.Proofs.Link.Integrity
import DatagramMux.Proofs.Packet.Grammar
import DatagramMux.Proofs.Pool.Retention
import DatagramMux.Proofs.Machine.Thread
import DatagramMux.Proofs.Flusher.Completion
import DatagramMux.Proofs.Echo.Hosting
import DatagramMux.Proofs.Echo.Tenancy
