import DatagramMux.Machine.Crew
import DatagramMux.Registry.Shared

/-!
# Many sweepers

Threads that close all sessions of one registry at the same time. Each session is closed by one of
them.
-/

namespace DatagramMux.Scenario.Race

/-- What the sessions and the threads that close them have seen. -/
structure Sweepings where
  /-- The sessions that were closed, latest first. -/
  closed : List Nat := []
  /-- How many sessions each thread was told to have closed, latest first. -/
  reports : List Nat := []

def sweeping :
    Surroundings Sweepings (Registry.SharedRequest Nat) (Registry.SharedMethod Nat)
      (fun _ => Unit) where
  hear sweepings request :=
    match request with
    | .sweep (.close session _ _ _) =>
        ({ sweepings with closed := session :: sweepings.closed }, [])
    | .sweep (.report closed _) => ({ sweepings with reports := closed :: sweepings.reports }, [])
    | _ => (sweepings, [])
  reply sweepings _ := (sweepings, ())

def populated (sessions : Nat) : Registry Nat :=
  (List.range sessions).foldl
    (fun registry session =>
      (registry.insert? ⟨Bytes.ofWord32 session.toUInt32⟩ session).getD registry)
    .empty

/-- How a registry is left when all threads are done, and what was seen meanwhile. -/
structure Swept where
  registry : Registry Nat
  sweepings : Sweepings

/-- Threads close all sessions of a registry. -/
def sweep (threads sessions : Nat) : Swept :=
  let thread : Thread (Registry.SharedTask Nat) (Registry.SharedRequest Nat)
      (Registry.SharedMethod Nat) := { methods := [.closeAll] }
  let crew := Crew.takeTurns (Registry.shared Nat) sweeping (32 * (threads + 1))
    ((threads + 1) * (8 * (sessions + 4))) 0
    ⟨populated sessions, {}, List.replicate threads thread⟩
  { registry := crew.state, sweepings := crew.world }

namespace Swept

/-- Whether each of a number of sessions was closed once. -/
def closedOnce (swept : Swept) (sessions : Nat) : Bool :=
  swept.sweepings.closed.mergeSort (· ≤ ·) = List.range sessions

end Swept

end DatagramMux.Scenario.Race
