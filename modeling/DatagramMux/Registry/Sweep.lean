import DatagramMux.Machine.Component
import DatagramMux.Registry.Table

/-!
# Closing all sessions

To close all sessions, the identifiers are listed once. Then each of them is removed in turn, and
the session that the removal yielded, if any, is closed. Removal decides who closes a session: it
succeeds only once, whatever other threads or the sessions themselves do to the table in the
meantime. Sessions that are registered after the listing stay.
-/

namespace DatagramMux.Registry

/-- A step in closing all sessions. The purpose tells what the caller does with the count. -/
inductive SweepTask (Purpose : Type) where
  | list (purpose : Purpose)
  /-- Remove the first of the identifiers that are left. -/
  | next (left : List ConnectionId) (closed : Nat) (purpose : Purpose)
  deriving DecidableEq, Repr

/-- What is asked of the surroundings while all sessions are closed. -/
inductive SweepRequest (Session Purpose : Type) where
  /-- Close a session that has been removed; afterwards the identifiers that are left follow. -/
  | close (session : Session) (left : List ConnectionId) (closed : Nat) (purpose : Purpose)
  /-- Tell the caller how many sessions were closed. -/
  | report (closed : Nat) (purpose : Purpose)
  deriving DecidableEq, Repr

abbrev SweepFrame (Session Purpose : Type) :=
  Frame (SweepTask Purpose) (SweepRequest Session Purpose)

variable {Session Purpose : Type}

/-- One step in closing all sessions. -/
def sweepStep (registry : Registry Session) :
    SweepTask Purpose → Registry Session × List (SweepFrame Session Purpose)
  | .list purpose => (registry, [.task (.next registry.identifiers 0 purpose)])
  | .next [] closed purpose => (registry, [.call (.report closed purpose)])
  | .next (identifier :: left) closed purpose =>
      match registry.remove identifier with
      | (registry, none) => (registry, [.task (.next left closed purpose)])
      | (registry, some session) => (registry, [.call (.close session left closed purpose)])

/-- How closing all sessions goes on when a request has been met. -/
def sweepResume : SweepRequest Session Purpose → List (SweepFrame Session Purpose)
  | .close _ left closed purpose => [.task (.next left (closed + 1) purpose)]
  | .report _ _ => []

end DatagramMux.Registry
