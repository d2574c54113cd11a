import DatagramMux.Endpoint.Udp
import DatagramMux.Proofs.Flusher.Journal
import DatagramMux.Proofs.Machine.Exchange
import DatagramMux.Proofs.Machine.Projection
import Mathlib.Data.List.Perm.Subperm

/-!
# The endpoint's custody of writes

A write that the endpoint was given is carried by a frame, or parked, until the operating system has
accepted it or it is given up, and then a frame is about to report its completion. Nothing is
reported twice, and what the system has accepted is what is reported as sent, in this order.
-/

namespace DatagramMux.Udp

open Component
open Flusher (successes)

variable {Token : Type}

/-- A move of a thread that uses the endpoint's output. -/
abbrev UdpMove (Token : Type) :=
  Move (Task Token) (Request Token) (Method Token) (fun _ => Unit)

/-- What the operating system gets to see of a write. -/
def Outgoing.wire (outgoing : Outgoing Token) : SocketAddress × Bytes :=
  (outgoing.receiver, outgoing.datagram)

/-! ## What a run has done -/

def given? : UdpMove Token → Option (Outgoing Token)
  | .enter (.write receiver buffers token) => some ⟨receiver, buffers.flatten, token⟩
  | _ => none

/-- The writes that the endpoint was given, oldest first. -/
def given (moves : List (UdpMove Token)) : List (Outgoing Token) := moves.filterMap given?

def reported? : UdpMove Token → Option (Token × Flusher.Completion)
  | .begin (.complete token completion) => some (token, completion)
  | _ => none

/-- The completions that the endpoint has reported, oldest first. -/
def reported (moves : List (UdpMove Token)) : List (Token × Flusher.Completion) :=
  moves.filterMap reported?

theorem given_concat (moves : List (UdpMove Token)) (move : UdpMove Token) :
    given (moves ++ [move]) = given moves ++ (given? move).toList := by
  rw [given, List.filterMap_append, filterMap_singleton, given]

theorem reported_concat (moves : List (UdpMove Token)) (move : UdpMove Token) :
    reported (moves ++ [move]) = reported moves ++ (reported? move).toList := by
  rw [reported, List.filterMap_append, filterMap_singleton, reported]

/-! ## What the frames hold -/

/-- The write that a frame is about to send or park. -/
def carried? : UdpFrame Token → Option (Outgoing Token)
  | .task (.lockForWrite outgoing) | .task (.write outgoing) => some outgoing
  | _ => none

/-- The completion that a frame is about to report. -/
def report? : UdpFrame Token → Option (Token × Flusher.Completion)
  | .task (.unlock report?) => report?
  | .call (.complete token completion) => some (token, completion)
  | _ => none

/-- The writes that are neither sent nor given up. -/
def waiting (udp : Udp Token) (frames : List (UdpFrame Token)) : List (Outgoing Token) :=
  frames.filterMap carried? ++ udp.parked.toList

def reports (frames : List (UdpFrame Token)) : List (Token × Flusher.Completion) :=
  frames.filterMap report?

section Below

variable {rest : List (UdpFrame Token)} (under : ∀ frame ∈ rest, frame.isInside = true)
include under

/-- Calls under way hold nothing, since what they report was reported when they began. -/
theorem holds_nothing : rest.filterMap carried? = [] ∧ reports rest = [] := by
  unfold reports
  rw [List.filterMap_eq_nil_iff, List.filterMap_eq_nil_iff]
  constructor <;> intro frame member <;> have inside := under frame member
  · cases frame with
    | task task => cases inside
    | call request => rfl
    | inside request => rfl
  · cases frame with
    | task task => cases inside
    | call request => cases inside
    | inside request => rfl

theorem waiting_append (udp : Udp Token) (frames : List (UdpFrame Token)) :
    waiting udp (frames ++ rest) = waiting udp frames := by
  rw [waiting, waiting, List.filterMap_append, (holds_nothing under).1, List.append_nil]

theorem reports_append (frames : List (UdpFrame Token)) :
    reports (frames ++ rest) = reports frames := by
  rw [reports, List.filterMap_append, ← reports, ← reports, (holds_nothing under).2,
    List.append_nil]

end Below

/-! ## What a step does -/

/-- How a step may deal with the writes that are waiting and the completions to be reported. -/
structure Handled (udp : Udp Token) (frames : List (UdpFrame Token)) (next : Udp Token)
    (nextFrames : List (UdpFrame Token)) : Prop where
  kept : waiting next nextFrames ⊆ waiting udp frames
  once : ((reports nextFrames).map Prod.fst ++ (waiting next nextFrames).map Outgoing.token).Subperm
    ((reports frames).map Prod.fst ++ (waiting udp frames).map Outgoing.token)
  sent : ∃ accepted ⊆ waiting udp frames,
    next.socket.sent = udp.socket.sent ++ accepted.map Outgoing.wire ∧
      successes (reports nextFrames) =
        successes (reports frames) ++ accepted.map Outgoing.token

theorem Handled.idle {udp next : Udp Token} {frames nextFrames : List (UdpFrame Token)}
    (waits : waiting next nextFrames = waiting udp frames)
    (reporting : reports nextFrames = reports frames)
    (sent : next.socket.sent = udp.socket.sent) : Handled udp frames next nextFrames := by
  refine ⟨waits ▸ List.Subset.refl _, by rw [waits, reporting], [], List.nil_subset _, ?_, ?_⟩
  · rw [sent, List.map_nil, List.append_nil]
  · rw [reporting, List.map_nil, List.append_nil]

theorem Handled.fail {udp next : Udp Token} {frames nextFrames : List (UdpFrame Token)}
    {outgoing : Outgoing Token} {cause : IoError}
    (waits : waiting udp frames = outgoing :: waiting next nextFrames)
    (reporting : reports frames = [])
    (reportingNext : reports nextFrames = [(outgoing.token, .error cause)])
    (sent : next.socket.sent = udp.socket.sent) : Handled udp frames next nextFrames := by
  refine ⟨?_, ?_, [], List.nil_subset _, ?_, ?_⟩
  · rw [waits]
    exact List.subset_cons_self _ _
  · rw [waits, reporting, reportingNext]
    exact List.Subperm.refl _
  · rw [sent, List.map_nil, List.append_nil]
  · rw [reporting, reportingNext]
    rfl

theorem sent_accept (socket : Socket) (receiver : SocketAddress) (datagram : Bytes) :
    (socket.accept receiver datagram).sent = socket.sent ++ [(receiver, datagram)] := by
  simp only [Socket.accept]
  split <;> rfl

/-- A datagram that was sent is the latest of those that the operating system has accepted. -/
theorem sent_of_ok {socket next : Socket} {receiver : SocketAddress} {datagram : Bytes}
    (sending : socket.send receiver datagram = (next, .ok ())) :
    next.sent = socket.sent ++ [(receiver, datagram)] := by
  unfold Socket.send at sending
  cases answer : socket.sendAnswers.head?.join with
  | some kind => simp [answer] at sending
  | none =>
      cases routed : socket.routed with
      | false => simp [answer, routed] at sending
      | true =>
          simp only [answer, routed, if_true, Prod.mk.injEq, and_true] at sending
          rw [← sending, sent_accept]

theorem sent_of_error {socket next : Socket} {receiver : SocketAddress} {datagram : Bytes}
    {kind : IoKind} (sending : socket.send receiver datagram = (next, .error kind)) :
    next.sent = socket.sent := by
  unfold Socket.send at sending
  cases answer : socket.sendAnswers.head?.join with
  | some kind =>
      simp only [answer, Prod.mk.injEq] at sending
      rw [← sending.1]
  | none =>
      cases routed : socket.routed with
      | true => simp [answer, routed] at sending
      | false =>
          simp only [answer, routed, Bool.false_eq_true, if_false, Prod.mk.injEq] at sending
          rw [← sending.1]

/-- What becomes of a write that is tried, wherever it was taken from. -/
theorem handled_sendOrPark {udp trying : Udp Token} {frames : List (UdpFrame Token)}
    {outgoing : Outgoing Token} (socket : trying.socket = udp.socket)
    (waits : waiting udp frames = outgoing :: trying.parked.toList)
    (reporting : reports frames = []) :
    Handled udp frames (trying.sendOrPark outgoing).1
      [.task (.unlock (trying.sendOrPark outgoing).2)] := by
  fun_cases sendOrPark trying outgoing with
  | case1 next sending =>
      refine ⟨?_, ?_, [outgoing], ?_, ?_, ?_⟩
      · rw [waits]
        exact List.subset_cons_self _ _
      · rw [waits, reporting]
        exact List.Subperm.refl _
      · rw [waits]
        exact List.cons_subset.2 ⟨List.mem_cons_self, List.nil_subset _⟩
      · rw [← socket]
        exact sent_of_ok sending
      · rw [reporting]
        rfl
  | case2 next sending =>
      refine ⟨?_, ?_, [], List.nil_subset _, ?_, ?_⟩
      · rw [waits]
        exact List.cons_subset.2 ⟨List.mem_cons_self, List.nil_subset _⟩
      · rw [waits, reporting]
        exact (List.singleton_sublist.2 List.mem_cons_self).subperm
      · rw [← socket, List.map_nil, List.append_nil]
        exact sent_of_error sending
      · rw [reporting]
        rfl
  | case3 next kind fatal sending =>
      exact .fail waits reporting rfl (socket ▸ sent_of_error sending)

theorem handled_step (udp : Udp Token) (task : Task Token) :
    Handled udp [.task task] (step udp task).1 (step udp task).2 := by
  cases task with
  | lockForWrite | lockForRetry | closeInput | closeOutput | lockForClose | shutdownOutput =>
      exact .idle rfl rfl rfl
  | write outgoing =>
      simp only [step]
      split
      · exact handled_sendOrPark rfl rfl rfl
      · exact .fail rfl rfl rfl rfl
  | retry =>
      simp only [step]
      split
      · exact .idle rfl rfl rfl
      · rename_i outgoing parked
        have waits : waiting udp [.task .retry] = [outgoing] := by
          rw [waiting, parked]
          rfl
        split
        · exact handled_sendOrPark rfl waits rfl
        · exact .fail waits rfl rfl rfl
  | unlock report? =>
      cases report? with
      | none => exact .idle rfl rfl rfl
      | some report => exact .idle rfl rfl rfl
  | giveUp =>
      cases parked : udp.parked with
      | none =>
          simp only [step, parked]
          refine .idle ?_ rfl rfl
          rw [waiting, waiting, parked]
          rfl
      | some outgoing =>
          have waits : waiting udp [.task .giveUp] = [outgoing] := by
            rw [waiting, parked]
            rfl
          simp only [step, parked]
          exact .fail waits rfl rfl rfl

/-- Two endpoints that differ at most in their input. -/
structure SameOutput (udp next : Udp Token) : Prop where
  parked : next.parked = udp.parked
  outputOpen : next.outputOpen = udp.outputOpen
  sent : next.socket.sent = udp.socket.sent

theorem SameOutput.refl (udp : Udp Token) : SameOutput udp udp := ⟨rfl, rfl, rfl⟩

theorem SameOutput.waiting_eq {udp next : Udp Token} (same : SameOutput udp next)
    (frames : List (UdpFrame Token)) : waiting next frames = waiting udp frames := by
  rw [waiting, waiting, same.parked]

/-! ## What a run keeps -/

/--
No write is reported twice, or reported while it waits; and the operating system has accepted the
writes that are reported as sent, in the order of the reports.
-/
structure Custody (initial : List (SocketAddress × Bytes)) (moves : List (UdpMove Token))
    (udp : Udp Token) (stack : List (UdpFrame Token)) : Prop where
  below : ∀ frame ∈ stack.tail, frame.isInside = true
  known : waiting udp stack ⊆ given moves
  once : ((reported moves ++ reports stack).map Prod.fst ++
    (waiting udp stack).map Outgoing.token).Subperm ((given moves).map Outgoing.token)
  sent : ∃ accepted ⊆ given moves, udp.socket.sent = initial ++ accepted.map Outgoing.wire ∧
    accepted.map Outgoing.token = successes (reported moves ++ reports stack)

theorem length_step_le (udp : Udp Token) (task : Task Token) : (step udp task).2.length ≤ 1 := by
  fun_cases step udp task with
  | case8 report? => cases report? <;> simp
  | _ => simp

namespace Custody

variable {initial : List (SocketAddress × Bytes)} {moves : List (UdpMove Token)}
variable {udp next : Udp Token} {stack nextStack : List (UdpFrame Token)} {move : UdpMove Token}

/-- What is kept by a move that neither gives a write to the endpoint nor reports one. -/
theorem silent {frames nextFrames rest : List (UdpFrame Token)}
    (handled : Handled udp frames next nextFrames) (single : nextFrames.length ≤ 1)
    (under : ∀ frame ∈ rest, frame.isInside = true) (takes : given? move = none)
    (tells : reported? move = none) (custody : Custody initial moves udp (frames ++ rest)) :
    Custody initial (moves ++ [move]) next (nextFrames ++ rest) := by
  obtain ⟨-, known, once, accepted, ofGiven, sent, tokens⟩ := custody
  rw [waiting_append under] at known once
  rw [reports_append under] at once tokens
  obtain ⟨kept, onceMore, further, ofWaiting, sentMore, successesMore⟩ := handled
  have givenSame : given (moves ++ [move]) = given moves := by
    rw [given_concat, takes, Option.toList_none, List.append_nil]
  have reportedSame : reported (moves ++ [move]) = reported moves := by
    rw [reported_concat, tells, Option.toList_none, List.append_nil]
  refine ⟨?_, ?_, ?_, accepted ++ further, ?_, ?_, ?_⟩
  · intro frame member
    rcases nextFrames with - | ⟨first, - | ⟨second, nextFrames⟩⟩
    · exact under frame (List.mem_of_mem_tail member)
    · exact under frame member
    · simp at single
  · rw [givenSame, waiting_append under]
    exact List.Subset.trans kept known
  · rw [List.map_append, List.append_assoc] at once
    rw [givenSame, reportedSame, waiting_append under, reports_append under, List.map_append,
      List.append_assoc]
    exact ((List.subperm_append_left _).2 onceMore).trans once
  · rw [givenSame]
    exact List.append_subset.2 ⟨ofGiven, List.Subset.trans ofWaiting known⟩
  · rw [sentMore, sent, List.map_append, List.append_assoc]
  · rw [reportedSame, reports_append under, List.map_append, tokens, Flusher.successes_append,
      Flusher.successes_append, successesMore, List.append_assoc]

theorem tell {token : Token} {completion : Flusher.Completion} {rest : List (UdpFrame Token)}
    (custody : Custody initial moves udp (.call (.complete token completion) :: rest)) :
    Custody initial (moves ++ [.begin (.complete token completion)]) udp
      (.inside (.complete token completion) :: rest) := by
  obtain ⟨below, known, once, accepted, ofGiven, sent, tokens⟩ := custody
  have givenSame : given (moves ++ [.begin (.complete token completion)]) = given moves := by
    rw [given_concat]
    exact List.append_nil _
  have passed : reported (moves ++ [.begin (.complete token completion)]) ++
      reports (.inside (.complete token completion) :: rest) =
        reported moves ++ reports (.call (.complete token completion) :: rest) := by
    rw [reported_concat, List.append_assoc]
    rfl
  refine ⟨below, givenSame ▸ known, ?_, accepted, givenSame ▸ ofGiven, sent, ?_⟩
  · rw [givenSame, passed]
    exact once
  · rw [passed]
    exact tokens

theorem give {receiver : SocketAddress} {buffers : List Bytes} {token : Token}
    (under : ∀ frame ∈ stack, frame.isInside = true) (custody : Custody initial moves udp stack) :
    Custody initial (moves ++ [.enter (.write receiver buffers token)]) udp
      (.task (.lockForWrite ⟨receiver, buffers.flatten, token⟩) :: stack) := by
  obtain ⟨-, known, once, accepted, ofGiven, sent, tokens⟩ := custody
  have givenMore : given (moves ++ [.enter (.write receiver buffers token)]) =
      given moves ++ [⟨receiver, buffers.flatten, token⟩] := given_concat moves _
  have reportedSame : reported (moves ++ [.enter (.write receiver buffers token)]) =
      reported moves := by
    rw [reported_concat]
    exact List.append_nil _
  have waits : waiting udp (.task (.lockForWrite ⟨receiver, buffers.flatten, token⟩) :: stack) =
      ⟨receiver, buffers.flatten, token⟩ :: waiting udp stack := rfl
  have reporting : reports (.task (.lockForWrite ⟨receiver, buffers.flatten, token⟩) :: stack) =
      reports stack := rfl
  refine ⟨under, ?_, ?_, accepted, ?_, sent, ?_⟩
  · rw [givenMore, waits]
    refine List.cons_subset.2 ⟨?_, List.subset_append_of_subset_left _ known⟩
    exact List.mem_append_right _ (List.mem_singleton_self _)
  · rw [givenMore, reportedSame, waits, reporting, List.map_cons,
      @List.map_append _ _ Outgoing.token, List.map_singleton]
    -- The new token comes last, as it does among those of the writes that were given.
    have moved := List.perm_middle.trans (List.perm_append_singleton token
      ((reported moves ++ reports stack).map Prod.fst ++ (waiting udp stack).map Outgoing.token)).symm
    exact moved.subperm.trans ((List.subperm_append_right _).2 once)
  · rw [givenMore]
    exact List.subset_append_of_subset_left _ ofGiven
  · rw [reportedSame, reporting]
    exact tokens

theorem step (step : Step (component Token) udp stack move next nextStack)
    (custody : Custody initial moves udp stack) :
    Custody initial (moves ++ [move]) next nextStack := by
  obtain ⟨taken, put, rest, rfl, rfl, exchange, under⟩ :=
    step.exchange_of_tail (fun _ inside => inside) custody.below
  cases exchange with
  | work task free =>
      exact silent (handled_step udp task) (length_step_le udp task) under rfl rfl custody
  | «begin» request => exact custody.tell
  | finish request reply =>
      refine silent ?_ (Nat.zero_le 1) under rfl rfl custody
      exact .idle rfl rfl rfl
  | enter method =>
      cases method with
      | write receiver buffers token => exact custody.give under
      | writable | shutdownOutput | close =>
          refine silent ?_ (Nat.le_refl 1) under rfl rfl custody
          exact .idle rfl rfl rfl

theorem same (same : SameOutput udp next) (custody : Custody initial moves udp stack) :
    Custody initial moves next stack := by
  have waits := same.waiting_eq stack
  obtain ⟨below, known, once, accepted⟩ := custody
  exact ⟨below, waits ▸ known, waits ▸ once, same.sent ▸ accepted⟩

theorem run {further : List (UdpMove Token)}
    (run : Run (component Token) udp stack further next nextStack)
    (custody : Custody initial moves udp stack) :
    Custody initial (moves ++ further) next nextStack := by
  refine run.invariant_of_step (fun further => Custody initial (moves ++ further)) ?_ ?_
  · intro further udp stack move next nextStack taken custody
    rw [← List.append_assoc]
    exact custody.step taken
  · rw [List.append_nil]
    exact custody

theorem start (parked : udp.parked = none) : Custody udp.socket.sent [] udp [] := by
  have bare : waiting udp [] = [] := by
    rw [waiting, parked]
    rfl
  refine ⟨fun _ member => (nomatch member), ?_, ?_, [], List.nil_subset _, ?_, rfl⟩
  · exact bare ▸ List.nil_subset _
  · exact bare ▸ List.Subperm.refl _
  · rw [List.map_nil, List.append_nil]

/-- What is about to be reported was given and not reported before, if all tokens are different. -/
theorem fresh {token : Token} {completion : Flusher.Completion}
    (custody : Custody initial moves udp stack)
    (distinct : ((given moves).map Outgoing.token).Nodup)
    (reporting : (token, completion) ∈ reports stack) :
    token ∈ (given moves).map Outgoing.token ∧ token ∉ (reported moves).map Prod.fst := by
  have about : token ∈ (reports stack).map Prod.fst := List.mem_map_of_mem reporting
  have once := custody.once
  rw [List.map_append] at once
  refine ⟨once.subset ?_, fun before => ?_⟩
  · exact List.mem_append_left _ (List.mem_append_right _ about)
  · obtain ⟨tokens, same, sublist⟩ := once
    have nodup := same.nodup_iff.1 (sublist.nodup distinct)
    exact List.disjoint_of_nodup_append nodup.of_append_left before about

end Custody

end DatagramMux.Udp
