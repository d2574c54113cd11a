import DatagramMux.Proofs.Endpoint.Locking
import DatagramMux.Proofs.Endpoint.Surroundings
import DatagramMux.Proofs.Machine.Script

/-!
# No completion is lost

A writer that is patient issues a write only after the completion of the one before was called. Then
at most one write is in the endpoint's hands at any time, however many threads use it: some frame
carries it, or it is parked, or its completion is due. The ledger lists the writes with what has
become of them, in the order in which they were given to the endpoint.
-/

namespace DatagramMux.Udp

open Component
open Flusher (successes)

variable {Token : Type} {udp next : Udp Token} {move : UdpMove Token} {moves : List (UdpMove Token)}
variable {taken put : List (UdpFrame Token)} {rest : Multiset (UdpFrame Token)}

/-- Every write is issued only after the completion of the one before was called. -/
def Patient (moves : List (UdpMove Token)) : Prop :=
  ∀ position < moves.length, (moves[position]?.bind given?).isSome = true →
    ∀ previous ∈ (given (moves.take position)).getLast?,
      previous.token ∈ (reported (moves.take position)).map Prod.fst

theorem Patient.of_append {further : List (UdpMove Token)} (patient : Patient (moves ++ further)) :
    Patient moves := by
  intro position within giving
  have before := patient position (by rw [List.length_append]; omega)
  rw [List.getElem?_append_left within, List.take_append_of_le_length (by omega)] at before
  exact before giving

theorem Patient.previous (patient : Patient (moves ++ [move])) (giving : (given? move).isSome = true) :
    ∀ previous ∈ (given moves).getLast?, previous.token ∈ (reported moves).map Prod.fst := by
  have last := patient moves.length (by simp)
  rw [List.getElem?_concat_length, List.take_left' rfl] at last
  exact last giving

/-- Every write came with a token of its own, and the completion of the latest one was called. -/
structure Ready (moves : List (UdpMove Token)) : Prop where
  distinct : ((given moves).map Outgoing.token).Nodup
  previous : ∀ previous ∈ (given moves).getLast?, previous.token ∈ (reported moves).map Prod.fst

/-! ## What is in the endpoint's hands -/

/-- The writes that are neither sent nor given up, over all threads. -/
def outstanding (udp : Udp Token) (frames : Multiset (UdpFrame Token)) : Multiset (Outgoing Token) :=
  total (fun frame => ↑(carried? frame).toList) frames + ↑udp.parked.toList

/-- The completions that are about to be reported, over all threads. -/
def due (frames : Multiset (UdpFrame Token)) : Multiset (Token × Flusher.Completion) :=
  total (fun frame => ↑(report? frame).toList) frames

theorem total_toList {Value : Type} (part? : UdpFrame Token → Option Value)
    (frames : List (UdpFrame Token)) :
    total (fun frame => (↑(part? frame).toList : Multiset Value)) ↑frames =
      ↑(frames.filterMap part?) := by
  induction frames with
  | nil => rfl
  | cons frame frames ih =>
      rw [← Multiset.cons_coe, total_cons, ih, List.filterMap_cons]
      cases part? frame with
      | none => exact zero_add _
      | some value => rfl

theorem outstanding_add (udp : Udp Token) (frames : List (UdpFrame Token))
    (rest : Multiset (UdpFrame Token)) :
    outstanding udp (↑frames + rest) =
      ↑(waiting udp frames) + total (fun frame => ↑(carried? frame).toList) rest := by
  rw [outstanding, total_add, total_toList, waiting, ← Multiset.coe_add, add_right_comm]

theorem due_add (frames : List (UdpFrame Token)) (rest : Multiset (UdpFrame Token)) :
    due ((frames : Multiset (UdpFrame Token)) + rest) = ↑(reports frames) + due rest := by
  rw [due, total_add, total_toList, reports, due]

/-! ## What a step does with it -/

/-- A step leaves what is in the endpoint's hands alone, or settles the only write that is. -/
inductive Dealt (udp : Udp Token) (frames : List (UdpFrame Token)) (next : Udp Token)
    (nextFrames : List (UdpFrame Token)) : Prop where
  | idle : waiting next nextFrames = waiting udp frames → reports nextFrames = reports frames →
      next.socket.sent = udp.socket.sent → Dealt udp frames next nextFrames
  | settle (outgoing : Outgoing Token) (completion : Flusher.Completion) :
      waiting udp frames = [outgoing] → waiting next nextFrames = [] → reports frames = [] →
        reports nextFrames = [(outgoing.token, completion)] →
          next.socket.sent =
              udp.socket.sent ++ (if completion.isOk then [outgoing.wire] else []) →
            Dealt udp frames next nextFrames

theorem dealt_sendOrPark {trying : Udp Token} {frames : List (UdpFrame Token)}
    {outgoing : Outgoing Token} (socket : trying.socket = udp.socket) (free : trying.parked = none)
    (waits : waiting udp frames = [outgoing]) (silent : reports frames = []) :
    Dealt udp frames (trying.sendOrPark outgoing).1
      [.task (.unlock (trying.sendOrPark outgoing).2)] := by
  fun_cases sendOrPark trying outgoing with
  | case1 next sending =>
      refine .settle outgoing (.ok ()) waits ?_ silent rfl (socket ▸ sent_of_ok sending)
      rw [waiting, free]
      rfl
  | case2 next sending => exact .idle waits.symm silent.symm (socket ▸ sent_of_error sending)
  | case3 next kind fatal sending =>
      refine .settle outgoing (.error (.system kind)) waits ?_ silent rfl ?_
      · rw [waiting, free]
        rfl
      · rw [sent_of_error sending, socket]
        exact (List.append_nil _).symm

theorem step_dealt {task : Task Token} (single : (waiting udp [.task task]).length ≤ 1) :
    Dealt udp [.task task] (step udp task).1 (step udp task).2 := by
  cases task with
  | lockForWrite | lockForRetry | closeInput | closeOutput | lockForClose | shutdownOutput =>
      exact .idle rfl rfl rfl
  | write outgoing =>
      have free : udp.parked = none := by
        cases parked : udp.parked with
        | none => rfl
        | some other => simp [waiting, parked, carried?] at single
      have waits : waiting udp [.task (.write outgoing)] = [outgoing] := by
        rw [waiting, free]
        rfl
      simp only [step]
      split
      · exact dealt_sendOrPark rfl free waits rfl
      · refine .settle outgoing (.error shutDownError) waits ?_ rfl rfl (List.append_nil _).symm
        rw [waiting, free]
        rfl
  | retry =>
      simp only [step]
      split
      · exact .idle rfl rfl rfl
      · rename_i outgoing parked
        have waits : waiting udp [.task .retry] = [outgoing] := by
          rw [waiting, parked]
          rfl
        split
        · exact dealt_sendOrPark rfl rfl waits rfl
        · exact .settle outgoing (.error closedError) waits rfl rfl rfl (List.append_nil _).symm
  | unlock report? => cases report? <;> exact .idle rfl rfl rfl
  | giveUp =>
      cases parked : udp.parked with
      | none =>
          simp only [step, parked]
          refine .idle ?_ rfl rfl
          rw [waiting, waiting, parked]
          rfl
      | some outgoing =>
          have waits : waiting udp [.task .giveUp] = [outgoing] := by
            rw [waiting, parked]
            rfl
          simp only [step, parked]
          exact .settle outgoing (.error closedError) waits rfl rfl rfl (List.append_nil _).symm

/-! ## The ledger -/

/-- The writes with what has become of them, the one that waits, and the completion that is due. -/
structure Ledger (initial : List Parcel) (moves : List (UdpMove Token)) (udp : Udp Token)
    (frames : Multiset (UdpFrame Token)) (fates : List (Outgoing Token × Flusher.Completion))
    (waits : List (Outgoing Token)) (reporting : List (Token × Flusher.Completion)) : Prop where
  inHand : ↑waits = outstanding udp frames
  dues : ↑reporting = due frames
  single : waits.length + reporting.length ≤ 1
  given : given moves = fates.map Prod.fst ++ waits
  reported : reported moves ++ reporting = fates.map fun fate => (fate.1.token, fate.2)
  sent : udp.socket.sent =
    initial ++ (fates.filter fun fate => fate.2.isOk).map fun fate => fate.1.wire

/-- There is a ledger of what the endpoint has done. -/
def Kept (initial : List Parcel) (moves : List (UdpMove Token)) (udp : Udp Token)
    (frames : Multiset (UdpFrame Token)) : Prop :=
  ∃ fates waits reporting, Ledger initial moves udp frames fates waits reporting

namespace Ledger

variable {initial : List Parcel} {frames : Multiset (UdpFrame Token)}
variable {fates : List (Outgoing Token × Flusher.Completion)} {waits : List (Outgoing Token)}
variable {reporting : List (Token × Flusher.Completion)}

/-- The completions were called in the order of the writes, and what is left is in hand. -/
theorem tokens (ledger : Ledger initial moves udp frames fates waits reporting) :
    (Udp.given moves).map Outgoing.token = (Udp.reported moves).map Prod.fst ++
      (reporting.map Prod.fst ++ waits.map Outgoing.token) := by
  have told := congrArg (List.map Prod.fst) ledger.reported
  rw [List.map_append, List.map_map] at told
  rw [ledger.given, List.map_append, List.map_map, ← List.append_assoc, told]
  rfl

/-- When the completion of the latest write was called, nothing is left in hand. -/
theorem idle (ledger : Ledger initial moves udp frames fates waits reporting) (ready : Ready moves) :
    waits = [] ∧ reporting = [] := by
  obtain ⟨distinct, previous⟩ := ready
  have tokens := ledger.tokens
  have single : (reporting.map Prod.fst ++ waits.map Outgoing.token).length ≤ 1 := by
    have few := ledger.single
    rw [List.length_append, List.length_map, List.length_map]
    omega
  rcases left : reporting.map Prod.fst ++ waits.map Outgoing.token with - | ⟨token, - | ⟨other, more⟩⟩
  · obtain ⟨reports, waited⟩ := List.append_eq_nil_iff.1 left
    exact ⟨List.map_eq_nil_iff.1 waited, List.map_eq_nil_iff.1 reports⟩
  · rw [left] at tokens
    have last : ((Udp.given moves).map Outgoing.token).getLast? = some token := by
      rw [tokens, List.getLast?_concat]
    rw [List.getLast?_map, Option.map_eq_some_iff] at last
    obtain ⟨latest, found, rfl⟩ := last
    rw [tokens] at distinct
    exact absurd (List.mem_singleton_self _)
      (List.disjoint_of_nodup_append distinct (previous latest found))
  · rw [left] at single
    simp at single

end Ledger

namespace Kept

variable {initial : List Parcel}

/-- A move that neither gives a write to the endpoint nor reports a completion. -/
theorem silent (dealt : Dealt udp taken next put) (takes : given? move = none)
    (tells : reported? move = none) (kept : Kept initial moves udp (↑taken + rest)) :
    Kept initial (moves ++ [move]) next (↑put + rest) := by
  obtain ⟨fates, waits, reporting, ⟨waiting, dues, single, gave, told, sent⟩⟩ := kept
  have givenSame : Udp.given (moves ++ [move]) = Udp.given moves := by
    rw [given_concat, takes, Option.toList_none, List.append_nil]
  have reportedSame : Udp.reported (moves ++ [move]) = Udp.reported moves := by
    rw [reported_concat, tells, Option.toList_none, List.append_nil]
  rw [outstanding_add] at waiting
  rw [due_add] at dues
  cases dealt with
  | idle sameWaits sameReports sameSent =>
      refine ⟨fates, waits, reporting, ⟨?_, ?_, single, ?_, ?_, ?_⟩⟩
      · rw [outstanding_add, sameWaits, waiting]
      · rw [due_add, sameReports, dues]
      · rw [givenSame, gave]
      · rw [reportedSame, told]
      · rw [sameSent, sent]
  | settle outgoing completion waited free quiet reports sending =>
      -- The write was the only one, so nothing is left and its completion is the only one due.
      rw [waited] at waiting
      have count := congrArg Multiset.card waiting
      rw [Multiset.card_add, Multiset.coe_card, Multiset.coe_card, List.length_singleton] at count
      have none : total (fun frame => (↑(carried? frame).toList : Multiset (Outgoing Token))) rest =
          0 := Multiset.card_eq_zero.1 (by omega)
      obtain rfl : reporting = [] := List.eq_nil_of_length_eq_zero (by omega)
      obtain rfl : waits = [outgoing] := Multiset.coe_eq_singleton.1 (by simpa [none] using waiting)
      have undue : due rest = 0 := by simpa [quiet] using dues.symm
      refine ⟨fates ++ [(outgoing, completion)], [], [(outgoing.token, completion)],
        ⟨?_, ?_, Nat.le_refl 1, ?_, ?_, ?_⟩⟩
      · rw [outstanding_add, free, none]
        rfl
      · rw [due_add, reports, undue]
        rfl
      · rw [givenSame, gave, List.map_append, List.append_nil]
        rfl
      · rw [List.append_nil] at told
        rw [reportedSame, told, List.map_append]
        rfl
      · rw [sending, sent, List.filter_append, List.map_append, List.append_assoc]
        cases completion <;> rfl

theorem tell {request : Request Token}
    (kept : Kept initial moves udp (↑[(.call request : UdpFrame Token)] + rest)) :
    Kept initial (moves ++ [.begin request]) udp (↑[(.inside request : UdpFrame Token)] + rest) := by
  obtain ⟨token, completion⟩ := request
  obtain ⟨fates, waits, reporting, ⟨waiting, dues, single, gave, told, sent⟩⟩ := kept
  rw [due_add] at dues
  have count := congrArg Multiset.card dues
  rw [Multiset.card_add, Multiset.coe_card, Multiset.coe_card] at count
  change reporting.length = 1 + _ at count
  have undue : due rest = 0 := Multiset.card_eq_zero.1 (by omega)
  obtain rfl : reporting = [(token, completion)] := by
    apply Multiset.coe_eq_singleton.1
    rw [dues, undue]
    rfl
  refine ⟨fates, waits, [], ⟨?_, ?_, ?_, ?_, ?_, sent⟩⟩
  · rw [outstanding_add] at waiting ⊢
    exact waiting
  · rw [due_add, undue]
    rfl
  · rw [List.length_singleton] at single
    rw [List.length_nil]
    omega
  · rw [given_concat]
    exact (List.append_nil _).trans gave
  · rw [reported_concat, List.append_nil]
    exact told

/-- A patient writer finds nothing in the endpoint's hands. -/
theorem give {outgoing : Outgoing Token} (giving : given? move = some outgoing)
    (tells : reported? move = none) (ready : Ready moves) (kept : Kept initial moves udp rest) :
    Kept initial (moves ++ [move]) udp
      (↑[(.task (.lockForWrite outgoing) : UdpFrame Token)] + rest) := by
  obtain ⟨fates, waits, reporting, ledger⟩ := kept
  obtain ⟨rfl, rfl⟩ := ledger.idle ready
  obtain ⟨inHand, dues, -, gave, told, sent⟩ := ledger
  refine ⟨fates, [outgoing], [], ⟨?_, ?_, Nat.le_refl 1, ?_, ?_, sent⟩⟩
  · rw [outstanding, total_add, add_assoc, ← outstanding, ← inHand]
    rfl
  · rw [due_add, ← dues]
    rfl
  · rw [given_concat, giving, gave, List.append_nil]
    rfl
  · rw [reported_concat, tells, Option.toList_none, List.append_nil]
    exact told

theorem exchange (exchange : Exchange (component Token) udp move taken next put)
    (ready : (given? move).isSome = true → Ready moves)
    (kept : Kept initial moves udp (↑taken + rest)) :
    Kept initial (moves ++ [move]) next (↑put + rest) := by
  cases exchange with
  | work task =>
      obtain ⟨fates, waits, reporting, ledger⟩ := kept
      have few : (waiting udp [.task task]).length ≤ 1 := by
        have count := congrArg Multiset.card ledger.inHand
        have single := ledger.single
        rw [outstanding_add, Multiset.card_add, Multiset.coe_card, Multiset.coe_card] at count
        omega
      exact silent (step_dealt few) rfl rfl ⟨fates, waits, reporting, ledger⟩
  | begin request => exact kept.tell
  | finish request reply =>
      refine kept.silent ?_ rfl rfl
      exact .idle rfl rfl rfl
  | enter method =>
      cases method with
      | write receiver buffers token =>
          have before : Kept initial moves udp rest := by simpa using kept
          exact before.give rfl rfl (ready rfl)
      | writable | shutdownOutput | close =>
          refine kept.silent ?_ rfl rfl
          exact .idle rfl rfl rfl

theorem same {frames : Multiset (UdpFrame Token)} (same : SameOutput udp next)
    (kept : Kept initial moves udp frames) : Kept initial moves next frames := by
  obtain ⟨fates, waits, reporting, ⟨inHand, dues, single, gave, told, sent⟩⟩ := kept
  refine ⟨fates, waits, reporting, ⟨?_, dues, single, gave, told, same.sent.trans sent⟩⟩
  rw [inHand, outstanding, outstanding, same.parked]

theorem run {further : List (UdpMove Token)} {frames nextFrames : List (UdpFrame Token)}
    (run : Run (component Token) udp frames further next nextFrames)
    (ready : ∀ earlier move, earlier ++ [move] <+: further → (given? move).isSome = true →
      Ready (moves ++ earlier))
    (kept : Kept initial moves udp ↑frames) : Kept initial (moves ++ further) next ↑nextFrames := by
  refine run.invariant_of_exchange (fun further udp frames =>
    (∀ earlier move, earlier ++ [move] <+: further → (given? move).isSome = true →
      Ready (moves ++ earlier)) → Kept initial (moves ++ further) udp frames) ?_ ?_ ready
  · intro further udp move taken next put rest exchange before ready
    rw [← List.append_assoc]
    refine Kept.exchange exchange (ready further move List.prefix_rfl) (before ?_)
    intro earlier other first
    exact ready earlier other (first.trans (List.prefix_append _ _))
  · intro _
    rw [List.append_nil]
    exact kept

theorem start (udp : Udp Token) (free : udp.parked = none) : Kept udp.socket.sent [] udp 0 := by
  refine ⟨[], [], [], ⟨?_, rfl, Nat.zero_le 1, rfl, rfl, ?_⟩⟩
  · rw [outstanding, free]
    rfl
  · exact (List.append_nil _).symm

end Kept

/-! ## Patient writers -/

namespace Ledger

variable {initial : List Parcel} {frames : Multiset (UdpFrame Token)}
variable {fates : List (Outgoing Token × Flusher.Completion)} {waits : List (Outgoing Token)}
variable {reporting : List (Token × Flusher.Completion)} [DecidableEq Token]

theorem unreported_eq (ledger : Ledger initial moves udp 0 fates waits reporting)
    (distinct : ((Udp.given moves).map Outgoing.token).Nodup) :
    (Udp.given moves).filter (fun outgoing => outgoing.token ∉ (Udp.reported moves).map Prod.fst) =
      udp.parked.toList := by
  have tokens := ledger.tokens
  have inHand := ledger.inHand
  have dues := ledger.dues
  obtain rfl : reporting = [] := (Multiset.coe_eq_zero _).1 dues
  obtain rfl : waits = udp.parked.toList := by
    rcases parked : udp.parked with - | outgoing
    · rw [outstanding, parked] at inHand
      exact (Multiset.coe_eq_zero _).1 inHand
    · rw [outstanding, parked] at inHand
      exact Multiset.coe_eq_singleton.1 inHand
  have told := congrArg (List.map Prod.fst) ledger.reported
  rw [List.append_nil, List.map_map] at told
  rw [tokens, List.map_nil, List.nil_append] at distinct
  rw [ledger.given, List.filter_append]
  have settled : (fates.map Prod.fst).filter
      (fun outgoing => outgoing.token ∉ (Udp.reported moves).map Prod.fst) = [] := by
    rw [List.filter_eq_nil_iff]
    intro outgoing member
    obtain ⟨fate, listed, rfl⟩ := List.mem_map.1 member
    have reported : fate.1.token ∈ (Udp.reported moves).map Prod.fst := by
      rw [told]
      exact List.mem_map_of_mem listed
    simpa using reported
  have left : udp.parked.toList.filter
      (fun outgoing => outgoing.token ∉ (Udp.reported moves).map Prod.fst) =
        udp.parked.toList := by
    rw [List.filter_eq_self]
    intro outgoing member
    have apart := List.disjoint_of_nodup_append distinct
    simpa using fun completion reported =>
      apart (List.mem_map.2 ⟨(outgoing.token, completion), reported, rfl⟩)
        (List.mem_map_of_mem member)
  rw [settled, left, List.nil_append]

theorem mem_successes_iff (distinct : ((fates.map Prod.fst).map Outgoing.token).Nodup)
    {fate : Outgoing Token × Flusher.Completion} (listed : fate ∈ fates) :
    decide (fate.1.token ∈ successes (fates.map fun fate => (fate.1.token, fate.2))) =
      fate.2.isOk := by
  rw [List.map_map] at distinct
  rw [Bool.eq_iff_iff, decide_eq_true_eq]
  constructor
  · intro success
    obtain ⟨report, told, same⟩ := List.mem_map.1 success
    obtain ⟨member, ok⟩ := List.mem_filter.1 told
    obtain ⟨other, otherListed, rfl⟩ := List.mem_map.1 member
    obtain rfl := List.inj_on_of_nodup_map distinct otherListed listed same
    exact ok
  · intro ok
    have told := List.mem_map_of_mem (f := fun fate => (fate.1.token, fate.2)) listed
    exact List.mem_map.2 ⟨_, List.mem_filter.2 ⟨told, ok⟩, rfl⟩

/-- The operating system has accepted the writes that are reported as sent, in their order. -/
theorem sent_eq (ledger : Ledger initial moves udp frames fates waits reporting)
    (distinct : ((Udp.given moves).map Outgoing.token).Nodup) :
    udp.socket.sent = initial ++ ((Udp.given moves).filter fun outgoing =>
      outgoing.token ∈ successes (Udp.reported moves ++ reporting)).map Outgoing.wire := by
  rw [ledger.given, List.map_append] at distinct
  have accepted : (fates.map Prod.fst).filter
      (fun outgoing => outgoing.token ∈ successes (Udp.reported moves ++ reporting)) =
        (fates.filter fun fate => fate.2.isOk).map Prod.fst := by
    rw [List.filter_map, ledger.reported]
    congr 1
    apply List.filter_congr
    intro fate listed
    exact mem_successes_iff distinct.of_append_left listed
  have unsettled : waits.filter
      (fun outgoing => outgoing.token ∈ successes (Udp.reported moves ++ reporting)) = [] := by
    rw [List.filter_eq_nil_iff, ledger.reported]
    intro outgoing waiting
    have apart := List.disjoint_of_nodup_append distinct
    simp only [decide_eq_true_eq]
    intro success
    obtain ⟨report, told, same⟩ := List.mem_map.1 success
    obtain ⟨fate, listed, rfl⟩ := List.mem_map.1 (List.mem_of_mem_filter told)
    refine apart ?_ (List.mem_map_of_mem waiting)
    rw [← same]
    exact List.mem_map_of_mem (List.mem_map_of_mem listed)
  rw [ledger.given, List.filter_append, accepted, unsettled, List.append_nil, List.map_map]
  exact ledger.sent

end Ledger

/-- What becomes of the completions of a patient writer. -/
structure Faithful [DecidableEq Token] (initial : List Parcel) (moves : List (UdpMove Token))
    (threads : Threads (Udp Token) (Task Token) (Request Token)) : Prop where
  once : ((reported moves).map Prod.fst).Nodup
  inOrder : (reported moves).map Prod.fst <+: (given moves).map Outgoing.token
  /-- The lock is taken just if some thread is in a section that it protects. -/
  guarded : threads.state.locked = true ↔
    ∃ stack ∈ threads.frames, ∃ frame ∈ stack, holds frame = true
  /-- A thread that calls a completion has released the lock. -/
  unlocked : ∀ thread request next,
    ThreadStep (component Token) threads thread (.begin request) next →
      ∀ stack, threads.frames[thread]? = some stack → ∀ frame ∈ stack, holds frame = false
  /-- Nobody waits for a completion but the one whose write is parked. -/
  parked : threads.Quiet →
    (given moves).filter (fun outgoing => outgoing.token ∉ (reported moves).map Prod.fst) =
      threads.state.parked.toList
  /-- The operating system has accepted the writes that are, or are about to be, reported as sent. -/
  sent : threads.state.socket.sent = initial ++ ((given moves).filter fun outgoing =>
    outgoing.token ∈ successes (reported moves ++ reports threads.frames.flatten)).map Outgoing.wire

section Threads

variable {socket : Socket} {count : Nat} {moves : List (Nat × UdpMove Token)}
variable {threads : Threads (Udp Token) (Task Token) (Request Token)}

theorem quiet_replicate (udp : Udp Token) :
    (⟨udp, List.replicate count []⟩ : Threads (Udp Token) (Task Token) (Request Token)).Quiet :=
  fun _ member => List.eq_of_mem_replicate member

theorem Kept.of_threadRun
    (run : ThreadRun (component Token) ⟨{ socket := socket }, List.replicate count []⟩ moves threads)
    (patient : Patient (moves.map Prod.snd))
    (distinct : ((given (moves.map Prod.snd)).map Outgoing.token).Nodup) :
    Kept socket.sent (moves.map Prod.snd) threads.state threads.gathered := by
  refine run.invariant_of_exchange (fun moves udp frames => Patient moves →
    ((given moves).map Outgoing.token).Nodup → Kept socket.sent moves udp frames) ?_ ?_
    patient distinct
  · intro moves udp move taken next put rest exchange kept patient distinct
    have earlier : ((given moves).map Outgoing.token).Nodup := by
      rw [given_concat, List.map_append] at distinct
      exact distinct.of_append_left
    exact (kept patient.of_append earlier).exchange exchange fun giving =>
      ⟨earlier, patient.previous giving⟩
  · intro _ _
    rw [gathered_of_quiet (quiet_replicate _)]
    exact Kept.start { socket := socket } rfl

theorem faithful_of_threadRun [DecidableEq Token]
    (run : ThreadRun (component Token) ⟨{ socket := socket }, List.replicate count []⟩ moves threads)
    (patient : Patient (moves.map Prod.snd))
    (distinct : ((given (moves.map Prod.snd)).map Outgoing.token).Nodup) :
    Faithful socket.sent (moves.map Prod.snd) threads := by
  obtain ⟨fates, waits, reporting, ledger⟩ := Kept.of_threadRun run patient distinct
  have inOrder : (reported (moves.map Prod.snd)).map Prod.fst <+:
      (given (moves.map Prod.snd)).map Outgoing.token := ⟨_, ledger.tokens.symm⟩
  have guarded := guarded_of_threadRun run (quiet_replicate _) rfl
  refine ⟨inOrder.sublist.nodup distinct, inOrder, ?_, ?_, ?_, ?_⟩
  · rw [guarded.locked_iff]
    constructor
    · rintro ⟨frame, member, holding⟩
      obtain ⟨stack, own, inside⟩ := List.mem_flatten.1 (Multiset.mem_coe.1 member)
      exact ⟨stack, own, frame, inside, holding⟩
    · rintro ⟨stack, own, frame, inside, holding⟩
      exact ⟨frame, Multiset.mem_coe.2 (List.mem_flatten.2 ⟨stack, own, inside⟩), holding⟩
  · intro thread request next threadStep stack found
    cases threadStep with
    | move own nextOwn state foundOwn step =>
        obtain rfl := Option.some.inj (found.symm.trans foundOwn)
        cases step with
        | «begin» _ below => exact unlocked_of_call run (quiet_replicate _) found rfl
  · intro quiet
    rw [gathered_of_quiet quiet] at ledger
    exact ledger.unreported_eq distinct
  · have same : reporting = reports threads.frames.flatten := by
      have dues := ledger.dues
      have few := ledger.single
      rw [Threads.gathered, due, total_toList] at dues
      rcases reporting with - | ⟨report, - | ⟨second, more⟩⟩
      · exact ((Multiset.coe_eq_zero _).1 dues.symm).symm
      · exact (Multiset.coe_eq_singleton.1 dues.symm).symm
      · simp only [List.length_cons] at few
        omega
    rw [← same]
    exact ledger.sent_eq distinct

/-- When a close has been made and nobody is in the middle of anything, the slot is empty for good. -/
theorem emptied_of_close {earlier later : List (Nat × UdpMove Token)}
    {first middle last : Threads (Udp Token) (Task Token) (Request Token)}
    (before : ThreadRun (component Token) first earlier middle) (quiet : first.Quiet)
    (after : ThreadRun (component Token) middle later last) (done : middle.Quiet)
    (closed : .enter .close ∈ earlier.map Prod.snd) : Emptied last.state := by
  have closing : Closing (earlier.map Prod.snd) middle.state middle.gathered := by
    refine before.invariant_of_exchange Closing (fun exchange => Closing.exchange exchange) ?_
    rw [gathered_of_quiet quiet]
    exact Closing.start first.state
  rw [gathered_of_quiet done] at closing
  have emptied : Emptied middle.state := by
    rcases closing.pending closed with ⟨frame, member, -⟩ | emptied
    · exact absurd member (Multiset.notMem_zero frame)
    · exact emptied
  exact after.invariant_of_exchange (fun _ udp _ => Emptied udp)
    (fun exchange emptied => emptied.exchange exchange) emptied

/--
However a patient writer is interleaved with others that retry the parked write, shut the output or
close the endpoint, and whatever the operating system answers: every completion is called at most
once and by a thread that has released the lock, and when nobody is in the middle of anything, the
only one not called belongs to the parked write. When a close has returned by such a moment, nothing
is ever parked again, and all completions are called by the next one. The operating system has
accepted the writes that are reported as sent and no others. That the tokens are different from each
other is to say that every write comes with a completion of its own.
-/
theorem no_completion_lost [DecidableEq Token]
    (run : ThreadRun (component Token) ⟨{ socket := socket }, List.replicate count []⟩ moves threads)
    (patient : Patient (moves.map Prod.snd))
    (distinct : ((given (moves.map Prod.snd)).map Outgoing.token).Nodup) :
    Faithful socket.sent (moves.map Prod.snd) threads ∧
      ∀ earlier middle later, moves = earlier ++ later →
        ThreadRun (component Token) ⟨{ socket := socket }, List.replicate count []⟩ earlier middle →
          ThreadRun (component Token) middle later threads → middle.Quiet →
            .enter .close ∈ earlier.map Prod.snd →
              threads.state.parked = none ∧
                (threads.Quiet → (reported (moves.map Prod.snd)).map Prod.fst =
                  (given (moves.map Prod.snd)).map Outgoing.token) := by
  have faithful := faithful_of_threadRun run patient distinct
  refine ⟨faithful, fun earlier middle later split before after done closed => ?_⟩
  obtain ⟨-, empty⟩ := emptied_of_close before (quiet_replicate _) after done closed
  refine ⟨empty, fun quiet => ?_⟩
  obtain ⟨fates, waits, reporting, ledger⟩ := Kept.of_threadRun run patient distinct
  have inHand := ledger.inHand
  have dues := ledger.dues
  rw [gathered_of_quiet quiet] at inHand dues
  rw [outstanding, empty] at inHand
  obtain rfl : waits = [] := (Multiset.coe_eq_zero _).1 inHand
  obtain rfl : reporting = [] := (Multiset.coe_eq_zero _).1 dues
  have tokens := ledger.tokens
  rw [List.map_nil, List.map_nil, List.append_nil, List.append_nil] at tokens
  exact tokens.symm

end Threads

/--
The second of two threads closes the endpoint while a write of the first is parked; in the middle of
its completion another write is issued.
-/
def closeBehindParked : List (Nat × Choice (Request Nat) (Method Nat) fun _ => Unit) :=
  List.flatten
    [[(0, .enter (.write default [[1]] 0))], List.replicate 3 (0, .proceed),
      [(1, .enter .close)], List.replicate 6 (1, .proceed),
      [(1, .enter (.write default [[2]] 1))], List.replicate 4 (1, .proceed),
      List.replicate 2 (1, .finish fun _ => ())]

/-- A socket that would block at the first attempt to send. -/
def busySocket : Socket := { address := default, sendAnswers := [some .wouldBlock] }

theorem completed_after_closeBehindParked :
    let trace := ThreadTrace.follow (component Nat)
      ⟨{ socket := busySocket }, List.replicate 2 []⟩ closeBehindParked
    trace.threads.Quiet ∧ (reported (trace.moves.map Prod.snd)) =
        [(0, .error closedError), (1, .error shutDownError)] ∧
      trace.threads.state.parked = none ∧
        Faithful busySocket.sent (trace.moves.map Prod.snd) trace.threads := by
  have run := ThreadTrace.run_follow (component Nat)
    ⟨{ socket := busySocket }, List.replicate 2 []⟩ closeBehindParked
  have quiet : (ThreadTrace.follow (component Nat)
      ⟨{ socket := busySocket }, List.replicate 2 []⟩ closeBehindParked).threads.Quiet := by
    unfold Threads.Quiet
    decide
  obtain ⟨faithful, closed⟩ := no_completion_lost run (by unfold Patient; decide) (by decide)
  have asked : .enter .close ∈ (ThreadTrace.follow (component Nat)
      ⟨{ socket := busySocket }, List.replicate 2 []⟩ closeBehindParked).moves.map Prod.snd :=
    List.mem_of_getElem? (i := 4) rfl
  obtain ⟨empty, -⟩ := closed _ _ [] (List.append_nil _).symm run (.refl _) quiet asked
  exact ⟨quiet, rfl, empty, faithful⟩

end DatagramMux.Udp
