import DatagramMux.Proofs.Flusher.Dispatch

/-!
# When completions come

The endpoint may complete a write before it returns from it, and then the iteration goes on, or at
any time later, and then the completion takes up the iteration. What the endpoint gets and what the
callbacks are told does not depend on which of this happens to which write, but only on which writes
fail.
-/

namespace DatagramMux.Flusher

open Component

variable {Callback : Type}

/-- An endpoint that completes some of its writes before it returns; the callbacks do nothing. -/
def timed (prompt : Nat → Bool) (fate : Nat → Completion) : FlusherAgenda Callback where
  during
    | .write ticket _ => if prompt ticket then [.complete ticket (fate ticket)] else []
    | .notify _ _ _ | .failure => []
  reply _ := ()

theorem during_write (prompt : Nat → Bool) (fate : Nat → Completion) (ticket : Nat)
    (entry : WriteEntry Callback) : (timed prompt fate).during (.write ticket entry) =
      if prompt ticket then [.complete ticket (fate ticket)] else [] := rfl

/-- What is done from outside: a write is submitted, or it is reported how a write has ended. -/
inductive Errand (Callback : Type) where
  | submit (entry : WriteEntry Callback)
  | report (ticket : Nat)

namespace Errand

def method (fate : Nat → Completion) : Errand Callback → Method Callback
  | .submit entry => .offer entry
  | .report ticket => .complete ticket (fate ticket)

def entry? : Errand Callback → Option (WriteEntry Callback)
  | .submit entry => some entry
  | .report _ => none

end Errand

/-! ## What is to be expected -/

/-- The writes up to the first one that fails, where tickets are given from some number on. -/
def reached (fate : Nat → Completion) : Nat → List (WriteEntry Callback) → List (WriteEntry Callback)
  | _, [] => []
  | ticket, entry :: entries =>
      entry :: match fate ticket with
        | .ok () => reached fate (ticket + 1) entries
        | .error _ => []

/-- What the callbacks are told: of the writes up to the first that fails how they ended. -/
def verdicts (fate : Nat → Completion) : Nat → List (WriteEntry Callback) → List (Callback × Outcome)
  | _, [] => []
  | ticket, entry :: entries =>
      (entry.callback, (fate ticket).outcome) :: match fate ticket with
        | .ok () => verdicts fate (ticket + 1) entries
        | .error _ => entries.map refusal

/-- What a callback is told when its write has succeeded. -/
def success (entry : WriteEntry Callback) : Callback × Outcome := (entry.callback, .ok ())

variable {fate : Nat → Completion}

theorem reached_append {first : Nat} {done : List (WriteEntry Callback)}
    (flawless : ∀ ticket < done.length, fate (first + ticket) = .ok ())
    (entries : List (WriteEntry Callback)) :
    reached fate first (done ++ entries) = done ++ reached fate (first + done.length) entries := by
  induction done generalizing first with
  | nil => rfl
  | cons entry done ih =>
      have succeeds : fate first = .ok () := flawless 0 (Nat.succ_pos _)
      have later : ∀ ticket < done.length, fate (first + 1 + ticket) = .ok () := by
        intro ticket within
        rw [Nat.add_assoc, Nat.add_comm 1]
        exact flawless (ticket + 1) (Nat.succ_lt_succ within)
      rw [List.cons_append, reached, succeeds]
      simp only
      rw [ih later, List.length_cons, Nat.add_assoc, Nat.add_comm 1, List.cons_append]

theorem verdicts_append {first : Nat} {done : List (WriteEntry Callback)}
    (flawless : ∀ ticket < done.length, fate (first + ticket) = .ok ())
    (entries : List (WriteEntry Callback)) :
    verdicts fate first (done ++ entries) =
      done.map success ++ verdicts fate (first + done.length) entries := by
  induction done generalizing first with
  | nil => rfl
  | cons entry done ih =>
      have succeeds : fate first = .ok () := flawless 0 (Nat.succ_pos _)
      have later : ∀ ticket < done.length, fate (first + 1 + ticket) = .ok () := by
        intro ticket within
        rw [Nat.add_assoc, Nat.add_comm 1]
        exact flawless (ticket + 1) (Nat.succ_lt_succ within)
      rw [List.cons_append, verdicts, succeeds]
      simp only
      rw [ih later, List.length_cons, Nat.add_assoc, Nat.add_comm 1, List.map_cons, List.cons_append]
      rfl

theorem flawless_concat {done : List (WriteEntry Callback)} {entry : WriteEntry Callback}
    (flawless : ∀ ticket < done.length, fate ticket = .ok ()) (ends : fate done.length = .ok ()) :
    ∀ ticket < (done ++ [entry]).length, fate ticket = .ok () := by
  intro ticket within
  rw [List.length_append, List.length_singleton] at within
  rcases Nat.lt_succ_iff_lt_or_eq.1 within with earlier | rfl
  · exact flawless ticket earlier
  · exact ends

/-! ## Where the flusher stands when it has been left -/

/-- How a flusher was left after some writes were offered, written and told of. -/
inductive Standing (fate : Nat → Completion) : List (WriteEntry Callback) →
    List (WriteEntry Callback) → List (Callback × Outcome) → Flusher Callback → Prop where
  | idle (done : List (WriteEntry Callback)) (tallies : Tallies) :
      (∀ ticket < done.length, fate ticket = .ok ()) →
        Standing fate done done (done.map success) (tallies.free .idle [] done.length)
  | pending (done : List (WriteEntry Callback)) (entry : WriteEntry Callback)
      (queue : List (WriteEntry Callback)) (tallies : Tallies) :
      (∀ ticket < done.length, fate ticket = .ok ()) →
        Standing fate (done ++ entry :: queue) (done ++ [entry]) (done.map success)
          (tallies.engaged .pending queue entry.callback done.length)
  | terminated (done : List (WriteEntry Callback)) (entry : WriteEntry Callback)
      (refused : List (WriteEntry Callback)) (tallies : Tallies) (cause : IoError) :
      (∀ ticket < done.length, fate ticket = .ok ()) →
        fate done.length = .error cause →
        Standing fate (done ++ entry :: refused) (done ++ [entry])
          (done.map success ++ (entry.callback, .error (.io cause)) :: refused.map refusal)
          (tallies.free .terminated [] (done.length + 1))

/-- Unless a completion is still to come, all is as expected. -/
theorem Standing.expected {offered written : List (WriteEntry Callback)}
    {told : List (Callback × Outcome)} {flusher : Flusher Callback}
    (standing : Standing fate offered written told flusher) (nothing : flusher.outstanding = []) :
    written = reached fate 0 offered ∧ told = verdicts fate 0 offered := by
  have shifted {count : Nat} (flawless : ∀ ticket < count, fate ticket = .ok ()) :
      ∀ ticket < count, fate (0 + ticket) = .ok () := by
    simpa using flawless
  cases standing with
  | idle done tallies flawless =>
      have written := reached_append (shifted flawless) []
      have told := verdicts_append (shifted flawless) []
      simp only [List.append_nil, reached, verdicts] at written told
      exact ⟨written.symm, told.symm⟩
  | pending => cases nothing
  | terminated done entry refused tallies cause flawless fails =>
      rw [reached_append (shifted flawless), verdicts_append (shifted flawless), Nat.zero_add,
        reached, verdicts, fails]
      exact ⟨rfl, rfl⟩

variable {prompt : Nat → Bool} {plan : List (Method Callback)}

/-! ## Failures -/

/-- Whoever finds entries in the queue of a terminated flusher refuses them in order. -/
theorem brings_refusals (tallies : Tallies) (handed : Nat) (report : Bool)
    (entries : List (WriteEntry Callback)) (below : List (FlusherFrame Callback))
    (due : List (List (Method Callback))) :
    ∃ last : Tallies, Brings (timed prompt fate)
      ⟨tallies.free .terminated [] handed, .task (.refuseAll entries report) :: below, due, plan⟩
      [] (entries.map refusal)
      ⟨last.free .terminated [] handed, below, due, plan⟩ := by
  induction entries generalizing tallies with
  | nil =>
      cases report with
      | false => exact ⟨tallies, _, ⟨1, rfl⟩, rfl, rfl⟩
      | true => exact ⟨tallies, _, ⟨3, rfl⟩, rfl, rfl⟩
  | cons entry entries ih =>
      obtain ⟨last, brings⟩ := ih { tallies with failed := tallies.failed + 1 }
      exact ⟨last, .trans ⟨_, ⟨3, rfl⟩, rfl, rfl⟩ brings⟩

/-- After a failed write, the flusher terminates and refuses what is queued. -/
theorem brings_failed (tallies : Tallies) {phase : Phase} (queue : List (WriteEntry Callback))
    (handed : Nat) (callback : Callback) (outcome : Outcome) (below : List (FlusherFrame Callback))
    (due : List (List (Method Callback))) :
    ∃ last : Tallies, Brings (timed prompt fate)
      ⟨tallies.free phase queue handed, .inside (.notify callback outcome .fail) :: below,
        [] :: due, plan⟩
      [] (queue.map refusal)
      ⟨last.free .terminated [] handed, below, due, plan⟩ := by
  obtain ⟨last, brings⟩ := brings_refusals tallies handed _ queue below due
  exact ⟨last, .trans ⟨_, ⟨3, rfl⟩, rfl, rfl⟩ brings⟩

/-! ## The iteration -/

/-- The iteration goes on until nothing waits, a completion has to be waited for, or a write fails. -/
theorem brings_standing (queue : List (WriteEntry Callback)) {done : List (WriteEntry Callback)}
    (flawless : ∀ ticket < done.length, fate ticket = .ok ()) (tallies : Tallies) :
    ∃ last written told, Brings (timed prompt fate)
        ⟨tallies.free .iterating queue done.length, [.task .take], [], plan⟩ written told
        ⟨last, [], [], plan⟩ ∧
      Standing fate (done ++ queue) (done ++ written) (done.map success ++ told) last := by
  induction queue generalizing done tallies with
  | nil =>
      refine ⟨_, [], [], brings_idle _ _ _ _ _, ?_⟩
      rw [List.append_nil, List.append_nil]
      exact .idle done tallies flawless
  | cons entry queue ih =>
      have given : Brings (timed prompt fate) _ _ _ _ :=
        brings_write tallies queue done.length [] [] plan entry
      cases prompts : prompt done.length with
      | false =>
          rw [during_write, prompts] at given
          refine ⟨_, _, _, given.trans (brings_pending _ _ _ _ _ _ _ _ _), ?_⟩
          rw [List.append_nil, List.append_nil, List.append_nil]
          exact .pending done entry queue tallies flawless
      | true =>
          rw [during_write, prompts] at given
          have told := given.trans ((brings_enter _ _ _ _ _ _ _).trans
            (brings_told tallies .iterating queue done.length _ _ plan entry.callback _))
          cases ends : fate done.length with
          | ok =>
              rw [ends] at told
              obtain ⟨last, written, heard, brings, standing⟩ := ih (flawless_concat flawless ends)
                (tallies.count (.ok ()))
              rw [List.length_append, List.length_singleton] at brings
              refine ⟨last, _, _, (told.trans (brings_next _ _ _ _ _ _ _ _ _)).trans brings, ?_⟩
              simpa [success, Completion.outcome] using standing
          | error cause =>
              rw [ends] at told
              obtain ⟨last, brings⟩ := brings_failed (tallies.count (.error cause)) queue
                (done.length + 1) entry.callback _ _ _
              refine ⟨_, _, _, (told.trans brings).trans (brings_ended _ _ _ _ _ _ _), ?_⟩
              simpa [Completion.outcome] using .terminated done entry queue last cause flawless ends

/-! ## What is done from outside -/

namespace Standing

variable {offered written : List (WriteEntry Callback)} {told : List (Callback × Outcome)}
variable {flusher : Flusher Callback}

/-- A write that is submitted is dealt with, queued or refused. -/
theorem submit (standing : Standing fate offered written told flusher)
    (entry : WriteEntry Callback) :
    ∃ last further heard, Brings (timed prompt fate) ⟨flusher, [], [], .offer entry :: plan⟩
        further heard ⟨last, [], [], plan⟩ ∧
      Standing fate (offered ++ [entry]) (written ++ further) (told ++ heard) last := by
  cases standing with
  | idle done tallies flawless =>
      obtain ⟨last, further, heard, brings, standing⟩ :=
        brings_standing [entry] flawless tallies.submit
      exact ⟨last, _, _, (brings_offered _ _ _ _ _).trans brings, standing⟩
  | pending done current queue tallies flawless =>
      have standing := Standing.pending done current (queue ++ [entry]) tallies.submit flawless
      refine ⟨_, _, _, brings_offered_pending _ _ _ _ _ _ _, ?_⟩
      simpa using standing
  | terminated done failed refused tallies cause flawless fails =>
      obtain ⟨last, brings⟩ := brings_refusals tallies.submit (done.length + 1) false [entry] [] []
      have standing := Standing.terminated done failed (refused ++ [entry]) last cause flawless fails
      refine ⟨_, _, _, (brings_offered_terminated _ _ _ _ _).trans brings, ?_⟩
      simpa using standing

/-- A report is the completion that the flusher is waiting for, or it is ignored. -/
theorem report (standing : Standing fate offered written told flusher) (ticket : Nat) :
    ∃ last further heard,
      Brings (timed prompt fate) ⟨flusher, [], [], .complete ticket (fate ticket) :: plan⟩
        further heard ⟨last, [], [], plan⟩ ∧
      Standing fate offered (written ++ further) (told ++ heard) last := by
  by_cases unused : ticket ∈ flusher.outstanding
  · cases standing with
    | pending done entry queue tallies flawless =>
        obtain rfl : ticket = done.length := List.mem_singleton.1 unused
        have told : Brings (timed prompt fate) _ _ _ _ :=
          (brings_plan _ _ _ (.complete done.length (fate done.length))).trans
            (brings_told tallies .pending queue done.length [] [] plan entry.callback _)
        cases ends : fate done.length with
        | ok =>
            rw [ends] at told
            obtain ⟨last, written, heard, brings, standing⟩ := brings_standing queue
              (flawless_concat flawless ends) (tallies.count (.ok ()))
            rw [List.length_append, List.length_singleton] at brings
            refine ⟨last, _, _, (told.trans (brings_resumed _ _ _ _ _ _ _)).trans brings, ?_⟩
            simpa [success, Completion.outcome] using standing
        | error cause =>
            rw [ends] at told
            obtain ⟨last, brings⟩ := brings_failed (tallies.count (.error cause)) queue
              (done.length + 1) entry.callback _ _ _
            refine ⟨_, _, _, told.trans brings, ?_⟩
            simpa [Completion.outcome] using .terminated done entry queue last cause flawless ends
    | idle | terminated => cases unused
  · refine ⟨flusher, _, _, (brings_plan _ _ _ _).trans (brings_ignored _ _ _ _ unused), ?_⟩
    simpa using standing

theorem errands (prompt : Nat → Bool) (standing : Standing fate offered written told flusher)
    (errands : List (Errand Callback)) :
    ∃ last further heard,
      Brings (timed prompt fate) ⟨flusher, [], [], errands.map (Errand.method fate)⟩ further heard
        ⟨last, [], [], []⟩ ∧
      Standing fate (offered ++ errands.filterMap Errand.entry?) (written ++ further)
        (told ++ heard) last := by
  induction errands generalizing offered written told flusher with
  | nil =>
      refine ⟨flusher, _, _, .refl _, ?_⟩
      simpa using standing
  | cons errand errands ih =>
      cases errand with
      | submit entry =>
          obtain ⟨middle, further, heard, brings, standing⟩ := standing.submit entry
          obtain ⟨last, _, _, onward, standing⟩ := ih standing
          refine ⟨last, _, _, brings.trans onward, ?_⟩
          change Standing fate (offered ++ entry :: errands.filterMap Errand.entry?) _ _ _
          simpa using standing
      | report ticket =>
          obtain ⟨middle, further, heard, brings, standing⟩ := standing.report ticket
          obtain ⟨last, _, _, onward, standing⟩ := ih standing
          refine ⟨last, _, _, brings.trans onward, ?_⟩
          rw [List.filterMap_cons_none rfl]
          simpa using standing

end Standing

/--
Whichever writes the endpoint completes before it returns from them, and whenever the others are
completed: once all is submitted and completed, the endpoint has got the writes up to the first one
that fails, and the callbacks have been told, in the order in which the writes were submitted, how
these ended and that the others are refused.
-/
theorem outcomes_independent_of_timing (prompt : Nat → Bool) (fate : Nat → Completion)
    (errands : List (Errand Callback)) :
    let thread (count : Nat) := follow (component Callback) (timed prompt fate) count
      { state := Flusher.new, plan := errands.map (Errand.method fate) }
    (∃ count, (thread count).2.stack = [] ∧ (thread count).2.plan = []) ∧
      ∀ count, (thread count).2.stack = [] → (thread count).2.plan = [] →
        (Journal.after (thread count).1).uncompleted = [] →
          (Journal.after (thread count).1).written.map Prod.fst =
              reached fate 0 (errands.filterMap Errand.entry?) ∧
            (Journal.after (thread count).1).told =
              verdicts fate 0 (errands.filterMap Errand.entry?) := by
  intro thread
  have fresh : Standing fate ([] : List (WriteEntry Callback)) [] [] Flusher.new :=
    .idle [] {} fun _ within => nomatch within
  obtain ⟨last, written, told, ⟨moves, ⟨enough, reaches⟩, writes, hears⟩, standing⟩ :=
    fresh.errands prompt errands
  have reached : thread enough = (moves, ⟨last, [], [], []⟩) := reaches
  refine ⟨⟨enough, by rw [reached], by rw [reached]⟩, fun count idle planned completed => ?_⟩
  have run : Run (component Callback) Flusher.new [] (thread count).1 (thread count).2.state
      (thread count).2.stack :=
    run_follow (component Callback) (timed prompt fate) count { state := Flusher.new, plan := _ }
  have same : thread count = thread enough :=
    follow_unique idle (by rw [reaches]) (planned.trans (by rw [reaches]))
  rw [same, reached] at run completed
  rw [same, reached, Journal.written_after, Journal.told_after, writes, hears]
  have used : last.outstanding = [] := by
    rw [← (Sound.of_run run).ticketed.uncompleted_eq rfl, completed, List.map_nil]
  exact standing.expected used

/--
Of four writes the second and the third are completed only after the endpoint has returned from them,
and the third one fails.
-/
def mixedTiming : List (Errand Nat) :=
  [.submit ⟨1, default, []⟩, .submit ⟨2, default, []⟩, .submit ⟨3, default, []⟩, .report 1,
    .submit ⟨4, default, []⟩, .report 2]

def thirdFails (ticket : Nat) : Completion :=
  if ticket = 2 then .error (.system .connectionRefused) else .ok ()

theorem outcomes_after_mixedTiming :
    let thread := follow (component Nat) (timed (· == 0) thirdFails) 100
      { state := Flusher.new, plan := mixedTiming.map (Errand.method thirdFails) }
    (Journal.after thread.1).uncompleted = [] ∧
      (Journal.after thread.1).written.map Prod.fst =
          [⟨1, default, []⟩, ⟨2, default, []⟩, ⟨3, default, []⟩] ∧
        (Journal.after thread.1).told = [(1, .ok ()), (2, .ok ()),
          (3, .error (.io (.system .connectionRefused))), (4, .error .closed)] := by
  intro thread
  have completed : (Journal.after thread.1).uncompleted = [] := rfl
  obtain ⟨written, told⟩ := (outcomes_independent_of_timing (· == 0) thirdFails mixedTiming).2 100
    rfl rfl completed
  exact ⟨completed, written, told⟩

end DatagramMux.Flusher
