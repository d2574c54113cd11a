import DatagramMux.Proofs.Server.Serving

/-!
# How an event loop ends

An event loop goes on until it is told to end, finds its connection closed, or has waited in vain for
another reason than an interruption. In any case it closes the connection and returns, with the error
just if waiting has failed. While it runs nobody else runs it, neither as a whole nor for one round.
-/

namespace DatagramMux.Server

open Component

variable {Callback Session : Type}
variable {server next first last : Server Callback Session} {move : ServerMove Callback Session}
variable {moves : List (ServerMove Callback Session)} {happenings : List Happening}
variable {taken put stack nextStack firstStack lastStack : List (ServerFrame Callback Session)}

/-! ## The connection is closed -/

/-- Whether a frame leads to the connection being closed. -/
def promises : ServerFrame Callback Session → Bool
  | .task .consult | .task .consultConnection | .task (.poll true) | .task (.read _ true)
  | .task (.endRound _ true) => true
  | .task (.link (.connection (.hold .close))) | .task (.link (.connection .shut)) => true
  | _ => false

/-- An event loop does not end without closing the connection. -/
theorem closed_of_promise {task : Task Callback Session}
    (promised : promises (.task task : ServerFrame Callback Session) = true) :
    (step server task).1.connection.closed = true ∨ (step server task).2.any promises = true := by
  cases task with
  | link task =>
      cases task with
      | connection task =>
          cases task with
          | hold method =>
              cases method with
              | close => exact .inr rfl
              | _ => cases promised
          | shut => exact .inl (Connection.closed_moved_shut server.connection)
          | _ => cases promised
      | udp | endpoint | answer => cases promised
  | lend | takeBack | endLoop => cases promised
  | consult | consultConnection =>
      right
      simp only [step]
      split <;> rfl
  | poll looping =>
      rcases looping with - | -
      · cases promised
      · right
        simp only [step]
        split <;> rfl
  | read readable looping =>
      rcases looping with - | -
      · cases promised
      · right
        simp only [step]
        split
        · rw [List.any_append]
          exact Bool.or_true _
        · rfl
  | endRound result looping =>
      rcases looping with - | -
      · cases promised
      · rcases result with error | count <;> exact .inr rfl

theorem closed_of_run
    (run : EventRun (component Callback Session) happen first firstStack moves happenings last [])
    (promised : firstStack.any promises = true) : last.connection.closed = true := by
  have closed : last.connection.closed = true ∨
      ([] : List (ServerFrame Callback Session)).any promises = true := by
    refine run.invariant (fun _ _ server stack => server.connection.closed = true ∨
      stack.any promises = true) ?_ ?_ (.inr promised)
    · intro moves happenings server stack move next nextStack step before
      obtain ⟨taken, put, rest, rfl, rfl, exchange⟩ := step.exchange
      rw [List.any_append, Bool.or_eq_true] at before ⊢
      rcases before with closed | top | below
      · exact .inl (closed_of_exchange exchange closed)
      · cases exchange with
        | work task =>
            rw [List.any_cons, List.any_nil, Bool.or_false] at top
            exact (closed_of_promise top).imp_right .inl
        | «begin» | finish | enter => cases top
      · exact .inr (.inr below)
    · intro moves happenings server stack happening before
      cases happening <;> exact before
  exact closed.resolve_right nofun

/-! ## What the event loop returns with -/

/-- Whether somebody begins to run the event loop, or one round of it. -/
def starts : ServerMove Callback Session → Bool
  | .enter .run | .enter .runOnce => true
  | _ => false

/-- Waiting for an event fails, and not since it was interrupted. -/
def PollFails (server : Server Callback Session) (move : ServerMove Callback Session) : Prop :=
  ∃ looping kind, move = .work (.poll looping) ∧ server.socket.poll.2 = .error kind ∧
    kind ≠ .interrupted

/-- How a frame stands to the event loop. -/
inductive Standing where
  /-- It belongs to a round that is run by itself. -/
  | lone
  /-- It belongs to the event loop and knows whether waiting has failed. -/
  | looping (failed : Bool)

def standing? : ServerFrame Callback Session → Option Standing
  | .task .consult | .task .consultConnection | .task (.poll true) | .task (.read _ true) =>
      some (.looping false)
  | .task (.endRound result true) => some (.looping !result.isOk)
  | .task (.endLoop result) => some (.looping !result.isOk)
  | .task (.poll false) | .task (.read _ false) | .task (.endRound _ false) => some .lone
  | _ => none

/-- The event loop runs and knows whether waiting has failed, or has returned accordingly. -/
def InLoop (failed : Bool) (server : Server Callback Session)
    (stack : List (ServerFrame Callback Session)) : Prop :=
  stack.filterMap standing? = [.looping failed] ∨
    stack.filterMap standing? = [] ∧
      ∃ result, server.returned? = some (.loop result) ∧ failed = !result.isOk

/-- What a move does to an event loop. -/
inductive Turn (server : Server Callback Session) (move : ServerMove Callback Session)
    (taken : List (ServerFrame Callback Session)) (next : Server Callback Session)
    (put : List (ServerFrame Callback Session)) : Prop where
  | on : put.filterMap standing? = taken.filterMap standing? → next.returned? = server.returned? →
      ¬PollFails server move → Turn server move taken next put
  | fail : taken.filterMap standing? = [.looping false] → put.filterMap standing? = [.looping true] →
      PollFails server move → Turn server move taken next put
  | leave (result : Except MuxError Unit) : taken.filterMap standing? = [.looping !result.isOk] →
      put.filterMap standing? = [] → next.returned? = some (.loop result) →
        ¬PollFails server move → Turn server move taken next put

theorem standing?_liftLink (frame : Link.LinkFrame Callback Session) :
    standing? (liftLink frame) = none := by
  cases frame with
  | task | inside => rfl
  | call request => cases request <;> rfl

theorem filterMap_standing?_map (frames : List (Link.LinkFrame Callback Session)) :
    (frames.map liftLink).filterMap standing? = [] :=
  List.filterMap_eq_nil_iff.2 (List.forall_mem_map.2 fun frame _ => standing?_liftLink frame)

theorem filterMap_standing?_append (frames : List (Link.LinkFrame Callback Session))
    (below : List (ServerFrame Callback Session)) :
    (frames.map liftLink ++ below).filterMap standing? = below.filterMap standing? := by
  rw [List.filterMap_append, filterMap_standing?_map, List.nil_append]

theorem not_pollFails (other : ∀ looping, move ≠ .work (.poll looping)) :
    ¬PollFails server move := by
  rintro ⟨looping, kind, same, -⟩
  exact other looping same

theorem turn_of_poll :
    Turn server (.work (.poll true)) [.task (.poll true)] (step server (.poll true)).1
      (step server (.poll true)).2 := by
  have calm {socket : Socket} {result : Except IoKind (Option Bool)}
      (waited : server.socket.poll = (socket, result))
      (fine : ∀ kind, result = .error kind → kind = .interrupted) :
      ¬PollFails server (.work (.poll true)) := by
    rintro ⟨looping, kind, -, failed, other⟩
    rw [waited] at failed
    exact other (fine kind failed)
  simp only [step]
  split
  · next waited => exact .on rfl rfl (calm waited fun kind same => (Except.error.inj same).symm)
  · next kind other waited =>
    exact .fail rfl rfl ⟨true, kind, rfl, by rw [waited], other⟩
  · next waited => exact .on rfl rfl (calm waited (by rintro _ ⟨⟩))
  · next waited =>
    exact .on (filterMap_standing?_append _ _) rfl (calm waited (by rintro _ ⟨⟩))

theorem turn_of_exchange
    (exchange : Exchange (component Callback Session) server move taken next put)
    (alone : starts move = false) (joined : .lone ∉ taken.filterMap standing?) :
    Turn server move taken next put := by
  cases exchange with
  | work task =>
      cases task with
      | link task => exact .on (filterMap_standing?_map _) rfl (not_pollFails (by rintro _ ⟨⟩))
      | lend least direct => exact .on (filterMap_standing?_map _) rfl (not_pollFails (by rintro _ ⟨⟩))
      | takeBack buffer ending =>
          exact .on (filterMap_standing?_map _) rfl (not_pollFails (by rintro _ ⟨⟩))
      | consult | consultConnection =>
          simp only [component, step]
          split
          · exact .on (filterMap_standing?_append _ _) rfl (not_pollFails (by rintro _ ⟨⟩))
          · exact .on rfl rfl (not_pollFails (by rintro _ ⟨⟩))
      | poll looping =>
          rcases looping with - | -
          · exact absurd List.mem_cons_self joined
          · exact turn_of_poll
      | read readable looping =>
          rcases looping with - | -
          · exact absurd List.mem_cons_self joined
          · simp only [component, step]
            split
            · refine .on ?_ rfl (not_pollFails (by rintro _ ⟨⟩))
              split
              · exact filterMap_standing?_append _ _
              · rfl
            · exact .on rfl rfl (not_pollFails (by rintro _ ⟨⟩))
      | endRound result looping =>
          rcases looping with - | -
          · exact absurd List.mem_cons_self joined
          · rcases result with error | count
            · exact .on (filterMap_standing?_append _ _) rfl (not_pollFails (by rintro _ ⟨⟩))
            · exact .on rfl rfl (not_pollFails (by rintro _ ⟨⟩))
      | endLoop result => exact .leave result rfl rfl rfl (not_pollFails (by rintro _ ⟨⟩))
  | «begin» request => exact .on rfl rfl (not_pollFails (by rintro _ ⟨⟩))
  | finish request reply => exact .on (filterMap_standing?_map _) rfl (not_pollFails (by rintro _ ⟨⟩))
  | enter method =>
      cases method with
      | connection method => exact .on (filterMap_standing?_map _) rfl (not_pollFails (by rintro _ ⟨⟩))
      | runOnce | run => cases alone

namespace InLoop

variable {failed : Bool}

theorem start (server : Server Callback Session) :
    InLoop false server ((component Callback Session).body .run) := .inl rfl

theorem happen (inLoop : InLoop failed server stack) (happening : Happening) :
    InLoop failed (server.happen happening) stack := by
  cases happening <;> exact inLoop

theorem step (inLoop : InLoop failed server stack)
    (step : Step (component Callback Session) server stack move next nextStack)
    (alone : starts move = false) :
    ∃ after, InLoop after next nextStack ∧
      (after = true ↔ failed = true ∨ PollFails server move) := by
  obtain ⟨taken, put, rest, rfl, rfl, exchange⟩ := step.exchange
  rw [InLoop, List.filterMap_append] at inLoop
  have joined : .lone ∉ taken.filterMap standing? := by
    intro member
    have onStack := List.mem_append_left (rest.filterMap standing?) member
    rcases inLoop with same | ⟨ended, -⟩
    · rw [same] at onStack
      cases List.mem_singleton.1 onStack
    · rw [ended] at onStack
      cases onStack
  -- The loop has one frame only, so nothing below it has anything to do with the loop.
  have running {known : Bool} (knows : taken.filterMap standing? = [.looping known]) :
      known = failed ∧ rest.filterMap standing? = [] := by
    rw [knows] at inLoop
    rcases inLoop with same | ⟨ended, -⟩
    · obtain ⟨same, below⟩ := List.cons.inj same
      exact ⟨Standing.looping.inj same, below⟩
    · cases ended
  cases turn_of_exchange exchange alone joined with
  | on same returned calm =>
      refine ⟨failed, ?_, by simp [calm]⟩
      rw [InLoop, List.filterMap_append, same, returned]
      exact inLoop
  | fail before after fails =>
      refine ⟨true, .inl ?_, by simp [fails]⟩
      rw [List.filterMap_append, after, (running before).2]
      rfl
  | leave result before after returned calm =>
      obtain ⟨same, below⟩ := running before
      refine ⟨failed, .inr ⟨?_, result, returned, same.symm⟩, by simp [calm]⟩
      rw [List.filterMap_append, after, below]
      rfl

/-- The event loop never forgets that waiting has failed, and does not believe it for no reason. -/
theorem run (inLoop : InLoop failed first firstStack)
    (run : EventRun (component Callback Session) Server.happen first firstStack moves happenings last
      lastStack) (alone : ∀ move ∈ moves, starts move = false) :
    ∃ after, InLoop after last lastStack ∧ (failed = true → after = true) ∧
      (after = true → failed = true ∨ Makes (component Callback Session) Server.happen PollFails first
        firstStack moves happenings last lastStack) := by
  induction run with
  | refl => exact ⟨failed, inLoop, id, .inl⟩
  | move run step ih =>
      obtain ⟨middle, inLoop, kept, made⟩ :=
        ih inLoop fun move member => alone move (List.mem_append_left _ member)
      obtain ⟨after, inLoop, agrees⟩ :=
        inLoop.step step (alone _ (List.mem_append_right _ (List.mem_singleton_self _)))
      refine ⟨after, inLoop, fun failed => agrees.2 (.inl (kept failed)), fun failed => ?_⟩
      rcases agrees.1 failed with before | now
      · exact (made before).imp_right (Makes.onward step)
      · exact .inr (Makes.now run step now)
  | event happening run ih =>
      obtain ⟨after, inLoop, kept, made⟩ := ih inLoop alone
      exact ⟨after, inLoop.happen happening, kept, fun failed =>
        (made failed).imp_right (Makes.event happening)⟩

theorem result (inLoop : InLoop failed server []) :
    ∃ result, server.returned? = some (.loop result) ∧ failed = !result.isOk :=
  (inLoop.resolve_left nofun).2

end InLoop

/-- The event loop returns with an error just if waiting has failed. -/
theorem returned_of_run
    (run : EventRun (component Callback Session) happen first ((component Callback Session).body .run)
      moves happenings last []) (alone : ∀ move ∈ moves, starts move = false) :
    ∃ result, last.returned? = some (.loop result) ∧
      ((∃ error, result = .error error) ↔ Makes (component Callback Session) happen PollFails first
        ((component Callback Session).body .run) moves happenings last []) := by
  obtain ⟨failed, inLoop, -, made⟩ := (InLoop.start first).run run alone
  obtain ⟨result, returned, knows⟩ := inLoop.result
  refine ⟨result, returned, ?_, ?_⟩
  · rintro ⟨error, rfl⟩
    exact (made knows).resolve_left nofun
  · -- The failure may have come about in another order of events, but it leads to the same end.
    rintro ⟨middle, middleStack, move, next, nextStack, earlier, later, before, after, rfl, -,
      reached, step, fails, onward⟩
    obtain ⟨early, inLoop, -⟩ := (InLoop.start first).run reached fun move member =>
      alone move (List.mem_append_left _ member)
    obtain ⟨told, inLoop, agrees⟩ := inLoop.step step (alone move (by simp))
    obtain ⟨final, inLoop, kept, -⟩ := inLoop.run onward fun move member =>
      alone move (List.mem_append_right _ (List.mem_cons_of_mem _ member))
    obtain ⟨other, same, fate⟩ := inLoop.result
    rw [returned] at same
    obtain rfl := Returned.loop.inj (Option.some.inj same)
    rw [kept (agrees.2 (.inr fails))] at fate
    cases result with
    | error error => exact ⟨error, rfl⟩
    | ok => cases fate

end DatagramMux.Server
