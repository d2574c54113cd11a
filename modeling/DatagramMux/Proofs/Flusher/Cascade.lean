import DatagramMux.Proofs.Flusher.Dispatch
import DatagramMux.Proofs.Flusher.Loops

/-!
# Callbacks that submit further writes

Over an endpoint that completes every write before it returns, a write may be the first of a whole
tree: its callback submits its children, their callbacks submit theirs, and so on. One iteration,
begun for the root, deals with the whole tree, level by level, and then the flusher is idle again.
-/

namespace DatagramMux.Flusher

open Component

/-- A write with the writes that its callback submits. -/
inductive WriteTree where
  | node (address : SocketAddress) (buffers : List Bytes) (children : List WriteTree)

namespace WriteTree

def address : WriteTree → SocketAddress
  | .node address _ _ => address

def buffers : WriteTree → List Bytes
  | .node _ buffers _ => buffers

def children : WriteTree → List WriteTree
  | .node _ _ children => children

/-- The write at the root; its callback knows the whole tree. -/
def entry (tree : WriteTree) : WriteEntry WriteTree := ⟨tree, tree.address, tree.buffers⟩

/-- What the callback of the write at the root is told. -/
def success (tree : WriteTree) : WriteTree × Outcome := (tree, .ok ())

theorem sizeOf_children_lt (tree : WriteTree) : sizeOf tree.children < sizeOf tree := by
  cases tree with
  | node address buffers below =>
      change sizeOf below < _
      rw [node.sizeOf_spec]
      omega

theorem sizeOf_append (first second : List WriteTree) :
    sizeOf (first ++ second) + 1 = sizeOf first + sizeOf second := by
  induction first with
  | nil => simp [Nat.add_comm]
  | cons tree first ih =>
      simp only [List.cons_append, List.cons.sizeOf_spec]
      omega

theorem sizeOf_flatMap_le (trees : List WriteTree) :
    sizeOf (trees.flatMap children) ≤ sizeOf trees := by
  induction trees with
  | nil => exact Nat.le_refl _
  | cons tree trees ih =>
      have smaller := tree.sizeOf_children_lt
      have total := sizeOf_append tree.children (trees.flatMap children)
      simp only [List.flatMap_cons, List.cons.sizeOf_spec]
      omega

/-- All writes of some trees, level by level. -/
def breadthFirst : List WriteTree → List WriteTree
  | [] => []
  | tree :: trees => tree :: trees ++ breadthFirst ((tree :: trees).flatMap children)
termination_by trees => sizeOf trees
decreasing_by
  have smaller := tree.sizeOf_children_lt
  have total := sizeOf_append tree.children (trees.flatMap children)
  have bound := sizeOf_flatMap_le trees
  simp only [List.flatMap_cons, List.cons.sizeOf_spec]
  omega

/-- All writes in the order in which they leave a queue that the children of each join at its end. -/
def drained : List WriteTree → List WriteTree
  | [] => []
  | tree :: trees => tree :: drained (trees ++ tree.children)
termination_by trees => sizeOf trees
decreasing_by
  have smaller := tree.sizeOf_children_lt
  have total := sizeOf_append trees tree.children
  simp only [List.cons.sizeOf_spec]
  omega

theorem drained_append (level next : List WriteTree) :
    drained (level ++ next) = level ++ drained (next ++ level.flatMap children) := by
  induction level generalizing next with
  | nil => rw [List.nil_append, List.flatMap_nil, List.append_nil, List.nil_append]
  | cons tree level ih =>
      rw [List.cons_append, drained, List.append_assoc, ih, List.flatMap_cons, List.append_assoc,
        List.cons_append]

/-- A queue that grows at its end is worked off level by level. -/
theorem drained_eq (trees : List WriteTree) : drained trees = breadthFirst trees := by
  fun_induction breadthFirst trees with
  | case1 => rw [drained]
  | case2 tree trees ih =>
      have level := drained_append (tree :: trees) []
      rw [List.append_nil, List.nil_append] at level
      rw [level, ih]

end WriteTree

/-- An endpoint that completes every write before it returns; callbacks submit what they are to. -/
def cascade : FlusherAgenda WriteTree where
  during
    | .write ticket _ => [.complete ticket (.ok ())]
    | .notify tree _ _ => (tree.children.map WriteTree.entry).map .offer
    | .failure => []
  reply _ := ()

variable (plan : List (Method WriteTree))

/-- The iteration ends when all trees in the queue have been dealt with. -/
theorem brings_drained (queue : List WriteTree) (tallies : Tallies) (handed : Nat) :
    ∃ (last : Tallies) (count : Nat), Brings cascade
      ⟨tallies.free .iterating (queue.map WriteTree.entry) handed, [.task .take], [], plan⟩
      ((WriteTree.drained queue).map WriteTree.entry)
      ((WriteTree.drained queue).map WriteTree.success)
      ⟨last.free .idle [] count, [], [], plan⟩ := by
  fun_induction WriteTree.drained queue generalizing tallies handed with
  | case1 => exact ⟨tallies, handed, brings_idle _ _ _ _ _⟩
  | case2 tree trees ih =>
      have given : Brings cascade _ _ _ _ :=
        brings_write tallies (trees.map WriteTree.entry) handed [] [] plan tree.entry
      have told := given.trans ((brings_enter _ _ _ _ _ _ _).trans
        (brings_told tallies .iterating _ handed _ _ plan _ _))
      obtain ⟨middle, queued⟩ := brings_queued (tallies.count (.ok ())) (trees.map WriteTree.entry)
        (handed + 1) [.inside (.write handed tree.entry)] [[]] plan
        (.notify tree (.ok ()) .succeed) (tree.children.map WriteTree.entry)
      rw [← List.map_append] at queued
      obtain ⟨last, count, onward⟩ := ih middle (handed + 1)
      exact ⟨last, count, (told.trans queued).trans ((brings_next _ _ _ _ _ _ _ _ _).trans onward)⟩

/-- Root after root is dealt with. -/
theorem brings_roots (done : List WriteTree) (tallies : Tallies) (handed : Nat) :
    ∃ (last : Tallies) (count : Nat), Brings cascade
      ⟨tallies.free .idle [] handed, [], [], (done.map WriteTree.entry).map .offer ++ plan⟩
      ((done.flatMap fun root => WriteTree.breadthFirst [root]).map WriteTree.entry)
      ((done.flatMap fun root => WriteTree.breadthFirst [root]).map WriteTree.success)
      ⟨last.free .idle [] count, [], [], plan⟩ := by
  induction done generalizing tallies handed with
  | nil => exact ⟨tallies, handed, .refl _⟩
  | cons root done ih =>
      obtain ⟨middle, between, first⟩ := brings_drained _ [root] tallies.submit handed
      obtain ⟨last, count, onward⟩ := ih middle between
      rw [WriteTree.drained_eq] at first
      refine ⟨last, count, ?_⟩
      rw [List.flatMap_cons, List.map_append, List.map_append]
      exact ((brings_offered tallies handed [] _ root.entry).trans first).trans onward

/-! ## The result -/

def offers (trees : List WriteTree) : List (Method WriteTree) :=
  (trees.map WriteTree.entry).map .offer

/-- A thread that offers root after root, after some moves. -/
def dealing (roots : List WriteTree) (count : Nat) :
    List (FlusherMove WriteTree) × FlusherPosition WriteTree :=
  follow (component WriteTree) cascade count { state := Flusher.new, plan := offers roots }

theorem run_dealing (roots : List WriteTree) (count : Nat) :
    Run (component WriteTree) Flusher.new [] (dealing roots count).1 (dealing roots count).2.state
      (dealing roots count).2.stack :=
  run_follow (component WriteTree) cascade count { state := Flusher.new, plan := offers roots }

/-- Offer after offer returns, each with the writes of its tree made and told of. -/
theorem exists_dealing (done left : List WriteTree) :
    let traversal := done.flatMap fun root => WriteTree.breadthFirst [root]
    ∃ (count : Nat) (moves : List (FlusherMove WriteTree)) (last : Tallies) (handed : Nat),
      dealing (done ++ left) count = (moves, ⟨last.free .idle [] handed, [], [], offers left⟩) ∧
        (Journal.after moves).written.map Prod.fst = traversal.map WriteTree.entry ∧
          (Journal.after moves).told = traversal.map WriteTree.success := by
  intro traversal
  obtain ⟨last, handed, moves, ⟨count, reaches⟩, written, told⟩ :=
    brings_roots (offers left) done {} 0
  have split : offers (done ++ left) = (done.map WriteTree.entry).map .offer ++ offers left := by
    rw [offers, offers, List.map_append, List.map_append]
  refine ⟨count, moves, last, handed, ?_, ?_, ?_⟩
  · rw [dealing, split]
    exact reaches
  · rw [Journal.written_after, written]
  · rw [Journal.told_after, told]

/-- The flusher is never terminated, since in the end it is idle. -/
theorem alive_dealing (roots : List WriteTree) (count : Nat) :
    (dealing roots count).2.state.phase ≠ .terminated := by
  intro terminated
  obtain ⟨enough, moves, last, handed, reaches, -⟩ := exists_dealing roots []
  rw [List.append_nil] at reaches
  have idle : (dealing roots enough).2.stack = [] := by rw [reaches]
  have finished : (dealing roots enough).2.plan = [] := by
    rw [reaches, offers, List.map_nil, List.map_nil]
  have whole : (follow (component WriteTree) cascade enough (dealing roots count).2).2 =
      (dealing roots enough).2 :=
    calc (follow (component WriteTree) cascade enough (dealing roots count).2).2
        = (dealing roots (count + enough)).2 := by rw [dealing, dealing, follow_add]
      _ = (dealing roots (enough + count)).2 := by rw [Nat.add_comm]
      _ = (follow (component WriteTree) cascade count (dealing roots enough).2).2 := by
          rw [dealing, dealing, follow_add]
      _ = (dealing roots enough).2 := by rw [follow_of_finished _ _ idle finished]
  have onward := run_follow (component WriteTree) cascade enough (dealing roots count).2
  have later := terminated_of_run onward terminated
  rw [whole, reaches] at later
  cases later

/--
Root after root is offered, and every offer returns, with the flusher idle and nothing queued, when
the endpoint has got and the callbacks have been told of all writes of the tree, level by level.
At no time does the flusher iterate twice; a write that is offered from inside finds it busy.
-/
theorem cascade_drained_level_by_level (roots : List WriteTree) :
    let returned (count : Nat) (left : List WriteTree) :=
      (dealing roots count).2.stack = [] ∧ (dealing roots count).2.plan = offers left
    (∀ done left, roots = done ++ left →
      (∃ count, returned count left) ∧ ∀ count, returned count left →
        let traversal := done.flatMap fun root => WriteTree.breadthFirst [root]
        (dealing roots count).2.state.condition = .idle ∧
          (dealing roots count).2.state.queue = [] ∧
            (Journal.after (dealing roots count).1).written.map Prod.fst =
                traversal.map WriteTree.entry ∧
              (Journal.after (dealing roots count).1).told = traversal.map WriteTree.success) ∧
      ∀ count, (dealing roots count).2.stack.countP iterates ≤ 1 ∧
        ∀ rest, (dealing roots count).2.stack = .task .iterate :: rest → rest ≠ [] →
          step (dealing roots count).2.state .iterate = ((dealing roots count).2.state, []) := by
  intro returned
  refine ⟨fun done left split => ?_, fun count => ⟨countP_iterates_le (run_dealing roots count), ?_⟩⟩
  · subst split
    obtain ⟨enough, moves, last, handed, reaches, written, told⟩ := exists_dealing done left
    refine ⟨⟨enough, by rw [reaches], by rw [reaches]⟩, fun count back => ?_⟩
    have same : dealing (done ++ left) count = dealing (done ++ left) enough :=
      follow_unique back.1 (congrArg (·.2.stack) reaches)
        (back.2.trans (congrArg (·.2.plan) reaches).symm)
    rw [same, reaches]
    exact ⟨rfl, rfl, written, told⟩
  · intro rest top nested
    obtain ⟨inner, outer, rfl⟩ := List.exists_cons_of_ne_nil nested
    have run := run_dealing roots count
    rw [top] at run
    have under := ((Serial.of_run run).nested.below inner List.mem_cons_self).1
    have busy := not_idle_of_isInside run (List.mem_cons_of_mem _ List.mem_cons_self) under
    have alive := alive_dealing roots count
    simp only [step]
    cases phase : (dealing roots count).2.state.phase with
    | idle => exact absurd phase busy
    | terminated => exact absurd phase alive
    | iterating | pending | called => rfl

def grandchild : WriteTree := .node default [[3]] []

/-- A write with two children, the first of which has a child of its own. -/
def family : WriteTree := .node default [[1]] [.node default [[2]] [grandchild], .node default [] []]

theorem told_after_family :
    (dealing [family, grandchild] 200).2.stack = [] ∧
      (dealing [family, grandchild] 200).2.state.condition = .idle ∧
        (Journal.after (dealing [family, grandchild] 200).1).told =
          (family :: family.children ++ [grandchild, grandchild]).map WriteTree.success := by
  have back : (dealing [family, grandchild] 200).2.stack = [] ∧
      (dealing [family, grandchild] 200).2.plan = offers [] := ⟨rfl, rfl⟩
  obtain ⟨idle, -, -, told⟩ :=
    ((cascade_drained_level_by_level [family, grandchild]).1 [family, grandchild] [] rfl).2 200 back
  refine ⟨back.1, idle, told.trans ?_⟩
  simp [WriteTree.breadthFirst, family, grandchild, WriteTree.children]

end DatagramMux.Flusher
