import DatagramMux.Pool.Holder
import Mathlib.Algebra.Group.Nat.Defs
import Mathlib.Data.List.Induction

/-!
# What a pool of buffers keeps

Whatever is borrowed, written to, split and given back, even if it never came from the pool: the free
list stays within its bound and holds empty buffers only, each with some room. A request is served
with a buffer that is large enough, from the free list whenever there is one, and the others stay.
The counters tell how often the pool was used, and if nobody splits a buffer or brings one along, also
how many buffers are in somebody's hands.
-/

namespace DatagramMux

namespace BufferPool

variable {pool : BufferPool}

/-! ## The counters -/

theorem acquired_acquire (pool : BufferPool) (least : Nat) :
    (pool.acquire least).1.acquired = pool.acquired + 1 ∧
      (pool.acquire least).1.released = pool.released := by
  simp only [acquire]
  split <;> exact ⟨rfl, rfl⟩

theorem released_release (pool : BufferPool) (buffer : Buffer) :
    (pool.release buffer).acquired = pool.acquired ∧
      (pool.release buffer).released = pool.released + 1 := by
  simp only [release]
  split
  · exact ⟨rfl, rfl⟩
  · split <;> exact ⟨rfl, rfl⟩

theorem acquired_sub_released {given held : Nat} (acquired : pool.acquired = .ofNat (given + held))
    (released : pool.released = .ofNat given) : pool.acquired - pool.released = .ofNat held := by
  rw [acquired, released, Nat.add_comm, UInt64.ofNat_add, UInt64.add_sub_cancel]

/-- The difference of the counters is exact, unless one of them has wrapped around. -/
theorem toNat_outstanding {given held : Nat} (acquired : pool.acquired = .ofNat (given + held))
    (released : pool.released = .ofNat given) (within : given + held < 2 ^ 64) :
    pool.outstanding.toNat = held := by
  have more : pool.released ≤ pool.acquired := by
    rw [UInt64.le_iff_toNat_le, acquired, released]
    simp only [UInt64.toNat_ofNat']
    omega
  rw [outstanding, if_neg (UInt64.not_lt.2 more), acquired_sub_released acquired released,
    UInt64.toNat_ofNat', Nat.mod_eq_of_lt]
  omega

/-! ## The free list -/

/-- The place of an element that is taken out is filled, and no other element is lost. -/
theorem perm_swapRemove {α : Type} {list : List α} {position : Nat} (inside : position < list.length) :
    list.Perm (list[position] :: swapRemove list position) := by
  obtain rfl | ⟨front, last, rfl⟩ := List.eq_nil_or_concat list
  · cases inside
  · simp only [List.concat_eq_append] at inside ⊢
    simp only [swapRemove, List.getLast?_concat]
    by_cases earlier : position < front.length
    · rw [List.set_append_left _ _ earlier, List.dropLast_concat,
        List.getElem_append_left earlier, List.set_eq_take_append_cons_drop, if_pos earlier]
      -- The last element goes where the one at the position was.
      calc
        (front ++ [last]).Perm (last :: front) := List.perm_append_comm
        _ = last :: (front.take position ++ front[position] :: front.drop (position + 1)) := by
          rw [List.getElem_cons_drop, List.take_append_drop]
        List.Perm _ (last :: front[position] ::
            (front.take position ++ front.drop (position + 1))) :=
          List.perm_middle.cons last
        List.Perm _ (front[position] :: last ::
            (front.take position ++ front.drop (position + 1))) := .swap _ _ _
        List.Perm _ (front[position] ::
            (front.take position ++ last :: front.drop (position + 1))) :=
          List.perm_middle.symm.cons _
    · obtain rfl : position = front.length := by
        rw [List.length_append, List.length_singleton] at inside
        omega
      simp only [List.getElem_concat_length, List.set_append_right _ _ (Nat.le_refl _),
        Nat.sub_self, List.set_cons_zero, List.dropLast_concat]
      exact List.perm_append_comm

/-- What holds of the free list at any time: it is within its bound, and what it holds is of use. -/
structure Tidy (pool : BufferPool) : Prop where
  within : pool.free.length ≤ pool.limit
  empty : ∀ buffer ∈ pool.free, buffer.contents = []
  roomy : ∀ buffer ∈ pool.free, 0 < buffer.capacity

/-- How a pool serves a request: with a new buffer only if no free one is large enough. -/
structure Serves (pool : BufferPool) (least : Nat) (next : BufferPool) (buffer : Buffer) : Prop where
  empty : buffer.contents = []
  enough : least ≤ buffer.capacity
  fresh : (∀ kept ∈ pool.free, kept.capacity < least) →
    buffer = .empty least ∧ next.free = pool.free
  /-- The buffer is taken out of the free list, and the others stay. -/
  reused : (∃ kept ∈ pool.free, least ≤ kept.capacity) → pool.free.Perm (buffer :: next.free)
  limit : next.limit = pool.limit

/-- How a pool takes a buffer back: it is kept, emptied, or given up. -/
structure TakesBack (pool : BufferPool) (buffer : Buffer) (next : BufferPool) : Prop where
  kept : 0 < buffer.capacity → pool.free.length < pool.limit →
    next.free = pool.free ++ [buffer.clear]
  discarded : buffer.capacity = 0 ∨ pool.limit ≤ pool.free.length → next.free = pool.free
  limit : next.limit = pool.limit

theorem serves_acquire (tidy : pool.Tidy) (least : Nat) :
    pool.Serves least (pool.acquire least).1 (pool.acquire least).2 := by
  refine ⟨pool.contents_acquire least, pool.le_capacity_acquire least, fun small => ?_, ?_, ?_⟩
  · have absent : (pool.free.findIdx? fun buffer => least ≤ buffer.capacity) = none := by
      simpa [List.findIdx?_eq_none_iff] using small
    simp only [acquire, absent, and_self]
  · rintro ⟨kept, member, large⟩
    obtain ⟨position, search⟩ :
        ∃ position, (pool.free.findIdx? fun buffer => least ≤ buffer.capacity) = some position := by
      rw [← Option.isSome_iff_exists, List.findIdx?_isSome, List.any_eq_true]
      exact ⟨kept, member, decide_eq_true large⟩
    obtain ⟨inside, -, -⟩ := List.findIdx?_eq_some_iff_getElem.1 search
    -- A free buffer is empty already, so that emptying it makes no difference.
    have cleared : pool.free[position].clear = pool.free[position] := by
      have empty := tidy.empty _ (List.getElem_mem inside)
      generalize pool.free[position] = buffer at empty
      obtain ⟨contents, capacity⟩ := buffer
      obtain rfl : contents = [] := empty
      rfl
    have taken : (pool.acquire least).1.free = swapRemove pool.free position ∧
        (pool.acquire least).2 = pool.free[position] := by
      simp only [acquire, search, List.getD_eq_getElem?_getD, List.getElem?_eq_getElem inside,
        Option.getD_some, cleared, and_self]
    rw [taken.1, taken.2]
    exact perm_swapRemove inside
  · simp only [acquire]
    split <;> rfl

theorem takesBack_release (pool : BufferPool) (buffer : Buffer) :
    pool.TakesBack buffer (pool.release buffer) := by
  simp only [release]
  by_cases none : buffer.capacity = 0
  · rw [if_pos none]
    refine ⟨fun room => ?_, fun _ => rfl, rfl⟩
    omega
  · rw [if_neg none]
    by_cases space : pool.free.length < pool.limit
    · rw [if_pos space]
      refine ⟨fun _ _ => rfl, fun useless => ?_, rfl⟩
      omega
    · rw [if_neg space]
      exact ⟨fun _ fits => absurd fits space, fun _ => rfl, rfl⟩

theorem Tidy.serve {least : Nat} {next : BufferPool} {buffer : Buffer} (tidy : pool.Tidy)
    (serves : pool.Serves least next buffer) : next.Tidy := by
  by_cases large : ∃ kept ∈ pool.free, least ≤ kept.capacity
  · have taken := serves.reused large
    have length := taken.length_eq
    have kept : ∀ other ∈ next.free, other ∈ pool.free := fun other member =>
      taken.mem_iff.2 (List.mem_cons_of_mem buffer member)
    refine ⟨?_, fun other member => tidy.empty other (kept other member), fun other member =>
      tidy.roomy other (kept other member)⟩
    have within := tidy.within
    rw [List.length_cons] at length
    rw [serves.limit]
    omega
  · obtain ⟨-, same⟩ := serves.fresh fun kept member =>
      Nat.not_le.1 fun fits => large ⟨kept, member, fits⟩
    refine ⟨?_, same ▸ tidy.empty, same ▸ tidy.roomy⟩
    rw [same, serves.limit]
    exact tidy.within

theorem Tidy.takeBack {next : BufferPool} {buffer : Buffer} (tidy : pool.Tidy)
    (takes : pool.TakesBack buffer next) : next.Tidy := by
  by_cases useful : 0 < buffer.capacity ∧ pool.free.length < pool.limit
  · obtain ⟨room, space⟩ := useful
    have free := takes.kept room space
    refine ⟨?_, ?_, ?_⟩
    · rw [free, takes.limit, List.length_append, List.length_singleton]
      omega
    · rw [free]
      simpa [or_imp, forall_and] using tidy.empty
    · rw [free]
      simpa [or_imp, forall_and, room] using tidy.roomy
  · have same := takes.discarded (by omega)
    refine ⟨?_, same ▸ tidy.empty, same ▸ tidy.roomy⟩
    rw [same, takes.limit]
    exact tidy.within

theorem tidy_new (limit : Nat) : (new limit).Tidy :=
  ⟨Nat.zero_le limit, fun _ member => (nomatch member), fun _ member => (nomatch member)⟩

end BufferPool

namespace BufferHolder

variable {holder next : BufferHolder} {request : Request} {outcome : Outcome}

/-- Carries out requests one after the other, as long as each names a buffer that is in hand. -/
def performAll (holder : BufferHolder) (requests : List Request) : Option BufferHolder :=
  requests.foldlM (fun holder request => (holder.perform request).map Prod.fst) holder

/-- How many buffers are in the holder's hands. -/
def inHand (holder : BufferHolder) : Nat := holder.hands.countP Option.isSome

def Request.acquires : Request → Bool
  | .acquire _ => true
  | _ => false

def Request.releases : Request → Bool
  | .release _ | .releaseForeign _ => true
  | _ => false

/-- Whether a request leaves it at what was borrowed: no buffer is split or brought along. -/
def Request.honest : Request → Bool
  | .split _ | .releaseForeign _ => false
  | .acquire _ | .append _ _ | .extend _ _ _ | .release _ => true

/-- What a request does to the pool and to the holder's hands. -/
def Treats (holder : BufferHolder) : Request → BufferHolder → Outcome → Prop
  | .acquire least, next, outcome => ∃ buffer, outcome = .one buffer ∧
      next.hands = holder.hands ++ [some buffer] ∧ holder.pool.Serves least next.pool buffer
  | .append _ _, next, _ | .extend _ _ _, next, _ | .split _, next, _ => next.pool = holder.pool
  | .release number, next, _ => ∃ buffer, holder.held? number = some buffer ∧
      next.hands = holder.hands.set number none ∧ holder.pool.TakesBack buffer next.pool
  | .releaseForeign buffer, next, _ =>
      next.hands = holder.hands ∧ holder.pool.TakesBack buffer next.pool

theorem treats_of_perform (tidy : holder.pool.Tidy)
    (performed : holder.perform request = some (next, outcome)) :
    holder.Treats request next outcome := by
  cases request with
  | acquire least =>
      cases performed
      exact ⟨_, rfl, rfl, BufferPool.serves_acquire tidy least⟩
  | append | extend | split =>
      obtain ⟨buffer, held, same⟩ := Option.bind_eq_some_iff.1 performed
      cases same
      rfl
  | release number =>
      obtain ⟨buffer, held, same⟩ := Option.bind_eq_some_iff.1 performed
      cases same
      exact ⟨buffer, held, rfl, BufferPool.takesBack_release holder.pool buffer⟩
  | releaseForeign buffer =>
      cases performed
      exact ⟨rfl, BufferPool.takesBack_release holder.pool buffer⟩

theorem Treats.tidy (treats : holder.Treats request next outcome) (tidy : holder.pool.Tidy) :
    next.pool.Tidy ∧ next.pool.limit = holder.pool.limit := by
  cases request with
  | acquire least =>
      obtain ⟨buffer, -, -, serves⟩ := treats
      exact ⟨tidy.serve serves, serves.limit⟩
  | append | extend | split =>
      have same : next.pool = holder.pool := treats
      exact ⟨same ▸ tidy, by rw [same]⟩
  | release number =>
      obtain ⟨buffer, -, -, takes⟩ := treats
      exact ⟨tidy.takeBack takes, takes.limit⟩
  | releaseForeign buffer => exact ⟨tidy.takeBack treats.2, treats.2.limit⟩

theorem counters_of_perform (performed : holder.perform request = some (next, outcome)) :
    next.pool.acquired = holder.pool.acquired + .ofNat ([request].countP Request.acquires) ∧
      next.pool.released = holder.pool.released + .ofNat ([request].countP Request.releases) := by
  have none (counter : UInt64) : counter + .ofNat 0 = counter := UInt64.add_zero counter
  cases request with
  | acquire least =>
      cases performed
      obtain ⟨acquired, released⟩ := holder.pool.acquired_acquire least
      exact ⟨acquired, released.trans (none _).symm⟩
  | append | extend | split =>
      obtain ⟨buffer, held, same⟩ := Option.bind_eq_some_iff.1 performed
      cases same
      exact ⟨(none _).symm, (none _).symm⟩
  | release number =>
      obtain ⟨buffer, held, same⟩ := Option.bind_eq_some_iff.1 performed
      cases same
      obtain ⟨acquired, released⟩ := holder.pool.released_release buffer
      exact ⟨acquired.trans (none _).symm, released⟩
  | releaseForeign buffer =>
      cases performed
      obtain ⟨acquired, released⟩ := holder.pool.released_release buffer
      exact ⟨acquired.trans (none _).symm, released⟩

/-! ## Hands -/

/-- A buffer in hand that is put down or taken up again. -/
theorem countP_hands_set {number : Nat} {buffer : Buffer} (held : holder.held? number = some buffer)
    (hand : Option Buffer) :
    (holder.hands.set number hand).countP Option.isSome + 1 =
      holder.inHand + [hand].countP Option.isSome := by
  obtain ⟨full, found⟩ : ∃ hand, holder.hands[number]? = some hand ∧ hand = some buffer := by
    simpa [held?, Option.join_eq_some_iff] using held
  obtain ⟨found, rfl⟩ := found
  obtain ⟨inside, element⟩ := List.getElem?_eq_some_iff.1 found
  have some : 0 < holder.hands.countP Option.isSome :=
    List.countP_pos_iff.2 ⟨_, List.mem_of_getElem? found, rfl⟩
  rw [List.countP_set inside, element, inHand]
  cases hand <;> simp <;> omega

/-- Writing to a buffer leaves it in hand. -/
theorem inHand_set {number : Nat} {buffer : Buffer} (held : holder.held? number = some buffer)
    (other : Buffer) :
    (holder.hands.set number (some other)).countP Option.isSome = holder.inHand := by
  have count := countP_hands_set held (some other)
  rw [List.countP_singleton, Option.isSome_some, if_pos rfl] at count
  omega

/-- An honest request takes up one buffer or puts one down, or neither. -/
theorem inHand_of_perform (honest : request.honest = true)
    (performed : holder.perform request = some (next, outcome)) :
    next.inHand + [request].countP Request.releases =
      holder.inHand + [request].countP Request.acquires := by
  cases request with
  | acquire least =>
      cases performed
      simp [inHand, Request.releases, Request.acquires]
  | append | extend =>
      obtain ⟨buffer, held, same⟩ := Option.bind_eq_some_iff.1 performed
      cases same
      exact congrArg (· + 0) (inHand_set held _)
  | release number =>
      obtain ⟨buffer, held, same⟩ := Option.bind_eq_some_iff.1 performed
      cases same
      have count := countP_hands_set held none
      simp [inHand, Request.releases, Request.acquires] at count ⊢
      omega
  | split number => cases honest
  | releaseForeign buffer => cases honest

/-! ## A whole history -/

/-- What holds after some requests. -/
structure Reckoned (limit : Nat) (requests : List Request) (holder : BufferHolder) : Prop where
  tidy : holder.pool.Tidy
  limit : holder.pool.limit = limit
  acquired : holder.pool.acquired = .ofNat (requests.countP Request.acquires)
  released : holder.pool.released = .ofNat (requests.countP Request.releases)
  balance : requests.all Request.honest = true →
    requests.countP Request.acquires = requests.countP Request.releases + holder.inHand

theorem Reckoned.perform {limit : Nat} {requests : List Request}
    (reckoned : Reckoned limit requests holder)
    (performed : holder.perform request = some (next, outcome)) :
    Reckoned limit (requests ++ [request]) next := by
  obtain ⟨tidy, kept⟩ := (treats_of_perform reckoned.tidy performed).tidy reckoned.tidy
  obtain ⟨acquired, released⟩ := counters_of_perform performed
  refine ⟨tidy, kept.trans reckoned.limit, ?_, ?_, fun honest => ?_⟩
  · rw [List.countP_append, UInt64.ofNat_add, acquired, reckoned.acquired]
  · rw [List.countP_append, UInt64.ofNat_add, released, reckoned.released]
  · rw [List.all_append, Bool.and_eq_true] at honest
    obtain ⟨earlier, last⟩ := honest
    have before := reckoned.balance earlier
    have change := inHand_of_perform (by simpa using last) performed
    rw [List.countP_append, List.countP_append]
    omega

theorem reckoned_of_performAll {limit : Nat} {requests : List Request}
    (performed : performAll ⟨.new limit, []⟩ requests = some holder) :
    Reckoned limit requests holder := by
  induction requests using List.reverseRecOn generalizing holder with
  | nil =>
      cases performed
      exact ⟨BufferPool.tidy_new limit, rfl, rfl, rfl, fun _ => rfl⟩
  | append_singleton requests request ih =>
      rw [performAll, List.foldlM_append] at performed
      obtain ⟨middle, before, last⟩ := Option.bind_eq_some_iff.1 performed
      obtain ⟨outcome, performed⟩ : ∃ outcome, middle.perform request = some (holder, outcome) := by
        simpa using last
      exact (ih before).perform performed

/--
After whatever requests: the free list is within its bound and holds only empty buffers with some
room, every further request does to it what is expected, the counters count the calls, and if no
buffer was split or brought along, they tell how many are in the holder's hands.
-/
theorem pool_stays_tidy {limit : Nat} {requests : List Request}
    (performed : performAll ⟨.new limit, []⟩ requests = some holder) :
    (holder.pool.limit = limit ∧ holder.pool.free.length ≤ limit ∧
        ∀ buffer ∈ holder.pool.free, buffer.contents = [] ∧ 0 < buffer.capacity) ∧
      (∀ request next outcome, holder.perform request = some (next, outcome) →
        holder.Treats request next outcome) ∧
      (∀ least, (holder.perform (.acquire least)).isSome) ∧
      holder.pool.acquired = .ofNat (requests.countP Request.acquires) ∧
      holder.pool.released = .ofNat (requests.countP Request.releases) ∧
      (requests.all Request.honest = true →
        requests.countP Request.acquires =
            requests.countP Request.releases + holder.inHand ∧
          holder.pool.acquired - holder.pool.released = .ofNat holder.inHand ∧
          (requests.countP Request.acquires < 2 ^ 64 →
            holder.pool.outstanding.toNat = holder.inHand)) := by
  obtain ⟨tidy, kept, acquired, released, balance⟩ := reckoned_of_performAll performed
  refine ⟨⟨kept, kept ▸ tidy.within, fun buffer member => ⟨tidy.empty buffer member,
    tidy.roomy buffer member⟩⟩, fun request next outcome => treats_of_perform tidy, fun _ => rfl,
    acquired, released, fun honest => ?_⟩
  have even := balance honest
  rw [even] at acquired ⊢
  exact ⟨rfl, BufferPool.acquired_sub_released acquired released,
    BufferPool.toNat_outstanding acquired released⟩

/-- Three buffers of different sizes are borrowed and given back, to a pool that keeps two. -/
def mixedSizes : List Request :=
  [.acquire 4, .acquire 8, .append 1 [1, 2, 3], .acquire 2, .release 0, .release 1, .release 2]

/-- The first one that is large enough serves the next request, emptied, and the other stays. -/
theorem served_after_mixedSizes :
    ∃ holder next buffer, performAll ⟨.new 2, []⟩ mixedSizes = some holder ∧
      holder.pool.free = [.empty 4, .empty 8] ∧ holder.inHand = 0 ∧
      holder.pool.outstanding.toNat = 0 ∧
      holder.perform (.acquire 5) = some (next, .one buffer) ∧
      holder.pool.Serves 5 next.pool buffer ∧ next.pool.free = [.empty 4] := by
  have performed : ∃ holder, performAll ⟨.new 2, []⟩ mixedSizes = some holder ∧
      holder.pool.free = [.empty 4, .empty 8] ∧ holder.inHand = 0 ∧
      ∃ next, holder.perform (.acquire 5) = some (next, .one (.empty 8)) ∧
        next.pool.free = [.empty 4] := ⟨_, rfl, rfl, rfl, _, rfl, rfl⟩
  obtain ⟨holder, performed, free, put, next, served, left⟩ := performed
  obtain ⟨-, treats, -, -, -, balance⟩ := pool_stays_tidy performed
  obtain ⟨-, -, outstanding⟩ := balance (by decide)
  obtain ⟨buffer, same, -, serves⟩ := treats _ _ _ served
  cases same
  exact ⟨holder, next, _, performed, free, put, (outstanding (by decide)).trans put, served, serves,
    left⟩

end BufferHolder

end DatagramMux
