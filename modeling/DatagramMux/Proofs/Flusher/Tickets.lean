import DatagramMux.Proofs.Flusher.Deal

/-!
# Tickets

The tickets are handed out in order and used in order: those that were used, followed by those that
are still unused, are all the tickets that there are. The endpoint begins the writes in the same
order.
-/

namespace DatagramMux.Flusher

open Component

variable {Callback : Type}

/-- The tickets agree with the journal. -/
structure Ticketed (journal : Journal Callback) (flusher : Flusher Callback)
    (cargo : Cargo Callback) : Prop where
  next : flusher.handed = journal.handed.length
  used : journal.completed.map Prod.fst ++ flusher.outstanding = List.range journal.handed.length
  begun : ∃ calls : List (WriteEntry Callback × Nat),
    ↑calls = cargo.calling ∧ journal.written ++ calls = journal.handed.zipIdx

namespace Ticketed

variable {journal : Journal Callback} {flusher next : Flusher Callback}
variable {move : FlusherMove Callback} {before after others : Cargo Callback}

theorem mem_outstanding_iff {cargo : Cargo Callback} (ticketed : Ticketed journal flusher cargo)
    {ticket : Nat} :
    ticket ∈ flusher.outstanding ↔
      ticket < journal.handed.length ∧ ticket ∉ journal.completed.map Prod.fst := by
  have distinct : (journal.completed.map Prod.fst ++ flusher.outstanding).Nodup :=
    ticketed.used ▸ List.nodup_range
  rw [← List.mem_range, ← ticketed.used, List.mem_append]
  constructor
  · intro unused
    exact ⟨.inr unused, fun used => List.disjoint_of_nodup_append distinct used unused⟩
  · rintro ⟨used | unused, fresh⟩
    · exact absurd used fresh
    · exact unused

/-- A ticket is unused just if the journal would note its use. -/
theorem record_redeem {cargo : Cargo Callback} (ticketed : Ticketed journal flusher cargo)
    (ticket : Nat) (completion : Completion) :
    journal.record (.work (.redeem ticket completion)) =
      if ticket ∈ flusher.outstanding then
        { journal with completed := journal.completed ++ [(ticket, completion)] }
      else journal := by
  simp only [Journal.record, ticketed.mem_outstanding_iff]

theorem outstanding_eq {cargo : Cargo Callback} (ticketed : Ticketed journal flusher cargo) :
    flusher.outstanding =
      (List.range journal.handed.length).filter (· ∉ journal.completed.map Prod.fst) := by
  have distinct : (journal.completed.map Prod.fst ++ flusher.outstanding).Nodup :=
    ticketed.used ▸ List.nodup_range
  have used : (journal.completed.map Prod.fst).filter
      (· ∉ journal.completed.map Prod.fst) = [] := by
    rw [List.filter_eq_nil_iff]
    intro ticket member
    simpa using member
  have unused : flusher.outstanding.filter (· ∉ journal.completed.map Prod.fst) =
      flusher.outstanding := by
    rw [List.filter_eq_self]
    intro ticket member
    simpa using fun completion used => List.disjoint_of_nodup_append distinct
      (List.mem_map.2 ⟨(ticket, completion), used, rfl⟩) member
  rw [← ticketed.used, List.filter_append, used, unused, List.nil_append]

theorem written_prefix {cargo : Cargo Callback} (ticketed : Ticketed journal flusher cargo) :
    journal.written <+: journal.handed.zipIdx := by
  obtain ⟨calls, -, begun⟩ := ticketed.begun
  exact ⟨calls, begun⟩

theorem nodup_written {cargo : Cargo Callback} (ticketed : Ticketed journal flusher cargo) :
    (journal.written.map Prod.snd).Nodup := by
  have tickets := (ticketed.written_prefix.map Prod.snd).sublist
  rw [List.zipIdx_map_snd] at tickets
  exact tickets.nodup List.nodup_range'

theorem lt_of_written {cargo : Cargo Callback} (ticketed : Ticketed journal flusher cargo)
    {ticket : Nat} (written : ticket ∈ journal.written.map Prod.snd) :
    ticket < journal.handed.length := by
  obtain ⟨⟨entry, ticket⟩, member, rfl⟩ := List.mem_map.1 written
  have handed := ticketed.written_prefix.subset member
  rw [List.mk_mem_zipIdx_iff_getElem?] at handed
  exact (List.getElem?_eq_some_iff.1 handed).1

theorem uncompleted_sublist {cargo : Cargo Callback} (ticketed : Ticketed journal flusher cargo) :
    (journal.uncompleted.map Prod.snd).Sublist flusher.outstanding := by
  have tickets := ticketed.written_prefix.map Prod.snd
  rw [List.zipIdx_map_snd, ← List.range_eq_range'] at tickets
  rw [ticketed.outstanding_eq, Journal.uncompleted_tickets]
  exact tickets.sublist.filter _

/-- Unless a call to the endpoint is just about to be made, all unused tickets are under way. -/
theorem uncompleted_eq {cargo : Cargo Callback} (ticketed : Ticketed journal flusher cargo)
    (silent : cargo.calling = 0) : journal.uncompleted.map Prod.snd = flusher.outstanding := by
  obtain ⟨calls, calling, begun⟩ := ticketed.begun
  obtain rfl : calls = [] := (Multiset.coe_eq_zero _).1 (calling.trans silent)
  rw [ticketed.outstanding_eq, List.range_eq_range', ← List.zipIdx_map_snd 0 journal.handed,
    ← begun, List.append_nil, Journal.uncompleted_tickets]

theorem deal (bounded : Bounded flusher (before + others))
    (deal : Deal flusher move before next after)
    (ticketed : Ticketed journal flusher (before + others)) :
    Ticketed (journal.record move) next (after + others) := by
  have record_redeem := ticketed.record_redeem
  obtain ⟨nextTicket, used, calls, calling, begun⟩ := ticketed
  obtain ⟨handing, awaiting⟩ := bounded
  cases deal with
  | plain _ _ _ silent queue current handed outstanding =>
      rw [silent]
      exact ⟨handed ▸ nextTicket, outstanding ▸ used, calls, calling, begun⟩
  | offer | enqueue | turnAway | commit | collect | miss | tell | drain | take =>
      exact ⟨nextTicket, used, calls, calling, begun⟩
  | refuse => exact ⟨nextTicket, used, calls, by simpa using calling, begun⟩
  | hand entry =>
      -- Nothing else is on its way, so the new ticket is the only one that is unused.
      simp only [Cargo.passing_add, Cargo.calling_add, Multiset.card_add,
        Multiset.card_singleton] at handing awaiting
      have none : flusher.outstanding = [] := List.eq_nil_of_length_eq_zero (by omega)
      have silent : others.calling = 0 := Multiset.card_eq_zero.1 (by omega)
      obtain rfl : calls = [] := (Multiset.coe_eq_zero _).1 (by simpa [silent] using calling)
      refine ⟨?_, ?_, [(entry, flusher.handed)], by simp [silent], ?_⟩
      · simp [Journal.record, nextTicket]
      · simpa [Journal.record, none, nextTicket, List.range_succ] using used
      · simpa [Journal.record, nextTicket, List.zipIdx_append] using begun
  | write entry ticket =>
      simp only [Cargo.calling_add, Multiset.card_add, Multiset.card_singleton] at handing
      have silent : others.calling = 0 := Multiset.card_eq_zero.1 (by omega)
      obtain rfl : calls = [(entry, ticket)] :=
        Multiset.coe_eq_singleton.1 (by simpa [silent] using calling)
      refine ⟨nextTicket, used, [], by simp [silent], ?_⟩
      simpa [Journal.record] using begun
  | redeem ticket completion unused =>
      -- There is only one unused ticket, so it is the one that is used.
      have length := List.length_pos_of_mem unused
      obtain ⟨only, outstanding⟩ := List.length_eq_one_iff.1
        (by omega : flusher.outstanding.length = 1)
      obtain rfl : ticket = only := by simpa [outstanding] using unused
      rw [record_redeem, if_pos unused]
      refine ⟨nextTicket, ?_, calls, by simpa using calling, begun⟩
      simpa [outstanding] using used
  | stale ticket completion spent =>
      rw [record_redeem, if_neg spent]
      exact ⟨nextTicket, used, calls, calling, begun⟩

end Ticketed

theorem ticketed_new : Ticketed ({} : Journal Callback) new 0 := ⟨rfl, rfl, [], rfl, rfl⟩

end DatagramMux.Flusher
