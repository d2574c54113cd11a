import DatagramMux.Error

/-!
# The session registry

A table from connection identifiers to sessions in which no identifier occurs twice. The entries are
kept in the order of their insertion. Each operation is described by what it does to the entries or
to the list of the registered identifiers.
-/

namespace DatagramMux

/-- A table from connection identifiers to sessions. -/
structure Registry (Session : Type) where
  entries : List (ConnectionId × Session)
  /-- No identifier occurs twice. -/
  distinct : (entries.map Prod.fst).Nodup

namespace Registry

variable {Session : Type}

def empty : Registry Session := ⟨[], List.nodup_nil⟩

instance : Inhabited (Registry Session) := ⟨empty⟩

/-- The registered identifiers, oldest first. -/
def identifiers (registry : Registry Session) : List ConnectionId := registry.entries.map Prod.fst

/-- The session registered under an identifier. -/
def lookup? (registry : Registry Session) (identifier : ConnectionId) : Option Session :=
  (registry.entries.find? fun entry => entry.1 = identifier).map Prod.snd

def contains (registry : Registry Session) (identifier : ConnectionId) : Bool :=
  registry.entries.any fun entry => entry.1 = identifier

theorem contains_eq_true_iff {registry : Registry Session} {identifier : ConnectionId} :
    registry.contains identifier = true ↔ identifier ∈ registry.identifiers := by
  simp only [contains, identifiers, List.any_eq_true, decide_eq_true_eq, List.mem_map]

/-- Adds a session; there is no result if the identifier is taken. -/
def insert? (registry : Registry Session) (identifier : ConnectionId) (session : Session) :
    Option (Registry Session) :=
  if taken : registry.contains identifier then none
  else some
    { entries := registry.entries ++ [(identifier, session)]
      distinct := by
        have free : identifier ∉ registry.entries.map Prod.fst :=
          fun member => taken (contains_eq_true_iff.2 member)
        rw [List.map_append, List.map_cons, List.map_nil]
        exact List.nodup_append.2
          ⟨registry.distinct, by simp, fun other member last same equal => by
            have other_eq : other = identifier := equal.trans (List.mem_singleton.1 same)
            exact free (other_eq ▸ member)⟩ }

/-- The table without the entry of an identifier. -/
def erase (registry : Registry Session) (identifier : ConnectionId) : Registry Session where
  entries := registry.entries.filter fun entry => ¬ entry.1 = identifier
  distinct := registry.distinct.sublist (List.Sublist.map _ List.filter_sublist)

/-- Takes out the session registered under an identifier, if any. -/
def remove (registry : Registry Session) (identifier : ConnectionId) :
    Registry Session × Option Session :=
  match registry.lookup? identifier with
  | none => (registry, none)
  | some session => (registry.erase identifier, some session)

def size (registry : Registry Session) : Nat := registry.entries.length

@[simp]
theorem identifiers_erase (registry : Registry Session) (identifier : ConnectionId) :
    (registry.erase identifier).identifiers =
      registry.identifiers.filter fun other => ¬ other = identifier := by
  simp only [erase, identifiers, List.filter_map, Function.comp_def]

theorem lookup?_eq_none_iff {registry : Registry Session} {identifier : ConnectionId} :
    registry.lookup? identifier = none ↔ identifier ∉ registry.identifiers := by
  simp only [lookup?, identifiers, Option.map_eq_none_iff, List.find?_eq_none, decide_eq_true_eq,
    List.mem_map, not_exists, not_and]

theorem lookup?_eq_some_iff {registry : Registry Session} {identifier : ConnectionId}
    {session : Session} :
    registry.lookup? identifier = some session ↔ (identifier, session) ∈ registry.entries := by
  obtain ⟨entries, distinct⟩ := registry
  simp only [lookup?]
  induction entries with
  | nil => simp
  | cons entry rest ih =>
      obtain ⟨other, found⟩ := entry
      rw [List.map_cons, List.nodup_cons] at distinct
      by_cases same : other = identifier
      · subst same
        have absent : (other, session) ∉ rest := fun member =>
          distinct.1 (List.mem_map.2 ⟨_, member, rfl⟩)
        simp [absent, eq_comm]
      · have different : ¬ identifier = other := fun equal => same equal.symm
        simp [same, different, ih distinct.2]

theorem insert?_eq_none_iff {registry : Registry Session} {identifier : ConnectionId}
    {session : Session} :
    registry.insert? identifier session = none ↔ identifier ∈ registry.identifiers := by
  rw [← contains_eq_true_iff]
  unfold insert?
  split <;> simp_all

theorem entries_of_insert? {registry extended : Registry Session} {identifier : ConnectionId}
    {session : Session} (inserted : registry.insert? identifier session = some extended) :
    extended.entries = registry.entries ++ [(identifier, session)] := by
  unfold insert? at inserted
  split at inserted
  · cases inserted
  · cases inserted
    rfl

@[simp]
theorem snd_remove (registry : Registry Session) (identifier : ConnectionId) :
    (registry.remove identifier).2 = registry.lookup? identifier := by
  unfold remove
  split <;> simp_all

theorem erase_of_not_mem {registry : Registry Session} {identifier : ConnectionId}
    (absent : identifier ∉ registry.identifiers) : registry.erase identifier = registry := by
  have unchanged : (registry.erase identifier).entries = registry.entries :=
    List.filter_eq_self.2 fun entry member =>
      decide_eq_true fun same => absent (List.mem_map.2 ⟨entry, member, same⟩)
  cases registry
  simp only [erase] at unchanged ⊢
  simp only [unchanged]

@[simp]
theorem fst_remove (registry : Registry Session) (identifier : ConnectionId) :
    (registry.remove identifier).1 = registry.erase identifier := by
  unfold remove
  split
  · next absent => exact (erase_of_not_mem (lookup?_eq_none_iff.1 absent)).symm
  · rfl

end Registry

end DatagramMux
