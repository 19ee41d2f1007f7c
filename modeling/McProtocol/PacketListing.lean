import McProtocol.Registry

/-! # Going through the packets of a release

The catalog can be gone through by number: the packets of all states, in both directions, stand in
one row, the lists one behind the other.
-/

namespace McProtocol

structure McPacketInfo where
  state : McState
  direction : McPacketDirection
  id : Int
  name : String
  deriving Repr, DecidableEq

/-- The lists of a release, in the order in which they are numbered. -/
def packetLists : List (McState × McPacketDirection) :=
  [(.login, .serverbound), (.login, .clientbound), (.configuration, .serverbound),
    (.configuration, .clientbound), (.play, .serverbound), (.play, .clientbound),
    (.status, .serverbound), (.status, .clientbound)]

theorem mem_packetLists {state : McState} {direction : McPacketDirection} :
    (state, direction) ∈ packetLists ↔ state ≠ .disconnected := by
  cases state <;> cases direction <;> simp [packetLists]

theorem packetLists_nodup : packetLists.Nodup := by
  simp [packetLists]

namespace McPacketCatalog

section numbering

variable (catalog : McPacketCatalog) (protocol : Int)

/-- How many packets a list has. -/
def listLength (list : McState × McPacketDirection) : Nat :=
  (catalog.names protocol list.1 list.2).length

def mcPacketCount : Nat :=
  if mcProtocolSupported protocol = true then (packetLists.map (catalog.listLength protocol)).sum
  else 0

/-- The loop of `mc_packet_at`: an index behind a list counts from the next one. -/
def packetAt : List (McState × McPacketDirection) → Nat → Option McPacketInfo
  | [], _ => none
  | (state, direction) :: rest, index =>
      if within : index < (catalog.names protocol state direction).length then
        some ⟨state, direction, index, (catalog.names protocol state direction).get ⟨index, within⟩⟩
      else packetAt rest (index - (catalog.names protocol state direction).length)

def mcPacketAt (index : Nat) : Option McPacketInfo :=
  if mcProtocolSupported protocol = true then catalog.packetAt protocol packetLists index else none

end numbering

section loop

variable {catalog : McPacketCatalog} {protocol : Int} {state : McState}
  {direction : McPacketDirection} {lists : List (McState × McPacketDirection)} {index : Nat}
  {name : String} {info : McPacketInfo}

theorem packetAt_within (named : (catalog.names protocol state direction)[index]? = some name) :
    catalog.packetAt protocol ((state, direction) :: lists) index =
      some ⟨state, direction, index, name⟩ := by
  obtain ⟨within, rfl⟩ := List.getElem?_eq_some_iff.mp named
  exact dif_pos within

theorem packetAt_behind (index : Nat) :
    catalog.packetAt protocol ((state, direction) :: lists)
        ((catalog.names protocol state direction).length + index) =
      catalog.packetAt protocol lists index := by
  have behind : ¬ (catalog.names protocol state direction).length + index <
    (catalog.names protocol state direction).length := by omega
  rw [packetAt, dif_neg behind, Nat.add_sub_cancel_left]

/-- An index is in the first list or behind it. -/
theorem within_or_behind (catalog : McPacketCatalog) (protocol : Int) (state : McState)
    (direction : McPacketDirection) (index : Nat) :
    (∃ name, (catalog.names protocol state direction)[index]? = some name) ∨
      ∃ back, index = (catalog.names protocol state direction).length + back := by
  by_cases within : index < (catalog.names protocol state direction).length
  · exact .inl ⟨_, List.getElem?_eq_getElem within⟩
  · exact .inr ⟨index - (catalog.names protocol state direction).length, by omega⟩

theorem packetAt_eq_none_iff :
    catalog.packetAt protocol lists index = none ↔
      (lists.map (catalog.listLength protocol)).sum ≤ index := by
  induction lists generalizing index with
  | nil => simp [packetAt]
  | cons list rest ih =>
      obtain ⟨state, direction⟩ := list
      simp only [List.map_cons, List.sum_cons, listLength]
      obtain ⟨name, named⟩ | ⟨back, rfl⟩ := within_or_behind catalog protocol state direction index
      · obtain ⟨within, -⟩ := List.getElem?_eq_some_iff.mp named
        simp only [packetAt_within named, reduceCtorEq, false_iff]
        omega
      · rw [packetAt_behind, ih]
        exact (Nat.add_le_add_iff_left).symm

/-- What is returned is in one of the lists, at the place of its id. -/
theorem packetAt_named (found : catalog.packetAt protocol lists index = some info) :
    (info.state, info.direction) ∈ lists ∧
      ∃ place : Nat, info.id = place ∧
        (catalog.names protocol info.state info.direction)[place]? = some info.name := by
  induction lists generalizing index with
  | nil => cases found
  | cons list rest ih =>
      obtain ⟨state, direction⟩ := list
      obtain ⟨name, named⟩ | ⟨back, rfl⟩ := within_or_behind catalog protocol state direction index
      · rw [packetAt_within named] at found
        cases found
        exact ⟨List.mem_cons_self, index, rfl, named⟩
      · rw [packetAt_behind] at found
        obtain ⟨listed, place⟩ := ih found
        exact ⟨List.mem_cons_of_mem _ listed, place⟩

/-- What is in one of the lists is returned. -/
theorem exists_packetAt (listed : (state, direction) ∈ lists) {place : Nat}
    (named : (catalog.names protocol state direction)[place]? = some name) :
    ∃ index, catalog.packetAt protocol lists index = some ⟨state, direction, place, name⟩ := by
  induction lists with
  | nil => cases listed
  | cons list rest ih =>
      rcases List.mem_cons.mp listed with rfl | behind
      · exact ⟨place, packetAt_within named⟩
      · obtain ⟨index, found⟩ := ih behind
        obtain ⟨first, second⟩ := list
        exact ⟨_, (packetAt_behind index).trans found⟩

/-- The first list does not come again behind itself, so no packet does. -/
theorem packetAt_inj (nodup : lists.Nodup) {other : Nat}
    (found : catalog.packetAt protocol lists index = some info)
    (again : catalog.packetAt protocol lists other = some info) : index = other := by
  induction lists generalizing index other with
  | nil => cases found
  | cons list rest ih =>
      obtain ⟨state, direction⟩ := list
      obtain ⟨fresh, nodup⟩ := List.nodup_cons.mp nodup
      obtain ⟨name, named⟩ | ⟨back, rfl⟩ := within_or_behind catalog protocol state direction index
      · rw [packetAt_within named] at found
        cases found
        obtain ⟨name', named'⟩ | ⟨back, rfl⟩ :=
          within_or_behind catalog protocol state direction other
        · rw [packetAt_within named'] at again
          simp only [Option.some.injEq, McPacketInfo.mk.injEq, true_and] at again
          omega
        · rw [packetAt_behind] at again
          exact absurd (packetAt_named again).1 fresh
      · rw [packetAt_behind] at found
        obtain ⟨name', named'⟩ | ⟨back', rfl⟩ :=
          within_or_behind catalog protocol state direction other
        · rw [packetAt_within named'] at again
          cases again
          exact absurd (packetAt_named found).1 fresh
        · rw [packetAt_behind] at again
          rw [ih nodup found again]

/-- A packet has a name where its list has one at the place of its id. -/
theorem mcPacketName_eq_some_iff (supported : mcProtocolSupported protocol = true) {id : Int} :
    catalog.mcPacketName protocol state direction id = some name ↔
      (state, direction) ∈ packetLists ∧ ∃ place : Nat, id = place ∧
        (catalog.names protocol state direction)[place]? = some name := by
  unfold mcPacketName packetMap
  rw [mem_packetLists]
  by_cases connected : state = .disconnected
  · simp [connected]
  · simp only [supported, connected, ne_eq, not_false_eq_true, and_self, if_true, true_and]
    constructor
    · intro named
      split_ifs at named with negative
      exact ⟨id.toNat, by omega, named⟩
    · rintro ⟨place, rfl, named⟩
      rw [if_neg (by omega)]
      exact named

end loop

end McPacketCatalog

/-- The packets of a release are numbered from 0 on, without a gap: each packet that has a name has
one number, and no other packet has one. -/
theorem mcPacketAt_numbers (catalog : McPacketCatalog) (protocol : Int) :
    (∀ index, catalog.mcPacketAt protocol index = none ↔ catalog.mcPacketCount protocol ≤ index) ∧
      ∀ state direction id name,
        catalog.mcPacketName protocol state direction id = some name ↔
          ∃! index, catalog.mcPacketAt protocol index = some ⟨state, direction, id, name⟩ := by
  unfold McPacketCatalog.mcPacketAt McPacketCatalog.mcPacketCount
  by_cases supported : mcProtocolSupported protocol = true
  · simp only [supported, if_true]
    constructor
    · intro index
      exact McPacketCatalog.packetAt_eq_none_iff
    · intro state direction id name
      rw [McPacketCatalog.mcPacketName_eq_some_iff supported]
      constructor
      · rintro ⟨listed, place, rfl, named⟩
        obtain ⟨index, found⟩ := McPacketCatalog.exists_packetAt listed named
        exact ⟨index, found, fun other again =>
          McPacketCatalog.packetAt_inj packetLists_nodup again found⟩
      · rintro ⟨index, found, -⟩
        exact McPacketCatalog.packetAt_named found
  · simp [supported, McPacketCatalog.mcPacketName, McPacketCatalog.packetMap]

end McProtocol
