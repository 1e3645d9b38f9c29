import Mathlib.Algebra.BigOperators.Group.Finset.Basic
import RoomDraw.Generator.Script
import RoomDraw.Proofs.Membership
import RoomDraw.Proofs.Seating.Plan

/-!
# Memberships are conserved

The total of all memberships is taken over the users that are stored, without looking at the rooms.
It is the sum of the sizes of the rooms all the same, because every member is stored, once, with the
number of its occurrences; and it is the sum over any users among whom all members are.
-/

namespace RoomDraw

namespace Memberships

/-! ### Stored users -/

/-- Every stored number belongs to a stored user. -/
lemma values_eq_map_toList (m : Memberships) : m.counts.values = m.counts.toList.map Prod.snd := by
  -- both lists are read off the table inside, for which alone the library compares them
  have hvalues : m.counts.values = m.counts.inner.inner.values := rfl
  have hlist : m.counts.toList = Std.DHashMap.Raw.Const.toList m.counts.inner.inner := rfl
  rw [hvalues, hlist, Std.DHashMap.Internal.Raw.values_eq_values_toListModel,
    Std.DHashMap.Internal.Raw.Const.toList_eq_toListModel_map, Std.Internal.List.values_eq_map,
    List.map_map]
  rfl

/-- The total is the sum over the stored users. -/
lemma total_eq_sum_keys (m : Memberships) : m.total = (m.counts.keys.map m.get).sum := by
  have hget : ∀ entry ∈ m.counts.toList, m.get entry.1 = entry.2 := by
    intro entry hentry
    rw [get, Std.HashMap.getD_eq_getD_getElem?,
      Std.HashMap.mem_toList_iff_getElem?_eq_some.mp hentry, Option.getD_some]
  rw [total, ← List.sum_eq_foldr, values_eq_map_toList, ← Std.HashMap.map_fst_toList_eq_keys,
    List.map_map]
  exact congrArg List.sum (List.map_congr_left fun entry hentry => (hget entry hentry).symm)

lemma mem_keys_of_get_ne_zero {m : Memberships} {user : String} (h : m.get user ≠ 0) :
    user ∈ m.counts.keys := by
  rw [Std.HashMap.mem_keys]
  by_contra hmem
  exact h (Std.HashMap.getD_eq_fallback hmem)

/-! ### Members of rooms -/

/-- Over users among whom all members are, the memberships are as many as members. -/
lemma sum_get_ofRooms {rooms : List Room} {users : List String} (hnodup : users.Nodup)
    (h : ∀ room ∈ rooms, ∀ user ∈ room.members, user ∈ users) :
    (users.map (ofRooms rooms).get).sum = (rooms.map Room.size).sum := by
  have hmem : ∀ user ∈ (rooms.flatMap Room.members : Multiset String), user ∈ users.toFinset := by
    intro user huser
    obtain ⟨room, hroom, huser⟩ := List.mem_flatMap.mp (Multiset.mem_coe.mp huser)
    exact List.mem_toFinset.mpr (h room hroom user huser)
  calc (users.map (ofRooms rooms).get).sum
      = ∑ user ∈ users.toFinset, (rooms.flatMap Room.members).count user := by
        rw [List.sum_toFinset _ hnodup]
        exact congrArg List.sum (List.map_congr_left fun user _ => get_ofRooms rooms user)
    _ = (rooms.flatMap Room.members).length := by
        simpa using Multiset.sum_count_eq_card hmem
    _ = (rooms.map Room.size).sum := List.length_flatMap

lemma total_ofRooms (rooms : List Room) :
    (ofRooms rooms).total = (rooms.map Room.size).sum := by
  rw [total_eq_sum_keys]
  refine sum_get_ofRooms Std.HashMap.nodup_keys fun room hroom user huser => ?_
  refine mem_keys_of_get_ne_zero ?_
  rw [get_ofRooms, ← Nat.pos_iff_ne_zero, List.count_pos_iff]
  exact List.mem_flatMap.mpr ⟨room, hroom, huser⟩

lemma get_ofRooms_append (rooms others : List Room) (user : String) :
    (ofRooms (rooms ++ others)).get user =
      (ofRooms rooms).get user + (ofRooms others).get user := by
  rw [get_ofRooms, get_ofRooms, get_ofRooms, List.flatMap_append, List.count_append]

end Memberships

variable {σ : Type} [Generator σ]

/-- Whoever is in a room that was seated is in the roster. -/
lemma mem_users_of_seat {roster : Roster} {sizes : List RoomSize} {g g' : σ} {s : Seating}
    {rooms : List Room} (h : seat roster sizes g = some (s, g')) (hrooms : s.toExcept = .ok rooms) :
    ∀ room ∈ rooms, ∀ user ∈ room.members, user ∈ roster.users.toList := by
  have hsizes : ∀ size ∈ sizes, size.value ≤ roster.size := by
    intro size hsize
    by_contra hlarge
    obtain ⟨e, herror⟩ := (exists_error_iff h).mpr ⟨size, hsize, Nat.not_le.mp hlarge⟩
    rw [hrooms] at herror
    cases herror
  obtain ⟨found, hfound, hlength, hseated⟩ := seated_of_seat hsizes h
  obtain rfl := Except.ok.inj (hrooms.symm.trans hfound)
  intro room hroom user huser
  obtain ⟨index, size, hseat⟩ := exists_seated_of_mem hlength hseated room hroom
  exact hseat.subperm.subset huser

namespace Memberships

/-- Every user has as many memberships as it occurs in rooms, and whoever is in none has none. All
memberships together are as many as the members of the rooms, and so are those of the users of any
list without repetitions that has all members. The memberships of two lists of rooms add up, user by
user and all together. A roster without repeated users is such a list for the rooms drawn from
it. -/
theorem ofRooms_conserves (rooms : List Room) :
    (∀ user, (ofRooms rooms).get user = (rooms.map fun room => room.members.count user).sum) ∧
    (∀ user, (∀ room ∈ rooms, user ∉ room.members) → (ofRooms rooms).get user = 0) ∧
    (ofRooms rooms).total = (rooms.map Room.size).sum ∧
    (∀ users : List String, users.Nodup → (∀ room ∈ rooms, ∀ user ∈ room.members, user ∈ users) →
      (ofRooms rooms).total = (users.map (ofRooms rooms).get).sum) ∧
    (∀ others, (ofRooms (rooms ++ others)).total =
      (ofRooms rooms).total + (ofRooms others).total ∧
      ∀ user, (ofRooms (rooms ++ others)).get user =
        (ofRooms rooms).get user + (ofRooms others).get user) ∧
    ∀ {σ : Type} [Generator σ] (roster : Roster) (sizes : List RoomSize) (g g' : σ) (s : Seating),
      roster.users.toList.Nodup → seat roster sizes g = some (s, g') → s.toExcept = .ok rooms →
      (roster.users.toList.map (ofRooms rooms).get).sum = (rooms.map Room.size).sum := by
  refine ⟨?_, ?_, total_ofRooms rooms, ?_, ?_, ?_⟩
  · intro user
    rw [get_ofRooms, List.count_flatMap]
    rfl
  · intro user hnone
    rw [get_ofRooms, List.count_eq_zero, List.mem_flatMap]
    rintro ⟨room, hroom, huser⟩
    exact hnone room hroom huser
  · intro users hnodup hmembers
    rw [total_ofRooms, sum_get_ofRooms hnodup hmembers]
  · intro others
    constructor
    · rw [total_ofRooms, total_ofRooms, total_ofRooms, List.map_append, List.sum_append]
    · exact get_ofRooms_append rooms others
  · intro σ _ roster sizes g g' s hnodup hseat hrooms
    exact sum_get_ofRooms hnodup (mem_users_of_seat hseat hrooms)

/-- A member who occurs twice in a room counts twice, and an empty room not at all. Of three users
the two who are drawn have two memberships together. -/
theorem ofRooms_conserves_of_three :
    let rooms := [Room.mk "Room 0" ["ann", "bob", "ann"], ⟨"Room 1", []⟩, ⟨"Room 2", ["bob"]⟩]
    let users := ["bob", "cid", "ann"]
    let words := [0, 0xFFFFFFFF, 0x80000000]
    let drawn := [Room.mk "Room 0" ["ann", "cid"]]
    (users.Nodup ∧ (∀ room ∈ rooms, ∀ user ∈ room.members, user ∈ users) ∧
      (ofRooms rooms).total = 4 ∧ (users.map (ofRooms rooms).get).sum = 4 ∧
      (ofRooms rooms).get "ann" = 2 ∧ (ofRooms rooms).get "cid" = 0) ∧
    seat (Roster.ofList ["ann", "bob", "cid"]) [⟨2, le_rfl⟩] (Script.ofList words) =
        some (⟨drawn.toArray, none⟩, ⟨words.toArray, 2⟩) ∧
      (["ann", "bob", "cid"].map (ofRooms drawn).get).sum = 2 := by
  intro rooms users words drawn
  have hnodup : users.Nodup := by decide
  have hmembers : ∀ room ∈ rooms, ∀ user ∈ room.members, user ∈ users := by decide
  have hseat : seat (Roster.ofList ["ann", "bob", "cid"]) [⟨2, le_rfl⟩] (Script.ofList words) =
      some (⟨drawn.toArray, none⟩, ⟨words.toArray, 2⟩) := by decide +kernel
  obtain ⟨hget, hnone, htotal, hsum, -, -⟩ := ofRooms_conserves rooms
  have hfour : (ofRooms rooms).total = 4 := htotal
  refine ⟨⟨hnodup, hmembers, hfour, ?_, ?_, ?_⟩, hseat, ?_⟩
  · rw [← hsum users hnodup hmembers, hfour]
  · rw [hget]
    decide
  · exact hnone "cid" (by decide)
  · obtain ⟨-, -, -, -, -, hdrawn⟩ := ofRooms_conserves drawn
    exact hdrawn _ _ _ _ _ (by decide) hseat rfl

end Memberships

end RoomDraw
