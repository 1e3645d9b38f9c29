import RoomDraw.Number.Double

/-!
# Room sizes

A room holds at least its creator and one invitee. A size is made from a draw of the size
distribution by rounding it, cutting it down to the number of users there are, and refusing it if
no room can be made of it.
-/

namespace RoomDraw

/-- The number of members of a room: two or more. -/
structure RoomSize where
  value : Nat
  two_le : 2 ≤ value
deriving DecidableEq, Repr

namespace RoomSize

/-- The least size: a creator and one invitee. -/
def least : Nat := 2

/-- The size with the given number of members, if that is enough for a room. -/
def ofNat? (n : Nat) : Option RoomSize := if h : 2 ≤ n then some ⟨n, h⟩ else none

@[simp] theorem ofNat?_value (s : RoomSize) : ofNat? s.value = some s := by
  simp [ofNat?, s.two_le]

theorem value_of_ofNat? {n : Nat} {s : RoomSize} (h : ofNat? n = some s) : s.value = n := by
  unfold ofNat? at h
  split at h
  · simp only [Option.some.injEq] at h
    simp [← h]
  · simp at h

end RoomSize

/-- The integer nearest to a value; of two equally near, the larger. -/
def Binary.round (x : Binary) : Nat := roundHalfUp x.ratio.1 x.ratio.2

/-- A draw rounded and cut down to the number of users. The rounded draw is compared with that
number as a double, which may differ from the number itself when it is above `2 ^ 53`; a draw that
is not below it gives everyone. A draw below zero, or none at all, counts as zero. -/
def cutDraw (draw : Double) (users : Nat) : Nat :=
  match draw with
  | .finite false magnitude =>
    if (⟨magnitude.round, 0⟩ : Binary).lt (.ofNat .double users) then magnitude.round else users
  | .infinite false => users
  | .finite true _ | .infinite true | .nan => 0

/-- The size for a draw among so many users, if it is enough for a room. -/
def clampDraw (draw : Double) (users : Nat) : Option RoomSize :=
  RoomSize.ofNat? (cutDraw draw users)

end RoomDraw
