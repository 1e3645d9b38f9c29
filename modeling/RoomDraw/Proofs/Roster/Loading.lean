import RoomDraw.Proofs.Roster.Faults
import RoomDraw.Proofs.World
import RoomDraw.Roster.Loading

/-!
# Loading only looks, and never gives a part

A roster that was loaded is the one that the disk has: where reading fails on the way, so does the
decoding, however far the reader came.
-/

namespace RoomDraw

/-- The roster in the file that a path leads to, as the disk has it. -/
def Disk.roster (d : Disk) (here : Location) (path : Path) : Except RosterError Roster :=
  (Roster.load World.host path (World.ofDisk d here)).1

namespace Roster

open World

lemma quiet_openFile (path : Path) : Quiet (openFile host path) := by
  unfold openFile
  split
  · exact quiet_pure _
  · refine (quiet_openParent path).bind fun answer => ?_
    cases answer with
    | error message => exact quiet_pure _
    | ok directory =>
      refine (World.quiet_openFile directory _).bind fun answer => ?_
      cases answer <;> exact quiet_pure _

lemma quiet_load (path : Path) : Quiet (load host path) := by
  refine (quiet_openFile path).bind fun opened => ?_
  cases opened with
  | error e => exact quiet_pure _
  | ok feed => exact (quiet_reportAll _).bind fun _ => quiet_pure _

end Roster

end RoomDraw
