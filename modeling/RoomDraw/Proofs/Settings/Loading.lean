import RoomDraw.Proofs.World
import RoomDraw.Settings.Loading

/-!
# Loading settings only looks

However many files extend one another, and whichever of them can be used, nothing is written.
-/

namespace RoomDraw

open World

namespace SettingsFile

/-- Following the files that extend one another only looks, however many there may be. -/
lemma quiet_layer (bound : Nat) (seen : List Path) (path : Path) (bytes : Bytes) :
    Quiet (layer host bound seen path bytes) := by
  induction bound generalizing seen path bytes with
  | zero => exact quiet_pure _
  | succ bound ih =>
    unfold layer
    split_ifs
    · exact quiet_pure _
    · rcases table path bytes with f | t
      · exact quiet_pure _
      · simp only
        rcases extended? path t with f | _ | base
        · exact quiet_pure _
        · exact quiet_pure _
        · refine (quiet_settingsFile base).bind fun found => ?_
          cases found with
          | contents base bytes => exact (ih _ base bytes).bind fun _ => quiet_pure _
          | absent | unreadable => exact quiet_pure _

lemma quiet_load? (path : Path) : Quiet (load? host path) := by
  refine (quiet_settingsFile path).bind fun found => ?_
  cases found with
  | contents path bytes => exact (quiet_layer _ _ path bytes).bind fun _ => quiet_pure _
  | absent | unreadable => exact quiet_pure _

end SettingsFile

namespace Settings

lemma quiet_discover (paths : List Path) (errors : List SettingsError) :
    Quiet (discover host paths errors) := by
  induction paths generalizing errors with
  | nil => exact quiet_pure _
  | cons path paths ih =>
    refine (SettingsFile.quiet_load? path).bind fun found => ?_
    rcases found with _ | f | l
    · exact ih errors
    · exact ih _
    · exact quiet_pure _

lemma quiet_fileLayer (named : Option Path) (e : Environment) : Quiet (fileLayer host named e) := by
  refine quiet_workingDirectory.bind fun here => ?_
  cases named with
  | none => exact quiet_discover _ _
  | some path =>
    refine (SettingsFile.quiet_load? path).bind fun found => ?_
    rcases found with _ | f | l
    · exact (quiet_discover _ _).bind fun _ => quiet_pure _
    · exact (quiet_discover _ _).bind fun _ => quiet_pure _
    · exact quiet_pure _

lemma quiet_load (arguments : List String) (e : Environment) : Quiet (load host arguments e) := by
  refine (quiet_fileLayer _ e).bind fun layers => ?_
  obtain ⟨fileErrors, file⟩ := layers
  simp only
  split <;> exact quiet_pure _

end Settings

end RoomDraw
