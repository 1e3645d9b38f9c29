import RoomDraw.Program
import RoomDraw.Proofs.Run
import RoomDraw.Proofs.Settings.Loading

/-!
# A run is all or nothing

Whichever step fails, a run that fails leaves the files as they were and prints nothing, and a run
that succeeds has changed no entry but that of the manifest. The code of the program tells the one
from the other.
-/

namespace RoomDraw

open World

namespace World

/-- Every file, directory and link is as before, and nothing was printed. -/
structure Untouched (w w' : World) : Prop where
  get_eq : ∀ l, w'.disk.get l = w.disk.get l
  output_eq : w'.output = w.output

/-- No entry has changed but the one that a path names. -/
def ChangedOnly (w : World) (path : Path) (w' : World) : Prop :=
  ∃ l, w.disk.entryLocation? w.here path = some l ∧ Disk.AgreeOff l w.disk w'.disk

lemma Unwritten.untouched {w w' : World} (h : w.Unwritten w') : w.Untouched w' :=
  ⟨fun l => by rw [h.disk_eq], h.output_eq⟩

lemma Untouched.trans_unwritten {w w₁ w₂ : World} (h₁ : w.Untouched w₁)
    (h₂ : w₁.Unwritten w₂) : w.Untouched w₂ :=
  ⟨fun l => by rw [h₂.disk_eq, h₁.get_eq], h₂.output_eq.trans h₁.output_eq⟩

lemma Unwritten.trans_untouched {w w₁ w₂ : World} (h₁ : w.Unwritten w₁)
    (h₂ : w₁.Untouched w₂) : w.Untouched w₂ :=
  ⟨fun l => by rw [h₂.get_eq, h₁.disk_eq], h₂.output_eq.trans h₁.output_eq⟩

lemma Unwritten.temporaryFree {w w' : World} (h : w.Unwritten w') {path : Path}
    (hfree : w.TemporaryFree path) : w'.TemporaryFree path := by
  rw [TemporaryFree, h.disk_eq, h.here_eq, h.stamp_eq]
  exact hfree

lemma Unwritten.changedOnly {w w₁ w₂ : World} (h : w.Unwritten w₁) {path : Path}
    (hchanged : w₁.ChangedOnly path w₂) : w.ChangedOnly path w₂ := by
  rw [ChangedOnly, h.disk_eq, h.here_eq] at hchanged
  exact hchanged

end World

/-! ### Runs -/

namespace Run

/-- What a run with the settings may do to a world. -/
structure AllOrNothing (s : Settings) (w : World) : Prop where
  /-- A run that fails changes nothing, if its temporary file was not there before. -/
  untouched : ∀ error w', run host s w = (.failed error, w') → w.TemporaryFree s.manifest →
    w.Untouched w'
  /-- The rooms themselves never fail. -/
  ne_generation : ∀ error w', run host s w ≠ (.failed (.generation error), w')
  /-- Without a roster the run ends, whatever the path of the manifest is. -/
  roster_error : ∀ error w', Roster.load host s.roster w = (.error error, w') →
    run host s w = (.failed (.roster error), w')
  /-- A run that succeeds changes the entry of the manifest only. -/
  changedOnly : ∀ outcome w', run host s w = (.completed outcome, w') →
    w.ChangedOnly s.manifest w'

lemma Goes.untouched {s : Settings} {w w' : World} {error : RunError}
    (h : Goes s w (.failed error) w') (htidy : w.Tidy) (hfree : w.TemporaryFree s.manifest) :
    w.Untouched w' := by
  cases h with
  | unloaded hload hquiet => exact hquiet.untouched
  | unsaved hdraws hwritten =>
    exact ⟨hwritten.kept _ rfl hfree htidy, hwritten.output_eq⟩

lemma Goes.changedOnly {s : Settings} {w w' : World} {outcome : RunOutcome}
    (h : Goes s w (.completed outcome) w') : w.ChangedOnly s.manifest w' := by
  cases h with
  | completed hdraws hwritten =>
    obtain ⟨l, hl, hreplaced⟩ := hwritten.replaced rfl
    exact ⟨l, hl, hreplaced.agreeOff⟩

lemma goes_of_run {s : Settings} {w w' : World} {ended : RunEnd}
    (h : run host s w = (ended, w')) : Goes s w ended w' := by
  have hgoes := run_goes s w
  rwa [h] at hgoes

lemma all_or_nothing (s : Settings) {w : World} (htidy : w.Tidy) : AllOrNothing s w where
  untouched _ _ hrun hfree := (goes_of_run hrun).untouched htidy hfree
  ne_generation error w' hrun := by
    have hgoes := goes_of_run hrun
    cases hgoes
  roster_error _ _ hload := run_of_load_error hload
  changedOnly _ _ hrun := (goes_of_run hrun).changedOnly

end Run

/-! ### The program -/

namespace Program

lemma success_ne_failure : success ≠ failure := by decide

lemma conclude_failed (error : RunError) (w : World) :
    ∃ w', conclude host (.failed error) w = (failure, w') ∧ w.Unwritten w' :=
  ⟨_, rfl, quiet_printError _ w⟩

variable {arguments : List String} {e : Environment} {w w₁ : World}

lemma execute_of_load_error {errors : List SettingsError}
    (h : Settings.load host arguments e w = (.error errors, w₁)) :
    execute host arguments e w = conclude host (.failed (configError errors)) w₁ := by
  simp only [execute, bind, StateT.bind, h]

lemma execute_of_load_ok {s : Settings} {ended : RunEnd} {w₂ : World}
    (h : Settings.load host arguments e w = (.ok s, w₁)) (hrun : run host s w₁ = (ended, w₂)) :
    execute host arguments e w = conclude host ended w₂ := by
  simp only [execute, bind, StateT.bind, h, hrun]

/-- What the program may do to a world, and the code it ends with. -/
structure AllOrNothing (arguments : List String) (e : Environment) (w : World) : Prop where
  settings_error : ∀ errors w₁, Settings.load host arguments e w = (.error errors, w₁) →
    (execute host arguments e w).1 = failure
  run_failed : ∀ s w₁ error w₂, Settings.load host arguments e w = (.ok s, w₁) →
    run host s w₁ = (.failed error, w₂) → (execute host arguments e w).1 = failure
  /-- Whether the report can be printed makes no difference to the code. -/
  run_completed : ∀ s w₁ outcome w₂, Settings.load host arguments e w = (.ok s, w₁) →
    run host s w₁ = (.completed outcome, w₂) → (execute host arguments e w).1 = success
  /-- The program changes nothing and prints no report when it fails. -/
  untouched : (∀ s w₁, Settings.load host arguments e w = (.ok s, w₁) →
      w.TemporaryFree s.manifest) →
    (execute host arguments e w).1 = failure → w.Untouched (execute host arguments e w).2
  /-- When it succeeds, it changes the entry of the manifest only. -/
  changedOnly : (execute host arguments e w).1 = success →
    ∃ s w₁, Settings.load host arguments e w = (.ok s, w₁) ∧
      w.ChangedOnly s.manifest (execute host arguments e w).2

lemma untouched_of_failure (htidy : w.Tidy)
    (hfree : ∀ s w₁, Settings.load host arguments e w = (.ok s, w₁) → w.TemporaryFree s.manifest)
    (hcode : (execute host arguments e w).1 = failure) :
    w.Untouched (execute host arguments e w).2 := by
  rcases hload : Settings.load host arguments e w with ⟨errors | s, w₁⟩
  · have hquiet := (Settings.quiet_load arguments e).unwritten hload
    obtain ⟨w₂, hconclude, hquiet₂⟩ := conclude_failed (configError errors) w₁
    rw [execute_of_load_error hload, hconclude]
    exact (hquiet.trans hquiet₂).untouched
  have hquiet := (Settings.quiet_load arguments e).unwritten hload
  rcases hrun : run host s w₁ with ⟨ended, w₂⟩
  have hgoes := Run.goes_of_run hrun
  rw [execute_of_load_ok hload hrun] at hcode ⊢
  cases ended with
  | completed outcome => exact (success_ne_failure hcode).elim
  | failed error =>
    obtain ⟨w₃, hconclude, hquiet₃⟩ := conclude_failed error w₂
    have huntouched :=
      hgoes.untouched (hquiet.tidy htidy) (hquiet.temporaryFree (hfree s w₁ hload))
    rw [hconclude]
    exact hquiet.trans_untouched (huntouched.trans_unwritten hquiet₃)
  | endless =>
    cases hgoes with
    | endless hroster hend => exact (hquiet.trans hend).untouched

lemma changedOnly_of_success (hcode : (execute host arguments e w).1 = success) :
    ∃ s w₁, Settings.load host arguments e w = (.ok s, w₁) ∧
      w.ChangedOnly s.manifest (execute host arguments e w).2 := by
  rcases hload : Settings.load host arguments e w with ⟨errors | s, w₁⟩
  · rw [execute_of_load_error hload] at hcode
    exact (success_ne_failure hcode.symm).elim
  have hquiet := (Settings.quiet_load arguments e).unwritten hload
  rcases hrun : run host s w₁ with ⟨ended, w₂⟩
  have hgoes := Run.goes_of_run hrun
  rw [execute_of_load_ok hload hrun] at hcode ⊢
  refine ⟨s, w₁, rfl, ?_⟩
  cases ended with
  | completed outcome => exact hquiet.changedOnly hgoes.changedOnly
  | failed error => exact (success_ne_failure hcode.symm).elim
  | endless => exact (success_ne_failure hcode.symm).elim

lemma all_or_nothing (arguments : List String) (e : Environment) (htidy : w.Tidy) :
    AllOrNothing arguments e w where
  settings_error errors w₁ hload := by
    rw [execute_of_load_error hload]
    rfl
  run_failed s w₁ error w₂ hload hrun := by
    rw [execute_of_load_ok hload hrun]
    rfl
  run_completed s w₁ outcome w₂ hload hrun := by
    rw [execute_of_load_ok hload hrun]
    rfl
  untouched := untouched_of_failure htidy
  changedOnly := changedOnly_of_success

end Program

/-- In a world where removals are not refused, every run with whatever settings, and the program
with whatever arguments and environment, does all that it is for or nothing. -/
theorem program_all_or_nothing {w : World} (htidy : w.Tidy) :
    (∀ s, Run.AllOrNothing s w) ∧ ∀ arguments e, Program.AllOrNothing arguments e w :=
  ⟨fun s => Run.all_or_nothing s htidy, fun arguments e => Program.all_or_nothing arguments e htidy⟩

/-- A program whose rename is refused leaves the manifest that was there before. -/
theorem program_all_or_nothing_of_refused_rename :
    let users := Utf8.encode "users.csv"
    let rooms := Utf8.encode "rooms.json"
    let disk : Disk := ⟨[([users], .file (Utf8.encode "username\n")), ([rooms], .file [])]⟩
    let w : World :=
      { World.ofDisk disk [] with
        fates := List.replicate 8 .granted ++ [.refused 0 "Permission denied"] }
    (Program.execute host [] [] w).1 = Program.failure ∧
      (Program.execute host [] [] w).2.disk.get [rooms] = some (.file []) ∧
      (Program.execute host [] [] w).2.output = .fresh false := by
  intro users rooms disk w
  have htidy : w.Tidy := fun fate hfate => by cases hfate
  have hfree : ∀ path, w.TemporaryFree path := temporaryFree_of_undotted (by decide +kernel)
  have hcode : (Program.execute host [] [] w).1 = Program.failure := by decide +kernel
  have huntouched :=
    ((program_all_or_nothing htidy).2 [] []).untouched (fun s _ _ => hfree s.manifest) hcode
  exact ⟨hcode, huntouched.get_eq [rooms], huntouched.output_eq⟩

end RoomDraw
