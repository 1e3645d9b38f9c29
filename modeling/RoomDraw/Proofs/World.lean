import Mathlib.Order.Basic
import RoomDraw.Proofs.Files.Replacement
import RoomDraw.World

/-!
# What actions do to a world

Most actions of a run look at the files and report, and leave everything else as it is; they are
quiet, and so is what is put together from them. Only the steps of a replacement change the disk.
-/

namespace RoomDraw

namespace World

/-- No removal of the world is going to be refused. -/
def Tidy (w : World) : Prop := ∀ fate ∈ w.removals, fate.isRefused = false

/-- What a program leaves as it is when it does no more than look and report: the files, what is
found under a path, the stamp that comes next, and the standard output. -/
structure Unwritten (w w' : World) : Prop where
  disk_eq : w'.disk = w.disk
  here_eq : w'.here = w.here
  removals_eq : w'.removals = w.removals
  stamp_eq : w'.stamp = w.stamp
  output_eq : w'.output = w.output

namespace Unwritten

lemma refl (w : World) : Unwritten w w := ⟨rfl, rfl, rfl, rfl, rfl⟩

lemma trans {w₁ w₂ w₃ : World} (h₁ : Unwritten w₁ w₂) (h₂ : Unwritten w₂ w₃) :
    Unwritten w₁ w₃ where
  disk_eq := h₂.disk_eq.trans h₁.disk_eq
  here_eq := h₂.here_eq.trans h₁.here_eq
  removals_eq := h₂.removals_eq.trans h₁.removals_eq
  stamp_eq := h₂.stamp_eq.trans h₁.stamp_eq
  output_eq := h₂.output_eq.trans h₁.output_eq

lemma tidy {w w' : World} (h : Unwritten w w') (ht : w.Tidy) : w'.Tidy := by
  rw [Tidy, h.removals_eq]
  exact ht

end Unwritten

/-! ### Quiet actions -/

/-- An action that writes nothing. -/
def Quiet {α : Type} (x : StateM World α) : Prop := ∀ w, Unwritten w (x w).2

variable {α β : Type}

lemma quiet_pure (a : α) : Quiet (pure a) := fun w => .refl w

lemma Quiet.bind {x : StateM World α} {f : α → StateM World β} (hx : Quiet x)
    (hf : ∀ a, Quiet (f a)) : Quiet (x >>= f) :=
  fun w => (hx w).trans (hf (x w).1 (x w).2)

lemma Quiet.unwritten {x : StateM World α} (hx : Quiet x) {w w' : World} {a : α}
    (h : x w = (a, w')) : w.Unwritten w' := by
  have := hx w
  rwa [h] at this

lemma quiet_get : Quiet (get : StateM World World) := fun w => .refl w

lemma quiet_nextFate : Quiet nextFate := fun _ => ⟨rfl, rfl, rfl, rfl, rfl⟩

lemma quiet_ask (answer : World → Except SystemError α) : Quiet (ask answer) := by
  refine quiet_nextFate.bind fun fate => ?_
  cases fate with
  | refused after message => exact quiet_pure _
  | granted | cut size => exact quiet_get.bind fun w => quiet_pure _

lemma quiet_openParent (path : Path) : Quiet (host.openParent path) := quiet_ask _

lemma quiet_openFile (directory : Location) (name : Name) :
    Quiet (host.openFile directory name) := by
  refine (quiet_ask _).bind fun answer => ?_
  cases answer with
  | error message => exact quiet_pure _
  | ok feed =>
    refine quiet_nextFate.bind fun fate => ?_
    cases fate <;> exact quiet_pure _

lemma quiet_settingsFile (path : Path) : Quiet (host.settingsFile path) := by
  refine quiet_nextFate.bind fun fate => ?_
  cases fate with
  | refused after message => exact quiet_pure _
  | granted | cut size =>
    refine quiet_get.bind fun w => ?_
    split <;> exact quiet_pure _

lemma quiet_workingDirectory : Quiet host.workingDirectory :=
  quiet_get.bind fun _ => quiet_pure _

lemma quiet_freshSeed : Quiet host.freshSeed := fun _ => ⟨rfl, rfl, rfl, rfl, rfl⟩

lemma quiet_report (event : Event) : Quiet (host.report event) := fun _ => ⟨rfl, rfl, rfl, rfl, rfl⟩

lemma quiet_printError (text : String) : Quiet (host.printError text) :=
  fun _ => ⟨rfl, rfl, rfl, rfl, rfl⟩

lemma report_eq (event : Event) (w : World) :
    host.report event w = ((), { w with events := w.events.push event }) :=
  rfl

lemma reportAll_nil (w : World) : host.reportAll [] w = ((), w) := rfl

lemma reportAll_cons (event : Event) (events : List Event) (w : World) :
    host.reportAll (event :: events) w = host.reportAll events (host.report event w).2 :=
  rfl

/-- What is reported stands behind what was reported before. -/
lemma reportAll_eq (events : List Event) (w : World) :
    host.reportAll events w = ((), { w with events := w.events ++ events }) := by
  induction events generalizing w with
  | nil => simp [reportAll_nil]
  | cons event events ih => simp only [reportAll_cons, report_eq, ih, Array.appendList_cons]

lemma reportAll_append (events events' : List Event) (w : World) :
    host.reportAll (events ++ events') w = host.reportAll events' (host.reportAll events w).2 := by
  induction events generalizing w with
  | nil => rfl
  | cons event events ih => exact ih (host.report event w).2

lemma appendList_append (events : Array Event) (l l' : List Event) :
    events ++ (l ++ l') = events ++ l ++ l' :=
  Array.toList_inj.mp (by simp)

lemma quiet_reportAll (events : List Event) : Quiet (host.reportAll events) := by
  intro w
  rw [reportAll_eq]
  exact ⟨rfl, rfl, rfl, rfl, rfl⟩

/-! ### Silent actions -/

/-- An action that reports nothing. -/
def Silent {α : Type} (x : StateM World α) : Prop := ∀ w, (x w).2.events = w.events

lemma silent_pure (a : α) : Silent (pure a) := fun _ => rfl

lemma Silent.bind {x : StateM World α} {f : α → StateM World β} (hx : Silent x)
    (hf : ∀ a, Silent (f a)) : Silent (x >>= f) :=
  fun w => (hf (x w).1 (x w).2).trans (hx w)

lemma Silent.events_eq {x : StateM World α} (hx : Silent x) {w w' : World} {a : α}
    (h : x w = (a, w')) : w'.events = w.events := by
  have := hx w
  rwa [h] at this

lemma silent_nextFate : Silent nextFate := fun _ => rfl

lemma silent_ask (answer : World → Except SystemError α) : Silent (ask answer) := by
  refine silent_nextFate.bind fun fate => ?_
  cases fate <;> exact fun _ => rfl

lemma silent_openParent (path : Path) : Silent (host.openParent path) := silent_ask _

lemma silent_openFile (directory : Location) (name : Name) :
    Silent (host.openFile directory name) := by
  refine (silent_ask _).bind fun answer => ?_
  cases answer with
  | error message => exact silent_pure _
  | ok feed =>
    refine silent_nextFate.bind fun fate => ?_
    cases fate <;> exact silent_pure _

/-! ### Answers about the disk -/

/-- An answer that is no error is that of the disk, whatever the fate of the step was. -/
lemma ask_eq_ok {answer : World → Except SystemError α} {w : World} {a : α}
    (h : (ask answer w).1 = .ok a) : answer { w with fates := w.fates.tail } = .ok a := by
  obtain ⟨disk, here, fates, removals, seeds, stamp, events, output, errors⟩ := w
  have hgranted : ∀ w : World, (answer w).mapError SystemError.message = .ok a →
      answer w = .ok a := by
    intro w hw
    rcases hanswer : answer w with e | a'
    · rw [hanswer] at hw
      cases hw
    · rw [hanswer] at hw
      exact congrArg _ (Except.ok.inj hw)
  rcases fates with _ | ⟨_ | size | ⟨after, message⟩, fates⟩
  · exact hgranted _ h
  · exact hgranted _ h
  · exact hgranted _ h
  · cases h

lemma openParent_eq_ok {path : Path} {w : World} {directory : Location}
    (h : (host.openParent path w).1 = .ok directory) :
    w.disk.openParent w.here path = .ok directory :=
  ask_eq_ok h

/-- The world after a step differs on the disk, as the step has it with its fate, and in the fates
to come. -/
lemma perform_eq (directory : Location) (request : Request) (w : World) :
    ∃ fate fates removals,
      host.perform directory request w =
        ((w.disk.perform directory fate request).2,
          { w with disk := (w.disk.perform directory fate request).1, fates, removals }) ∧
      (w.Tidy → (∀ f ∈ removals, f.isRefused = false) ∧
        ∀ name, request = .discard name → fate.isRefused = false) := by
  cases request with
  | discard name =>
    refine ⟨w.removals.headD .granted, w.fates, w.removals.tail, rfl, ?_⟩
    intro htidy
    constructor
    · intro f hf
      exact htidy f (List.mem_of_mem_tail hf)
    · intro _ _
      rcases hremovals : w.removals with _ | ⟨fate, removals⟩
      · rfl
      · exact htidy fate (hremovals ▸ List.mem_cons_self)
  | _ =>
    exact ⟨w.fates.headD .granted, w.fates.tail, w.removals, rfl, fun htidy =>
      ⟨htidy, fun _ hname => by cases hname⟩⟩

/-- When all steps of a replacement have been taken, the file has been replaced, or an error tells
that it was not. Nothing but the disk and the fates to come has changed. -/
lemma complete_cases {before : Disk} {directory : Location} {tidy : Prop} {r : Replacement}
    {w : World} (h : r.Progress before directory tidy w.disk) (htidy : tidy → w.Tidy) :
    ∃ outcome disk fates removals,
      r.complete (host.perform directory) w = (outcome, { w with disk, fates, removals }) ∧
      ((outcome = .ok () ∧ Disk.Replaced (directory ++ [r.target]) r.contents before disk) ∨
       (∃ culprit, outcome = .error culprit ∧
          Disk.AgreeOff (directory ++ [r.temporary]) before disk ∧
          (tidy → disk.get (directory ++ [r.temporary]) = none))) := by
  induction hsteps : r.stepsLeft using Nat.strongRecOn generalizing r w with
  | _ n ih =>
    rcases hrequest : r.request? with _ | request
    · rw [Replacement.complete_of_none hrequest]
      exact ⟨r.outcome, w.disk, w.fates, w.removals, rfl, h.outcome_cases hrequest⟩
    · obtain ⟨fate, fates, removals, hperform, hfates⟩ := perform_eq directory request w
      have hstep := h.step hrequest fate fun ht => (hfates (htidy ht)).2 r.temporary
      have hless := hsteps ▸ Replacement.stepsLeft_receive_lt hrequest
        (w.disk.perform directory fate request).2
      obtain ⟨outcome, disk, fates, removals, hcomplete, hcases⟩ :=
        ih _ hless (w := { w with disk := _, fates, removals }) hstep
          (fun ht => (hfates (htidy ht)).1) rfl
      refine ⟨outcome, disk, fates, removals, ?_, hcases⟩
      rw [Replacement.complete_of_some hrequest]
      simp only [bind, StateT.bind, hperform]
      exact hcomplete

end World

end RoomDraw
