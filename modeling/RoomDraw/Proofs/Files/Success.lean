import RoomDraw.Proofs.World

/-!
# Replacing a file succeeds

If no step is refused, only two things stand in the way of a replacement: a directory in the place
of the target, and a temporary file whose name no entry can have.
-/

namespace RoomDraw

namespace Disk

/-- Entries may have the name. -/
def Nameable (name : Name) : Prop := name.contains 0 = false ∧ name.length ≤ maxName

instance (name : Name) : Decidable (Nameable name) := inferInstanceAs (Decidable (_ ∧ _))

variable {d : Disk} {directory : Location} {fate : Fate}

/-! ### Steps that are not refused -/

lemma perform_create_eq_ok (hfate : fate.isRefused = false) {name : Name} (hname : Nameable name)
    (hfree : d.get (directory ++ [name]) = none) :
    (d.perform directory fate (.create name)).2 = .ok 0 := by
  have hcreate : d.create directory name = .ok (d.set (directory ++ [name]) (.file [])) := by
    simp only [create, hname.1, Nat.not_lt.mpr hname.2, hfree]
    rfl
  cases fate with
  | refused after message => cases hfate
  | granted | cut size =>
    unfold perform
    simp only [hcreate]

/-- As long as there are bytes to write, some of them are written. -/
lemma perform_write_eq_ok (hfate : fate.isRefused = false) (name : Name) {bytes : Bytes}
    (hbytes : bytes ≠ []) :
    ∃ n, n ≠ 0 ∧ (d.perform directory fate (.write name bytes)).2 = .ok n := by
  have hpos := List.length_pos_iff.mpr hbytes
  cases fate with
  | refused after message => cases hfate
  | granted => exact ⟨_, by omega, rfl⟩
  | cut size =>
    refine ⟨_, ?_, rfl⟩
    rw [List.length_take]
    omega

lemma perform_sync_eq_ok (hfate : fate.isRefused = false) (name : Name) :
    (d.perform directory fate (.sync name)).2 = .ok 0 := by
  cases fate with
  | refused after message => cases hfate
  | granted | cut size => rfl

lemma perform_rename_eq_ok (hfate : fate.isRefused = false) {source target : Name} {e : Entry}
    (hsource : d.get (directory ++ [source]) = some e)
    (htarget : d.isDirectory (directory ++ [target]) = false) :
    (d.perform directory fate (.rename source target)).2 = .ok 0 := by
  have hrename : d.rename directory source target =
      .ok ((d.remove (directory ++ [source])).set (directory ++ [target]) e) := by
    simp only [rename, hsource, htarget]
    rfl
  cases fate with
  | refused after message => cases hfate
  | granted | cut size =>
    unfold perform
    simp only [hrename]

/-- Disks that agree on an entry agree on whether it is a directory. -/
lemma isDirectory_congr {d' : Disk} {l : Location} (h : d'.get l = d.get l) :
    d'.isDirectory l = d.isDirectory l := by
  rw [isDirectory, isDirectory, h]

end Disk

/-- The name of a temporary file is longer than that of its target. -/
lemma temporaryName_ne (target : Name) (s : Stamp) : temporaryName target s ≠ target := by
  intro h
  have := congrArg List.length h
  simp only [temporaryName, Path.encode_dot, List.length_append, List.length_cons, List.length_nil] at this
  omega

/-- Nothing has gone wrong up to the phase. -/
def Phase.Unfailed : Phase → Prop
  | discarding _ _ | failed _ _ => False
  | writing left => left ≠ []
  | creating | syncing | moving | settling | done => True

namespace Replacement

lemma unfailed_writingPhase (left : Bytes) : (writingPhase left).Unfailed := by
  cases left with
  | nil => trivial
  | cons byte left => exact List.cons_ne_nil byte left

variable {before d : Disk} {directory : Location} {tidy : Prop} {r : Replacement}

/-- Nothing on the disk stands in the way of a replacement of a target. -/
structure Unhindered (before : Disk) (directory : Location) (temporary target : Name) : Prop where
  nameable : Disk.Nameable temporary
  free : before.get (directory ++ [temporary]) = none
  ne : temporary ≠ target
  isDirectory_eq : before.isDirectory (directory ++ [target]) = false

/-- A step that is not refused does not go wrong. -/
lemma Unhindered.step {request : Request}
    (hclear : Unhindered before directory r.temporary r.target)
    (hrequest : r.request? = some request) (h : Progress before directory tidy r d)
    (hphase : r.phase.Unfailed) {fate : Fate} (hfate : fate.isRefused = false) :
    (r.receive (d.perform directory fate request).2).phase.Unfailed := by
  obtain ⟨target, temporary, contents, phase⟩ := r
  cases phase with
  | creating =>
    obtain rfl := Option.some.inj hrequest
    rw [Disk.perform_create_eq_ok hfate hclear.nameable ((h _).trans hclear.free)]
    exact unfailed_writingPhase contents
  | writing left =>
    obtain rfl := Option.some.inj hrequest
    have hwrite : ∃ n, n ≠ 0 ∧
        (d.perform directory fate (.write temporary left)).2 = .ok n :=
      Disk.perform_write_eq_ok hfate temporary hphase
    obtain ⟨n, hn, hresponse⟩ := hwrite
    simp only [hresponse, receive, phaseAfter, if_neg hn]
    exact unfailed_writingPhase (left.drop n)
  | syncing =>
    obtain rfl := Option.some.inj hrequest
    rw [Disk.perform_sync_eq_ok hfate]
    trivial
  | moving =>
    obtain rfl := Option.some.inj hrequest
    have hother : directory ++ [target] ≠ directory ++ [temporary] := by
      simpa using hclear.ne.symm
    have htarget : d.isDirectory (directory ++ [target]) = false :=
      (Disk.isDirectory_congr (Holding.agree h _ hother)).trans hclear.isDirectory_eq
    rw [Disk.perform_rename_eq_ok hfate (Holding.get_eq h) htarget]
    trivial
  | settling => trivial
  | discarding culprit message => exact hphase.elim
  | done => cases hrequest
  | failed culprit message => exact hphase.elim

/-- No removal is asked for as long as nothing has gone wrong. -/
lemma ne_discard_of_unfailed {request : Request} (hrequest : r.request? = some request)
    (hphase : r.phase.Unfailed) (name : Name) : request ≠ .discard name := by
  obtain ⟨target, temporary, contents, phase⟩ := r
  cases phase with
  | discarding culprit message => exact hphase.elim
  | done => cases hrequest
  | failed culprit message => exact hphase.elim
  | _ =>
    obtain rfl := Option.some.inj hrequest
    simp

lemma outcome_eq_ok_of_unfailed (hphase : r.phase.Unfailed) : r.outcome = .ok () := by
  obtain ⟨target, temporary, contents, phase⟩ := r
  cases phase with
  | failed culprit message => exact hphase.elim
  | _ => rfl

end Replacement

namespace World

/-- No step that the world takes is going to be refused, removals apart. -/
def Granting (w : World) : Prop := ∀ fate ∈ w.fates, fate.isRefused = false

lemma perform_of_ne_discard {request : Request} (h : ∀ name, request ≠ .discard name)
    (directory : Location) (w : World) :
    host.perform directory request w =
      ((w.disk.perform directory (w.fates.headD .granted) request).2,
        { w with
          disk := (w.disk.perform directory (w.fates.headD .granted) request).1
          fates := w.fates.tail }) := by
  cases request with
  | discard name => exact absurd rfl (h name)
  | _ => rfl

lemma Granting.headD {w : World} (h : w.Granting) :
    (w.fates.headD .granted).isRefused = false := by
  rcases hfates : w.fates with _ | ⟨fate, fates⟩
  · rfl
  · exact h fate (hfates ▸ List.mem_cons_self)

/-- A replacement of which no step is refused, and that nothing stands in the way of, succeeds. -/
lemma complete_eq_ok {before : Disk} {directory : Location} {r : Replacement} {w : World}
    (hclear : Replacement.Unhindered before directory r.temporary r.target)
    (h : r.Progress before directory False w.disk)
    (hphase : r.phase.Unfailed) (hgranting : w.Granting) :
    (r.complete (host.perform directory) w).1 = .ok () := by
  induction hsteps : r.stepsLeft using Nat.strongRecOn generalizing r w with
  | _ n ih =>
    rcases hrequest : r.request? with _ | request
    · rw [Replacement.complete_of_none hrequest]
      exact Replacement.outcome_eq_ok_of_unfailed hphase
    · set fate := w.fates.headD .granted with hfate
      have hgranted : fate.isRefused = false := hgranting.headD
      have hstep := h.step hrequest fate fun hfalse => hfalse.elim
      have hnext := hclear.step hrequest h hphase hgranted
      have hless := hsteps ▸ Replacement.stepsLeft_receive_lt hrequest
        (w.disk.perform directory fate request).2
      rw [Replacement.complete_of_some hrequest]
      simp only [bind, StateT.bind, perform_of_ne_discard
        (Replacement.ne_discard_of_unfailed hrequest hphase) directory w, ← hfate]
      exact ih _ hless hclear hstep hnext
        (fun f hf => hgranting f (List.mem_of_mem_tail hf)) rfl

end World

end RoomDraw
