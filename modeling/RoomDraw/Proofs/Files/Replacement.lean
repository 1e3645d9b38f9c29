import RoomDraw.Files.Replacement
import RoomDraw.Proofs.Files.Effect

/-!
# Replacing a file is all or nothing

What a replacement has done to a disk is said phase by phase: at first nothing, then the temporary
file holds what was written, and at last it has taken the place of the target. A step leads from one
such state to the next, whatever becomes of it, so that all of them are gone through by induction on
the steps that are left.
-/

namespace RoomDraw

namespace Replacement

/-- The temporary file, which was not there before, holds the bytes, and all else is as before. -/
structure Holding (before : Disk) (temporary : Location) (bytes : Bytes) (d : Disk) : Prop where
  free : before.get temporary = none
  get_eq : d.get temporary = some (.file bytes)
  agree : Disk.AgreeOff temporary before d

/-- What a replacement has made of a disk when it has come to its phase. If it is tidy, removals
are not refused, and a failure leaves no temporary file. -/
def Progress (before : Disk) (directory : Location) (tidy : Prop) (r : Replacement)
    (d : Disk) : Prop :=
  match r.phase with
  | .creating => ∀ l, d.get l = before.get l
  | .writing left =>
    ∃ written, written ++ left = r.contents ∧
      Holding before (directory ++ [r.temporary]) written d
  | .syncing | .moving => Holding before (directory ++ [r.temporary]) r.contents d
  | .settling | .done => Disk.Replaced (directory ++ [r.target]) r.contents before d
  | .discarding _ _ => Disk.AgreeOff (directory ++ [r.temporary]) before d
  | .failed _ _ =>
    Disk.AgreeOff (directory ++ [r.temporary]) before d ∧
      (tidy → d.get (directory ++ [r.temporary]) = none)

variable {before d : Disk} {directory : Location} {tidy : Prop}

/-! ### The steps of the temporary file -/

/-- An empty file that was created holds nothing yet. -/
lemma holding_create {temporary : Location} (hfree : before.get temporary = none)
    (hsame : ∀ l, d.get l = before.get l) :
    Holding before temporary [] (d.set temporary (.file [])) := by
  refine ⟨hfree, ?_, ?_⟩
  · rw [Disk.get_set, if_pos rfl]
  · intro k hk
    rw [Disk.agreeOff_set d temporary _ k hk, hsame k]

lemma Holding.append {temporary : Location} {written : Bytes}
    (h : Holding before temporary written d) (bytes : Bytes) :
    Holding before temporary (written ++ bytes) (d.append temporary bytes) :=
  ⟨h.free, Disk.get_append h.get_eq bytes, h.agree.trans (Disk.agreeOff_append d temporary bytes)⟩

/-- The file that takes the place of the target leaves its own place as it was before. -/
lemma Holding.replaced {temporary : Location} {bytes : Bytes}
    (h : Holding before temporary bytes d) (target : Location) {e : Entry}
    (he : d.get temporary = some e) :
    Disk.Replaced target bytes before ((d.remove temporary).set target e) := by
  intro k
  rw [Disk.get_set, Disk.get_remove]
  by_cases htarget : k = target
  · rw [if_pos htarget.symm, if_pos htarget, ← he, h.get_eq]
  · rw [if_neg (Ne.symm htarget), if_neg htarget]
    by_cases htemporary : k = temporary
    · rw [if_pos htemporary.symm, htemporary, h.free]
    · rw [if_neg (Ne.symm htemporary), h.agree k htemporary]

/-- A file that holds the first bytes is complete, or the others are still to be written. -/
lemma progress_writingPhase {r : Replacement} {written left : Bytes}
    (hbytes : written ++ left = r.contents)
    (h : Holding before (directory ++ [r.temporary]) written d) :
    Progress before directory tidy { r with phase := writingPhase left } d := by
  cases left with
  | nil =>
    rw [List.append_nil] at hbytes
    exact hbytes ▸ h
  | cons byte left => exact ⟨written, hbytes, h⟩

/-! ### Steps -/

/-- A step leads from a phase to the next, or to the removal of the temporary file. -/
lemma Progress.step {r : Replacement} {request : Request} (hrequest : r.request? = some request)
    (h : Progress before directory tidy r d) (fate : Fate)
    (htidy : tidy → request = .discard r.temporary → fate.isRefused = false) :
    Progress before directory tidy (r.receive (d.perform directory fate request).2)
      (d.perform directory fate request).1 := by
  obtain ⟨target, temporary, contents, phase⟩ := r
  cases phase with
  | creating =>
    obtain rfl := Option.some.inj hrequest
    rcases d.perform_create directory fate temporary with
      ⟨n, hresponse, hfree, hdisk⟩ | ⟨message, hresponse, hdisk⟩
    · rw [hresponse, hdisk]
      refine progress_writingPhase (r := ⟨target, temporary, contents, .creating⟩)
        (List.nil_append contents) ?_
      exact holding_create ((h _).symm.trans hfree) h
    · rw [hresponse, hdisk]
      intro k _
      exact h k
  | writing left =>
    obtain rfl := Option.some.inj hrequest
    obtain ⟨written, hbytes, hholding⟩ := h
    obtain ⟨taken, hdisk, hresponse⟩ := d.perform_write directory fate temporary left
    have hnext := hholding.append taken
    rcases hanswer : (d.perform directory fate (.write temporary left)).2 with message | n
    · rw [hdisk]
      exact hnext.agree
    · rw [hdisk]
      obtain rfl := hresponse n hanswer
      by_cases hn : n = 0
      · simp only [receive, phaseAfter, if_pos hn]
        exact hnext.agree
      · simp only [receive, phaseAfter, if_neg hn]
        refine progress_writingPhase (r := ⟨target, temporary, contents, .writing left⟩) ?_ hnext
        rw [List.append_assoc, List.take_append_drop, hbytes]
  | syncing =>
    obtain rfl := Option.some.inj hrequest
    rw [Disk.perform_sync]
    rcases (d.perform directory fate (.sync temporary)).2 with message | n
    · exact Holding.agree h
    · exact h
  | moving =>
    obtain rfl := Option.some.inj hrequest
    rcases d.perform_rename directory fate temporary target with
      ⟨n, e, hresponse, he, hdisk⟩ | ⟨message, hresponse, hdisk⟩
    · rw [hresponse, hdisk]
      exact Holding.replaced h _ he
    · rw [hresponse, hdisk]
      exact Holding.agree h
  | settling =>
    obtain rfl := Option.some.inj hrequest
    rw [Disk.perform_syncDirectory]
    exact h
  | discarding culprit message =>
    obtain rfl := Option.some.inj hrequest
    constructor
    · exact Disk.AgreeOff.trans h (d.perform_discard directory fate temporary)
    · intro ht
      exact d.get_perform_discard directory (htidy ht rfl) temporary
  | done => cases hrequest
  | failed culprit message => cases hrequest

/-- Before its first step a replacement has done nothing. -/
lemma progress_start (d : Disk) (directory : Location) (tidy : Prop) (target : Name) (s : Stamp)
    (contents : Bytes) : Progress d directory tidy (start target s contents) d :=
  fun _ => rfl

/-! ### Taking all steps -/

variable {m : Type → Type} [Monad m] {perform : Request → m Response} {r : Replacement}

lemma complete_of_none (h : r.request? = none) : r.complete perform = pure r.outcome := by
  rw [complete]
  split
  · rfl
  · simp_all

lemma complete_of_some {request : Request} (h : r.request? = some request) :
    r.complete perform =
      perform request >>= fun response => (r.receive response).complete perform := by
  rw [complete]
  split <;> simp_all

/-- When nothing is asked for any more, the outcome tells whether the file was replaced. -/
lemma Progress.outcome_cases (hend : r.request? = none) (h : Progress before directory tidy r d) :
    (r.outcome = .ok () ∧ Disk.Replaced (directory ++ [r.target]) r.contents before d) ∨
    (∃ culprit, r.outcome = .error culprit ∧
      Disk.AgreeOff (directory ++ [r.temporary]) before d ∧
      (tidy → d.get (directory ++ [r.temporary]) = none)) := by
  obtain ⟨target, temporary, contents, phase⟩ := r
  cases phase with
  | done => exact .inl ⟨rfl, h⟩
  | failed culprit message => exact .inr ⟨(culprit, message), rfl, h⟩
  | _ => cases hend

end Replacement

end RoomDraw
