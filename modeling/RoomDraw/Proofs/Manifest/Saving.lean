import RoomDraw.Manifest.Saving
import RoomDraw.Proofs.World

/-!
# Saving is all or nothing

A manifest that was saved stands under its path, and nothing else has changed. If saving failed and
the temporary file could be removed, nothing has changed at all.
-/

namespace RoomDraw

/-- Where the entry stands that a path names: its last component, in the directory that holds it. -/
def Disk.entryLocation? (d : Disk) (here : Location) (path : Path) : Option Location := do
  let directory ← (d.openParent here path).toOption
  let name ← path.fileName?
  return directory ++ [name]

/-- No entry bears the name that the next temporary file gets when a path is written to. -/
def World.TemporaryFree (w : World) (path : Path) : Prop :=
  ∀ directory name, w.disk.openParent w.here path = .ok directory → path.fileName? = some name →
    w.disk.get (directory ++ [temporaryName name w.stamp]) = none

lemma Disk.entryLocation?_eq_some {d : Disk} {here directory : Location} {path : Path}
    {name : Name} (hdirectory : d.openParent here path = .ok directory)
    (hname : path.fileName? = some name) :
    d.entryLocation? here path = some (directory ++ [name]) := by
  rw [entryLocation?, hdirectory, hname]
  rfl

/-- The name of a temporary file begins with a dot. -/
lemma head?_temporaryName (target : Name) (s : Stamp) :
    (temporaryName target s).head? = some Path.dot := by
  rw [temporaryName, Path.encode_dot, List.append_assoc]
  rfl

/-- Where no name begins with a dot, no temporary file is in the way. -/
lemma World.temporaryFree_of_undotted {w : World}
    (h : ∀ p ∈ w.disk.entries, p.1.getLast?.bind List.head? ≠ some Path.dot) (path : Path) :
    w.TemporaryFree path := by
  intro directory name _ _
  apply List.lookup_eq_none_iff.mpr
  intro p hp
  have hundotted := h p hp
  rw [bne_iff_ne]
  intro heq
  rw [← heq, List.getLast?_concat] at hundotted
  exact hundotted (head?_temporaryName name w.stamp)

namespace Manifest

open World

/-- What writing contents under a path makes of a world. -/
structure Written (path : Path) (contents : Bytes) (w : World) (result : Except ManifestError Unit)
    (w' : World) : Prop where
  output_eq : w'.output = w.output
  /-- When it succeeds, the file is there, and all else is as before. -/
  replaced : result = .ok () → ∃ l, w.disk.entryLocation? w.here path = some l ∧
    Disk.Replaced l contents w.disk w'.disk
  /-- When it fails, all is as before, if the temporary file was not there and can be removed. -/
  kept : ∀ e, result = .error e → w.TemporaryFree path → w.Tidy →
    ∀ l, w'.disk.get l = w.disk.get l

/-- A failure before the first step leaves all as it is. -/
lemma written_of_unwritten {path : Path} {contents : Bytes} {w w' : World} {e : ManifestError}
    (h : w.Unwritten w') : Written path contents w (.error e) w' where
  output_eq := h.output_eq
  replaced := fun hok => by cases hok
  kept := fun _ _ _ _ l => by rw [h.disk_eq]

lemma Written.of_unwritten {path : Path} {contents : Bytes} {w w₁ w' : World}
    {result : Except ManifestError Unit} (h : Written path contents w₁ result w')
    (hquiet : w.Unwritten w₁) : Written path contents w result w' where
  output_eq := h.output_eq.trans hquiet.output_eq
  replaced := by
    rw [← hquiet.disk_eq, ← hquiet.here_eq]
    exact h.replaced
  kept := by
    intro e he hfree htidy
    rw [← hquiet.disk_eq]
    refine h.kept e he ?_ (hquiet.tidy htidy)
    rw [World.TemporaryFree, hquiet.disk_eq, hquiet.here_eq, hquiet.stamp_eq]
    exact hfree

lemma Written.trans_unwritten {path : Path} {contents : Bytes} {w w₁ w' : World}
    {result : Except ManifestError Unit} (h : Written path contents w result w₁)
    (hquiet : w₁.Unwritten w') : Written path contents w result w' where
  output_eq := hquiet.output_eq.trans h.output_eq
  replaced := hquiet.disk_eq ▸ h.replaced
  kept := hquiet.disk_eq ▸ h.kept

/-- Saving ends before anything is written, and then the error names the path, or it is the
replacement of a file in a directory that has been opened. -/
lemma save_cases (manifest : Manifest) (path : Path) (layout : Layout) (w : World) :
    (∃ e w', save host manifest path layout w = (.error e, w') ∧ w.Unwritten w' ∧
        w'.events = w.events ∧ (e = .notText path ∨ ∃ message, e = .unwritable path message ∧
          (path.fileName? = none ∨ (host.openParent path w).1 = .error message))) ∨
      ∃ directory name w₁, path.fileName? = some name ∧
        (host.openParent path w).1 = .ok directory ∧ w.Unwritten w₁ ∧ w₁.events = w.events ∧
        save host manifest path layout w =
          match (Replacement.start name w.stamp (Utf8.encode (manifest.toJson layout))).complete
            (host.perform directory) (host.freshStamp w₁).2 with
          | (.error (culprit, message), w₂) => (.error (.unwritable ⟨culprit⟩ message), w₂)
          | (.ok (), w₂) =>
            (.ok (), (host.report (.wroteManifest path manifest.creators.length) w₂).2) := by
  rcases htext : path.text? with _ | text
  · refine .inl ⟨.notText path, w, ?_, .refl w, rfl, .inl rfl⟩
    simp only [save, htext]
    rfl
  rcases hname : path.fileName? with _ | name
  · refine .inl ⟨.unwritable path "manifest path must be a file", w, ?_, .refl w, rfl,
      .inr ⟨_, rfl, .inl rfl⟩⟩
    simp only [save, htext, hname]
    rfl
  rcases hparent : host.openParent path w with ⟨message | directory, w₁⟩
  all_goals
    have hquiet := (quiet_openParent path).unwritten hparent
    have hevents := (silent_openParent path).events_eq hparent
  · refine .inl ⟨.unwritable path message, w₁, ?_, hquiet, hevents, .inr ⟨_, rfl, .inr rfl⟩⟩
    simp only [save, htext, hname, bind, StateT.bind, hparent]
    rfl
  · refine .inr ⟨directory, name, w₁, rfl, rfl, hquiet, hevents, ?_⟩
    have hstamp : host.freshStamp w₁ = (w.stamp, (host.freshStamp w₁).2) :=
      Prod.ext hquiet.stamp_eq rfl
    rcases hcomplete : (Replacement.start name w.stamp
      (Utf8.encode (manifest.toJson layout))).complete (host.perform directory)
      (host.freshStamp w₁).2 with ⟨⟨culprit, message⟩ | ⟨⟩, w₂⟩
    all_goals
      simp only [save, htext, hname, bind, StateT.bind, hparent]
      rw [hstamp]
      simp only [hcomplete]
      rfl

/-- Saving is writing the text of the manifest. -/
lemma written_save (manifest : Manifest) (path : Path) (layout : Layout) (w : World) :
    Written path (Utf8.encode (manifest.toJson layout)) w (save host manifest path layout w).1
      (save host manifest path layout w).2 := by
  rcases manifest.save_cases path layout w with
    ⟨e, w', hsave, hquiet, -, -⟩ | ⟨directory, name, w₁, hname, hopen, hquiet, -, hsave⟩
  · rw [hsave]
    exact written_of_unwritten hquiet
  have hdirectory := openParent_eq_ok hopen
  have hlocation := Disk.entryLocation?_eq_some hdirectory hname
  have hstart := Replacement.progress_start w.disk directory w.Tidy name w.stamp
    (Utf8.encode (manifest.toJson layout))
  rw [← hquiet.disk_eq] at hstart
  obtain ⟨outcome, disk, fates, removals, hcomplete, hcases⟩ :=
    complete_cases (w := (host.freshStamp w₁).2) hstart hquiet.tidy
  rw [hquiet.disk_eq] at hcases
  rw [hsave, hcomplete]
  rcases hcases with ⟨rfl, hreplaced⟩ | ⟨⟨culprit, message⟩, rfl, hagree, hcleared⟩
  · exact ⟨hquiet.output_eq, fun _ => ⟨_, hlocation, hreplaced⟩, fun e he => by cases he⟩
  · refine ⟨hquiet.output_eq, (fun hok => by cases hok), ?_⟩
    intro e _ hfree ht
    apply hagree.get_eq
    exact (hcleared ht).trans (hfree directory name hdirectory hname).symm

end Manifest

end RoomDraw
