import RoomDraw.Proofs.Files.Success
import RoomDraw.Proofs.Manifest.Saving
import RoomDraw.Proofs.World.Watched

/-!
# Files are replaced atomically

Whichever step of a replacement fails, the target is at every moment the entry that it was or the
complete new file. A replacement that fails leaves the disk as it was; one that succeeds has changed
the target only, and of a link the link itself. The same holds of saving a manifest.
-/

namespace RoomDraw

/-! ### Every moment -/

/-- In every phase the target is as it was before, or has been replaced. -/
lemma Replacement.Progress.target_cases {before d : Disk} {directory : Location} {tidy : Prop}
    {r : Replacement} (h : Progress before directory tidy r d) (hne : r.temporary ≠ r.target) :
    d.get (directory ++ [r.target]) = before.get (directory ++ [r.target]) ∨
      d.get (directory ++ [r.target]) = some (.file r.contents) := by
  obtain ⟨target, temporary, contents, phase⟩ := r
  have hother : directory ++ [target] ≠ directory ++ [temporary] := by simpa using hne.symm
  cases phase with
  | creating => exact .inl (h _)
  | writing left =>
    obtain ⟨written, -, hholding⟩ := h
    exact .inl (hholding.agree _ hother)
  | syncing | moving => exact .inl (Holding.agree h _ hother)
  | settling | done => exact .inr (Disk.Replaced.get_eq h)
  | discarding culprit message => exact .inl (h _ hother)
  | failed culprit message => exact .inl (h.1 _ hother)

namespace World.Watched

/-- On every disk that a replacement comes to, the target is as it was, or has been replaced. -/
lemma sees_complete {before : Disk} {directory : Location} {r : Replacement} {v : Watched}
    (h : r.Progress before directory False v.world.disk) (hne : r.temporary ≠ r.target) :
    Sees (fun d => d.get (directory ++ [r.target]) = before.get (directory ++ [r.target]) ∨
        d.get (directory ++ [r.target]) = some (.file r.contents))
      (r.complete (World.host.perform directory)) (r.complete (host.perform directory)) v := by
  induction hsteps : r.stepsLeft using Nat.strongRecOn generalizing r v with
  | _ n ih =>
    rcases hrequest : r.request? with _ | request
    · rw [Replacement.complete_of_none hrequest, Replacement.complete_of_none hrequest]
      exact sees_pure r.outcome (h.target_cases hne)
    · obtain ⟨fate, fates, removals, hperform, -⟩ := perform_eq directory request v.world
      have hstep := h.step hrequest fate fun hfalse => hfalse.elim
      have hless := hsteps ▸ Replacement.stepsLeft_receive_lt hrequest
        (v.world.disk.perform directory fate request).2
      rw [Replacement.complete_of_some hrequest, Replacement.complete_of_some hrequest]
      refine (sees_watch ?_).bind fun v₁ hv₁ _ => ?_
      · rw [hperform]
        exact hstep.target_cases hne
      · rw [hperform] at hv₁ ⊢
        exact ih _ hless (by rw [hv₁]; exact hstep) hne rfl

end World.Watched

open World

/-- What an action that replaces a target does in a world: `run` is its result and the world after
it, and `watched` the same where every moment of the action is kept. -/
structure Atomic {ε : Type} (target : Option Location) (contents : Bytes) (w : World)
    (run : Except ε Unit × World) (watched : Except ε Unit × Watched) : Prop where
  /-- Watching changes nothing. -/
  watched_eq : (watched.1, watched.2.world) = run
  /-- At every moment the target is as it was, or the complete file. -/
  moment : ∀ l, target = some l → ∀ d ∈ watched.2.moments,
    d.get l = w.disk.get l ∨ d.get l = some (.file contents)
  /-- A failure leaves every entry as it was. -/
  unchanged : ∀ e, run.1 = .error e → ∀ k, run.2.disk.get k = w.disk.get k
  /-- A success has replaced the target, and left everything else as it was. -/
  replaced : run.1 = .ok () → ∃ l, target = some l ∧ Disk.Replaced l contents w.disk run.2.disk
  /-- Where the target is a link, every file stays, so that the one it leads to does too. -/
  file_kept : ∀ l link, target = some l → w.disk.get l = some (.link link) →
    ∀ k bytes, w.disk.get k = some (.file bytes) → run.2.disk.get k = some (.file bytes)

/-- What is said of links follows from the rest. -/
lemma Atomic.of_sees {ε : Type} {target : Option Location} {contents : Bytes} {w : World}
    {x : StateM World (Except ε Unit)} {y : StateM Watched (Except ε Unit)}
    (hsees : Watched.Sees (fun d => ∀ l, target = some l →
      d.get l = w.disk.get l ∨ d.get l = some (.file contents)) x y (.ofWorld w))
    (hunchanged : ∀ e, (x w).1 = .error e → ∀ k, (x w).2.disk.get k = w.disk.get k)
    (hreplaced : (x w).1 = .ok () → ∃ l, target = some l ∧
      Disk.Replaced l contents w.disk (x w).2.disk) :
    Atomic target contents w (x w) (y (.ofWorld w)) := by
  obtain ⟨moments, hy, hmoments⟩ := hsees.of_ofWorld fun l _ => .inl rfl
  rw [hy]
  refine ⟨rfl, fun l hl d hd => hmoments d hd l hl, hunchanged, hreplaced, ?_⟩
  intro l link hl hlink k bytes hfile
  rcases hresult : (x w).1 with e | ⟨⟩
  · rw [hunchanged e hresult k, hfile]
  · obtain ⟨l', hl', hdisk⟩ := hreplaced hresult
    obtain rfl : l = l' := Option.some.inj (hl.symm.trans hl')
    have hne : k ≠ l := by
      rintro rfl
      rw [hfile] at hlink
      cases hlink
    rw [hdisk k, if_neg hne, hfile]

/-! ### Replacements and manifests -/

/-- A replacement is atomic, if its temporary file was not there before. -/
lemma Replacement.atomic_complete {w : World} (htidy : w.Tidy) {directory : Location}
    {target : Name} {s : Stamp} (contents : Bytes)
    (hfree : w.disk.get (directory ++ [temporaryName target s]) = none) :
    Atomic (some (directory ++ [target])) contents w
      ((start target s contents).complete (host.perform directory) w)
      ((start target s contents).complete (Watched.host.perform directory) (.ofWorld w)) := by
  have hstart (tidy : Prop) : (start target s contents).Progress w.disk directory tidy w.disk :=
    progress_start w.disk directory tidy target s contents
  obtain ⟨outcome, disk, fates, removals, hcomplete, hcases⟩ :=
    complete_cases (hstart w.Tidy) (fun ht => ht)
  refine .of_sees ?_ ?_ ?_
  · refine (Watched.sees_complete (v := .ofWorld w) (hstart False)
      (temporaryName_ne target s)).mono ?_
    rintro d hd l hl
    obtain rfl := Option.some.inj hl
    exact hd
  · rw [hcomplete]
    intro e he
    rcases hcases with ⟨rfl, -⟩ | ⟨culprit, rfl, hagree, hcleared⟩
    · cases he
    · exact hagree.get_eq ((hcleared htidy).trans hfree.symm)
  · rw [hcomplete]
    intro hok
    rcases hcases with ⟨rfl, hreplaced⟩ | ⟨culprit, rfl, -, -⟩
    · exact ⟨_, rfl, hreplaced⟩
    · cases hok

/-- While a manifest is saved, its file is as it was before, or holds the text of the manifest. -/
lemma Manifest.sees_save (manifest : Manifest) (path : Path) (layout : Layout) (v : Watched) :
    Watched.Sees (fun d => ∀ l, v.world.disk.entryLocation? v.world.here path = some l →
        d.get l = v.world.disk.get l ∨
          d.get l = some (.file (Utf8.encode (manifest.toJson layout))))
      (save host manifest path layout) (save Watched.host manifest path layout) v := by
  have hkept : ∀ l, v.world.disk.entryLocation? v.world.here path = some l →
      v.world.disk.get l = v.world.disk.get l ∨
        v.world.disk.get l = some (.file (Utf8.encode (manifest.toJson layout))) :=
    fun l _ => .inl rfl
  rcases htext : path.text? with _ | text
  · simp only [save, htext]
    exact Watched.sees_pure _ hkept
  rcases hname : path.fileName? with _ | name
  · simp only [save, htext, hname]
    exact Watched.sees_pure _ hkept
  simp only [save, htext, hname]
  refine (Watched.sees_watch_of_quiet (quiet_openParent path) hkept).bind fun v₁ hv₁ hkept₁ => ?_
  rcases hparent : (host.openParent path v.world).1 with message | directory
  · exact Watched.sees_pure _ hkept₁
  have hlocation := Disk.entryLocation?_eq_some (openParent_eq_ok hparent) hname
  have hdisk : v₁.world.disk = v.world.disk := hv₁ ▸ (quiet_openParent path v.world).disk_eq
  refine (Watched.sees_watch (v := v₁) (x := host.freshStamp) hkept₁).bind fun v₂ hv₂ hkept₂ => ?_
  -- nothing has been written yet: all that follows starts from the disk that was there before
  have hdisk₂ : v₂.world.disk = v.world.disk := hv₂ ▸ hdisk
  have hstart := Replacement.progress_start v.world.disk directory False name
    (host.freshStamp v₁.world).1 (Utf8.encode (manifest.toJson layout))
  rw [← hdisk₂] at hstart
  refine ((Watched.sees_complete hstart (temporaryName_ne name _)).mono ?_).bind
    fun v₃ hv₃ hkept₃ => ?_
  · intro d hd l hl
    obtain rfl := Option.some.inj (hlocation.symm.trans hl)
    rw [← hdisk₂]
    exact hd
  · split
    · exact Watched.sees_pure _ hkept₃
    · exact (Watched.sees_watch_of_quiet (quiet_report _) hkept₃).bind fun v₄ _ hkept₄ =>
        Watched.sees_pure _ hkept₄

/-- Saving a manifest is atomic, if the temporary file was not there before. -/
lemma Manifest.atomic_save {w : World} (htidy : w.Tidy) (manifest : Manifest) {path : Path}
    (layout : Layout) (hfree : w.TemporaryFree path) :
    Atomic (w.disk.entryLocation? w.here path) (Utf8.encode (manifest.toJson layout)) w
      (manifest.save host path layout w)
      (manifest.save Watched.host path layout (.ofWorld w)) :=
  .of_sees (manifest.sees_save path layout (.ofWorld w))
    (fun e he => (manifest.written_save path layout w).kept e he hfree htidy)
    (manifest.written_save path layout w).replaced

/-- In a world where removals are not refused, whichever other step fails, a replacement of any
target by any contents is atomic, and so is saving any manifest under any path, as long as no entry
bears the name of the temporary file. A replacement of which no step fails succeeds, unless the
target is a directory or its temporary file cannot have its name. -/
theorem replacement_atomic_under_faults {w : World} (htidy : w.Tidy) :
    (∀ directory target s contents,
      w.disk.get (directory ++ [temporaryName target s]) = none →
      Atomic (some (directory ++ [target])) contents w
        ((Replacement.start target s contents).complete (host.perform directory) w)
        ((Replacement.start target s contents).complete (Watched.host.perform directory)
          (.ofWorld w))) ∧
    (∀ directory target s contents, w.Granting →
      Replacement.Unhindered w.disk directory (temporaryName target s) target →
      ((Replacement.start target s contents).complete (host.perform directory) w).1 = .ok ()) ∧
    ∀ (manifest : Manifest) path layout, w.TemporaryFree path →
      Atomic (w.disk.entryLocation? w.here path) (Utf8.encode (manifest.toJson layout)) w
        (manifest.save host path layout w)
        (manifest.save Watched.host path layout (.ofWorld w)) :=
  ⟨fun _ _ _ contents hfree => Replacement.atomic_complete htidy contents hfree,
    fun directory target s contents hgranting hclear => complete_eq_ok hclear
      (Replacement.progress_start w.disk directory False target s contents) trivial hgranting,
    fun manifest _ layout hfree => manifest.atomic_save htidy layout hfree⟩

/-- A link is replaced itself, while the file that it leads to stays. -/
theorem replacement_atomic_under_faults_of_link :
    let rooms := Utf8.encode "rooms.json"
    let old := Utf8.encode "old.json"
    let w : World := .ofDisk ⟨[([rooms], .link ⟨old⟩), ([old], .file (Utf8.encode "old"))]⟩ []
    let replacement := Replacement.start rooms ⟨1, 2, 3⟩ (Utf8.encode "new")
    let run := replacement.complete (host.perform []) w
    let watched := replacement.complete (Watched.host.perform []) (.ofWorld w)
    run.1 = .ok () ∧
      run.2.disk.get [rooms] = some (.file (Utf8.encode "new")) ∧
      run.2.disk.get [old] = some (.file (Utf8.encode "old")) ∧
      ∀ d ∈ watched.2.moments, d.get [rooms] = some (.link ⟨old⟩) ∨
        d.get [rooms] = some (.file (Utf8.encode "new")) := by
  intro rooms old w replacement run watched
  have htidy : w.Tidy := fun fate hfate => by cases hfate
  have hgranting : w.Granting := fun fate hfate => by cases hfate
  have hfree : w.disk.get ([] ++ [temporaryName rooms ⟨1, 2, 3⟩]) = none := by decide +kernel
  have hclear : Replacement.Unhindered w.disk [] (temporaryName rooms ⟨1, 2, 3⟩) rooms :=
    ⟨by decide +kernel, hfree, temporaryName_ne rooms _, by decide +kernel⟩
  have hall := replacement_atomic_under_faults htidy
  have hatomic := hall.1 [] rooms ⟨1, 2, 3⟩ (Utf8.encode "new") hfree
  have hok := hall.2.1 [] rooms ⟨1, 2, 3⟩ (Utf8.encode "new") hgranting hclear
  obtain ⟨l, hl, hreplaced⟩ := hatomic.replaced hok
  obtain rfl := Option.some.inj hl
  have hne : ([old] == [rooms]) = false := by decide +kernel
  have hold : w.disk.get [old] = some (.file (Utf8.encode "old")) := by
    simp [w, ofDisk, Disk.get, List.lookup_cons, hne]
  refine ⟨hok, hreplaced.get_eq, ?_, ?_⟩
  · exact hatomic.file_kept [rooms] ⟨old⟩ rfl rfl [old] _ hold
  · exact hatomic.moment [rooms] rfl

end RoomDraw
