import RoomDraw.Proofs.Files.TemporaryName
import RoomDraw.Proofs.Manifest.Saving
import RoomDraw.Proofs.Path

/-!
# What an error of saving names

Until the directory of a manifest is open, an error names the path under which the manifest was to
be saved. From then on it names a file in that directory by its name alone, which as a path leads to
the working directory. The two agree only where the manifest is saved in the working directory.
-/

namespace RoomDraw

/-! ### Names -/

lemma encode_stampText (s : Stamp) :
    Utf8.encode s!".tmp.{s.process}.{s.clock}.{s.counter}" =
      Utf8.encode ".tmp." ++ Utf8.encode s.process.repr ++ Utf8.encode "." ++
        Utf8.encode s.clock.repr ++ Utf8.encode "." ++ Utf8.encode s.counter.repr := by
  simp only [← Utf8.encode_append]
  rfl

/-- The name of a temporary file can stand between slashes, as that of its target can. -/
lemma single_temporaryName {target : Name} (h : Path.Single target) (s : Stamp) :
    Path.Single (temporaryName target s) := by
  have htext : Path.slash ∉ Utf8.encode ".tmp." := by decide
  have hlength : (Utf8.encode ".tmp.").length = 5 := rfl
  have hnumber : ∀ n : Nat, Path.slash ∉ Utf8.encode n.repr :=
    Utf8.not_mem_encode_repr (by decide)
  have hlong : 2 < (temporaryName target s).length := by
    simp only [temporaryName, encode_stampText, List.length_append, hlength]
    omega
  refine ⟨?_, ?_⟩
  · simp only [temporaryName, encode_stampText, List.mem_append, Path.encode_dot, h.slash_not_mem, htext,
      hnumber, or_false, false_or]
    decide
  · have hcounts : ¬(temporaryName target s = [] ∨ temporaryName target s = [Path.dot]) := by
      rintro (hname | hname) <;> simp [hname] at hlong
    have hup : temporaryName target s ≠ [Path.dot, Path.dot] := by
      intro hname
      simp [hname] at hlong
    rw [Path.component?, if_neg hcounts, if_neg hup]

/-! ### The file that is blamed -/

/-- A step that has failed was one on the target or on the temporary file. -/
def Replacement.Blames (r : Replacement) : Prop :=
  match r.phase with
  | .discarding culprit _ | .failed culprit _ => culprit = r.target ∨ culprit = r.temporary
  | _ => True

namespace Replacement

variable {r : Replacement}

lemma blames_writingPhase (r : Replacement) (left : Bytes) :
    ({ r with phase := writingPhase left } : Replacement).Blames := by
  cases left <;> trivial

lemma blames_start (target : Name) (s : Stamp) (contents : Bytes) :
    (start target s contents).Blames :=
  trivial

lemma Blames.receive (h : r.Blames) (response : Response) : (r.receive response).Blames := by
  obtain ⟨target, temporary, contents, phase⟩ := r
  cases phase with
  | creating =>
    cases response with
    | error message => exact .inr rfl
    | ok n => exact blames_writingPhase ⟨target, temporary, contents, .creating⟩ contents
  | writing left =>
    cases response with
    | error message => exact .inr rfl
    | ok n =>
      by_cases hn : n = 0
      · simp only [Replacement.receive, phaseAfter, if_pos hn]
        exact .inr rfl
      · simp only [Replacement.receive, phaseAfter, if_neg hn]
        exact blames_writingPhase ⟨target, temporary, contents, .creating⟩ (left.drop n)
  | syncing =>
    cases response with
    | error message => exact .inr rfl
    | ok n => trivial
  | moving =>
    cases response with
    | error message => exact .inl rfl
    | ok n => trivial
  | settling => trivial
  | discarding culprit message => exact h
  | done => trivial
  | failed culprit message => exact h

lemma Blames.outcome_eq {culprit : Name} {message : String} (h : r.Blames)
    (houtcome : r.outcome = .error (culprit, message)) :
    culprit = r.target ∨ culprit = r.temporary := by
  obtain ⟨target, temporary, contents, phase⟩ := r
  cases phase with
  | failed culprit' message' =>
    obtain ⟨rfl, rfl⟩ := Prod.mk.inj (Except.error.inj houtcome)
    exact h
  | _ => cases houtcome

end Replacement

namespace World

/-- Whatever step of a replacement fails, it is one on the target or on the temporary file. -/
lemma culprit_of_complete {directory : Location} {r : Replacement} {w : World} {culprit : Name}
    {message : String} (h : r.Blames)
    (hcomplete : (r.complete (host.perform directory) w).1 = .error (culprit, message)) :
    culprit = r.target ∨ culprit = r.temporary := by
  induction hsteps : r.stepsLeft using Nat.strongRecOn generalizing r w with
  | _ n ih =>
    rcases hrequest : r.request? with _ | request
    · rw [Replacement.complete_of_none hrequest] at hcomplete
      exact h.outcome_eq hcomplete
    · rcases hperform : host.perform directory request w with ⟨response, w'⟩
      rw [Replacement.complete_of_some hrequest] at hcomplete
      simp only [bind, StateT.bind, hperform] at hcomplete
      have hless := hsteps ▸ Replacement.stepsLeft_receive_lt hrequest response
      exact ih _ hless (r := r.receive response) (h.receive response) hcomplete rfl

end World

/-! ### The path of the error -/

/-- The location of a directory that was opened is that of a directory. -/
lemma Disk.isDirectory_of_openParent {d : Disk} {here directory : Location} {path : Path}
    (h : d.openParent here path = .ok directory) : d.isDirectory directory = true := by
  simp only [openParent, bind, Except.bind] at h
  split_ifs at h
  rcases hwalk : d.walk none maxLinks here path.parent with e | l
  · simp only [hwalk] at h
    cases h
  · simp only [hwalk] at h
    split_ifs at h with hl
    exact Except.ok.inj h ▸ hl

namespace Manifest

open World

/-- If a manifest cannot be saved, the error names the path it was to be saved under as long as the
directory is not open. After that it names the file or the temporary file, but without the
directory: as a path it leads to the directory of the manifest exactly if that is the working
directory. -/
theorem culprit_of_save {manifest : Manifest} {path culprit : Path} {layout : Layout}
    {message : String} {w : World}
    (h : (save host manifest path layout w).1 = .error (.unwritable culprit message)) :
    culprit = path ∧
        (path.fileName? = none ∨ (host.openParent path w).1 = .error message) ∨
      ∃ directory name, (host.openParent path w).1 = .ok directory ∧
        w.disk.openParent w.here path = .ok directory ∧ path.fileName? = some name ∧
        (culprit = ⟨name⟩ ∨ culprit = ⟨temporaryName name w.stamp⟩) ∧ culprit.parent = [] ∧
        (w.disk.openParent w.here culprit = .ok directory ↔ directory = w.here) := by
  rcases manifest.save_cases path layout w with
    ⟨e, w', hsave, -, -, herror⟩ | ⟨directory, name, w₁, hname, hopen, -, -, hsave⟩
  · obtain rfl : e = .unwritable culprit message := Except.error.inj (by rwa [hsave] at h)
    obtain hnot | ⟨refusal, hrefusal, hcause⟩ := herror
    · cases hnot
    · obtain ⟨rfl, rfl⟩ := ManifestError.unwritable.inj hrefusal
      exact .inl ⟨rfl, hcause⟩
  right
  have hdirectory := openParent_eq_ok hopen
  have hsingle : ∀ file : Name, file = name ∨ file = temporaryName name w.stamp →
      Path.Single file := by
    rintro file (rfl | rfl)
    · exact Path.single_of_fileName? hname
    · exact single_temporaryName (Path.single_of_fileName? hname) w.stamp
  obtain ⟨file, hfile, rfl⟩ : ∃ file, (file = name ∨ file = temporaryName name w.stamp) ∧
      culprit = ⟨file⟩ := by
    rcases hcomplete : (Replacement.start name w.stamp
      (Utf8.encode (manifest.toJson layout))).complete (host.perform directory)
      (host.freshStamp w₁).2 with ⟨⟨file, _⟩ | ⟨⟩, w₂⟩
    · rw [hsave, hcomplete] at h
      obtain ⟨rfl, -⟩ := ManifestError.unwritable.inj (Except.error.inj h)
      exact ⟨file, culprit_of_complete (Replacement.blames_start name w.stamp _)
        (congrArg Prod.fst hcomplete), rfl⟩
    · rw [hsave, hcomplete] at h
      cases h
  refine ⟨directory, name, hopen, hdirectory, hname, ?_, (hsingle file hfile).parent_eq, ?_⟩
  · exact hfile.imp (congrArg Path.mk) (congrArg Path.mk)
  · rw [(hsingle file hfile).openParent_eq]
    constructor
    · intro hopen
      split_ifs at hopen
      exact (Except.ok.inj hopen).symm
    · rintro rfl
      rw [if_pos (Disk.isDirectory_of_openParent hdirectory)]

/-! ### A directory in the way -/

/-- A world in which the name of a manifest is that of a directory. -/
def blocked : World :=
  .ofDisk ⟨[([Utf8.encode "out"], .directory),
    ([Utf8.encode "out", Utf8.encode "rooms.json"], .directory)]⟩ []

/-- The path that an error of writing names, and its text. -/
def unwritable? : ManifestError → Option (Bytes × String)
  | .unwritable culprit message => some (culprit.bytes, message)
  | _ => none

lemma save_blocked :
    (save host (.ofRooms [.numbered 0 ["ann", "bob"]]) (.ofString "out/rooms.json") .pretty
        blocked).1 =
      .error (.unwritable (.ofString "rooms.json") SystemError.isDirectory.message) := by
  have hculprit : (save host (.ofRooms [.numbered 0 ["ann", "bob"]]) (.ofString "out/rooms.json")
      .pretty blocked).1.mapError unwritable? =
        .error (some (Utf8.encode "rooms.json", SystemError.isDirectory.message)) := by
    decide +kernel
  rcases hsave : (save host (.ofRooms [.numbered 0 ["ann", "bob"]]) (.ofString "out/rooms.json")
    .pretty blocked).1 with e | ⟨⟩
  · rw [hsave] at hculprit
    have hplace := Except.error.inj hculprit
    cases e with
    | unwritable culprit message =>
      obtain ⟨hbytes, rfl⟩ := Prod.mk.inj (Option.some.inj hplace)
      rw [Path.ofString, ← hbytes]
    | _ => cases hplace
  · rw [hsave] at hculprit
    cases hculprit

/-- The error that the directory in the way leads to names one of the two files of its directory, as
if they were in the working directory. -/
theorem culprit_of_save_of_blocked :
    (save host (.ofRooms [.numbered 0 ["ann", "bob"]]) (.ofString "out/rooms.json") .pretty
        blocked).1 =
      .error (.unwritable (.ofString "rooms.json") SystemError.isDirectory.message) ∧
    ∃ directory, blocked.disk.openParent blocked.here (.ofString "out/rooms.json") = .ok directory ∧
      (blocked.disk.openParent blocked.here (.ofString "rooms.json") = .ok directory ↔
        directory = blocked.here) := by
  refine ⟨save_blocked, ?_⟩
  rcases culprit_of_save save_blocked with ⟨hculprit, -⟩ | ⟨directory, -, -, hopen, -, -, -, hiff⟩
  · have hbytes := congrArg Path.bytes hculprit
    exact absurd hbytes (by decide +kernel)
  · exact ⟨directory, hopen, hiff⟩

/-- The path that the error names leads to the working directory, but that of the manifest to
another. -/
theorem save_blames_other_directory :
    (save host (.ofRooms [.numbered 0 ["ann", "bob"]]) (.ofString "out/rooms.json") .pretty
        blocked).1 =
      .error (.unwritable (.ofString "rooms.json") SystemError.isDirectory.message) ∧
    blocked.disk.openParent blocked.here (.ofString "out/rooms.json") = .ok [Utf8.encode "out"] ∧
    blocked.disk.openParent blocked.here (.ofString "rooms.json") = .ok [] :=
  ⟨save_blocked, by decide +kernel, by decide +kernel⟩

end Manifest

end RoomDraw
