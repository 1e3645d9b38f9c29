import RoomDraw.Proofs.Settings.Loading

/-!
# What files of settings say

The file that counts is at one of the places where files of settings may be. What it says about a
setting is found in its own table, or in that of the nearest file that it extends.
-/

namespace RoomDraw

open World

namespace World

variable {path found : Path} {bytes : Bytes} {w w' : World}

/-- A file of settings is found as the disk has it, unless it cannot be read. -/
lemma settingsFile_cases (path : Path) (w : World) :
    (host.settingsFile path w).1 = .unreadable ∨
      (host.settingsFile path w).1 =
        match w.disk.findFile w.here path with
        | .ok (l, bytes) => .contents (pathOf l) bytes
        | .error _ => .absent := by
  have hgranted : ((match w.disk.findFile w.here path with
      | .ok (l, bytes) => return .contents (pathOf l) bytes
      | .error _ => return .absent : StateM World SettingsFile)
        { w with fates := w.fates.tail }).1 =
      match w.disk.findFile w.here path with
      | .ok (l, bytes) => .contents (pathOf l) bytes
      | .error _ => .absent := by
    cases w.disk.findFile w.here path <;> rfl
  obtain ⟨disk, here, fates, removals, seeds, stamp, events, output, errors⟩ := w
  rcases fates with _ | ⟨_ | size | ⟨after, message⟩, fates⟩
  · exact .inr hgranted
  · exact .inr hgranted
  · exact .inr hgranted
  · exact .inl rfl

lemma settingsFile_eq_contents (h : host.settingsFile path w = (.contents found bytes, w')) :
    ∃ l, w.disk.findFile w.here path = .ok (l, bytes) ∧ found = pathOf l := by
  rcases settingsFile_cases path w with hcase | hcase <;> rw [h] at hcase
  · cases hcase
  · split at hcase
    · rename_i l bytes' hfile
      obtain ⟨rfl, rfl⟩ := SettingsFile.contents.inj hcase
      exact ⟨l, hfile, rfl⟩
    · cases hcase

lemma settingsFile_eq_absent (h : host.settingsFile path w = (.absent, w')) :
    ∃ e, w.disk.findFile w.here path = .error e := by
  rcases settingsFile_cases path w with hcase | hcase <;> rw [h] at hcase
  · cases hcase
  · split at hcase
    · cases hcase
    · rename_i e hfile
      exact ⟨e, hfile⟩

end World

/-- The layer of tables of which an earlier one counts before those behind it. -/
def Layer.ofTables (ts : List Toml.Table) : Layer := fun t => ts.findSome? (Layer.ofTable · t)

lemma Layer.ofTables_cons (table : Toml.Table) (ts : List Toml.Table) :
    ofTables (table :: ts) = (ofTable table).above (ofTables ts) := by
  funext t
  rw [ofTables, List.findSome?_cons, above]
  cases ofTable table t <;> rfl

lemma Layer.ofTables_singleton (table : Toml.Table) : ofTables [table] = ofTable table := by
  funext t
  rw [ofTables, List.findSome?_singleton]

namespace SettingsFile

/-- The tables of a file and of the files it extends, one after the other. -/
inductive Chain (d : Disk) (here : Location) : Path → Bytes → List Toml.Table → Prop
  | last {path : Path} {bytes : Bytes} {t : Toml.Table} (htable : table path bytes = .ok t)
      (hlast : extended? path t = .ok none) : Chain d here path bytes [t]
  | extending {path base : Path} {bytes bytes' : Bytes} {t : Toml.Table} {l : Location}
      {ts : List Toml.Table} (htable : table path bytes = .ok t)
      (hbase : extended? path t = .ok (some base)) (hfile : d.findFile here base = .ok (l, bytes'))
      (hchain : Chain d here (pathOf l) bytes' ts) : Chain d here path bytes (t :: ts)

/-- The layer is that of the file to which the path leads. -/
def Gives (d : Disk) (here : Location) (path : Path) (l : Layer) : Prop :=
  ∃ place bytes ts, d.findFile here path = .ok (place, bytes) ∧
    Chain d here (pathOf place) bytes ts ∧ l = .ofTables ts

/-- The layer of the files of settings, which may be at these places: that of one of them, or
nothing if none of the places leads to a file. -/
def Found (d : Disk) (here : Location) (places : List Path) (l : Layer) : Prop :=
  (∃ path ∈ places, Gives d here path l) ∨
    (∀ path ∈ places, ∃ e, d.findFile here path = .error e) ∧ l = .empty

/-- What is read of a file comes from its table and those of the files it extends. -/
lemma chain_of_layer {bound : Nat} {seen : List Path} {path : Path} {bytes : Bytes} {w : World}
    {l : Layer} (h : (layer host bound seen path bytes w).1 = .ok l) :
    ∃ ts, Chain w.disk w.here path bytes ts ∧ l = .ofTables ts := by
  induction bound generalizing seen path bytes w l with
  | zero => cases h
  | succ bound ih =>
    unfold layer at h
    split_ifs at h
    · cases h
    rcases htable : table path bytes with f | t
    · simp only [htable] at h
      cases h
    rcases hextended : extended? path t with f | _ | base
    · simp only [htable, hextended] at h
      cases h
    · simp only [htable, hextended] at h
      rw [← Except.ok.inj h]
      exact ⟨[t], .last htable hextended, (Layer.ofTables_singleton t).symm⟩
    · simp only [htable, hextended, bind, StateT.bind] at h
      rcases hfile : host.settingsFile base w with ⟨found, w₁⟩
      rw [hfile] at h
      cases found with
      | contents found bytes' =>
        obtain ⟨place, hplace, rfl⟩ := settingsFile_eq_contents hfile
        -- what the rest finds after this file was read, it would have found before
        have hquiet := (quiet_settingsFile base).unwritten hfile
        change (layer host bound (path :: seen) (pathOf place) bytes' w₁).1.map
          (Layer.above (.ofTable t)) = .ok l at h
        rcases hlayer : (layer host bound (path :: seen) (pathOf place) bytes' w₁).1 with f | l'
        · rw [hlayer] at h
          cases h
        · rw [hlayer] at h
          obtain ⟨ts, hchain, rfl⟩ := ih hlayer
          rw [hquiet.disk_eq, hquiet.here_eq] at hchain
          refine ⟨t :: ts, .extending htable hextended hplace hchain, ?_⟩
          rw [← Except.ok.inj h, Layer.ofTables_cons]
      | absent | unreadable => cases h

lemma gives_of_load? {path : Path} {w : World} {l : Layer}
    (h : (load? host path w).1 = some (.ok l)) : Gives w.disk w.here path l := by
  rcases hfile : host.settingsFile path w with ⟨found, w₁⟩
  simp only [load?, bind, StateT.bind, hfile] at h
  cases found with
  | contents found bytes =>
    obtain ⟨place, hplace, rfl⟩ := settingsFile_eq_contents hfile
    have hquiet := (quiet_settingsFile path).unwritten hfile
    change some (layer host chainLimit [] (pathOf place) bytes w₁).1 = some (.ok l) at h
    obtain ⟨ts, hchain, rfl⟩ := chain_of_layer (Option.some.inj h)
    rw [hquiet.disk_eq, hquiet.here_eq] at hchain
    exact ⟨place, bytes, ts, hplace, hchain, rfl⟩
  | absent | unreadable => cases h

lemma findFile_of_load?_eq_none {path : Path} {w : World} (h : (load? host path w).1 = none) :
    ∃ e, w.disk.findFile w.here path = .error e := by
  rcases hfile : host.settingsFile path w with ⟨found, w₁⟩
  simp only [load?, bind, StateT.bind, hfile] at h
  cases found with
  | absent => exact settingsFile_eq_absent hfile
  | contents | unreadable => cases h

end SettingsFile

namespace Settings

open SettingsFile

/-- The places where files of settings may be. A file that is named has to be there. -/
def places (named : Option Path) (e : Environment) (here : Path) : List Path :=
  match named with
  | some path => [path]
  | none => candidates none e here

variable {paths : List Path} {errors : List SettingsError} {w : World} {l : Layer}

/-- Some place leads to a file that can be used, or no place leads to a file and none was faulty. -/
lemma discover_cases (h : (discover host paths errors w).1 = ([], l)) :
    (∃ path ∈ paths, Gives w.disk w.here path l) ∨
      errors = [] ∧ (∀ path ∈ paths, ∃ e, w.disk.findFile w.here path = .error e) ∧ l = .empty := by
  induction paths generalizing errors w with
  | nil =>
    obtain ⟨herrors, hl⟩ := Prod.mk.inj h
    exact .inr ⟨herrors, nofun, hl.symm⟩
  | cons path paths ih =>
    rcases hload : load? host path w with ⟨_ | f | l', w₁⟩
    all_goals
      have hquiet := (quiet_load? path).unwritten hload
      simp only [discover, bind, StateT.bind, hload] at h
      rw [← hquiet.disk_eq, ← hquiet.here_eq]
    · rcases ih h with ⟨path', hpath', hgives⟩ | ⟨herrors, habsent, hl⟩
      · exact .inl ⟨path', List.mem_cons_of_mem path hpath', hgives⟩
      · refine .inr ⟨herrors, List.forall_mem_cons.mpr ⟨?_, habsent⟩, hl⟩
        rw [hquiet.disk_eq, hquiet.here_eq]
        exact findFile_of_load?_eq_none (congrArg Prod.fst hload)
    · rcases ih h with ⟨path', hpath', hgives⟩ | ⟨herrors, -⟩
      · exact .inl ⟨path', List.mem_cons_of_mem path hpath', hgives⟩
      · -- what is faulty is kept in mind to the end
        exact absurd herrors (by simp)
    · obtain rfl : l' = l := (Prod.mk.inj h).2
      rw [hquiet.disk_eq, hquiet.here_eq]
      exact .inl ⟨path, List.mem_cons_self, gives_of_load? (congrArg Prod.fst hload)⟩

/-- The layer of the files is that of a file that is found where files may be. -/
lemma found_of_fileLayer {named : Option Path} {e : Environment}
    (h : (fileLayer host named e w).1 = ([], l)) :
    Found w.disk w.here (places named e (pathOf w.here)) l := by
  cases named with
  | none => exact (discover_cases h).imp id And.right
  | some path =>
    have hhere : host.workingDirectory w = (pathOf w.here, w) := rfl
    rcases hload : load? host path w with ⟨_ | f | l', w₁⟩
    all_goals simp only [fileLayer, bind, StateT.bind, hhere, hload] at h
    · cases h
    · cases h
    · obtain rfl : l' = l := (Prod.mk.inj h).2
      exact .inl ⟨path, List.mem_singleton_self path, gives_of_load? (congrArg Prod.fst hload)⟩

end Settings

end RoomDraw
