import RoomDraw.Proofs.Files.Success
import RoomDraw.Proofs.Run

/-!
# What a run reports

The events of a run tell how far it has come, and what it has done. They are those of its stages,
one stage after the other, and each of them is reported when the stage has done what it tells: so
the events end with the last one before the stage that failed.
-/

namespace RoomDraw

open World

/-! ### The roster -/

namespace Roster

lemma silent_openFile (path : Path) : Silent (openFile host path) := by
  unfold openFile
  split
  · exact silent_pure _
  · refine (silent_openParent path).bind fun answer => ?_
    cases answer with
    | error message => exact silent_pure _
    | ok directory =>
      refine (World.silent_openFile directory _).bind fun answer => ?_
      cases answer <;> exact silent_pure _

/-- A file that was opened is decoded, and the users found in it are reported. -/
lemma load_of_openFile {path : Path} {w w₁ : World} {feed : Feed}
    (h : openFile host path w = (.ok feed, w₁)) :
    load host path w =
      (ofFeed feed, (host.reportAll ((decode feed).users.toList.map .foundUser) w₁).2) := by
  simp only [load, bind, StateT.bind, h]
  rfl

lemma load_of_openFile_error {path : Path} {w w₁ : World} {e : RosterError}
    (h : openFile host path w = (.error e, w₁)) : load host path w = (.error e, w₁) := by
  simp only [load, bind, StateT.bind, h]
  rfl

/-- A roster has the users that were found in its feed. -/
lemma users_of_ofFeed {feed : Feed} {roster : Roster} (h : ofFeed feed = .ok roster) :
    (decode feed).users = roster.users := by
  rw [ofFeed, Decoding.toExcept] at h
  split at h
  · rw [← Except.ok.inj h]
  · cases h

end Roster

/-! ### Rooms -/

/-- What is reported of rooms of the given sizes. -/
def assigned (sizes : List RoomSize) : List Event :=
  sizes.mapIdx fun k size => .assignedMembers s!"Room {k}" size.value

/-- Rooms that are seated in the order of their sizes are reported by their places and sizes. -/
lemma map_ofRoom_eq_assigned {roster : Roster} {sizes : List RoomSize} {rooms : List Room}
    (hlength : rooms.length = sizes.length)
    (hseated : ∀ k (hk : k < sizes.length), ∃ room, rooms[k]? = some room ∧
      Seated roster k sizes[k] room) :
    rooms.map .ofRoom = assigned sizes := by
  refine List.ext_getElem (by simp [assigned, hlength]) fun k hk _ => ?_
  rw [List.length_map, hlength] at hk
  obtain ⟨room, hroom, hseat⟩ := hseated k hk
  have hget : rooms[k] = room := Option.some.inj ((List.getElem?_eq_getElem _).symm.trans hroom)
  simp only [List.getElem_map, hget, assigned, List.getElem_mapIdx, Event.ofRoom, hseat.name_eq,
    hseat.size_eq]

/-! ### The manifest -/

/-- A manifest that was saved is reported after it has taken its place, and one that was not has not
changed what was there. -/
lemma Manifest.save_reports (manifest : Manifest) (path : Path) (layout : Layout) (w : World) :
    (∃ w', save host manifest path layout w = (.ok (), w') ∧
        w'.events = w.events ++ [Event.wroteManifest path manifest.creators.length] ∧
        ∃ l, w.disk.entryLocation? w.here path = some l ∧
          Disk.Replaced l (Utf8.encode (manifest.toJson layout)) w.disk w'.disk) ∨
      ∃ e w', save host manifest path layout w = (.error e, w') ∧ w'.events = w.events ∧
        ∀ l, w.disk.entryLocation? w.here path = some l → w'.disk.get l = w.disk.get l := by
  rcases manifest.save_cases path layout w with
    ⟨e, w', hsave, hquiet, hevents, -⟩ | ⟨directory, name, w₁, hname, hopen, hquiet, hevents, hsave⟩
  · exact .inr ⟨e, w', hsave, hevents, fun l _ => by rw [hquiet.disk_eq]⟩
  have hlocation := Disk.entryLocation?_eq_some (openParent_eq_ok hopen) hname
  have hstart := Replacement.progress_start w.disk directory False name w.stamp
    (Utf8.encode (manifest.toJson layout))
  rw [← hquiet.disk_eq] at hstart
  obtain ⟨outcome, disk, fates, removals, hcomplete, hcases⟩ :=
    complete_cases (w := (host.freshStamp w₁).2) hstart fun hfalse => hfalse.elim
  rw [hquiet.disk_eq] at hcases
  rw [hcomplete] at hsave
  rcases hcases with ⟨rfl, hreplaced⟩ | ⟨⟨culprit, message⟩, rfl, hagree, -⟩
  · refine .inl ⟨_, hsave, ?_, _, hlocation, hreplaced⟩
    rw [← hevents]
    rfl
  · refine .inr ⟨_, _, hsave, hevents, fun l hl => hagree l ?_⟩
    obtain rfl := Option.some.inj (hlocation.symm.trans hl)
    intro hsame
    exact temporaryName_ne name w.stamp
      (List.singleton_inj.mp (List.append_cancel_left hsame)).symm

/-! ### Runs -/

namespace Run

/-- What the roster of a run has come to, and the users that were found in it, up to the first
record at fault. -/
structure Reads (s : Settings) (w : World) (users : List String)
    (result : Except RosterError Roster) : Prop where
  exists_feed : ∃ feed, (Roster.openFile host s.roster w).1 = .ok feed ∧
    Roster.Finds (Csv.records feed.effective) users ∧ Roster.ofFeed feed = result
  users_eq : ∀ roster, result = .ok roster → roster.users.toList = users

/-- What a run draws from: the roster with its users, the seed, and the sizes that come of it. -/
structure Begins (s : Settings) (w : World) (roster : Roster) (seed : UInt64)
    (sizes : List RoomSize) (g : KeyStream) : Prop where
  reads : Reads s w roster.users.toList (.ok roster)
  seed_eq : ∀ given, s.seed = some given → seed = given
  sizes_eq : drawSizes roster.size roster.size (KeyStream.ofSeed seed) = (sizes, g)

/-- What a run reports from the first user to the last room that is seated, which may be before the
last size. -/
def drawn (s : Settings) (roster : Roster) (seed : UInt64) (sizes seated : List RoomSize) :
    List Event :=
  roster.users.toList.map .foundUser ++ .loadedRoster s.roster roster.size :: .seeded seed ::
    (sizes.map .acceptedSize ++ assigned seated)

/-- What a run reports, one case for each stage at which it may end. -/
inductive Logs (s : Settings) (w : World) : List Event → RunEnd → World → Prop where
  /-- The roster cannot be opened. -/
  | unopened {e w'} (hopen : (Roster.openFile host s.roster w).1 = .error e)
      (hquiet : w.Unwritten w') :
      Logs s w [] (.failed (.roster e)) w'
  /-- A record is at fault, or reading fails on the way. -/
  | misread {users e w'} (hreads : Reads s w users (.error e)) (hquiet : w.Unwritten w') :
      Logs s w (users.map .foundUser) (.failed (.roster e)) w'
  /-- The draw of a room sees no end. -/
  | endless {roster seed before size others g seating g' w'}
      (hbegins : Begins s w roster seed (before ++ size :: others) g)
      (hseat : seat roster before g = some (seating, g'))
      (hassigned : seating.rooms.toList.map .ofRoom = assigned before)
      (hdraw : RoomDraw.drawRoom roster before.length size g' = none)
      (hquiet : w.Unwritten w') :
      Logs s w (drawn s roster seed (before ++ size :: others) before) .endless w'
  /-- The manifest cannot be saved. What stood in its place is still there. -/
  | unsaved {roster seed sizes g seating g' rooms e w'} (hbegins : Begins s w roster seed sizes g)
      (hseat : seat roster sizes g = some (seating, g')) (hrooms : seating.toExcept = .ok rooms)
      (hassigned : rooms.map .ofRoom = assigned sizes)
      (hkept : ∀ l, w.disk.entryLocation? w.here s.manifest = some l →
        w'.disk.get l = w.disk.get l) :
      Logs s w (drawn s roster seed sizes sizes ++ warnings roster rooms) (.failed (.manifest e)) w'
  | completed {roster seed sizes g seating g' rooms outcome w'}
      (hbegins : Begins s w roster seed sizes g)
      (hseat : seat roster sizes g = some (seating, g')) (hrooms : seating.toExcept = .ok rooms)
      (hassigned : rooms.map .ofRoom = assigned sizes)
      (hreplaced : ∃ l, w.disk.entryLocation? w.here s.manifest = some l ∧
        Disk.Replaced l (Utf8.encode ((Manifest.ofRooms rooms).toJson s.layout)) w.disk w'.disk)
      (houtcome : outcome = ⟨seed, s.manifest, Statistics.summarize roster rooms s.threshold⟩) :
      Logs s w
        (drawn s roster seed sizes sizes ++ warnings roster rooms ++
          .wroteManifest s.manifest (Manifest.ofRooms rooms).creators.length ::
            Event.ofStatistics outcome.statistics)
        (.completed outcome) w'

lemma drawn_eq (s : Settings) (roster : Roster) (seed : UInt64) (generation : Generation)
    {seated : List RoomSize}
    (h : generation.seating.rooms.toList.map .ofRoom = assigned seated) :
    drawn s roster seed generation.sizes seated =
      roster.users.toList.map .foundUser ++ drawEvents s roster seed generation := by
  rw [drawn, drawEvents, h]

/-- The last stages report what they have written, and the statistics of what was written. -/
lemma conclude_reports (s : Settings) (seed : UInt64) (roster : Roster) (rooms : List Room)
    (w : World) :
    (∃ w', conclude host s seed roster rooms w =
          (.completed ⟨seed, s.manifest, Statistics.summarize roster rooms s.threshold⟩, w') ∧
        w'.events = w.events ++ (warnings roster rooms ++
          .wroteManifest s.manifest (Manifest.ofRooms rooms).creators.length ::
            Event.ofStatistics (Statistics.summarize roster rooms s.threshold)) ∧
        ∃ l, w.disk.entryLocation? w.here s.manifest = some l ∧
          Disk.Replaced l (Utf8.encode ((Manifest.ofRooms rooms).toJson s.layout)) w.disk
            w'.disk) ∨
      ∃ e w', conclude host s seed roster rooms w = (.failed (.manifest e), w') ∧
        w'.events = w.events ++ warnings roster rooms ∧
        ∀ l, w.disk.entryLocation? w.here s.manifest = some l → w'.disk.get l = w.disk.get l := by
  rw [conclude_eq, reportAll_eq]
  rcases (Manifest.ofRooms rooms).save_reports s.manifest s.layout
    { w with events := w.events ++ warnings roster rooms } with
    ⟨w', hsave, hevents, hreplaced⟩ | ⟨e, w', hsave, hevents, hkept⟩
  · refine .inl ⟨_, by rw [hsave], ?_, ?_⟩
    · rw [reportAll_eq]
      simp only [hevents]
      rw [← appendList_append, ← appendList_append]
      rfl
    · rw [reportAll_eq]
      exact hreplaced
  · exact .inr ⟨e, w', by rw [hsave], hevents, hkept⟩

end Run

/-- A room is reported for every size that was drawn before, in order. -/
lemma assigned_of_seat {roster : Roster} {sizes : List RoomSize} {g g' : KeyStream}
    {seating : Seating} (hsizes : ∀ size ∈ sizes, size.value ≤ roster.size)
    (h : seat roster sizes g = some (seating, g')) :
    seating.toExcept = .ok seating.rooms.toList ∧ seating.rooms.size = sizes.length ∧
      seating.rooms.toList.map .ofRoom = assigned sizes := by
  obtain ⟨rooms, hrooms, hlength, hseated⟩ := seated_of_seat hsizes h
  obtain rfl : seating.rooms.toList = rooms := by
    rw [Seating.toExcept] at hrooms
    split at hrooms
    · exact Except.ok.inj hrooms
    · cases hrooms
  exact ⟨hrooms, by simpa using hlength, map_ofRoom_eq_assigned hlength hseated⟩

/-- A run that has read its roster reports what it draws, and goes on with the last stages. -/
lemma Run.logs_of_load {s : Settings} {w w₁ w₂ : World} {roster : Roster} {seed : UInt64}
    (hload : Roster.load host s.roster w = (.ok roster, w₁))
    (hseed : seedOf host s w₁ = (seed, w₂))
    (hbegins : ∀ sizes g, drawSizes roster.size roster.size (KeyStream.ofSeed seed) = (sizes, g) →
      Begins s w roster seed sizes g)
    (hquiet : w.Unwritten w₂)
    (hevents : w₂.events = w.events ++ roster.users.toList.map Event.foundUser) :
    ∃ trace : List Event, (run host s w).2.events = w.events ++ trace ∧
      Logs s w trace (run host s w).1 (run host s w).2 := by
  rcases hsizes : drawSizes roster.size roster.size (KeyStream.ofSeed seed) with ⟨sizes, g⟩
  have hfit : ∀ size ∈ sizes, size.value ≤ roster.size := by
    have hle := drawSizes_le roster.size roster.size (KeyStream.ofSeed seed)
    rwa [hsizes] at hle
  rcases hgenerate : generate roster (KeyStream.ofSeed seed) with _ | ⟨generation, g'⟩
  · obtain ⟨before, size, others, seating, g', hsplit, hseat, hdraw, hrun⟩ :=
      run_of_generate_none hload hseed hgenerate
    rw [hsizes] at hsplit hseat
    obtain rfl : sizes = before ++ size :: others := hsplit
    obtain ⟨-, hlength, hassigned⟩ := assigned_of_seat
      (fun size hsize => hfit size (List.mem_append_left _ hsize)) hseat
    rw [hlength] at hdraw
    refine ⟨drawn s roster seed (before ++ size :: others) before, ?_, ?_⟩
    · rw [hrun, reportAll_eq, hevents, ← appendList_append]
      exact congrArg _ (drawn_eq s roster seed ⟨before ++ size :: others, seating⟩ hassigned).symm
    · rw [hrun]
      exact .endless (hbegins _ g hsizes) hseat hassigned hdraw
        (hquiet.trans (quiet_reportAll _ w₂))
  · obtain ⟨hgeneration, hseat⟩ := seat_of_generate hgenerate
    rw [hsizes] at hgeneration hseat
    obtain rfl : generation.sizes = sizes := hgeneration
    obtain ⟨hrooms, -, hassigned⟩ := assigned_of_seat hfit hseat
    rw [run_of_generate_some hload hseed hgenerate hrooms]
    have hquiet₃ := hquiet.trans (quiet_reportAll (drawEvents s roster seed generation) w₂)
    have hevents₃ : (host.reportAll (drawEvents s roster seed generation) w₂).2.events =
        w.events ++ drawn s roster seed generation.sizes generation.sizes := by
      rw [reportAll_eq, drawn_eq s roster seed generation hassigned, appendList_append, ← hevents]
    set w₃ := (host.reportAll (drawEvents s roster seed generation) w₂).2
    rcases conclude_reports s seed roster generation.seating.rooms.toList w₃ with
      ⟨w', hconclude, hreported, hreplaced⟩ | ⟨e, w', hconclude, hreported, hkept⟩
    · rw [hquiet₃.disk_eq, hquiet₃.here_eq] at hreplaced
      rw [hconclude]
      refine ⟨_, ?_, .completed (hbegins _ g hsizes) hseat hrooms hassigned hreplaced rfl⟩
      rw [hreported, hevents₃, ← appendList_append, List.append_assoc]
    · rw [hquiet₃.disk_eq, hquiet₃.here_eq] at hkept
      rw [hconclude]
      refine ⟨_, ?_, .unsaved (hbegins _ g hsizes) hseat hrooms hassigned hkept⟩
      rw [hreported, hevents₃, ← appendList_append]

/-- Whatever the world and the settings are, the events of a run are those of the stages that it has
come through, with what these have done, and nothing is reported behind a stage that failed. The
manifest is reported exactly if it has taken its place, and the statistics exactly if the run is
completed. -/
theorem run_logs (s : Settings) (w : World) :
    ∃ trace : List Event, (run host s w).2.events = w.events ++ trace ∧
      Run.Logs s w trace (run host s w).1 (run host s w).2 := by
  rcases hopen : Roster.openFile host s.roster w with ⟨opened, w₁⟩
  have hquiet := (Roster.quiet_openFile s.roster).unwritten hopen
  have hevents := (Roster.silent_openFile s.roster).events_eq hopen
  rcases opened with e | feed
  · rw [run_of_load_error (Roster.load_of_openFile_error hopen)]
    exact ⟨[], hevents, .unopened (congrArg Prod.fst hopen) hquiet⟩
  have hload := Roster.load_of_openFile hopen
  have hfinds := Roster.finds_decode feed
  set found := (Roster.decode feed).users
  rcases hroster : Roster.ofFeed feed with e | roster
  · rw [hroster] at hload
    refine ⟨found.toList.map .foundUser, ?_, ?_⟩
    · rw [run_of_load_error hload, reportAll_eq, hevents]
    · rw [run_of_load_error hload]
      exact .misread ⟨⟨feed, congrArg Prod.fst hopen, hfinds, hroster⟩, fun _ h => by cases h⟩
        (hquiet.trans (quiet_reportAll _ w₁))
  rw [hroster] at hload
  have husers : found = roster.users := Roster.users_of_ofFeed hroster
  rw [husers] at hload hfinds
  rcases hseed : Run.seedOf host s
    (host.reportAll (roster.users.toList.map .foundUser) w₁).2 with ⟨seed, w₂⟩
  refine Run.logs_of_load hload hseed (fun sizes g hsizes => ⟨⟨⟨feed, ?_, hfinds, hroster⟩, ?_⟩, ?_,
    hsizes⟩) ?_ ?_
  · exact congrArg Prod.fst hopen
  · rintro _ ⟨⟩
    rfl
  · intro given hgiven
    rw [Run.seedOf_eq hgiven] at hseed
    exact (congrArg Prod.fst hseed).symm
  · exact (hquiet.trans (quiet_reportAll _ w₁)).trans ((Run.quiet_seedOf s).unwritten hseed)
  · rw [Run.events_of_seedOf hseed, reportAll_eq, hevents]

/-- From a roster of nobody a run comes to its end, with a warning before the manifest is saved. -/
example :
    let path := Path.ofString "users.csv"
    let w := World.ofDisk ⟨[([path.bytes], .file (Utf8.encode "username\n"))]⟩ []
    (run host ⟨some path, none, some 42, none, true⟩ w).2.events.toList.map Event.message =
      ["loaded roster", "seeding room generator", "no rooms generated", "wrote room manifest",
        "room sizes", "room membership"] := by
  decide +kernel

end RoomDraw
