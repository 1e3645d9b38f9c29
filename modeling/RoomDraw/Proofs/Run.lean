import RoomDraw.Proofs.Generation
import RoomDraw.Proofs.Manifest.Rooms
import RoomDraw.Proofs.Manifest.RoundTrip
import RoomDraw.Proofs.Manifest.Saving
import RoomDraw.Proofs.Roster.Loading
import RoomDraw.Proofs.Text.Utf8
import RoomDraw.Run

/-!
# What a run does

A run ends in one of four ways: the roster cannot be loaded, the draw of members sees no end, the
manifest cannot be saved, or the manifest is in its place. In the last case everything that the run
tells can be computed again from the roster and the manifest.
-/

namespace RoomDraw

open World

namespace Run

/-- The rooms that a run draws in a world: those of the roster on the disk and of a seed, which is
that of the settings if there is one. -/
structure Draws (s : Settings) (w : World) (roster : Roster) (seed : UInt64)
    (rooms : List Room) : Prop where
  load_eq : (Roster.load host s.roster w).1 = .ok roster
  seed_eq : ∀ given, s.seed = some given → seed = given
  generate_eq : ∃ generation g, generate roster (KeyStream.ofSeed seed) = some (generation, g) ∧
    generation.seating.toExcept = .ok rooms
  members_ne_nil : ∀ room ∈ rooms, room.members ≠ []

/-- The ways in which a run with the settings can go, with its end and the world after it. -/
inductive Goes (s : Settings) (w : World) : RunEnd → World → Prop
  | unloaded {e : RosterError} {w' : World} (hload : (Roster.load host s.roster w).1 = .error e)
      (hquiet : w.Unwritten w') : Goes s w (.failed (.roster e)) w'
  | endless {roster : Roster} {w' : World} (hload : (Roster.load host s.roster w).1 = .ok roster)
      (hquiet : w.Unwritten w') : Goes s w .endless w'
  | unsaved {roster : Roster} {seed : UInt64} {rooms : List Room} {e : ManifestError} {w' : World}
      (hdraws : Draws s w roster seed rooms)
      (hwritten : Manifest.Written s.manifest
        (Utf8.encode ((Manifest.ofRooms rooms).toJson s.layout)) w (.error e) w') :
      Goes s w (.failed (.manifest e)) w'
  | completed {roster : Roster} {seed : UInt64} {rooms : List Room} {w' : World}
      (hdraws : Draws s w roster seed rooms)
      (hwritten : Manifest.Written s.manifest
        (Utf8.encode ((Manifest.ofRooms rooms).toJson s.layout)) w (.ok ()) w') :
      Goes s w (.completed ⟨seed, s.manifest, Statistics.summarize roster rooms s.threshold⟩) w'

lemma quiet_seedOf (s : Settings) : Quiet (seedOf host s) := by
  unfold seedOf
  cases s.seed with
  | some seed => exact quiet_pure seed
  | none => exact quiet_freshSeed

lemma seedOf_eq {s : Settings} {seed : UInt64} (h : s.seed = some seed) (w : World) :
    seedOf host s w = (seed, w) := by
  rw [seedOf, h]
  rfl

/-- What was reported before a seed is asked for makes no difference to the seed. -/
lemma seedOf_events (s : Settings) (w : World) (events : Array Event) :
    seedOf host s { w with events } =
      ((seedOf host s w).1, { (seedOf host s w).2 with events }) := by
  unfold seedOf
  cases s.seed <;> rfl

lemma events_of_seedOf {s : Settings} {w w' : World} {seed : UInt64}
    (h : seedOf host s w = (seed, w')) : w'.events = w.events := by
  have hevents : (seedOf host s w).2.events = w.events := by
    unfold seedOf
    cases s.seed <;> rfl
  rwa [h] at hevents

/-- What is reported on the rooms drawn for a roster, before they are saved. -/
def drawEvents (s : Settings) (roster : Roster) (seed : UInt64) (generation : Generation) :
    List Event :=
  .loadedRoster s.roster roster.size :: .seeded seed ::
    (generation.sizes.map .acceptedSize ++ generation.seating.rooms.toList.map .ofRoom)

/-- What is reported before the rooms are saved, if there are none. -/
def warnings (roster : Roster) (rooms : List Room) : List Event :=
  if rooms.isEmpty then [.noRooms roster.size] else []

/-- After a warning that there are no rooms, the last stages save the manifest, and tell the
statistics if that succeeds. -/
lemma conclude_eq (s : Settings) (seed : UInt64) (roster : Roster) (rooms : List Room)
    (w : World) :
    conclude host s seed roster rooms w =
      match (Manifest.ofRooms rooms).save host s.manifest s.layout
        (host.reportAll (warnings roster rooms) w).2 with
      | (.error e, w₁) => (.failed (.manifest e), w₁)
      | (.ok (), w₁) =>
        let statistics := Statistics.summarize roster rooms s.threshold
        (.completed ⟨seed, s.manifest, statistics⟩,
          (host.reportAll (Event.ofStatistics statistics) w₁).2) := by
  set w₁ := (host.reportAll (warnings roster rooms) w).2 with hw₁
  rcases hsave : (Manifest.ofRooms rooms).save host s.manifest s.layout w₁ with ⟨e | ⟨⟩, w₂⟩
  all_goals
    rcases hempty : rooms.isEmpty with _ | _
    · have hwarned : w = w₁ := by
        rw [hw₁, warnings, hempty]
        rfl
      simp only [conclude, hempty, Bool.false_eq_true, if_false, bind, StateT.bind, hwarned, hsave]
      rfl
    · have hwarned : host.report (.noRooms roster.size) w = ((), w₁) := by
        rw [hw₁, warnings, hempty]
        rfl
      simp only [conclude, hempty, if_true, bind, StateT.bind, hwarned, hsave]
      rfl

/-- The last stages write the manifest of the rooms, and end as that does. -/
lemma goes_conclude {s : Settings} {w w₁ : World} {roster : Roster} {seed : UInt64}
    {rooms : List Room} (hdraws : Draws s w roster seed rooms) (hquiet : w.Unwritten w₁) :
    Goes s w (conclude host s seed roster rooms w₁).1
      (conclude host s seed roster rooms w₁).2 := by
  rw [conclude_eq]
  set w₂ := (host.reportAll (warnings roster rooms) w₁).2
  have hwritten :=
    ((Manifest.ofRooms rooms).written_save s.manifest s.layout w₂).of_unwritten
      (hquiet.trans (quiet_reportAll _ w₁))
  rcases hsave : (Manifest.ofRooms rooms).save host s.manifest s.layout w₂ with ⟨e | ⟨⟩, w₃⟩
  · rw [hsave] at hwritten
    exact .unsaved hdraws hwritten
  · rw [hsave] at hwritten
    exact .completed hdraws (hwritten.trans_unwritten (quiet_reportAll _ w₃))

/-! ### Rooms that are reported when they are drawn -/

/-- Rooms are drawn as they are when nothing is reported, and reported one after the other. If a
draw sees no end, those before it are. -/
lemma seatRoomsBy_drawRoom (roster : Roster) (rooms : Array Room) (sizes : List RoomSize)
    (g : KeyStream) (w : World) :
    ∃ added : List Room,
      (seatRoomsBy (drawRoom host roster) roster.size rooms sizes).run g w =
        (seatRooms roster rooms sizes g, (host.reportAll (added.map .ofRoom) w).2) ∧
      (∀ seating g', seatRooms roster rooms sizes g = some (seating, g') →
        seating.rooms.toList = rooms.toList ++ added) ∧
      (seatRooms roster rooms sizes g = none → ∃ before size others seating g',
        sizes = before ++ size :: others ∧
        seatRooms roster rooms before g = some (seating, g') ∧
        seating.rooms.toList = rooms.toList ++ added ∧
        RoomDraw.drawRoom roster seating.rooms.size size g' = none) := by
  induction sizes generalizing rooms g w with
  | nil =>
    refine ⟨[], rfl, ?_, fun hnone => by cases hnone⟩
    rintro seating g' h
    obtain ⟨rfl, rfl⟩ := Prod.mk.inj (Option.some.inj h)
    exact (List.append_nil _).symm
  | cons size sizes ih =>
    rcases Nat.lt_or_ge roster.size size.value with hsize | hsize
    · rw [seatRooms_cons_of_lt hsize, seatRoomsBy, if_pos hsize]
      refine ⟨[], rfl, ?_, fun hnone => by cases hnone⟩
      rintro seating g' h
      obtain ⟨rfl, rfl⟩ := Prod.mk.inj (Option.some.inj h)
      exact (List.append_nil _).symm
    rw [seatRooms_cons_of_le hsize, seatRoomsBy, if_neg (Nat.not_lt.mpr hsize)]
    rcases hdraw : RoomDraw.drawRoom roster rooms.size size g with _ | ⟨room, g₁⟩
    · refine ⟨[], ?_, fun _ _ h => (by cases h), fun _ => ?_⟩
      · simp only [StateT.run, bind, StateT.bind, OptionT.bind, OptionT.mk, drawRoom, hdraw]
        rfl
      · exact ⟨[], size, sizes, ⟨rooms, none⟩, g, rfl, rfl, (List.append_nil _).symm, hdraw⟩
    · obtain ⟨added, hrun, hall, hpart⟩ :=
        ih (rooms.push room) g₁ (host.report (.ofRoom room) w).2
      refine ⟨room :: added, ?_, ?_, ?_⟩
      · rw [List.map_cons, reportAll_cons]
        refine Eq.trans ?_ hrun
        simp only [StateT.run, bind, StateT.bind, OptionT.bind, OptionT.mk, drawRoom, hdraw]
        rfl
      · intro seating g' h
        rw [hall seating g' h]
        simp
      · intro hnone
        obtain ⟨before, next, others, seating, g', rfl, hseat, hrooms, hnone⟩ := hpart hnone
        refine ⟨size :: before, next, others, seating, g', rfl, ?_, ?_, hnone⟩
        · rw [seatRooms_cons_of_le hsize, hdraw]
          exact hseat
        · rw [hrooms]
          simp

end Run

/-! ### The stages before the last -/

lemma run_of_load_error {s : Settings} {w w₁ : World} {e : RosterError}
    (hload : Roster.load host s.roster w = (.error e, w₁)) :
    run host s w = (.failed (.roster e), w₁) := by
  simp only [run, bind, StateT.bind, hload]
  rfl

/-- A run that has loaded its roster draws sizes and rooms as they are drawn without a world. -/
lemma run_of_load_ok {s : Settings} {w w₁ w₂ : World} {roster : Roster} {seed : UInt64}
    {sizes : List RoomSize} {g : KeyStream} (hload : Roster.load host s.roster w = (.ok roster, w₁))
    (hseed : Run.seedOf host s w₁ = (seed, w₂))
    (hsizes : drawSizes roster.size roster.size (KeyStream.ofSeed seed) = (sizes, g)) :
    ∃ added : List Room,
      run host s w =
        (match seat roster sizes g with
          | none => pure .endless
          | some (seating, _) =>
            match seating.toExcept with
            | .error e => pure (.failed (.generation e))
            | .ok rooms => Run.conclude host s seed roster rooms : StateM World RunEnd)
          (host.reportAll
            (Run.drawEvents s roster seed ⟨sizes, ⟨added.toArray, none⟩⟩) w₂).2 ∧
      (∀ seating g', seat roster sizes g = some (seating, g') → seating.rooms.toList = added) ∧
      (seat roster sizes g = none → ∃ before size others seating g',
        sizes = before ++ size :: others ∧ seat roster before g = some (seating, g') ∧
        seating.rooms.toList = added ∧
        drawRoom roster seating.rooms.size size g' = none) := by
  obtain ⟨added, hrun, hall, hpart⟩ := Run.seatRoomsBy_drawRoom roster #[] sizes g
    (host.reportAll (.loadedRoster s.roster roster.size :: .seeded seed ::
      sizes.map .acceptedSize) w₂).2
  refine ⟨added, ?_, hall, hpart⟩
  simp only [reportAll_eq, Array.appendList_cons, Run.events_of_seedOf hseed] at hrun
  simp only [run, bind, StateT.bind, hload, report_eq, Run.seedOf_events, hseed, hsizes,
    reportAll_eq, Run.events_of_seedOf hseed]
  simp only [hrun, Run.drawEvents, Array.appendList_cons, appendList_append]
  rfl

/-- A run of which a draw sees no end has reported what was drawn before. -/
lemma run_of_generate_none {s : Settings} {w w₁ w₂ : World} {roster : Roster} {seed : UInt64}
    (hload : Roster.load host s.roster w = (.ok roster, w₁))
    (hseed : Run.seedOf host s w₁ = (seed, w₂))
    (hgenerate : generate roster (KeyStream.ofSeed seed) = none) :
    ∃ before size others seating g',
      (drawSizes roster.size roster.size (KeyStream.ofSeed seed)).1 = before ++ size :: others ∧
      seat roster before (drawSizes roster.size roster.size (KeyStream.ofSeed seed)).2 =
        some (seating, g') ∧
      drawRoom roster seating.rooms.size size g' = none ∧
      run host s w = (.endless, (host.reportAll (Run.drawEvents s roster seed
        ⟨before ++ size :: others, seating⟩) w₂).2) := by
  rcases hsizes : drawSizes roster.size roster.size (KeyStream.ofSeed seed) with ⟨sizes, g⟩
  obtain ⟨added, hrun, -, hpart⟩ := run_of_load_ok hload hseed hsizes
  rw [generate_eq, hsizes, Option.map_eq_none_iff] at hgenerate
  obtain ⟨before, size, others, seating, g', rfl, hseat, hrooms, hnone⟩ := hpart hgenerate
  refine ⟨before, size, others, seating, g', rfl, hseat, hnone, ?_⟩
  rw [hrun, hgenerate]
  simp only [Run.drawEvents, hrooms]
  rfl

/-- A run that has drawn its rooms goes on with the last stages; the draw is only reported. -/
lemma run_of_generate_some {s : Settings} {w w₁ w₂ : World} {roster : Roster} {seed : UInt64}
    {generation : Generation} {g : KeyStream} {rooms : List Room}
    (hload : Roster.load host s.roster w = (.ok roster, w₁))
    (hseed : Run.seedOf host s w₁ = (seed, w₂))
    (hgenerate : generate roster (KeyStream.ofSeed seed) = some (generation, g))
    (hrooms : generation.seating.toExcept = .ok rooms) :
    run host s w = Run.conclude host s seed roster rooms
      (host.reportAll (Run.drawEvents s roster seed generation) w₂).2 := by
  rcases hsizes : drawSizes roster.size roster.size (KeyStream.ofSeed seed) with ⟨sizes, g₁⟩
  obtain ⟨hgeneration, hseat⟩ := seat_of_generate hgenerate
  rw [hsizes] at hgeneration hseat
  subst hgeneration
  obtain ⟨added, hrun, hall, -⟩ := run_of_load_ok hload hseed hsizes
  rw [hrun, hseat]
  simp only [hrooms, Run.drawEvents, hall _ _ hseat]

/-- A run goes one of its ways. -/
lemma run_goes (s : Settings) (w : World) :
    Run.Goes s w (run host s w).1 (run host s w).2 := by
  rcases hload : Roster.load host s.roster w with ⟨e | roster, w₁⟩
  · rw [run_of_load_error hload]
    exact .unloaded (congrArg Prod.fst hload) ((Roster.quiet_load s.roster).unwritten hload)
  rcases hseed : Run.seedOf host s w₁ with ⟨seed, w₂⟩
  have hquiet : w.Unwritten w₂ := ((Roster.quiet_load s.roster).unwritten hload).trans
    ((Run.quiet_seedOf s).unwritten hseed)
  rcases hgenerate : generate roster (KeyStream.ofSeed seed) with _ | ⟨generation, g⟩
  · obtain ⟨_, _, _, _, _, -, -, -, hrun⟩ := run_of_generate_none hload hseed hgenerate
    rw [hrun]
    exact .endless (congrArg Prod.fst hload) (hquiet.trans (quiet_reportAll _ w₂))
  obtain ⟨rooms, hrooms, hmembers⟩ := exists_rooms_of_generate hgenerate
  have hdraws : Run.Draws s w roster seed rooms :=
    { load_eq := congrArg Prod.fst hload
      seed_eq := fun given hgiven => by
        rw [Run.seedOf_eq hgiven] at hseed
        exact (congrArg Prod.fst hseed).symm
      generate_eq := ⟨generation, g, hgenerate, hrooms⟩
      members_ne_nil := hmembers }
  rw [run_of_generate_some hload hseed hgenerate hrooms]
  exact Run.goes_conclude hdraws (hquiet.trans (quiet_reportAll _ w₂))

end RoomDraw
