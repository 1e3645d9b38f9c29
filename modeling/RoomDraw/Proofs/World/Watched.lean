import RoomDraw.Proofs.World

/-!
# Watched worlds

A world is watched by keeping every disk that it comes to, so that what holds of the files at every
moment of an action can be said, and not only what holds at its end. Watching changes nothing: an
action that is watched gives the same result, in the same world.
-/

namespace RoomDraw

namespace World

/-- A world, and the disks that it has had since it is watched. -/
structure Watched where
  world : World
  moments : List Disk

namespace Watched

/-- A world that is watched from now on. -/
def ofWorld (w : World) : Watched := ⟨w, [w.disk]⟩

/-- Takes an action, and keeps the disk that it leaves. -/
def watch {α : Type} (x : StateM World α) : StateM Watched α := fun v =>
  ((x v.world).1, ⟨(x v.world).2, v.moments ++ [(x v.world).2.disk]⟩)

/-- A host all of whose actions are watched. -/
def host : Host (StateM Watched) Location where
  openParent path := watch (World.host.openParent path)
  openFile directory name := watch (World.host.openFile directory name)
  perform directory request := watch (World.host.perform directory request)
  settingsFile path := watch (World.host.settingsFile path)
  workingDirectory := watch World.host.workingDirectory
  freshSeed := watch World.host.freshSeed
  freshStamp := watch World.host.freshStamp
  report event := watch (World.host.report event)
  print text := watch (World.host.print text)
  printError text := watch (World.host.printError text)

/-! ### What is seen on the way -/

variable {α β : Type} {P : Disk → Prop}

/-- An action that is watched from some state on does what it does otherwise, and the disks that it
comes to have the property, the last one included. -/
def Sees (P : Disk → Prop) (x : StateM World α) (y : StateM Watched α) (v : Watched) : Prop :=
  ∃ moments, y v = ((x v.world).1, ⟨(x v.world).2, v.moments ++ moments⟩) ∧
    (∀ d ∈ moments, P d) ∧ P (x v.world).2.disk

lemma sees_pure (a : α) {v : Watched} (h : P v.world.disk) : Sees P (pure a) (pure a) v := by
  refine ⟨[], ?_, by simp, h⟩
  rw [List.append_nil]
  rfl

lemma sees_watch {x : StateM World α} {v : Watched} (h : P (x v.world).2.disk) :
    Sees P x (watch x) v :=
  ⟨[(x v.world).2.disk], rfl, by simpa using h, h⟩

/-- An action that writes nothing shows the disk that was there before it. -/
lemma sees_watch_of_quiet {x : StateM World α} (hx : Quiet x) {v : Watched}
    (h : P v.world.disk) : Sees P x (watch x) v :=
  sees_watch ((hx v.world).disk_eq ▸ h)

/-- What follows an action is watched from the world that the action leaves. -/
lemma Sees.bind {x : StateM World α} {y : StateM Watched α} {f : α → StateM World β}
    {f' : α → StateM Watched β} {v : Watched} (hx : Sees P x y v)
    (hf : ∀ v₁ : Watched, v₁.world = (x v.world).2 → P v₁.world.disk →
      Sees P (f (x v.world).1) (f' (x v.world).1) v₁) :
    Sees P (x >>= f) (y >>= f') v := by
  obtain ⟨moments, hy, hmoments, hlast⟩ := hx
  obtain ⟨moments', hf', hmoments', hlast'⟩ := hf ⟨(x v.world).2, v.moments ++ moments⟩ rfl hlast
  refine ⟨moments ++ moments', ?_, ?_, hlast'⟩
  · simp only [Bind.bind, StateT.bind, hy, hf', List.append_assoc]
    rfl
  · intro d hd
    rcases List.mem_append.mp hd with hd | hd
    · exact hmoments d hd
    · exact hmoments' d hd

lemma Sees.mono {x : StateM World α} {y : StateM Watched α} {v : Watched} {Q : Disk → Prop}
    (h : Sees P x y v) (hPQ : ∀ d, P d → Q d) : Sees Q x y v := by
  obtain ⟨moments, hy, hmoments, hlast⟩ := h
  exact ⟨moments, hy, fun d hd => hPQ d (hmoments d hd), hPQ _ hlast⟩

/-- What is seen from the start on has the property, if the first disk has it. -/
lemma Sees.of_ofWorld {x : StateM World α} {y : StateM Watched α} {w : World}
    (h : Sees P x y (ofWorld w)) (hw : P w.disk) :
    ∃ moments, y (ofWorld w) = ((x w).1, ⟨(x w).2, moments⟩) ∧ ∀ d ∈ moments, P d := by
  obtain ⟨moments, hy, hmoments, -⟩ := h
  refine ⟨w.disk :: moments, hy, ?_⟩
  intro d hd
  rcases List.mem_cons.mp hd with rfl | hd
  · exact hw
  · exact hmoments d hd

end Watched

end World

end RoomDraw
