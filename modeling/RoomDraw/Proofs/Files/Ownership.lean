import RoomDraw.Proofs.Files.Writers

/-!
# Replacements own their temporary files

What stands at the temporary name of a replacement is known from its phase, and no step of another
one changes it. Everywhere else the disk is as if every replacement happened at once, when its file
was given the name of the target. One action keeps both.
-/

namespace RoomDraw

namespace Replacement

/-- What stands at the temporary name of a replacement that has come to its phase. If it is tidy,
removals are not refused, and a failure leaves nothing there. -/
def Owns (tidy : Prop) (r : Replacement) (entry : Option Entry) : Prop :=
  match r.phase with
  | .creating | .settling | .done => entry = none
  | .writing left => ∃ written, written ++ left = r.contents ∧ entry = some (.file written)
  | .syncing | .moving => entry = some (.file r.contents)
  | .discarding _ _ => True
  | .failed _ _ => tidy → entry = none

variable {d : Disk} {directory : Location} {tidy : Prop} {r : Replacement} {request : Request}

lemma owns_writingPhase {written left : Bytes} (hbytes : written ++ left = r.contents) :
    Owns tidy { r with phase := writingPhase left } (some (.file written)) := by
  cases left with
  | nil =>
    rw [List.append_nil] at hbytes
    exact congrArg (some <| Entry.file ·) hbytes
  | cons byte left => exact ⟨written, hbytes, rfl⟩

/-- A step of a replacement leaves at its temporary name what its next phase says. -/
lemma Owns.step (hrequest : r.request? = some request) (hne : r.target ≠ r.temporary)
    (h : r.Owns tidy (d.get (directory ++ [r.temporary]))) (fate : Fate)
    (htidy : tidy → request = .discard r.temporary → fate.isRefused = false) :
    (r.receive (d.perform directory fate request).2).Owns tidy
      ((d.perform directory fate request).1.get (directory ++ [r.temporary])) := by
  obtain ⟨target, temporary, contents, phase⟩ := r
  cases phase with
  | creating =>
    obtain rfl := Option.some.inj hrequest
    rcases d.perform_create directory fate temporary with
      ⟨n, hresponse, -, hdisk⟩ | ⟨message, hresponse, hdisk⟩
    · rw [hresponse, hdisk, Disk.get_set, if_pos rfl]
      exact owns_writingPhase (r := ⟨target, temporary, contents, .creating⟩)
        (List.nil_append contents)
    · rw [hresponse]
      trivial
  | writing left =>
    obtain rfl := Option.some.inj hrequest
    obtain ⟨written, hbytes, hfile⟩ := h
    obtain ⟨taken, hdisk, hresponse⟩ := d.perform_write directory fate temporary left
    rcases hanswer : (d.perform directory fate (.write temporary left)).2 with message | n
    · trivial
    · rw [hdisk, Disk.get_append hfile]
      obtain rfl := hresponse n hanswer
      by_cases hn : n = 0
      · simp only [receive, phaseAfter, if_pos hn]
        trivial
      · simp only [receive, phaseAfter, if_neg hn]
        refine owns_writingPhase (r := ⟨target, temporary, contents, .writing left⟩) ?_
        rw [List.append_assoc, List.take_append_drop, hbytes]
  | syncing =>
    obtain rfl := Option.some.inj hrequest
    rw [Disk.perform_sync]
    rcases (d.perform directory fate (.sync temporary)).2 with message | n
    · trivial
    · exact h
  | moving =>
    obtain rfl := Option.some.inj hrequest
    rcases d.perform_rename directory fate temporary target with
      ⟨n, e, hresponse, -, hdisk⟩ | ⟨message, hresponse, -⟩
    · have hother : directory ++ [target] ≠ directory ++ [temporary] := by simpa using hne
      rw [hresponse, hdisk, Disk.get_set, if_neg hother, Disk.get_remove, if_pos rfl]
      rfl
    · rw [hresponse]
      trivial
  | settling =>
    obtain rfl := Option.some.inj hrequest
    rw [Disk.perform_syncDirectory]
    exact h
  | discarding culprit message =>
    obtain rfl := Option.some.inj hrequest
    intro ht
    exact d.get_perform_discard directory (htidy ht rfl) temporary
  | done => cases hrequest
  | failed culprit message => cases hrequest

/-- A tidy replacement that has ended has left nothing at its temporary name. -/
lemma Owns.eq_none_of_ended {entry : Option Entry} (h : r.Owns tidy entry)
    (hend : r.request? = none) (ht : tidy) : entry = none := by
  obtain ⟨target, temporary, contents, phase⟩ := r
  cases phase with
  | done => exact h
  | failed culprit message => exact h ht
  | _ => cases hend

/-- What a step of a replacement can change: its file takes the place of the target, or all stays as
it was except at its temporary name. -/
lemma Owns.perform_cases (hrequest : r.request? = some request)
    (h : r.Owns tidy (d.get (directory ++ [r.temporary]))) (fate : Fate) :
    (∃ n, request = .rename r.temporary r.target ∧
      d.get (directory ++ [r.temporary]) = some (.file r.contents) ∧
      (d.perform directory fate request).2 = .ok n ∧
      (d.perform directory fate request).1 =
        (d.remove (directory ++ [r.temporary])).set (directory ++ [r.target])
          (.file r.contents)) ∨
    (Disk.AgreeOff (directory ++ [r.temporary]) d (d.perform directory fate request).1 ∧
      Writers.placedBy directory r request (d.perform directory fate request).2 = []) := by
  obtain ⟨target, temporary, contents, phase⟩ := r
  cases phase with
  | creating =>
    obtain rfl := Option.some.inj hrequest
    refine .inr ⟨?_, rfl⟩
    rcases d.perform_create directory fate temporary with
      ⟨n, -, -, hdisk⟩ | ⟨message, -, hdisk⟩
    · rw [hdisk]
      exact d.agreeOff_set _ _
    · rw [hdisk]
      exact .refl _ d
  | writing left =>
    obtain rfl := Option.some.inj hrequest
    obtain ⟨taken, hdisk, -⟩ := d.perform_write directory fate temporary left
    refine .inr ⟨?_, rfl⟩
    rw [hdisk]
    exact d.agreeOff_append _ taken
  | syncing =>
    obtain rfl := Option.some.inj hrequest
    refine .inr ⟨?_, rfl⟩
    rw [Disk.perform_sync]
    exact .refl _ d
  | moving =>
    obtain rfl := Option.some.inj hrequest
    rcases d.perform_rename directory fate temporary target with
      ⟨n, e, hresponse, he, hdisk⟩ | ⟨message, hresponse, hdisk⟩
    · obtain rfl : e = .file contents := Option.some.inj (he.symm.trans h)
      exact .inl ⟨n, rfl, he, hresponse, hdisk⟩
    · rw [hresponse, hdisk]
      exact .inr ⟨.refl _ d, rfl⟩
  | settling =>
    obtain rfl := Option.some.inj hrequest
    refine .inr ⟨?_, rfl⟩
    rw [Disk.perform_syncDirectory]
    exact .refl _ d
  | discarding culprit message =>
    obtain rfl := Option.some.inj hrequest
    exact .inr ⟨d.perform_discard directory fate temporary, rfl⟩
  | done => cases hrequest
  | failed culprit message => cases hrequest

/-- Away from its temporary name and its target, a step of a replacement changes nothing. -/
lemma Owns.get_perform_of_ne (hrequest : r.request? = some request)
    (h : r.Owns tidy (d.get (directory ++ [r.temporary]))) (fate : Fate) {l : Location}
    (htemporary : l ≠ directory ++ [r.temporary]) (htarget : l ≠ directory ++ [r.target]) :
    (d.perform directory fate request).1.get l = d.get l := by
  rcases h.perform_cases hrequest fate with ⟨n, -, -, -, hdisk⟩ | ⟨hagree, -⟩
  · rw [hdisk, Disk.get_set, if_neg htarget.symm, Disk.get_remove, if_neg htemporary.symm]
  · exact hagree l htemporary

end Replacement

namespace Writers

/-- What stands at a location if every replacement happens at once, when its file is given the name
of the target. -/
def standing (before : Disk) (placed : List (Location × Bytes)) (l : Location) : Option Entry :=
  match placed.lookup l with
  | some contents => some (.file contents)
  | none => before.get l

/-- No entry and no target has the name of a temporary file. -/
structure Apart (before : Disk) (directory : Location) (w : Writers) : Prop where
  free : ∀ r ∈ w.calls, before.get (directory ++ [r.temporary]) = none
  ne : ∀ r ∈ w.calls, ∀ s ∈ w.calls, r.target ≠ s.temporary

/-- The invariant of replacements whose steps mix. -/
structure Coherent (before : Disk) (directory : Location) (tidy : Prop) (w : Writers) : Prop where
  exists_call : ∀ l contents, (l, contents) ∈ w.placed →
    ∃ r ∈ w.calls, directory ++ [r.target] = l ∧ r.contents = contents
  owns : ∀ r ∈ w.calls, r.Owns tidy (w.disk.get (directory ++ [r.temporary]))
  get_eq : ∀ l, (∀ r ∈ w.calls, l ≠ directory ++ [r.temporary]) →
    w.disk.get l = standing before w.placed l

variable {before : Disk} {process : Nat} {directory : Location} {tidy : Prop} {w w' : Writers}

lemma Extends.exists_mem (h : w.Extends w') {r : Replacement} (hr : r ∈ w.calls) :
    ∃ s ∈ w'.calls, r.Continues s := by
  obtain ⟨k, hk⟩ := List.mem_iff_getElem?.mp hr
  obtain ⟨s, hs, hcontinues⟩ := h k r hk
  exact ⟨s, List.mem_of_getElem? hs, hcontinues⟩

lemma Apart.mono (h : Apart before directory w') (hextends : w.Extends w') :
    Apart before directory w := by
  constructor
  · intro r hr
    obtain ⟨r', hr', hcontinues⟩ := hextends.exists_mem hr
    rw [← hcontinues.temporary_eq]
    exact h.free r' hr'
  · intro r hr s hs
    obtain ⟨r', hr', hr⟩ := hextends.exists_mem hr
    obtain ⟨s', hs', hs⟩ := hextends.exists_mem hs
    rw [← hr.target_eq, ← hs.temporary_eq]
    exact h.ne r' hr' s' hs'

lemma standing_of_not_mem {placed : List (Location × Bytes)} {l : Location}
    (h : ∀ contents, (l, contents) ∉ placed) : standing before placed l = before.get l := by
  have hlookup : placed.lookup l = none := by
    refine List.lookup_eq_none_iff.mpr fun p hp => ?_
    have hne : l ≠ p.1 := fun heq => h p.2 (heq ▸ hp)
    simpa using hne
  rw [standing, hlookup]

lemma standing_cases (before : Disk) (placed : List (Location × Bytes)) (l : Location) :
    standing before placed l = before.get l ∨
      ∃ contents, (l, contents) ∈ placed ∧ standing before placed l = some (.file contents) := by
  rcases hlookup : placed.lookup l with _ | contents
  · exact .inl (by rw [standing, hlookup])
  · obtain ⟨l₁, l₂, rfl, -⟩ := List.lookup_eq_some_iff.mp hlookup
    exact .inr ⟨contents, by simp, by rw [standing, hlookup]⟩

lemma standing_cons (before : Disk) (placed : List (Location × Bytes)) (k l : Location)
    (contents : Bytes) :
    standing before ((k, contents) :: placed) l =
      if l = k then some (.file contents) else standing before placed l := by
  by_cases hl : l = k
  · simp [standing, hl]
  · have hne : (l == k) = false := by simpa using hl
    simp [standing, List.lookup_cons, hne, hl]

/-! ### One action -/

lemma eq_of_mem_placedBy {r : Replacement} {request : Request} {response : Response}
    {p : Location × Bytes} (hrequest : r.request? = some request)
    (hp : p ∈ placedBy directory r request response) :
    p = (directory ++ [r.target], r.contents) := by
  obtain ⟨target, temporary, contents, phase⟩ := r
  cases phase with
  | moving =>
    obtain rfl := Option.some.inj hrequest
    cases response with
    | error message => cases hp
    | ok n => exact List.mem_singleton.mp hp
  | done => cases hrequest
  | failed culprit message => cases hrequest
  | _ =>
    obtain rfl := Option.some.inj hrequest
    cases hp

/-- Away from the temporary name, a step of a replacement does what it puts in place. -/
lemma get_perform_eq_standing {d : Disk} {r : Replacement} {request : Request}
    (hrequest : r.request? = some request)
    (h : r.Owns tidy (d.get (directory ++ [r.temporary]))) (fate : Fate)
    {placed : List (Location × Bytes)} {l : Location} (hl : l ≠ directory ++ [r.temporary])
    (hget : d.get l = standing before placed l) :
    (d.perform directory fate request).1.get l =
      standing before
        (placedBy directory r request (d.perform directory fate request).2 ++ placed) l := by
  rcases h.perform_cases hrequest fate with ⟨n, rfl, -, hresponse, hdisk⟩ | ⟨hagree, hplaced⟩
  · rw [hresponse, hdisk, placedBy, List.singleton_append, standing_cons, Disk.get_set,
      Disk.get_remove, if_neg hl.symm, hget]
    simp only [eq_comm]
  · rw [hplaced, hagree l hl, hget]
    rfl

/-- A replacement that begins finds nothing at its temporary name. -/
lemma Coherent.get_eq_none (h : Coherent before directory tidy w) {r : Replacement}
    (hnew : ∀ s ∈ w.calls, s.temporary ≠ r.temporary)
    (hfree : before.get (directory ++ [r.temporary]) = none)
    (hne : ∀ s ∈ w.calls, s.target ≠ r.temporary) :
    w.disk.get (directory ++ [r.temporary]) = none := by
  rw [h.get_eq, standing_of_not_mem, hfree]
  · intro contents hplaced
    obtain ⟨s, hs, hl, -⟩ := h.exists_call _ _ hplaced
    exact hne s hs (by simpa using hl)
  · intro s hs
    simpa using (hnew s hs).symm

/-- After a step, the replacements are the one that took it and others with other names. -/
lemma eq_receive_or_of_mem_takeStep {call : Nat} {r : Replacement} {request : Request} {fate : Fate}
    (hcall : w.calls[call]? = some r)
    (hnodup : ((w.takeStep directory call r request fate).calls.map (·.temporary)).Nodup)
    {s : Replacement} (hs : s ∈ (w.takeStep directory call r request fate).calls) :
    s = r.receive (w.disk.perform directory fate request).2 ∨
      (s ∈ w.calls ∧ s.temporary ≠ r.temporary) := by
  obtain ⟨k, hk⟩ := List.mem_iff_getElem?.mp hs
  have hself : (w.takeStep directory call r request fate).calls[call]? =
      some (r.receive (w.disk.perform directory fate request).2) := getElem?_takeStep_self hcall
  by_cases heq : k = call
  · subst heq
    exact .inl (Option.some.inj (hk.symm.trans hself))
  · refine .inr ⟨?_, fun htemporary => heq (eq_of_temporary_eq hnodup hk hself htemporary)⟩
    rw [getElem?_takeStep_ne (Ne.symm heq)] at hk
    exact List.mem_of_getElem? hk

lemma Coherent.goes {action : Action} (h : Coherent before directory tidy w)
    (hgoes : Goes process directory w action w')
    (hnodup : (w'.calls.map (·.temporary)).Nodup) (hapart : Apart before directory w')
    (htidy : tidy → w.refusesRemoval action = false) : Coherent before directory tidy w' := by
  have hextends := hgoes.extends
  cases hgoes with
  | start target clock contents =>
    set new := Replacement.start target ⟨process, clock, w.next.toNat⟩ contents
    have hnew : new ∈ w.calls ++ [new] := by simp
    refine ⟨?_, ?_, ?_⟩
    · intro l bytes hplaced
      obtain ⟨r, hr, hplace⟩ := h.exists_call l bytes hplaced
      exact ⟨r, List.mem_append_left _ hr, hplace⟩
    · intro r hr
      rcases List.mem_append.mp hr with hr | hr
      · exact h.owns r hr
      · obtain rfl := List.mem_singleton.mp hr
        refine h.get_eq_none ?_ (hapart.free _ hnew) ?_
        · intro s hs heq
          rw [List.map_append, List.nodup_append] at hnodup
          exact hnodup.2.2 _ (List.mem_map_of_mem hs) _ (by simp) heq
        · exact fun s hs => hapart.ne s (List.mem_append_left _ hs) _ hnew
    · intro l hl
      exact h.get_eq l fun r hr => hl r (List.mem_append_left _ hr)
  | @taken call r request fate hcall hrequest =>
    have hr : r ∈ w.calls := List.mem_of_getElem? hcall
    have hown := h.owns r hr
    set response := (w.disk.perform directory fate request).2
    have hr' : r.receive response ∈ (w.takeStep directory call r request fate).calls :=
      List.mem_of_getElem? (getElem?_takeStep_self hcall)
    -- the step changes nothing but its own temporary file and its target, and neither is the
    -- temporary file of another
    have htarget : ∀ s ∈ (w.takeStep directory call r request fate).calls,
        r.target ≠ s.temporary := hapart.ne (r.receive response) hr'
    refine ⟨?_, ?_, ?_⟩
    · intro l bytes hplaced
      rcases List.mem_append.mp hplaced with hnew | hold
      · obtain ⟨rfl, rfl⟩ := Prod.mk.inj (eq_of_mem_placedBy hrequest hnew)
        exact ⟨_, hr', rfl, rfl⟩
      · obtain ⟨s, hs, hl, hbytes⟩ := h.exists_call l bytes hold
        obtain ⟨s', hs', hcontinues⟩ := hextends.exists_mem hs
        exact ⟨s', hs', by rw [hcontinues.target_eq, hl], hcontinues.contents_eq.trans hbytes⟩
    · intro s hs
      rcases eq_receive_or_of_mem_takeStep hcall hnodup hs with rfl | ⟨hmem, htemporary⟩
      · refine hown.step hrequest (htarget (r.receive response) hr') fate fun ht hdiscard => ?_
        simpa [refusesRemoval, hcall, hrequest, hdiscard] using htidy ht
      · have hget : (w.disk.perform directory fate request).1.get (directory ++ [s.temporary]) =
            w.disk.get (directory ++ [s.temporary]) := by
          refine hown.get_perform_of_ne hrequest fate (by simpa using htemporary) ?_
          simpa using (htarget s hs).symm
        exact hget ▸ h.owns s hmem
    · intro l hl
      have hold : ∀ s ∈ w.calls, l ≠ directory ++ [s.temporary] := by
        intro s hs
        obtain ⟨s', hs', hcontinues⟩ := hextends.exists_mem hs
        exact hcontinues.temporary_eq ▸ hl s' hs'
      exact get_perform_eq_standing hrequest hown fate (hold r hr) (h.get_eq l hold)
  | ended call fate => exact h

end Writers

end RoomDraw
