import RoomDraw.Proofs.Files.Ownership

/-!
# Replacements do not disturb each other

In whatever order the replacements of a process take their steps, and whichever of the steps fail,
every target holds its old entry or all that one of them was to write, and when all have ended, what
the last one put there.
-/

namespace RoomDraw

/-- The file has been given the name of the target. -/
def Phase.Moved : Phase → Prop
  | settling | done => True
  | creating | writing _ | syncing | moving | discarding _ _ | failed _ _ => False

namespace Replacement

lemma moved_of_ok {r : Replacement} (hend : r.request? = none) (hok : r.outcome = .ok ()) :
    r.phase.Moved := by
  obtain ⟨target, temporary, contents, phase⟩ := r
  cases phase with
  | done => trivial
  | failed culprit message => cases hok
  | _ => cases hend

lemma not_moved_writingPhase (left : Bytes) : ¬(writingPhase left).Moved := by
  cases left <;> exact id

/-- A replacement moves its file in the step in which it asks for that and gets it. -/
lemma moved_of_moved_receive {r : Replacement} {request : Request} {response : Response}
    (hrequest : r.request? = some request) (h : (r.receive response).phase.Moved) :
    r.phase.Moved ∨ (request = .rename r.temporary r.target ∧ ∃ n, response = .ok n) := by
  obtain ⟨target, temporary, contents, phase⟩ := r
  cases phase with
  | creating =>
    cases response with
    | error message => cases h
    | ok n => exact (not_moved_writingPhase contents h).elim
  | writing left =>
    cases response with
    | error message => cases h
    | ok n =>
      simp only [receive, phaseAfter] at h
      split_ifs at h
      · cases h
      · exact (not_moved_writingPhase _ h).elim
  | syncing => cases response <;> cases h
  | moving =>
    obtain rfl := Option.some.inj hrequest
    cases response with
    | error message => cases h
    | ok n => exact .inr ⟨rfl, n, rfl⟩
  | settling | done => exact .inl trivial
  | discarding culprit message | failed culprit message => cases h

end Replacement

namespace Writers

/-- In one of the actions, the complete file of a replacement was given the name of its target. -/
def PutInPlace (directory : Location) (run : List Action → Writers) (actions : List Action)
    (call : Nat) (r : Replacement) : Prop :=
  ∃ past fate s, past ++ [.advance call fate] <+: actions ∧
    (run past).calls[call]? = some s ∧ s.request? = some (.rename r.temporary r.target) ∧
    (run past).disk.get (directory ++ [r.temporary]) = some (.file r.contents) ∧
    (run (past ++ [.advance call fate])).disk.get (directory ++ [r.target]) =
      some (.file r.contents)

lemma PutInPlace.mono {directory : Location} {run : List Action → Writers}
    {actions more : List Action} {call : Nat} {r : Replacement}
    (h : PutInPlace directory run actions call r) (hinit : actions <+: more) :
    PutInPlace directory run more call r := by
  obtain ⟨past, fate, s, hpast, hmoved⟩ := h
  exact ⟨past, fate, s, hpast.trans hinit, hmoved⟩

lemma PutInPlace.congr {directory : Location} {run : List Action → Writers} {actions : List Action}
    {call : Nat} {r s : Replacement} (h : PutInPlace directory run actions call r)
    (hcontinues : r.Continues s) : PutInPlace directory run actions call s := by
  rw [PutInPlace, hcontinues.target_eq, hcontinues.temporary_eq, hcontinues.contents_eq]
  exact h

variable {before : Disk} {first : UInt64} {process : Nat} {directory : Location} {tidy : Prop}
  {actions : List Action}

/-! ### All actions -/

/-- The invariant holds after any actions, by induction on them, the last one last. -/
lemma coherent_run
    (hfew : ((idle before first).run process directory actions).calls.length < UInt64.size)
    (hapart : Apart before directory ((idle before first).run process directory actions))
    (htidy : tidy → (idle before first).tidy process directory actions = true) :
    Coherent before directory tidy ((idle before first).run process directory actions) := by
  induction actions using List.reverseRecOn with
  | nil => exact ⟨by simp [run, idle], by simp [run, idle], fun l _ => rfl⟩
  | append_singleton actions action ih =>
    have hnumbered : Numbered process first
        ((idle before first).run process directory (actions ++ [action])) := numbered_run _ _ _
    have hextends : ((idle before first).run process directory actions).Extends
        ((idle before first).run process directory (actions ++ [action])) :=
      extends_run_of_prefix _ (List.prefix_append _ _)
    have htidy' : tidy → (idle before first).tidy process directory actions = true ∧
        ((idle before first).run process directory actions).refusesRemoval action = false := by
      intro ht
      have hall := htidy ht
      rw [tidy_append] at hall
      simpa [Writers.tidy] using hall
    have hcoherent := ih (Nat.lt_of_le_of_lt hextends.length_le hfew) (hapart.mono hextends)
      fun ht => (htidy' ht).1
    exact hcoherent.goes (goes_run actions action) (hnumbered.nodup hfew) hapart
      fun ht => (htidy' ht).2

/-- Before any of the actions, the invariant held too. -/
lemma coherent_run_of_prefix
    (hfew : ((idle before first).run process directory actions).calls.length < UInt64.size)
    (hapart : Apart before directory ((idle before first).run process directory actions))
    {past : List Action} (h : past <+: actions) :
    Coherent before directory False ((idle before first).run process directory past) := by
  have hextends : ((idle before first).run process directory past).Extends
      ((idle before first).run process directory actions) := extends_run_of_prefix _ h
  exact coherent_run (Nat.lt_of_le_of_lt hextends.length_le hfew) (hapart.mono hextends) False.elim

/-- A replacement has moved its file before an action already, or does so by it, and then its file
was complete. -/
lemma Goes.moved {w w' : Writers} {action : Action} (hgoes : Goes process directory w action w')
    (hcoherent : Coherent before directory tidy w) {k : Nat} {r : Replacement}
    (hr : w'.calls[k]? = some r) (hmoved : r.phase.Moved) :
    (∃ s, w.calls[k]? = some s ∧ s.phase.Moved ∧ s.Continues r) ∨
    (∃ fate s, action = .advance k fate ∧ w.calls[k]? = some s ∧
      s.request? = some (.rename r.temporary r.target) ∧
      w.disk.get (directory ++ [r.temporary]) = some (.file r.contents) ∧
      w'.disk.get (directory ++ [r.target]) = some (.file r.contents)) := by
  cases hgoes with
  | start target clock contents =>
    rcases Nat.lt_or_ge k w.calls.length with hk | hk
    · rw [List.getElem?_append_left hk] at hr
      exact .inl ⟨r, hr, hmoved, .refl r⟩
    · rw [List.getElem?_append_right hk] at hr
      obtain rfl := List.mem_singleton.mp (List.mem_of_getElem? hr)
      cases hmoved
  | @taken call s request fate hcall hrequest =>
    by_cases hk : call = k
    · subst hk
      obtain rfl := Option.some.inj ((getElem?_takeStep_self hcall).symm.trans hr)
      rcases Replacement.moved_of_moved_receive hrequest hmoved with hold | ⟨rfl, n, hresponse⟩
      · exact .inl ⟨s, hcall, hold, s.continues_receive _⟩
      · have hown := hcoherent.owns s (List.mem_of_getElem? hcall)
        rcases hown.perform_cases hrequest fate with ⟨-, -, hfile, -, hdisk⟩ | ⟨-, hplaced⟩
        · refine .inr ⟨fate, s, rfl, hcall, hrequest, hfile, ?_⟩
          rw [disk_takeStep, hdisk, Disk.get_set]
          exact if_pos rfl
        · rw [hresponse] at hplaced
          cases hplaced
    · rw [getElem?_takeStep_ne hk] at hr
      exact .inl ⟨r, hr, hmoved, .refl r⟩
  | ended call fate => exact .inl ⟨r, hr, hmoved, .refl r⟩

/-- A replacement that has moved its file did so in one of the actions. -/
lemma putInPlace_of_moved
    (hfew : ((idle before first).run process directory actions).calls.length < UInt64.size)
    (hapart : Apart before directory ((idle before first).run process directory actions))
    {k : Nat} {r : Replacement}
    (hr : ((idle before first).run process directory actions).calls[k]? = some r)
    (hmoved : r.phase.Moved) :
    PutInPlace directory ((idle before first).run process directory) actions k r := by
  induction actions using List.reverseRecOn generalizing r with
  | nil => cases hr
  | append_singleton actions action ih =>
    have hinit : actions <+: actions ++ [action] := List.prefix_append _ _
    have hextends : ((idle before first).run process directory actions).Extends
        ((idle before first).run process directory (actions ++ [action])) :=
      extends_run_of_prefix _ hinit
    have hcoherent : Coherent before directory False
        ((idle before first).run process directory actions) :=
      coherent_run_of_prefix hfew hapart hinit
    rcases (goes_run actions action).moved hcoherent hr hmoved with
      ⟨s, hs, hold, hcontinues⟩ | ⟨fate, s, rfl, hs, hrequest, hfile, htarget⟩
    · have hplaced := ih (Nat.lt_of_le_of_lt hextends.length_le hfew) (hapart.mono hextends) hs hold
      exact (hplaced.congr hcontinues).mono hinit
    · exact ⟨actions, fate, s, List.prefix_refl _, hs, hrequest, hfile, htarget⟩

/-- What holds of replacements whatever order their steps have. -/
structure Undisturbed (before : Disk) (directory : Location) (run : List Action → Writers)
    (tidy : Prop) (actions : List Action) : Prop where
  /-- At every moment, a target holds its first entry or all that one of them was to write. -/
  get_target : ∀ past, past <+: actions → ∀ r ∈ (run actions).calls,
    (run past).disk.get (directory ++ [r.target]) = before.get (directory ++ [r.target]) ∨
      ∃ s ∈ (run past).calls, s.target = r.target ∧
        (run past).disk.get (directory ++ [r.target]) = some (.file s.contents)
  /-- At every moment, nothing is changed but targets and temporary files. -/
  get_elsewhere : ∀ past, past <+: actions → ∀ l,
    (∀ r ∈ (run actions).calls, l ≠ directory ++ [r.target] ∧ l ≠ directory ++ [r.temporary]) →
      (run past).disk.get l = before.get l
  /-- No step of one of them, be it a removal, changes the temporary file of another. -/
  get_temporary : ∀ past call fate, past ++ [.advance call fate] <+: actions →
    ∀ (k : Nat) r, k ≠ call → (run past).calls[k]? = some r →
      (run (past ++ [.advance call fate])).disk.get (directory ++ [r.temporary]) =
        (run past).disk.get (directory ++ [r.temporary])
  /-- One that ended well has put its complete file in place. -/
  putInPlace : ∀ (k : Nat) r, (run actions).calls[k]? = some r → r.request? = none →
    r.outcome = .ok () → PutInPlace directory run actions k r
  /-- When all have ended, no temporary file is left, and a target holds what was last put there, or
  its first entry. -/
  settled : tidy → (∀ r ∈ (run actions).calls, r.request? = none) →
    ∀ r ∈ (run actions).calls,
      (run actions).disk.get (directory ++ [r.temporary]) = none ∧
      (run actions).disk.get (directory ++ [r.target]) =
        standing before (run actions).placed (directory ++ [r.target])

/-- What stands at the name of no temporary file is the first entry, or what a replacement of that
target was to write. -/
lemma Coherent.get_cases {w : Writers} (h : Coherent before directory tidy w) {l : Location}
    (hl : ∀ r ∈ w.calls, l ≠ directory ++ [r.temporary]) :
    w.disk.get l = before.get l ∨
      ∃ s ∈ w.calls, directory ++ [s.target] = l ∧ w.disk.get l = some (.file s.contents) := by
  rw [h.get_eq l hl]
  refine (standing_cases before w.placed l).imp_right ?_
  rintro ⟨contents, hplaced, hstanding⟩
  obtain ⟨s, hs, hplace, rfl⟩ := h.exists_call l contents hplaced
  exact ⟨s, hs, hplace, hstanding⟩

/-- A target of one of the replacements to come holds its first entry, or what one of those begun
was to write. -/
lemma Coherent.get_target {w w' : Writers} (h : Coherent before directory tidy w)
    (hextends : w.Extends w') (hapart : Apart before directory w') {r : Replacement}
    (hr : r ∈ w'.calls) :
    w.disk.get (directory ++ [r.target]) = before.get (directory ++ [r.target]) ∨
      ∃ s ∈ w.calls, s.target = r.target ∧
        w.disk.get (directory ++ [r.target]) = some (.file s.contents) := by
  refine (h.get_cases fun s hs => ?_).imp_right ?_
  · obtain ⟨s', hs', hcontinues⟩ := hextends.exists_mem hs
    simpa [← hcontinues.temporary_eq] using hapart.ne r hr s' hs'
  · rintro ⟨s, hs, htarget, hget⟩
    exact ⟨s, hs, by simpa using htarget, hget⟩

/-- Where none of the replacements to come has its target or its temporary file, nothing changes. -/
lemma Coherent.get_elsewhere {w w' : Writers} (h : Coherent before directory tidy w)
    (hextends : w.Extends w') {l : Location}
    (hl : ∀ r ∈ w'.calls, l ≠ directory ++ [r.target] ∧ l ≠ directory ++ [r.temporary]) :
    w.disk.get l = before.get l := by
  have helsewhere : ∀ s ∈ w.calls,
      l ≠ directory ++ [s.target] ∧ l ≠ directory ++ [s.temporary] := by
    intro s hs
    obtain ⟨s', hs', hcontinues⟩ := hextends.exists_mem hs
    rw [← hcontinues.target_eq, ← hcontinues.temporary_eq]
    exact hl s' hs'
  refine (h.get_cases fun s hs => (helsewhere s hs).2).resolve_right ?_
  rintro ⟨s, hs, htarget, -⟩
  exact (helsewhere s hs).1 htarget.symm

/-- A step of a replacement leaves the temporary file of another alone. -/
lemma Goes.get_temporary {w w' : Writers} {call : Nat} {fate : Fate}
    (hgoes : Goes process directory w (.advance call fate) w')
    (hcoherent : Coherent before directory tidy w) (hapart : Apart before directory w)
    (hnodup : (w.calls.map (·.temporary)).Nodup) {k : Nat} {r : Replacement} (hk : k ≠ call)
    (hr : w.calls[k]? = some r) :
    w'.disk.get (directory ++ [r.temporary]) = w.disk.get (directory ++ [r.temporary]) := by
  cases hgoes with
  | @taken _ s request _ hcall hrequest =>
    have hs : s ∈ w.calls := List.mem_of_getElem? hcall
    have htemporary : r.temporary ≠ s.temporary := fun heq =>
      hk (eq_of_temporary_eq hnodup hr hcall heq)
    refine (hcoherent.owns s hs).get_perform_of_ne hrequest fate (by simpa using htemporary) ?_
    simpa using (hapart.ne s hs r (List.mem_of_getElem? hr)).symm
  | ended call fate => rfl

/-- However the steps of replacements mix, and whichever of them fail, the temporary names differ as
long as there are fewer replacements than numbers; and if nothing else has one of these names, the
replacements do not disturb each other. -/
theorem undisturbed_of_interleaving (before : Disk) (first : UInt64) (process : Nat)
    (directory : Location) (actions : List Action)
    (hfew : ((idle before first).run process directory actions).calls.length < UInt64.size) :
    (((idle before first).run process directory actions).calls.map (·.temporary)).Nodup ∧
    (Apart before directory ((idle before first).run process directory actions) →
      Undisturbed before directory ((idle before first).run process directory)
        ((idle before first).tidy process directory actions = true) actions) := by
  have hnumbered : ∀ past, Numbered process first
      ((idle before first).run process directory past) := numbered_run before first
  refine ⟨(hnumbered actions).nodup hfew, fun hapart => ?_⟩
  have hextends : ∀ past, past <+: actions →
      ((idle before first).run process directory past).Extends
        ((idle before first).run process directory actions) :=
    fun past hpast => extends_run_of_prefix _ hpast
  have hcoherent : ∀ past, past <+: actions →
      Coherent before directory False ((idle before first).run process directory past) :=
    fun past hpast => coherent_run_of_prefix hfew hapart hpast
  constructor
  · intro past hpast r hr
    exact (hcoherent past hpast).get_target (hextends past hpast) hapart hr
  · intro past hpast l hl
    exact (hcoherent past hpast).get_elsewhere (hextends past hpast) hl
  · intro past call fate hstep k r hk hr
    have hpast : past <+: actions := (List.prefix_append _ _).trans hstep
    have hpastFew := Nat.lt_of_le_of_lt (hextends past hpast).length_le hfew
    exact (goes_run past (.advance call fate)).get_temporary (hcoherent past hpast)
      (hapart.mono (hextends past hpast)) ((hnumbered past).nodup hpastFew) hk hr
  · intro k r hr hend hok
    exact putInPlace_of_moved hfew hapart hr (Replacement.moved_of_ok hend hok)
  · intro htidy hended r hr
    have hsettled := coherent_run hfew hapart fun (_ : True) => htidy
    refine ⟨(hsettled.owns r hr).eq_none_of_ended (hended r hr) trivial, hsettled.get_eq _ ?_⟩
    intro s hs
    simpa using hapart.ne r hr s hs

/-- Of two replacements of one target, whose numbers come round between them, the second fails when
it asks for the name, and the target keeps what the first one put there. -/
theorem undisturbed_of_interleaving_of_two :
    let before := Disk.empty.set [[97]] (.file [0])
    let actions : List Action :=
      [.start [97] 5 [1, 2], .advance 0 .granted, .start [97] 5 [3], .advance 0 (.cut 1),
        .advance 1 .granted, .advance 1 .granted, .advance 0 .granted, .advance 1 .granted,
        .advance 0 .granted, .advance 0 .granted, .advance 1 (.refused 0 "denied"),
        .advance 1 .granted, .advance 0 .granted]
    let w := (idle before 0xFFFFFFFFFFFFFFFF).run 4 [] actions
    w.calls.length < UInt64.size ∧ Apart before [] w ∧
      (idle before 0xFFFFFFFFFFFFFFFF).tidy 4 [] actions = true ∧
      (w.calls.map (·.phase) = [.done, .failed [97] "denied"]) ∧
      w.disk.get [[97]] = some (.file [1, 2]) := by
  intro before actions w
  have hfew : w.calls.length < UInt64.size := by decide +kernel
  have hapart : Apart before [] w := ⟨by decide +kernel, by decide +kernel⟩
  have htidy : (idle before 0xFFFFFFFFFFFFFFFF).tidy 4 [] actions = true := by decide +kernel
  have hphases : w.calls.map (·.phase) = [.done, .failed [97] "denied"] := by decide +kernel
  have hended : ∀ r ∈ w.calls, r.request? = none := by decide +kernel
  have htarget : ∃ r ∈ w.calls, r.target = [97] := by decide +kernel
  have hplaced : w.placed.lookup [[97]] = some [1, 2] := by decide +kernel
  have hundisturbed := (undisturbed_of_interleaving before 0xFFFFFFFFFFFFFFFF 4 [] actions hfew).2
  obtain ⟨r, hr, hname⟩ := htarget
  have hget := ((hundisturbed hapart).settled htidy hended r hr).2
  refine ⟨hfew, hapart, htidy, hphases, ?_⟩
  rw [hname, standing] at hget
  exact hget.trans (by rw [List.nil_append, hplaced])

end Writers

end RoomDraw
