import Mathlib.Data.List.Induction
import Mathlib.Data.List.Nodup
import RoomDraw.Proofs.Files.Effect
import RoomDraw.Proofs.Files.TemporaryName

/-!
# Replacements whose steps mix

One process makes any number of replacements in a directory, and any of them may take the next step.
What a replacement is about never changes, and their temporary names are told apart by the numbers
that the process counts up, as long as these do not come round.
-/

namespace RoomDraw

namespace Replacement

/-- The second replacement is the first one, some steps later. -/
structure Continues (r s : Replacement) : Prop where
  target_eq : s.target = r.target
  temporary_eq : s.temporary = r.temporary
  contents_eq : s.contents = r.contents

lemma Continues.refl (r : Replacement) : r.Continues r := ⟨rfl, rfl, rfl⟩

lemma Continues.trans {r s t : Replacement} (h : r.Continues s) (h' : s.Continues t) :
    r.Continues t :=
  ⟨h'.target_eq.trans h.target_eq, h'.temporary_eq.trans h.temporary_eq,
    h'.contents_eq.trans h.contents_eq⟩

lemma continues_receive (r : Replacement) (response : Response) :
    r.Continues (r.receive response) :=
  ⟨rfl, rfl, rfl⟩

end Replacement

/-- The replacements of one process in a directory, from the first one on. -/
structure Writers where
  disk : Disk
  /-- The number of the next stamp. -/
  next : UInt64
  calls : List Replacement
  /-- What was given the name of a target, the newest first. -/
  placed : List (Location × Bytes)

namespace Writers

/-- No replacement has begun. -/
def idle (disk : Disk) (next : UInt64) : Writers := ⟨disk, next, [], []⟩

/-- What happens next. -/
inductive Action where
  /-- A replacement begins, at a reading of the clock. -/
  | start (target : Name) (clock : Nat) (contents : Bytes)
  /-- A replacement takes its next step, if it has not ended. -/
  | advance (call : Nat) (fate : Fate)

section Steps

variable (process : Nat) (directory : Location)

/-- What a renaming has put in place. -/
def placedBy (r : Replacement) : Request → Response → List (Location × Bytes)
  | .rename _ target, .ok _ => [(directory ++ [target], r.contents)]
  | _, _ => []

def takeStep (w : Writers) (call : Nat) (r : Replacement) (request : Request) (fate : Fate) :
    Writers :=
  let (disk, response) := w.disk.perform directory fate request
  { w with
    disk
    calls := w.calls.set call (r.receive response)
    placed := placedBy directory r request response ++ w.placed }

def step (w : Writers) : Action → Writers
  | .start target clock contents =>
    { w with
      next := w.next + 1
      calls := w.calls ++ [.start target ⟨process, clock, w.next.toNat⟩ contents] }
  | .advance call fate =>
    match w.calls[call]? with
    | none => w
    | some r =>
      match r.request? with
      | none => w
      | some request => w.takeStep directory call r request fate

def run (w : Writers) (actions : List Action) : Writers := actions.foldl (step process directory) w

/-- Whether an action is the removal of a temporary file, and is refused. -/
def refusesRemoval (w : Writers) : Action → Bool
  | .start _ _ _ => false
  | .advance call fate =>
    match w.calls[call]?.bind Replacement.request? with
    | some (.discard _) => fate.isRefused
    | _ => false

/-- Whether no removal of a temporary file is refused. -/
def tidy (w : Writers) : List Action → Bool
  | [] => true
  | action :: actions => !w.refusesRemoval action && tidy (step process directory w action) actions

/-- What an action makes of the replacements. -/
inductive Goes (w : Writers) : Action → Writers → Prop
  | start (target : Name) (clock : Nat) (contents : Bytes) :
      Goes w (.start target clock contents)
        { w with
          next := w.next + 1
          calls := w.calls ++ [.start target ⟨process, clock, w.next.toNat⟩ contents] }
  | taken {call : Nat} {r : Replacement} {request : Request} (fate : Fate)
      (hcall : w.calls[call]? = some r) (hrequest : r.request? = some request) :
      Goes w (.advance call fate) (w.takeStep directory call r request fate)
  | ended (call : Nat) (fate : Fate) : Goes w (.advance call fate) w

end Steps

variable {process : Nat} {directory : Location} {w w' : Writers}

lemma goes_step (w : Writers) (action : Action) :
    Goes process directory w action (w.step process directory action) := by
  cases action with
  | start target clock contents => exact .start target clock contents
  | advance call fate =>
    rcases hcall : w.calls[call]? with _ | r
    · simp only [step, hcall]
      exact .ended call fate
    rcases hrequest : r.request? with _ | request
    · simp only [step, hcall, hrequest]
      exact .ended call fate
    · simp only [step, hcall, hrequest]
      exact .taken fate hcall hrequest

section TakeStep

variable {call : Nat} {r : Replacement} {request : Request} {fate : Fate}

lemma disk_takeStep : (w.takeStep directory call r request fate).disk =
    (w.disk.perform directory fate request).1 := rfl

lemma getElem?_takeStep_self (hcall : w.calls[call]? = some r) :
    (w.takeStep directory call r request fate).calls[call]? =
      some (r.receive (w.disk.perform directory fate request).2) :=
  List.getElem?_set_self (List.getElem?_eq_some_iff.mp hcall).1

lemma getElem?_takeStep_ne {k : Nat} (hk : call ≠ k) :
    (w.takeStep directory call r request fate).calls[k]? = w.calls[k]? :=
  List.getElem?_set_ne hk

end TakeStep

lemma run_append (w : Writers) (actions more : List Action) :
    w.run process directory (actions ++ more) =
      (w.run process directory actions).run process directory more :=
  List.foldl_append

lemma goes_run {w : Writers} (actions : List Action) (action : Action) :
    Goes process directory (w.run process directory actions) action
      (w.run process directory (actions ++ [action])) := by
  rw [run_append]
  exact goes_step _ action

lemma tidy_append (w : Writers) (actions more : List Action) :
    w.tidy process directory (actions ++ more) =
      (w.tidy process directory actions &&
        (w.run process directory actions).tidy process directory more) := by
  induction actions generalizing w with
  | nil => rfl
  | cons action actions ih =>
    rw [List.cons_append, tidy, ih, tidy, Bool.and_assoc]
    rfl

/-! ### What a replacement is about -/

/-- Every replacement goes on, in its place. -/
def Extends (w w' : Writers) : Prop :=
  ∀ (k : Nat) (r : Replacement), w.calls[k]? = some r → ∃ s, w'.calls[k]? = some s ∧ r.Continues s

lemma Extends.refl (w : Writers) : w.Extends w := fun _ r h => ⟨r, h, .refl r⟩

lemma Extends.trans {w'' : Writers} (h : w.Extends w') (h' : w'.Extends w'') : w.Extends w'' := by
  intro k r hr
  obtain ⟨s, hs, hrs⟩ := h k r hr
  obtain ⟨t, ht, hst⟩ := h' k s hs
  exact ⟨t, ht, hrs.trans hst⟩

lemma Extends.length_le (h : w.Extends w') : w.calls.length ≤ w'.calls.length := by
  by_contra hlt
  have hlast : w'.calls.length < w.calls.length := Nat.lt_of_not_le hlt
  obtain ⟨s, hs, -⟩ := h _ _ (List.getElem?_eq_getElem hlast)
  simp at hs

lemma Goes.extends {action : Action} (h : Goes process directory w action w') :
    w.Extends w' := by
  cases h with
  | start target clock contents =>
    intro k r hr
    have hk := (List.getElem?_eq_some_iff.mp hr).1
    exact ⟨r, by rw [List.getElem?_append_left hk, hr], .refl r⟩
  | @taken call r request fate hcall hrequest =>
    intro k s hs
    by_cases hk : call = k
    · subst hk
      obtain rfl := Option.some.inj (hcall.symm.trans hs)
      exact ⟨_, getElem?_takeStep_self hcall, r.continues_receive _⟩
    · exact ⟨s, by rw [getElem?_takeStep_ne hk, hs], .refl s⟩
  | ended call fate => exact .refl w

lemma extends_run (w : Writers) (actions : List Action) :
    w.Extends (w.run process directory actions) := by
  induction actions generalizing w with
  | nil => exact .refl w
  | cons action actions ih => exact (goes_step w action).extends.trans (ih _)

lemma extends_run_of_prefix (w : Writers) {past actions : List Action}
    (h : past <+: actions) :
    (w.run process directory past).Extends (w.run process directory actions) := by
  obtain ⟨rest, rfl⟩ := h
  rw [run_append]
  exact extends_run _ rest

/-! ### Temporary names -/

/-- Every replacement has a stamp of its own number. -/
structure Numbered (process : Nat) (first : UInt64) (w : Writers) : Prop where
  next_eq : w.next = first + UInt64.ofNat w.calls.length
  temporary_eq : ∀ (k : Nat) (r : Replacement), w.calls[k]? = some r → ∃ clock,
    r.temporary = temporaryName r.target ⟨process, clock, (first + UInt64.ofNat k).toNat⟩

lemma Numbered.goes {first : UInt64} {action : Action} (h : Numbered process first w)
    (hgoes : Goes process directory w action w') : Numbered process first w' := by
  cases hgoes with
  | start target clock contents =>
    constructor
    · rw [List.length_append, List.length_singleton, UInt64.ofNat_add, ← UInt64.add_assoc,
        ← h.next_eq]
      rfl
    · intro k r hr
      rcases Nat.lt_or_ge k w.calls.length with hk | hk
      · rw [List.getElem?_append_left hk] at hr
        exact h.temporary_eq k r hr
      · obtain ⟨hzero, rfl⟩ : k - w.calls.length = 0 ∧ _ = r := by
          simpa [List.getElem?_append_right hk, List.getElem?_singleton] using hr
        obtain rfl : k = w.calls.length := by omega
        exact ⟨clock, by rw [← h.next_eq]; rfl⟩
  | @taken call r request fate hcall hrequest =>
    constructor
    · rw [takeStep, List.length_set]
      exact h.next_eq
    · intro k s hs
      by_cases hk : call = k
      · subst hk
        obtain rfl := Option.some.inj ((getElem?_takeStep_self hcall).symm.trans hs)
        exact h.temporary_eq call r hcall
      · rw [getElem?_takeStep_ne hk] at hs
        exact h.temporary_eq k s hs
  | ended call fate => exact h

lemma numbered_run (disk : Disk) (first : UInt64) (actions : List Action) :
    Numbered process first ((idle disk first).run process directory actions) := by
  induction actions using List.reverseRecOn with
  | nil => exact ⟨(UInt64.add_zero first).symm, fun k r hr => by cases hr⟩
  | append_singleton actions action ih => exact ih.goes (goes_run actions action)

/-- As long as there are fewer replacements than numbers, no two have the same temporary name. -/
lemma Numbered.nodup {first : UInt64} (h : Numbered process first w)
    (hfew : w.calls.length < UInt64.size) : (w.calls.map (·.temporary)).Nodup := by
  refine List.nodup_iff_getElem?_ne_getElem?.mpr fun j k hjk hk heq => ?_
  rw [List.length_map] at hk
  have hj := Nat.lt_trans hjk hk
  rw [List.getElem?_map, List.getElem?_map, List.getElem?_eq_getElem hj,
    List.getElem?_eq_getElem hk] at heq
  obtain ⟨clock, hname⟩ := h.temporary_eq j _ (List.getElem?_eq_getElem hj)
  obtain ⟨clock', hname'⟩ := h.temporary_eq k _ (List.getElem?_eq_getElem hk)
  -- two numbers that are counted up from the first one meet again after a whole round only
  have hcounter := counter_eq_of_temporaryName_eq
    (hname.symm.trans ((Option.some.inj heq).trans hname'))
  simp only [UInt64.toNat_add, UInt64.toNat_ofNat'] at hcounter
  have hsize : UInt64.size = 18446744073709551616 := rfl
  omega

lemma eq_of_temporary_eq (h : (w.calls.map (·.temporary)).Nodup) {j k : Nat} {r s : Replacement}
    (hr : w.calls[j]? = some r) (hs : w.calls[k]? = some s) (heq : r.temporary = s.temporary) :
    j = k := by
  have hlt : j < (w.calls.map (·.temporary)).length := by
    rw [List.length_map]
    exact (List.getElem?_eq_some_iff.mp hr).1
  refine (List.getElem?_inj hlt h).mp ?_
  rw [List.getElem?_map, List.getElem?_map, hr, hs, Option.map_some, Option.map_some, heq]

end Writers

end RoomDraw
