import Mathlib.Data.List.Basic
import Mathlib.Tactic.SplitIfs
import RoomDraw.Files.Effect

/-!
# What steps do to a disk

A disk is known by what stands at each location. One lemma for each request tells what its step
changes there, whatever becomes of the step.
-/

namespace RoomDraw

/-- Whether a step with the fate fails, although the disk has nothing to say against it. -/
def Fate.isRefused : Fate → Bool
  | refused _ _ => true
  | granted | cut _ => false

namespace Disk

/-- The disks differ at the location at most. -/
def AgreeOff (l : Location) (d d' : Disk) : Prop := ∀ k, k ≠ l → d'.get k = d.get k

/-- The second disk holds the file at the location, and is the first elsewhere. -/
def Replaced (l : Location) (contents : Bytes) (d d' : Disk) : Prop :=
  ∀ k, d'.get k = if k = l then some (.file contents) else d.get k

lemma AgreeOff.refl (l : Location) (d : Disk) : AgreeOff l d d := fun _ _ => rfl

lemma AgreeOff.trans {l : Location} {d₁ d₂ d₃ : Disk} (h₁ : AgreeOff l d₁ d₂)
    (h₂ : AgreeOff l d₂ d₃) : AgreeOff l d₁ d₃ := by
  intro k hk
  rw [h₂ k hk, h₁ k hk]

/-- Disks that differ at one location at most, and not there, are alike. -/
lemma AgreeOff.get_eq {l : Location} {d d' : Disk} (h : AgreeOff l d d')
    (hl : d'.get l = d.get l) (k : Location) : d'.get k = d.get k := by
  by_cases hk : k = l
  · rw [hk, hl]
  · exact h k hk

lemma Replaced.agreeOff {l : Location} {contents : Bytes} {d d' : Disk}
    (h : Replaced l contents d d') : AgreeOff l d d' := by
  intro k hk
  rw [h k, if_neg hk]

lemma Replaced.get_eq {l : Location} {contents : Bytes} {d d' : Disk}
    (h : Replaced l contents d d') : d'.get l = some (.file contents) := by
  rw [h l, if_pos rfl]

/-! ### Changes at one location -/

lemma agreeOff_set (d : Disk) (l : Location) (e : Entry) : AgreeOff l d (d.set l e) := by
  intro k hk
  rw [get_set, if_neg (Ne.symm hk)]

lemma agreeOff_remove (d : Disk) (l : Location) : AgreeOff l d (d.remove l) := by
  intro k hk
  rw [get_remove, if_neg (Ne.symm hk)]

lemma agreeOff_append (d : Disk) (l : Location) (bytes : Bytes) :
    AgreeOff l d (d.append l bytes) := by
  unfold append
  split
  · exact agreeOff_set d l _
  · intro k _
    rfl

lemma get_append {d : Disk} {l : Location} {contents : Bytes}
    (h : d.get l = some (.file contents)) (bytes : Bytes) :
    (d.append l bytes).get l = some (.file (contents ++ bytes)) := by
  rw [append, h]
  simp only [get_set, if_true]

lemma create_eq_ok {d d' : Disk} {directory : Location} {name : Name}
    (h : d.create directory name = .ok d') :
    d.get (directory ++ [name]) = none ∧ d' = d.set (directory ++ [name]) (.file []) := by
  simp only [create] at h
  split_ifs at h with hnul hlength hused
  exact ⟨Option.not_isSome_iff_eq_none.mp hused, (Except.ok.inj h).symm⟩

lemma rename_eq_ok {d d' : Disk} {directory : Location} {source target : Name}
    (h : d.rename directory source target = .ok d') :
    ∃ e, d.get (directory ++ [source]) = some e ∧
      d' = (d.remove (directory ++ [source])).set (directory ++ [target]) e := by
  unfold rename at h
  split at h
  · cases h
  · rename_i e he
    split_ifs at h
    exact ⟨e, he, (Except.ok.inj h).symm⟩

/-! ### Steps -/

variable (d : Disk) (directory : Location) (fate : Fate)

/-- A write takes some of the bytes, from the first on, and tells how many they are. -/
lemma perform_write (name : Name) (bytes : Bytes) :
    ∃ taken, (d.perform directory fate (.write name bytes)).1 =
        d.append (directory ++ [name]) taken ∧
      ∀ n, (d.perform directory fate (.write name bytes)).2 = .ok n → taken = bytes.take n := by
  cases fate with
  | granted =>
    refine ⟨bytes, rfl, ?_⟩
    intro n hn
    rw [← Except.ok.inj hn, List.take_length]
  | cut size =>
    refine ⟨bytes.take (max 1 size), rfl, ?_⟩
    intro n hn
    rw [← Except.ok.inj hn, List.length_take]
    exact List.take_eq_take_min
  | refused after message => exact ⟨bytes.take after, rfl, fun n hn => by cases hn⟩

/-- A file is created empty where there was none; if that fails, nothing changes. -/
lemma perform_create (name : Name) :
    (∃ n, (d.perform directory fate (.create name)).2 = .ok n ∧
      d.get (directory ++ [name]) = none ∧
      (d.perform directory fate (.create name)).1 = d.set (directory ++ [name]) (.file [])) ∨
    (∃ message, (d.perform directory fate (.create name)).2 = .error message ∧
      (d.perform directory fate (.create name)).1 = d) := by
  cases fate with
  | refused after message => exact .inr ⟨message, rfl, rfl⟩
  | granted | cut size =>
    unfold perform
    dsimp only
    rcases hcreate : d.create directory name with e | d'
    · exact .inr ⟨e.message, rfl, rfl⟩
    · obtain ⟨hfree, rfl⟩ := create_eq_ok hcreate
      exact .inl ⟨0, rfl, hfree, rfl⟩

/-- An entry that is renamed stands at its new place instead of the old one; if that fails, nothing
changes. -/
lemma perform_rename (source target : Name) :
    (∃ n e, (d.perform directory fate (.rename source target)).2 = .ok n ∧
      d.get (directory ++ [source]) = some e ∧
      (d.perform directory fate (.rename source target)).1 =
        (d.remove (directory ++ [source])).set (directory ++ [target]) e) ∨
    (∃ message, (d.perform directory fate (.rename source target)).2 = .error message ∧
      (d.perform directory fate (.rename source target)).1 = d) := by
  cases fate with
  | refused after message => exact .inr ⟨message, rfl, rfl⟩
  | granted | cut size =>
    unfold perform
    dsimp only
    rcases hrename : d.rename directory source target with e | d'
    · exact .inr ⟨e.message, rfl, rfl⟩
    · obtain ⟨e, he, rfl⟩ := rename_eq_ok hrename
      exact .inl ⟨0, e, rfl, he, rfl⟩

lemma perform_sync (name : Name) : (d.perform directory fate (.sync name)).1 = d := by
  cases fate <;> rfl

lemma perform_syncDirectory : (d.perform directory fate .syncDirectory).1 = d := by
  cases fate <;> rfl

lemma perform_discard (name : Name) :
    AgreeOff (directory ++ [name]) d (d.perform directory fate (.discard name)).1 := by
  cases fate with
  | refused after message =>
    intro k _
    rfl
  | granted | cut size => exact agreeOff_remove d _

/-- A removal that is not refused leaves nothing behind. -/
lemma get_perform_discard {fate : Fate} (h : fate.isRefused = false) (name : Name) :
    (d.perform directory fate (.discard name)).1.get (directory ++ [name]) = none := by
  cases fate with
  | refused after message => cases h
  | granted | cut size =>
    show (d.remove (directory ++ [name])).get (directory ++ [name]) = none
    rw [get_remove, if_pos rfl]

end Disk

end RoomDraw
