import Mathlib.Data.List.Basic
import RoomDraw.Proofs.Settings.Layer
import RoomDraw.Settings.Loading

/-!
# Settings in the environment

The last variable for a setting counts, and it counts for that setting only. Variables for settings
have no part in where files of settings are looked for.
-/

namespace RoomDraw

namespace Setting

lemma key_injective : Function.Injective key := by
  intro t u h
  cases t <;> cases u <;> first | rfl | exact absurd h (by decide)

/-- The variable of a setting, as it is usually written. -/
def variableName : Setting → String
  | rosterPath => "ROOM_SEED_ROSTER_PATH"
  | manifestPath => "ROOM_SEED_MANIFEST_PATH"
  | seed => "ROOM_SEED_SEED"
  | centurionThreshold => "ROOM_SEED_CENTURION_THRESHOLD"
  | pretty => "ROOM_SEED_PRETTY"

lemma target?_variableName (t : Setting) :
    Environment.target? t.variableName = some (t.key, false) := by
  cases t <;> decide

end Setting

namespace Environment

/-! ### What variables say -/

/-- What the variables for a setting say, one after the other. -/
def said (e : Environment) (t : Setting) : List RawValue := e.filterMap fun x => says? t x.1 x.2

variable {e e' : Environment} {t u : Setting} {name value : String}

lemma said_cons (entry : String × String) (e : Environment) (t : Setting) :
    said (entry :: e) t = (says? t entry.1 entry.2).toList ++ e.said t := by
  cases h : says? t entry.1 entry.2 with
  | none => exact List.filterMap_cons_none h
  | some v => exact List.filterMap_cons_some h

/-- Of several variables for a setting the last counts. -/
lemma layer_eq_getLast? (e : Environment) (t : Setting) : layer e t = (e.said t).getLast? := by
  -- over any value found so far, since an earlier variable is only a fallback for a later one
  have hfold : ∀ found, e.foldl (fun found x => (says? t x.1 x.2).or found) found =
      (e.said t).getLast?.or found := by
    induction e with
    | nil => exact fun found => rfl
    | cons entry e ih =>
      intro found
      rw [List.foldl_cons, ih, said_cons, List.getLast?_append, Option.or_assoc]
      cases says? t entry.1 entry.2 <;> rfl
  exact (hfold none).trans Option.or_none

/-- The name of a variable that says something about a setting names that setting. -/
lemma target?_of_says? {v : RawValue} (h : says? t name value = some v) :
    ∃ into, target? name = some (t.key, into) := by
  rw [says?] at h
  split at h
  · rename_i key into htarget
    split at h
    · rename_i hkey
      exact ⟨into, hkey ▸ htarget⟩
    · cases h
  · cases h

/-- No variable is for two settings. -/
lemma says?_eq_none_of_ne {v : RawValue} (htu : t ≠ u) (h : says? t name value = some v) :
    says? u name value = none := by
  rw [Option.eq_none_iff_forall_ne_some]
  intro v' h'
  obtain ⟨into, ht⟩ := target?_of_says? h
  obtain ⟨into', hu⟩ := target?_of_says? h'
  rw [ht, Option.some.injEq, Prod.mk.injEq] at hu
  exact htu (Setting.key_injective hu.1)

lemma says?_variableName (t : Setting) (value : String) :
    says? t t.variableName value = some (Literal.read value) := by
  simp [says?, Setting.target?_variableName]

/-- A variable behind which there is no other for the setting has the last word. -/
lemma getLast?_said {before after : Environment} (h : after.said t = []) :
    (said (before ++ (t.variableName, value) :: after) t).getLast? = some (Literal.read value) := by
  rw [said, List.filterMap_append, ← said, ← said, said_cons, says?_variableName, h]
  simp

/-! ### Environments that differ in one setting -/

/-- The variables that are not for a setting. -/
def without (e : Environment) (t : Setting) : Environment :=
  e.filter fun x => (says? t x.1 x.2).isNone

/-- Variables for the setting are all that tells the environments apart: some may have been added,
changed or taken away. -/
def AgreesOff (e : Environment) (t : Setting) (e' : Environment) : Prop :=
  e.without t = e'.without t

lemma said_without (htu : t ≠ u) : (e.without t).said u = e.said u := by
  rw [said, without, List.filterMap_filter, said]
  refine List.filterMap_congr fun x _ => ?_
  cases h : says? t x.1 x.2 with
  | none => rfl
  | some v => exact (says?_eq_none_of_ne htu h).symm

lemma AgreesOff.layer (h : e.AgreesOff t e') : e.layer.AgreesOff t e'.layer := by
  intro u hu
  rw [layer_eq_getLast?, layer_eq_getLast?, ← said_without hu.symm, h, said_without hu.symm]

/-- A look-up passes over what does not have the key. -/
lemma lookup_filter {p : String × String → Bool} (h : ∀ value, p (name, value) = true) :
    (e.filter p).lookup name = e.lookup name := by
  induction e with
  | nil => rfl
  | cons entry e ih =>
    obtain ⟨name', value⟩ := entry
    by_cases hname : name = name'
    · rw [← hname, List.filter_cons_of_pos (h value), List.lookup_cons_self, List.lookup_cons_self]
    · have hne : (name == name') = false := beq_eq_false_iff_ne.mpr hname
      rw [List.filter_cons]
      split <;> simp [List.lookup_cons, hne, ih]

/-- A variable whose name is that of no setting can be looked up without those of a setting. -/
lemma get_without (h : ∀ value, says? t name value = none) :
    (e.without t).get name = e.get name :=
  lookup_filter fun value => by rw [h]; rfl

/-- The variables that tell where files of settings may be are for no setting. -/
lemma candidates_without (named : Option Path) (e : Environment) (here : Path) (t : Setting) :
    Settings.candidates named (e.without t) here = Settings.candidates named e here := by
  have hkey : ∀ name ∈ ["XDG_CONFIG_HOME", "XDG_CONFIG_DIRS", "ROOM_SEED_CONFIG_PATH", "HOME"],
      (target? name).map Prod.fst ≠ some t.key := by
    cases t <;> decide
  have hget : ∀ name ∈ ["XDG_CONFIG_HOME", "XDG_CONFIG_DIRS", "ROOM_SEED_CONFIG_PATH", "HOME"],
      (e.without t).get name = e.get name := by
    refine fun name hname => get_without fun value => ?_
    rw [Option.eq_none_iff_forall_ne_some]
    intro v hv
    obtain ⟨into, htarget⟩ := target?_of_says? hv
    exact hkey name hname (by rw [htarget]; rfl)
  simp only [List.forall_mem_cons] at hget
  obtain ⟨hown, hdirectories, hpath, hhome, -⟩ := hget
  simp only [Settings.candidates, hown, hdirectories, hpath, hhome]

lemma AgreesOff.candidates_eq (h : e.AgreesOff t e') (named : Option Path) (here : Path) :
    Settings.candidates named e here = Settings.candidates named e' here := by
  rw [← candidates_without named e here t, h, candidates_without]

end Environment

end RoomDraw
