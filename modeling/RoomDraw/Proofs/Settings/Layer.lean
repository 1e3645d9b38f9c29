import Mathlib.Tactic.SplitIfs
import RoomDraw.Settings.Layer

/-!
# Settings of a layer

The settings that a layer gives have, when they are read, the values that the layer says, and their
defaults where it says nothing. What it says about one setting has no part in the others.
-/

namespace RoomDraw

/-! ### Values of the right kind -/

namespace RawValue

lemma path?_eq_some {v : RawValue} {p : Path} (h : v.path? = some p) :
    ∃ text, v = .text text ∧ p = .ofString text := by
  cases v with
  | text text => exact ⟨text, rfl, (Option.some.inj h).symm⟩
  | _ => cases h

lemma word?_eq_some {v : RawValue} {n : Nat} (h : v.word? = some n) :
    v = .integer n ∧ n < UInt64.size := by
  cases v with
  | integer m =>
    simp only [word?, Option.ite_none_right_eq_some, Option.some.injEq] at h
    obtain ⟨⟨hpos, hlt⟩, rfl⟩ := h
    rw [Int.toNat_of_nonneg hpos]
    exact ⟨rfl, by omega⟩
  | _ => cases h

lemma boolean?_eq_some {v : RawValue} {b : Bool} (h : v.boolean? = some b) : v = .boolean b := by
  cases v with
  | boolean b' => exact congrArg _ (Option.some.inj h)
  | _ => cases h

end RawValue

/-! ### Settings as they are read -/

namespace Settings

/-- The setting is as if nothing was said about it. -/
def IsDefault (s : Settings) : Setting → Prop
  | .rosterPath => s.roster = .ofString "users.csv"
  | .manifestPath => s.manifest = .ofString "rooms.json"
  | .seed => s.seed = none
  | .centurionThreshold => s.threshold = 99
  | .pretty => s.layout = .compact

/-- The setting is what the value says. -/
inductive Has (s : Settings) : Setting → RawValue → Prop
  | rosterPath {p : String} : s.roster = .ofString p → Has s .rosterPath (.text p)
  | manifestPath {p : String} : s.manifest = .ofString p → Has s .manifestPath (.text p)
  | seed {n : Nat} : n < UInt64.size → s.seed = some (.ofNat n) → Has s .seed (.integer n)
  | centurionThreshold {n : Nat} : s.threshold = n → Has s .centurionThreshold (.integer n)
  | pretty {b : Bool} : s.layout = (if b then .pretty else .compact) → Has s .pretty (.boolean b)
  /-- A number that is infinite or none at all stands for no value. -/
  | notFinite {t : Setting} : t ≠ .pretty → s.IsDefault t → Has s t .notFinite

/-- The setting is the same in both. -/
def SameAt (s s' : Settings) : Setting → Prop
  | .rosterPath => s.roster = s'.roster
  | .manifestPath => s.manifest = s'.manifest
  | .seed => s.seed = s'.seed
  | .centurionThreshold => s.threshold = s'.threshold
  | .pretty => s.layout = s'.layout

end Settings

namespace Layer

/-- The settings are made of what the layer says, each of what is said about it alone. -/
structure Fills (l : Layer) (s : Settings) : Prop where
  rosterPath : l.optional .rosterPath RawValue.path? = some s.rosterPath
  manifestPath : l.optional .manifestPath RawValue.path? = some s.manifestPath
  seed : (l.optional .seed RawValue.word?).map (Option.map UInt64.ofNat) = some s.seed
  centurionThreshold :
    l.optional .centurionThreshold RawValue.word? = some s.centurionThreshold
  pretty : (l .pretty).bind RawValue.boolean? = some s.pretty

/-- The setting is all that tells the layers apart. -/
def AgreesOff (l : Layer) (t : Setting) (l' : Layer) : Prop := ∀ u, u ≠ t → l u = l' u

variable {l l' : Layer} {s s' : Settings} {t : Setting}

lemma fills_of_settings? (h : l.settings? = some s) : l.Fills s := by
  simp only [settings?, bind, pure, Option.bind_eq_some_iff, Option.some.injEq] at h
  obtain ⟨roster, hroster, manifest, hmanifest, seed, hseed, threshold, hthreshold, pretty, hpretty,
    rfl⟩ := h
  exact ⟨hroster, hmanifest, by rw [hseed]; rfl, hthreshold, Option.bind_eq_some_iff.mpr hpretty⟩

/-- A setting that may be absent has a value of its kind, unless the value stands for none. -/
lemma optional_of_eq_some {α : Type} {kind : RawValue → Option α} {a : Option α} {v : RawValue}
    (hv : l t = some v) (h : l.optional t kind = some a) :
    v = .notFinite ∧ a = none ∨ ∃ x, kind v = some x ∧ a = some x := by
  simp only [optional, hv] at h
  cases v with
  | notFinite => exact .inl ⟨rfl, (Option.some.inj h).symm⟩
  | _ =>
    obtain ⟨x, hx, rfl⟩ := Option.map_eq_some_iff.mp h
    exact .inr ⟨x, hx, rfl⟩

lemma optional_of_eq_none {α : Type} {kind : RawValue → Option α} {a : Option α} (hl : l t = none)
    (h : l.optional t kind = some a) : a = none := by
  simp only [optional, hl] at h
  exact (Option.some.inj h).symm

lemma optional_congr {α : Type} (kind : RawValue → Option α) (h : l t = l' t) :
    l.optional t kind = l'.optional t kind := by
  rw [optional, optional, h]

/-- What a layer says about a setting is what the setting is. -/
lemma has_of_settings? (h : l.settings? = some s) {v : RawValue} (hv : l t = some v) :
    s.Has t v := by
  have hfills := fills_of_settings? h
  cases t with
  | rosterPath =>
    rcases optional_of_eq_some hv hfills.rosterPath with ⟨rfl, hs⟩ | ⟨p, hp, hs⟩
    · exact .notFinite nofun (by simp [Settings.IsDefault, Settings.roster, hs])
    · obtain ⟨text, rfl, rfl⟩ := RawValue.path?_eq_some hp
      exact .rosterPath (by simp [Settings.roster, hs])
  | manifestPath =>
    rcases optional_of_eq_some hv hfills.manifestPath with ⟨rfl, hs⟩ | ⟨p, hp, hs⟩
    · exact .notFinite nofun (by simp [Settings.IsDefault, Settings.manifest, hs])
    · obtain ⟨text, rfl, rfl⟩ := RawValue.path?_eq_some hp
      exact .manifestPath (by simp [Settings.manifest, hs])
  | seed =>
    obtain ⟨a, hseed, ha⟩ := Option.map_eq_some_iff.mp hfills.seed
    rcases optional_of_eq_some hv hseed with ⟨rfl, rfl⟩ | ⟨n, hn, rfl⟩
    · exact .notFinite nofun ha.symm
    · obtain ⟨rfl, hlt⟩ := RawValue.word?_eq_some hn
      exact .seed hlt ha.symm
  | centurionThreshold =>
    rcases optional_of_eq_some hv hfills.centurionThreshold with ⟨rfl, hs⟩ | ⟨n, hn, hs⟩
    · exact .notFinite nofun
        (by simp [Settings.IsDefault, Settings.threshold, hs, Statistics.defaultThreshold])
    · obtain ⟨rfl, -⟩ := RawValue.word?_eq_some hn
      exact .centurionThreshold (by simp [Settings.threshold, hs])
  | pretty =>
    have hb := hfills.pretty
    rw [hv, Option.bind_some] at hb
    obtain rfl := RawValue.boolean?_eq_some hb
    exact .pretty rfl

/-- A setting of which a layer says nothing has its default. -/
lemma isDefault_of_settings? (h : l.settings? = some s) (hl : l t = none) : s.IsDefault t := by
  have hfills := fills_of_settings? h
  cases t with
  | rosterPath =>
    simp [Settings.IsDefault, Settings.roster, optional_of_eq_none hl hfills.rosterPath]
  | manifestPath =>
    simp [Settings.IsDefault, Settings.manifest, optional_of_eq_none hl hfills.manifestPath]
  | seed =>
    obtain ⟨a, hseed, ha⟩ := Option.map_eq_some_iff.mp hfills.seed
    obtain rfl := optional_of_eq_none hl hseed
    exact ha.symm
  | centurionThreshold =>
    simp [Settings.IsDefault, Settings.threshold,
      optional_of_eq_none hl hfills.centurionThreshold, Statistics.defaultThreshold]
  | pretty =>
    have hb := hfills.pretty
    rw [hl, Option.bind_none] at hb
    cases hb

/-- Layers that say the same about a setting lead to the same setting, whatever else they say. -/
lemma sameAt_of_settings? (h : l.settings? = some s) (h' : l'.settings? = some s')
    (hl : l t = l' t) : s.SameAt s' t := by
  have hfills := fills_of_settings? h
  have hfills' := fills_of_settings? h'
  cases t with
  | rosterPath =>
    have hs := hfills.rosterPath
    rw [optional_congr _ hl, hfills'.rosterPath, Option.some.injEq] at hs
    simp [Settings.SameAt, Settings.roster, hs]
  | manifestPath =>
    have hs := hfills.manifestPath
    rw [optional_congr _ hl, hfills'.manifestPath, Option.some.injEq] at hs
    simp [Settings.SameAt, Settings.manifest, hs]
  | seed =>
    have hs := hfills.seed
    rw [optional_congr _ hl, hfills'.seed, Option.some.injEq] at hs
    exact hs.symm
  | centurionThreshold =>
    have hs := hfills.centurionThreshold
    rw [optional_congr _ hl, hfills'.centurionThreshold, Option.some.injEq] at hs
    simp [Settings.SameAt, Settings.threshold, hs]
  | pretty =>
    have hs := hfills.pretty
    rw [hl, hfills'.pretty, Option.some.injEq] at hs
    simp [Settings.SameAt, Settings.layout, hs]

end Layer

end RoomDraw
