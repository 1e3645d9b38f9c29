import RoomDraw.Proofs.Settings.Arguments
import RoomDraw.Proofs.Settings.Environment
import RoomDraw.Proofs.Settings.File
import RoomDraw.Proofs.Settings.Layer

/-!
# Which layer a setting is taken from

Each setting is taken from the highest layer that says something about it, whatever the layers say
about the others. So what is added or changed in one layer changes that setting only, and not even
that one if a higher layer gives it. The layout is the exception: once anything is given on the
command line, the absence of its flag counts, too, and what lower layers say of it is lost.
-/

namespace RoomDraw

open World

namespace Settings

variable {arguments : List String} {c c' : CommandLine} {e e' : Environment}
  {file file' : Layer} {w : World} {s s' : Settings} {t u : Setting} {v : RawValue}

/-! ### The stack of layers -/

/-- The layers of settings, the highest first. -/
def stack (c : CommandLine) (e : Environment) (file : Layer) : Layer :=
  c.layer.above (e.layer.above (file.above .defaults))

lemma stack_of_line (h : c.layer t = some v) : stack c e file t = some v := by
  rw [stack, Layer.above, h, Option.some_or]

lemma stack_of_leaves (h : c.Leaves t) :
    stack c e file t = (e.said t).getLast?.or ((file t).or (Layer.defaults t)) := by
  rw [stack, Layer.above, CommandLine.layer_eq_none_iff.mpr h, Option.none_or, Layer.above,
    Environment.layer_eq_getLast?, Layer.above]

/-- What a stack says about a setting depends on what its layers say about that setting. -/
lemma stack_congr (hline : c.layer t = c'.layer t) (henvironment : e.layer t = e'.layer t)
    (hfile : file t = file' t) : stack c e file t = stack c' e' file' t := by
  simp only [stack, Layer.above, hline, henvironment, hfile]

/-- A layer has no part in a stack where the command line hides it. -/
lemma stack_eq_of_line (hline : ¬c.Leaves t) (henvironment : e.layer.AgreesOff t e'.layer)
    (hfile : file.AgreesOff t file') : stack c e file = stack c e' file' := by
  obtain ⟨v, hv⟩ := Option.ne_none_iff_exists'.mp (mt CommandLine.layer_eq_none_iff.mp hline)
  funext u
  by_cases hu : u = t
  · rw [hu, stack_of_line hv, stack_of_line hv]
  · exact stack_congr rfl (henvironment u hu) (hfile u hu)

/-- A file has no part in a stack where the environment hides it. -/
lemma stack_eq_of_environment (henvironment : e.said t ≠ []) (hfile : file.AgreesOff t file') :
    stack c e file = stack c e file' := by
  obtain ⟨v, hv⟩ := Option.ne_none_iff_exists'.mp (mt List.getLast?_eq_none_iff.mp henvironment)
  funext u
  by_cases hu : u = t
  · simp only [hu, stack, Layer.above, Environment.layer_eq_getLast?, hv, Option.some_or]
  · exact stack_congr rfl rfl (hfile u hu)

/-! ### Loading -/

/-- The file of settings that a command line names. -/
def named (c : CommandLine) : Option Path := c.configPath?.map Path.ofString

/-- What loading gives once the command line has been read and the files have been looked for. -/
def outcome (errors : List SettingsError) : Option Settings → Except (List SettingsError) Settings
  | some s => if errors.isEmpty then .ok s else .error errors
  | none => .error (errors ++ [.merge])

lemma load_of_read {errors : List SettingsError} {w₁ : World}
    (hline : CommandLine.read arguments = .ok c)
    (hfile : fileLayer host (named c) e w = ((errors, file), w₁)) :
    load host arguments e w = (outcome errors (stack c e file).settings?, w₁) := by
  rw [named] at hfile
  simp only [load, hline, bind, StateT.bind, hfile, List.nil_append, stack]
  cases errors <;> cases (c.layer.above (e.layer.above (file.above .defaults))).settings? <;> rfl

lemma outcome_eq_ok_iff {errors : List SettingsError} {found : Option Settings} :
    outcome errors found = .ok s ↔ errors = [] ∧ found = some s := by
  cases found with
  | none => simp [outcome]
  | some s' => cases errors <;> simp [outcome]

/-- A command line that cannot be read leads to no settings. -/
lemma read_of_load (h : (load host arguments e w).1 = .ok s) :
    ∃ c, CommandLine.read arguments = .ok c := by
  rcases hline : CommandLine.read arguments with error | c
  · rcases hfile : fileLayer host none e w with ⟨⟨errors, file⟩, w₁⟩
    simp only [load, hline, bind, StateT.bind, hfile, List.cons_append] at h
    cases hfound : (Layer.empty.above (e.layer.above (file.above .defaults))).settings? <;>
      rw [hfound] at h <;> cases h
  · exact ⟨c, rfl⟩

/-- Loading succeeds when the command line can be read, no file that was looked at is faulty unless
another can be used, and the values that count are of the right kind. -/
lemma load_eq_ok_iff : (load host arguments e w).1 = .ok s ↔
    ∃ c file, CommandLine.read arguments = .ok c ∧
      (fileLayer host (named c) e w).1 = ([], file) ∧ (stack c e file).settings? = some s := by
  constructor
  · intro h
    obtain ⟨c, hline⟩ := read_of_load h
    rcases hfile : fileLayer host (named c) e w with ⟨⟨errors, file⟩, w₁⟩
    rw [load_of_read hline hfile, outcome_eq_ok_iff] at h
    obtain ⟨rfl, hsettings⟩ := h
    exact ⟨c, file, hline, congrArg Prod.fst hfile, hsettings⟩
  · rintro ⟨c, file, hline, hfile, hsettings⟩
    rw [load_of_read hline (Prod.ext hfile rfl), outcome_eq_ok_iff]
    exact ⟨rfl, hsettings⟩

/-- Variables for settings do not change which file is found. -/
lemma fileLayer_of_agreesOff (h : e.AgreesOff t e') (path : Option Path) :
    fileLayer host path e' w = fileLayer host path e w := by
  simp only [fileLayer, h.candidates_eq]

/-! ### Settings and their layers -/

/-- Each setting is taken from the highest layer that says something about it. -/
structure Layered (arguments : List String) (c : CommandLine) (e : Environment) (file : Layer)
    (s : Settings) : Prop where
  of_line : ∀ t v, c.get (.setting t) = some v → s.Has t v
  of_option : ∀ before t value, arguments = before ++ t.arguments value →
    ∃ v, (Parameter.setting t).value? value = some v ∧ s.Has t v
  /-- Once anything is given on the command line, the absence of the flag counts, too. -/
  unflagged : c.given ≠ [] → c.get (.setting .pretty) = none → s.layout = .compact
  of_environment : ∀ t v, c.Leaves t → (e.said t).getLast? = some v → s.Has t v
  of_variable : ∀ before t value after, c.Leaves t →
    e = before ++ (t.variableName, value) :: after → Environment.said after t = [] →
    s.Has t (Literal.read value)
  of_file : ∀ t v, c.Leaves t → e.said t = [] → file t = some v → s.Has t v
  of_default : ∀ t, c.Leaves t → e.said t = [] → file t = none → s.IsDefault t

lemma has_of_line (h : (stack c e file).settings? = some s) (hv : c.get (.setting t) = some v) :
    s.Has t v :=
  Layer.has_of_settings? h (stack_of_line (CommandLine.layer_of_get_eq_some hv))

lemma has_of_environment (h : (stack c e file).settings? = some s) (hline : c.Leaves t)
    (hv : (e.said t).getLast? = some v) : s.Has t v := by
  refine Layer.has_of_settings? h ?_
  rw [stack_of_leaves hline, hv, Option.some_or]

lemma layered_of_settings? (hline : CommandLine.read arguments = .ok c)
    (h : (stack c e file).settings? = some s) : Layered arguments c e file s where
  of_line t v hv := has_of_line h hv
  of_option before t value hadded := by
    rw [hadded] at hline
    obtain ⟨v, hv, hget⟩ := CommandLine.get_of_added hline
    exact ⟨v, hv, has_of_line h hget⟩
  unflagged hgiven hflag := by
    have hlayer : c.layer .pretty = some (.boolean false) := by
      rw [CommandLine.layer_pretty hgiven, hflag, Option.getD_none]
    cases Layer.has_of_settings? h (stack_of_line hlayer) with
    | pretty hlayout => exact hlayout
  of_environment t v hleaves hv := has_of_environment h hleaves hv
  of_variable before t value after hleaves he hsaid := by
    rw [he] at h
    exact has_of_environment h hleaves (Environment.getLast?_said hsaid)
  of_file t v hleaves hsaid hv := by
    refine Layer.has_of_settings? h ?_
    rw [stack_of_leaves hleaves, hsaid, hv]
    rfl
  of_default t hleaves hsaid hfile := by
    have hstack : stack c e file t = Layer.defaults t := by
      rw [stack_of_leaves hleaves, hsaid, hfile]
      rfl
    -- the layout has a default in the lowest layer, the others have theirs when they are read
    cases t with
    | pretty =>
      cases Layer.has_of_settings? h hstack with
      | pretty hlayout => exact hlayout
    | _ => exact Layer.isDefault_of_settings? h hstack

/-- What is added or changed in one layer about one setting has no part in the others, and none at
all behind a higher layer. -/
structure Separate (arguments : List String) (e : Environment) (w : World) (c : CommandLine)
    (file : Layer) (s : Settings) : Prop where
  /-- Only the layout may change with another setting, where one command line gives nothing. -/
  sameAt_of_line : ∀ arguments' c' t s', CommandLine.read arguments' = .ok c' → c.AgreesOff t c' →
    (load host arguments' e w).1 = .ok s' →
    ∀ u, u ≠ t → (u = .pretty → (c.given = [] ↔ c'.given = [])) → s.SameAt s' u
  sameAt_of_added : ∀ t value s', (load host (arguments ++ t.arguments value) e w).1 = .ok s' →
    ∀ u, u ≠ t → (u = .pretty → c.given ≠ []) → s.SameAt s' u
  sameAt_of_environment : ∀ e' t s', e.AgreesOff t e' → (load host arguments e' w).1 = .ok s' →
    ∀ u, u ≠ t → s.SameAt s' u
  /-- Behind the command line a variable does not even decide whether there is an error. -/
  load_eq_of_environment : ∀ e' t, e.AgreesOff t e' → ¬c.Leaves t →
    load host arguments e' w = load host arguments e w
  sameAt_of_file : ∀ w' file' t s', (fileLayer host (named c) e w').1 = ([], file') →
    file.AgreesOff t file' → (load host arguments e w').1 = .ok s' →
    ∀ u, u ≠ t → s.SameAt s' u
  load_eq_of_file : ∀ w' file' t, (fileLayer host (named c) e w').1 = ([], file') →
    file.AgreesOff t file' → ¬c.Leaves t ∨ e.said t ≠ [] → (load host arguments e w').1 = .ok s

/-- Where two stacks say the same about a setting, it is the same however it is loaded. -/
lemma sameAt_of_load {arguments' : List String} {w' : World}
    (hsettings : (stack c e file).settings? = some s)
    (hline' : CommandLine.read arguments' = .ok c')
    (hfile' : (fileLayer host (named c') e' w').1 = ([], file'))
    (h' : (load host arguments' e' w').1 = .ok s')
    (hstack : stack c e file u = stack c' e' file' u) : s.SameAt s' u := by
  obtain ⟨c₁, file₁, hline₁, hfile₁, hsettings₁⟩ := load_eq_ok_iff.mp h'
  obtain rfl := Except.ok.inj (hline'.symm.trans hline₁)
  obtain rfl := (Prod.mk.inj (hfile'.symm.trans hfile₁)).2
  exact Layer.sameAt_of_settings? hsettings hsettings₁ hstack

lemma sameAt_of_agreesOff {arguments' : List String}
    (hfile : (fileLayer host (named c) e w).1 = ([], file))
    (hsettings : (stack c e file).settings? = some s)
    (hline' : CommandLine.read arguments' = .ok c') (hagrees : c.AgreesOff t c')
    (h' : (load host arguments' e w).1 = .ok s') (hu : u ≠ t)
    (hgiven : u = .pretty → (c.given = [] ↔ c'.given = [])) : s.SameAt s' u := by
  have hnamed : named c = named c' := by rw [named, named, hagrees.configPath?_eq]
  exact sameAt_of_load hsettings hline' (hnamed ▸ hfile) h'
    (stack_congr (hagrees.layer_eq hu hgiven) rfl rfl)

lemma separate_of_load (hline : CommandLine.read arguments = .ok c)
    (hfile : (fileLayer host (named c) e w).1 = ([], file))
    (hsettings : (stack c e file).settings? = some s) : Separate arguments e w c file s where
  sameAt_of_line _ _ _ _ hline' hagrees h' _ hu hgiven :=
    sameAt_of_agreesOff hfile hsettings hline' hagrees h' hu hgiven
  sameAt_of_added t value s' h' u hu hgiven := by
    obtain ⟨c', hline'⟩ := read_of_load h'
    obtain ⟨hagrees, hgiven'⟩ := CommandLine.agreesOff_of_added hline hline'
    exact sameAt_of_agreesOff hfile hsettings hline' hagrees h' hu
      fun hpretty => iff_of_false (hgiven hpretty) hgiven'
  sameAt_of_environment e' t s' hagrees h' u hu :=
    sameAt_of_load hsettings hline ((fileLayer_of_agreesOff hagrees _).symm ▸ hfile) h'
      (stack_congr rfl (hagrees.layer u hu) rfl)
  load_eq_of_environment e' t hagrees hhidden := by
    rcases hfound : fileLayer host (named c) e w with ⟨⟨errors, file₁⟩, w₁⟩
    rw [load_of_read hline hfound,
      load_of_read hline ((fileLayer_of_agreesOff hagrees _).trans hfound),
      stack_eq_of_line hhidden hagrees.layer fun _ _ => rfl]
  sameAt_of_file w' file' t s' hfile' hagrees h' u hu :=
    sameAt_of_load hsettings hline hfile' h' (stack_congr rfl rfl (hagrees u hu))
  load_eq_of_file w' file' t hfile' hagrees hhidden := by
    have hstack : stack c e file = stack c e file' := by
      rcases hhidden with hhidden | hhidden
      · exact stack_eq_of_line hhidden (fun _ _ => rfl) hagrees
      · exact stack_eq_of_environment hhidden hagrees
    exact load_eq_ok_iff.mpr ⟨c, file', hline, hfile', hstack ▸ hsettings⟩

/-- Settings that are loaded come of the layers of a command line, an environment and a file, each
from the highest that says something about it; and each layer has its say about each setting apart
from the others. -/
theorem load_takes_highest_layer (h : (load host arguments e w).1 = .ok s) :
    ∃ c file, CommandLine.read arguments = .ok c ∧
      (fileLayer host (named c) e w).1 = ([], file) ∧
      SettingsFile.Found w.disk w.here (places (named c) e (pathOf w.here)) file ∧
      Layered arguments c e file s ∧ Separate arguments e w c file s := by
  obtain ⟨c, file, hline, hfile, hsettings⟩ := load_eq_ok_iff.mp h
  exact ⟨c, file, hline, hfile, found_of_fileLayer hfile,
    layered_of_settings? hline hsettings, separate_of_load hline hfile hsettings⟩

end Settings

/-! ### A file in the working directory -/

lemma Literal.read_six : Literal.read "6" = .integer 6 := by
  have hvalue : Literal.value 2 2 ['6'] = some (.integer 6, []) := by
    rw [Literal.value]
    rfl
  rw [Literal.read, show Literal.trim "6".toList = ['6'] from rfl]
  simp only [List.length_cons, List.length_nil, hvalue]
  rfl

namespace Toml

lemma value_five (edition : Edition) :
    value edition 10 edition.limit ['5', '\n'] = some (.integer 5, ['\n']) := by
  rw [value]
  · cases edition <;> rfl
  all_goals simp

lemma read_seed (edition : Edition) :
    read edition "seed = 5\n" = some [("seed", .value (.integer 5))] := by
  have hkey : key edition 10 edition.limit "seed = 5\n".toList =
      some (([], "seed"), "= 5\n".toList) := by
    cases edition <;> rfl
  have hstatement : statement edition 10 ⟨[], []⟩ "seed = 5\n".toList =
      some (⟨[("seed", .value (.integer 5))], []⟩, []) := by
    change (key edition 10 edition.limit "seed = 5\n".toList).bind _ = _
    rw [hkey]
    change (value edition 10 edition.limit ['5', '\n']).bind _ = _
    rw [value_five]
    rfl
  change (statement edition 10 ⟨[], []⟩ "seed = 5\n".toList).bind _ = _
  rw [hstatement]
  rfl

end Toml

namespace Settings

/-- A world with a file of settings in the working directory. -/
def seeded : World :=
  .ofDisk ⟨[([Utf8.encode ".room_seed.toml"], .file (Utf8.encode "seed = 5\n"))]⟩ []

lemma fileLayer_seeded {e : Environment}
    (he : candidates none e (pathOf []) = [.ofString "/.room_seed.toml"]) :
    (fileLayer host none e seeded).1 = ([], .ofTable [("seed", .value (.integer 5))]) := by
  have htable : SettingsFile.table (.ofString "/.room_seed.toml") (Utf8.encode "seed = 5\n") =
      .ok [("seed", .value (.integer 5))] := by
    have hform : SettingsFile.isOtherForm (.ofString "/.room_seed.toml") = false := by
      decide +kernel
    rw [SettingsFile.table, hform, show Utf8.decode? (Utf8.encode "seed = 5\n") =
      some "seed = 5\n" from rfl]
    simp only [Toml.read_seed]
    rfl
  have hlayer : SettingsFile.layer host SettingsFile.chainLimit [] (.ofString "/.room_seed.toml")
      (Utf8.encode "seed = 5\n") seeded =
        (.ok (.ofTable [("seed", .value (.integer 5))]), seeded) := by
    rw [show SettingsFile.chainLimit = 65535 + 1 from rfl, SettingsFile.layer]
    simp only [htable]
    rfl
  have hload : SettingsFile.load? host (.ofString "/.room_seed.toml") seeded =
      (some (.ok (.ofTable [("seed", .value (.integer 5))])), seeded) := by
    have hfound : host.settingsFile (.ofString "/.room_seed.toml") seeded =
        (.contents (.ofString "/.room_seed.toml") (Utf8.encode "seed = 5\n"), seeded) := rfl
    simp only [SettingsFile.load?, bind, StateT.bind, hfound, hlayer]
    rfl
  change (discover host (candidates none e (pathOf [])) [] seeded).1 = _
  rw [he]
  simp only [discover, bind, StateT.bind, hload]
  rfl

/-- The path is from the command line, the threshold from the environment, and the seed from the
file. The layout of the environment is lost behind the path, and a path that is added to the
environment makes no difference. -/
theorem load_takes_highest_layer_of_seeded :
    let e : Environment := [("ROOM_SEED_CENTURION_THRESHOLD", "6"), ("ROOM_SEED_PRETTY", "true")]
    let arguments := ["--roster-path", "staff.csv"]
    ∃ s, (load host arguments e seeded).1 = .ok s ∧ s.roster = .ofString "staff.csv" ∧
      s.manifest = .ofString "rooms.json" ∧ s.seed = some 5 ∧ s.threshold = 6 ∧
      s.layout = .compact ∧
      load host arguments (("ROOM_SEED_ROSTER_PATH", "env.csv") :: e) seeded =
        load host arguments e seeded := by
  intro e arguments
  let line : CommandLine := ⟨[(.setting .rosterPath, .text "staff.csv")], none, false⟩
  let table : Toml.Table := [("seed", .value (.integer 5))]
  have hline : CommandLine.read arguments = .ok line := rfl
  have hfile : (fileLayer host (named line) e seeded).1 = ([], .ofTable table) :=
    fileLayer_seeded rfl
  have hthreshold : stack line e (.ofTable table) .centurionThreshold = some (.integer 6) := by
    rw [← Literal.read_six]
    rfl
  have hsettings : (stack line e (.ofTable table)).settings? =
      some ⟨some (.ofString "staff.csv"), none, some 5, some 6, false⟩ := by
    simp only [Layer.settings?, Layer.optional, hthreshold]
    rfl
  have h := load_eq_ok_iff.mpr ⟨line, _, hline, hfile, hsettings⟩
  obtain ⟨c, file, hline', hfile', -, hlayered, hseparate⟩ := load_takes_highest_layer h
  obtain rfl := Except.ok.inj (hline.symm.trans hline')
  obtain rfl := (Prod.mk.inj (hfile.symm.trans hfile')).2
  have hleaves : ∀ t, t ≠ .rosterPath → t ≠ .pretty → line.Leaves t := by
    intro t hroster hpretty
    cases t with
    | rosterPath => exact (hroster rfl).elim
    | pretty => exact (hpretty rfl).elim
    | _ => exact ⟨rfl, fun heq => (hpretty heq).elim⟩
  refine ⟨_, h, ?_, ?_, ?_, ?_, ?_, ?_⟩
  · cases hlayered.of_line .rosterPath _ rfl with
    | rosterPath hroster => exact hroster
  · exact hlayered.of_default .manifestPath (hleaves _ (by decide) (by decide)) rfl rfl
  · cases hlayered.of_file .seed (.integer 5) (hleaves _ (by decide) (by decide)) rfl rfl with
    | seed hlt hseed => exact hseed
  · have hhas := hlayered.of_variable [] .centurionThreshold "6" _
      (hleaves _ (by decide) (by decide)) rfl rfl
    rw [Literal.read_six] at hhas
    cases hhas with
    | centurionThreshold hthreshold => exact hthreshold
  · exact hlayered.unflagged (List.cons_ne_nil _ _) rfl
  · exact hseparate.load_eq_of_environment _ .rosterPath rfl fun hroster => by cases hroster.1

/-- A seed on the command line takes away the layout that the environment sets. -/
theorem layout_lost_behind_seed :
    let e : Environment := [("ROOM_SEED_PRETTY", "true")]
    let w : World := .ofDisk ⟨[]⟩ []
    ∃ c s s', CommandLine.read ["--seed", "7"] = .ok c ∧ c.get (.setting .pretty) = none ∧
      (e.said .pretty).getLast? = some (.boolean true) ∧
      (load host [] e w).1 = .ok s ∧ s.layout = .pretty ∧
      (load host ["--seed", "7"] e w).1 = .ok s' ∧ s'.layout = .compact ∧
      ¬s'.Has .pretty (.boolean true) := by
  refine ⟨⟨[(.setting .seed, .integer 7)], none, false⟩, ⟨none, none, none, none, true⟩,
    ⟨none, none, some 7, none, false⟩, rfl, rfl, rfl, rfl, rfl, rfl, rfl, ?_⟩
  rintro (_ | _ | _ | _ | hlayout)
  cases hlayout

end Settings

end RoomDraw
