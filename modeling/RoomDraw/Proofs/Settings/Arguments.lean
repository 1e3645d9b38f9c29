import Mathlib.Tactic.SplitIfs
import RoomDraw.Settings.Arguments

/-!
# Settings on the command line

What a command line says about a setting is what its option was given, and nothing if the option is
not there. Only the flag is different: as soon as anything is given, its absence says something,
too.
-/

namespace RoomDraw

/-- The arguments that give a setting: its option and a value, or its flag. -/
def Setting.arguments (value : String) : Setting → List String
  | rosterPath => ["--roster-path", value]
  | manifestPath => ["--manifest-path", value]
  | seed => ["--seed", value]
  | centurionThreshold => ["--centurion-threshold", value]
  | pretty => ["--pretty"]

namespace CommandLine

variable {arguments : List String} {c c₀ c₁ c₂ c' : CommandLine} {t u : Setting} {p : Parameter}
  {value : String} {v : RawValue}

/-! ### What a command line says -/

/-- The command line leaves the setting to what is below it. -/
def Leaves (c : CommandLine) (t : Setting) : Prop :=
  c.get (.setting t) = none ∧ (t = .pretty → c.given = [])

lemma get_eq_none_of_given_eq_nil (h : c.given = []) (p : Parameter) : c.get p = none := by
  rw [get, h, List.lookup_nil]

lemma layer_of_ne_pretty (ht : t ≠ .pretty) : c.layer t = c.get (.setting t) := by
  unfold layer
  split_ifs with hgiven
  · exact (get_eq_none_of_given_eq_nil (List.isEmpty_iff.mp hgiven) _).symm
  · cases t with
    | pretty => exact (ht rfl).elim
    | _ => rfl

lemma layer_pretty (hgiven : c.given ≠ []) :
    c.layer .pretty = some ((c.get (.setting .pretty)).getD (.boolean false)) := by
  rw [layer, List.isEmpty_eq_false_iff.mpr hgiven]
  rfl

lemma layer_of_get_eq_some (h : c.get (.setting t) = some v) : c.layer t = some v := by
  by_cases ht : t = .pretty
  · subst ht
    have hgiven : c.given ≠ [] := by
      intro hgiven
      rw [get_eq_none_of_given_eq_nil hgiven] at h
      cases h
    rw [layer_pretty hgiven, h, Option.getD_some]
  · rw [layer_of_ne_pretty ht, h]

lemma layer_eq_none_iff : c.layer t = none ↔ c.Leaves t := by
  by_cases ht : t = .pretty
  · subst ht
    by_cases hgiven : c.given = []
    · simp [Leaves, hgiven, get_eq_none_of_given_eq_nil, layer]
    · simp [Leaves, hgiven, layer_pretty]
  · simp [Leaves, ht, layer_of_ne_pretty ht]

/-! ### Command lines that differ in one setting -/

/-- The setting is all that tells the command lines apart. -/
def AgreesOff (c : CommandLine) (t : Setting) (c' : CommandLine) : Prop :=
  ∀ p, p ≠ .setting t → c.get p = c'.get p

lemma AgreesOff.configPath?_eq (h : c.AgreesOff t c') : c.configPath? = c'.configPath? := by
  rw [configPath?, configPath?, h .configPath nofun]

/-- What is said about another setting stays the same, but for the flag where one of the command
lines gives nothing at all. -/
lemma AgreesOff.layer_eq (h : c.AgreesOff t c') (hu : u ≠ t)
    (hgiven : u = .pretty → (c.given = [] ↔ c'.given = [])) : c.layer u = c'.layer u := by
  have hget : c.get (.setting u) = c'.get (.setting u) :=
    h _ fun heq => hu (Parameter.setting.inj heq)
  by_cases hpretty : u = .pretty
  · subst hpretty
    by_cases hempty : c.given = []
    · rw [layer_eq_none_iff.mpr ⟨get_eq_none_of_given_eq_nil hempty _, fun _ => hempty⟩]
      have hempty' := (hgiven rfl).mp hempty
      rw [layer_eq_none_iff.mpr ⟨get_eq_none_of_given_eq_nil hempty' _, fun _ => hempty'⟩]
    · rw [layer_pretty hempty, layer_pretty fun hempty' => hempty ((hgiven rfl).mpr hempty'), hget]
  · rw [layer_of_ne_pretty hpretty, layer_of_ne_pretty hpretty, hget]

/-! ### A setting that is added -/

lemma take_eq_ok (h : c.take p value = .ok c') :
    ∃ v, p.value? value = some v ∧ c' = { c with given := (p, v) :: c.given } := by
  rw [take] at h
  split_ifs at h
  split at h
  · cases h
  · rename_i v hv
    exact ⟨v, hv, (Except.ok.inj h).symm⟩

/-- What has been settled is not pending any more. -/
lemma settle_eq_ok (h : c.settle = .ok c') : c'.pending = none ∧ c'.closed = c.closed := by
  rw [settle] at h
  split at h
  · rename_i hnone
    rw [← Except.ok.inj h]
    exact ⟨hnone, rfl⟩
  · cases h
  · obtain ⟨v, -, rfl⟩ := take_eq_ok h
    exact ⟨rfl, rfl⟩

lemma settle_of_pending_eq_none (h : c.pending = none) : c.settle = .ok c := by
  rw [settle, h]

/-- An option that has no value yet is settled before another is looked at. -/
lemma settle_of_pending (hpending : c.pending = some (p, none)) :
    c.settle = .error (.missingValue p) := by
  rw [settle, hpending]

/-! While an option that is to be settled cannot be, no other option is taken. -/

section

variable {e : ArgumentError}

lemma await_ne_ok (h : c.settle = .error e) (p : Parameter) : c.await p ≠ .ok c' := by
  simp only [await, h, bind, Except.bind]
  nofun

lemma takeWhole_ne_ok (h : c.settle = .error e) (p : Parameter) (text : String) :
    c.takeWhole p text ≠ .ok c' := by
  simp only [takeWhole, h, bind, Except.bind]
  nofun

lemma long_ne_ok (h : c.settle = .error e) (argument : String) (body : List Char) :
    c.long argument body ≠ .ok c' := by
  simp only [long]
  split
  · nofun
  · split_ifs
    · exact await_ne_ok h _
    · exact takeWhole_ne_ok h _ _
  · split_ifs
    · exact takeWhole_ne_ok h _ _
    · nofun

lemma short_ne_ok (h : c.settle = .error e) (argument : String) {letters : List Char}
    (hletters : letters ≠ []) : c.short argument letters ≠ .ok c' := by
  cases letters with
  | nil => exact (hletters rfl).elim
  | cons letter rest =>
    rw [short]
    split
    · nofun
    · split_ifs
      · split
        · exact await_ne_ok h _
        · exact takeWhole_ne_ok h _ _
        · exact takeWhole_ne_ok h _ _
      · simp only [takeWhole, h, bind, Except.bind]
        nofun

end

/-- While an option waits for its value, the next argument is its value, or it ends the options. -/
lemma next_of_pending (hopen : c.closed = false) (hpending : c.pending = some (p, none))
    (h : c.next value = .ok c') :
    c' = { c with pending := some (p, some value) } ∨ c' = { c with closed := true } := by
  have hsettle := settle_of_pending hpending
  have hpositional (h : c.positional value = .ok c') :
      c' = { c with pending := some (p, some value) } := by
    simp only [positional, hopen, hpending] at h
    rw [← Except.ok.inj h, hopen]
  simp only [next, hopen, Bool.false_eq_true, if_false] at h
  -- two dashes alone, more behind them, one dash alone, more behind it, and no dash at the front
  split at h
  · exact .inr (Except.ok.inj h).symm
  · exact (long_ne_ok hsettle _ _ h).elim
  · exact .inl (hpositional h)
  · rename_i hletters _
    exact (short_ne_ok hsettle _ (fun hnil => hletters (hnil ▸ rfl)) h).elim
  · exact .inl (hpositional h)

lemma given_of_takeWhole (h : c₀.takeWhole p value = .ok c') :
    c'.pending = none ∧
      ∃ c v, c₀.settle = .ok c ∧ p.value? value = some v ∧ c'.given = (p, v) :: c.given := by
  cases hsettle : c₀.settle with
  | error e => exact (takeWhole_ne_ok hsettle _ _ h).elim
  | ok c =>
    simp only [takeWhole, hsettle, bind, Except.bind] at h
    split_ifs at h
    obtain ⟨v, hv, rfl⟩ := take_eq_ok h
    exact ⟨(settle_eq_ok hsettle).1, c, v, rfl, hv, rfl⟩

/-- An option that waits for its value gets the next argument, or the command line is refused. -/
lemma given_of_await (hopen : c₀.closed = false) (hawait : c₀.await p = .ok c₁)
    (hnext : c₁.next value = .ok c₂) (hsettle' : c₂.settle = .ok c') :
    ∃ c v, c₀.settle = .ok c ∧ p.value? value = some v ∧ c'.given = (p, v) :: c.given := by
  cases hsettle : c₀.settle with
  | error e => exact (await_ne_ok hsettle _ hawait).elim
  | ok c =>
    simp only [await, hsettle, bind, Except.bind] at hawait
    obtain rfl := Except.ok.inj hawait
    have hopen' : c.closed = false := (settle_eq_ok hsettle).2.trans hopen
    rcases next_of_pending (c := { c with pending := some (p, none) }) hopen' rfl hnext with
      rfl | rfl
    · obtain ⟨v, hv, rfl⟩ := take_eq_ok hsettle'
      exact ⟨c, v, rfl, hv, rfl⟩
    · cases hsettle'

lemma foldlM_cons_eq_ok (h : (value :: arguments).foldlM next c = .ok c') :
    ∃ c₁, c.next value = .ok c₁ ∧ arguments.foldlM next c₁ = .ok c' := by
  rw [List.foldlM_cons] at h
  cases hnext : c.next value with
  | error e =>
    rw [hnext] at h
    cases h
  | ok c₁ =>
    rw [hnext] at h
    exact ⟨c₁, rfl, h⟩

lemma given_of_option {option : String} (hopen : c₀.closed = false)
    (hoption : c₀.next option = c₀.await p) (hfold : [option, value].foldlM next c₀ = .ok c₂)
    (hsettle : c₂.settle = .ok c') :
    ∃ c v, c₀.settle = .ok c ∧ p.value? value = some v ∧ c'.given = (p, v) :: c.given := by
  obtain ⟨c₁, hnext, hfold⟩ := foldlM_cons_eq_ok hfold
  obtain ⟨c₃, hnext', hlast⟩ := foldlM_cons_eq_ok hfold
  obtain rfl := Except.ok.inj hlast
  exact given_of_await hopen (hoption.symm.trans hnext) hnext' hsettle

/-- Arguments that give a setting are refused where no more options are to follow. -/
lemma open_of_arguments (h : (t.arguments value).foldlM next c₀ = .ok c₂) : c₀.closed = false := by
  rw [Bool.eq_false_iff]
  intro hclosed
  cases t <;> simp [Setting.arguments, next, positional, hclosed, bind, Except.bind] at h

lemma given_of_arguments (h : (t.arguments value).foldlM next c₀ = .ok c₂)
    (hsettle : c₂.settle = .ok c') :
    ∃ c v, c₀.settle = .ok c ∧ (Parameter.setting t).value? value = some v ∧
      c'.given = (.setting t, v) :: c.given := by
  have hopen := open_of_arguments h
  cases t with
  | pretty =>
    obtain ⟨c₁, hnext, hlast⟩ := foldlM_cons_eq_ok h
    obtain rfl := Except.ok.inj hlast
    have hflag : c₀.next "--pretty" = c₀.takeWhole (.setting .pretty) "" := by
      simp only [next, hopen]
      rfl
    obtain ⟨hpending, hgiven⟩ := given_of_takeWhole (hflag.symm.trans hnext)
    obtain rfl := Except.ok.inj ((settle_of_pending_eq_none hpending).symm.trans hsettle)
    exact hgiven
  | _ => exact given_of_option hopen (by simp only [next, hopen]; rfl) h hsettle

lemma read_eq_ok_iff : read arguments = .ok c ↔
    ∃ c₀, arguments.foldlM next empty = .ok c₀ ∧ c₀.settle = .ok c := by
  simp only [read, bind, Except.bind]
  cases arguments.foldlM next empty with
  | error e => simp
  | ok c₀ => simp

/-- Arguments that give a setting, behind others, give it the value that they spell, and have no
other part in what is given. -/
lemma given_of_added (h : read (arguments ++ t.arguments value) = .ok c') :
    ∃ c v, read arguments = .ok c ∧ (Parameter.setting t).value? value = some v ∧
      c'.given = (.setting t, v) :: c.given := by
  obtain ⟨c₂, hfold, hsettle'⟩ := read_eq_ok_iff.mp h
  rw [List.foldlM_append] at hfold
  cases hbefore : arguments.foldlM next empty with
  | error e =>
    rw [hbefore] at hfold
    cases hfold
  | ok c₀ =>
    rw [hbefore] at hfold
    -- meeting the option settles what is still pending, just as the end of the arguments would
    obtain ⟨c, v, hsettle, hgiven⟩ := given_of_arguments hfold hsettle'
    exact ⟨c, v, read_eq_ok_iff.mpr ⟨c₀, hbefore, hsettle⟩, hgiven⟩

lemma agreesOff_of_added (h : read arguments = .ok c)
    (h' : read (arguments ++ t.arguments value) = .ok c') : c.AgreesOff t c' ∧ c'.given ≠ [] := by
  obtain ⟨c₁, v, hread, -, hgiven⟩ := given_of_added h'
  obtain rfl := Except.ok.inj (h.symm.trans hread)
  refine ⟨fun p hp => ?_, by simp [hgiven]⟩
  rw [get, get, hgiven, List.lookup_cons, beq_eq_false_iff_ne.mpr hp]

/-- The setting that the last arguments give has the value that they spell. -/
lemma get_of_added (h : read (arguments ++ t.arguments value) = .ok c') :
    ∃ v, (Parameter.setting t).value? value = some v ∧ c'.get (.setting t) = some v := by
  obtain ⟨c, v, -, hv, hgiven⟩ := given_of_added h
  refine ⟨v, hv, ?_⟩
  rw [get, hgiven, List.lookup_cons_self]

end CommandLine

end RoomDraw
