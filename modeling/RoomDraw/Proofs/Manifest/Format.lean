import RoomDraw.Manifest.Reader
import RoomDraw.Proofs.Json.Decision
import RoomDraw.Proofs.Json.Soundness

/-!
# What is read as a manifest

A manifest is told here as a form of a JSON value, without regard to how one is read: fields may be
named, each exactly once and among any other members, or stand in their order in an array. A text is
read as a manifest if it is JSON and its value has this form, and in no other case.
-/

namespace RoomDraw

open Json

/-- The value of a key that an object has exactly once. -/
def Json.Tree.only? (key : String) (members : List (String × Json.Tree String)) :
    Option (Json.Tree String) :=
  match members.filter (·.1 == key) with
  | [(_, t)] => some t
  | _ => none

namespace Manifest

/-- The entry that a value stands for. -/
def entryOf? : Json.Tree String → Option CreationEntry
  | .object ms => do
    let creator ← (← Json.Tree.only? "creator" ms).string?
    let name ← (← Json.Tree.only? "name" ms).string?
    let users ← (← Json.Tree.only? "users" ms).list? Json.Tree.string?
    return ⟨creator, name, users⟩
  | .array [creator, name, users] => do
    return ⟨← creator.string?, ← name.string?, ← users.list? Json.Tree.string?⟩
  | _ => none

/-- The manifest that a value stands for. -/
def manifestOf? : Json.Tree String → Option Manifest
  | .object ms => do return ⟨← (← Json.Tree.only? "creators" ms).list? entryOf?⟩
  | .array [creators] => do return ⟨← creators.list? entryOf?⟩
  | _ => none

/-! ### Fields that are filled in once -/

section

variable {β : Type}

/-- What a field holds after members of an object, if it held `given` before them: it is filled in
once, by a member of its key. -/
def settled (dec : Json.Tree String → Option β) (key : String) (given : Option β)
    (members : List (String × Json.Tree String)) : Option β :=
  match given, members.filter (·.1 == key) with
  | some b, [] => some b
  | none, [(_, t)] => dec t
  | _, _ => none

variable {dec : Json.Tree String → Option β} {key : String}

lemma settled_cons_of_ne {key' : String} (h : key' ≠ key) (given : Option β) (t : Json.Tree String)
    (ms : List (String × Json.Tree String)) :
    settled dec key given ((key', t) :: ms) = settled dec key given ms := by
  simp [settled, h]

lemma settled_cons (given : Option β) (t : Json.Tree String)
    (ms : List (String × Json.Tree String)) :
    settled dec key given ((key, t) :: ms) =
      if given.isSome then none else (do settled dec key (some (← dec t)) ms) := by
  cases given with
  | some b => simp [settled]
  | none =>
    cases hdec : dec t <;> cases hfilter : ms.filter (·.1 == key) <;>
      simp [settled, hdec, hfilter]

lemma settled_none (ms : List (String × Json.Tree String)) :
    settled dec key none ms = (do dec (← Json.Tree.only? key ms)) := by
  unfold settled Json.Tree.only?
  split <;> simp_all

end

/-! ### Entries -/

/-- What a value makes of the field of a name. -/
def EntryDraft.put (field : String) (d : EntryDraft) (t : Json.Tree String) : Option EntryDraft :=
  if field = "creator" then t.string?.map fun text => { d with creator := some text }
  else if field = "name" then t.string?.map fun text => { d with name := some text }
  else (t.list? Json.Tree.string?).map fun users => { d with users := some users }

lemma absorbed_entry (bound : Nat) (ms : List (String × Json.Tree String)) (d : EntryDraft) :
    absorbed EntryDraft.put (EntryDraft.fields bound) ms d = do
      let creator ← settled Json.Tree.string? "creator" d.creator ms
      let name ← settled Json.Tree.string? "name" d.name ms
      let users ← settled (Json.Tree.list? Json.Tree.string?) "users" d.users ms
      return ⟨some creator, some name, some users⟩ := by
  induction ms generalizing d with
  | nil =>
    obtain ⟨creator, name, users⟩ := d
    cases creator <;> cases name <;> cases users <;> rfl
  | cons m ms ih =>
    obtain ⟨key, t⟩ := m
    rw [absorbed]
    by_cases hcreator : key = "creator"
    · subst hcreator
      change (if d.creator.isSome = true then none else
        (t.string?.map fun text => { d with creator := some text }) >>=
          absorbed EntryDraft.put (EntryDraft.fields bound) ms) = _
      rcases d with ⟨_ | creator, name, users⟩
      · cases ht : t.string? <;> simp [settled_cons, settled_cons_of_ne, ht, ih]
      · simp [settled_cons]
    by_cases hname : key = "name"
    · subst hname
      change (if d.name.isSome = true then none else
        (t.string?.map fun text => { d with name := some text }) >>=
          absorbed EntryDraft.put (EntryDraft.fields bound) ms) = _
      rcases d with ⟨creator, _ | name, users⟩
      · cases ht : t.string? <;> simp [settled_cons, settled_cons_of_ne, ht, ih]
      · simp [settled_cons]
    by_cases husers : key = "users"
    · subst husers
      change (if d.users.isSome = true then none else
        ((t.list? Json.Tree.string?).map fun users => { d with users := some users }) >>=
          absorbed EntryDraft.put (EntryDraft.fields bound) ms) = _
      rcases d with ⟨creator, name, _ | users⟩
      · cases ht : t.list? Json.Tree.string? <;> simp [settled_cons, settled_cons_of_ne, ht, ih]
      · simp [settled_cons]
    · have hfind : (EntryDraft.fields bound).find? (·.name == key) = none := by
        simp [EntryDraft.fields, Ne.symm hcreator, Ne.symm hname, Ne.symm husers]
      rw [hfind, settled_cons_of_ne hcreator, settled_cons_of_ne hname, settled_cons_of_ne husers]
      exact ih d

lemma fillable_entry (bound : Nat) : Fillable bound EntryDraft.put (EntryDraft.fields bound) := by
  have hstring := decides_text bound "a string"
  intro field hfield d
  simp only [EntryDraft.fields, List.mem_cons, List.not_mem_nil, or_false] at hfield
  rcases hfield with rfl | rfl | rfl
  · exact hstring.map fun text => ({ d with creator := some text } : EntryDraft)
  · exact hstring.map fun text => ({ d with name := some text } : EntryDraft)
  · exact (decides_array hstring).map fun users => ({ d with users := some users } : EntryDraft)

/-- The draft of an entry that a value makes is that of the entry that it stands for. -/
lemma entryOf?_eq (bound : Nat) (t : Json.Tree String) :
    entryOf? t =
      (t.record? EntryDraft.put (EntryDraft.fields bound) .blank).map EntryDraft.entry := by
  cases t with
  | array ts =>
    rw [Json.Tree.record?]
    match ts with
    | [creator, name, users] =>
      cases hcreator : creator.string? <;> cases hname : name.string? <;>
        cases husers : users.list? Json.Tree.string? <;>
        simp [entryOf?, placed, EntryDraft.fields, EntryDraft.put, EntryDraft.entry, hcreator,
          hname, husers]
    | [] | [_] | [_, _] | _ :: _ :: _ :: _ :: _ =>
      rw [placed_eq_none (by simp [EntryDraft.fields])]
      rfl
  | object ms =>
    have hentry : entryOf? (.object ms) = (do
        let creator ← settled Json.Tree.string? "creator" none ms
        let name ← settled Json.Tree.string? "name" none ms
        let users ← settled (Json.Tree.list? Json.Tree.string?) "users" none ms
        return ⟨creator, name, users⟩) := by
      simp [entryOf?, settled_none, Option.bind_assoc]
    rw [hentry, Json.Tree.record?, absorbed_entry, EntryDraft.blank]
    cases settled Json.Tree.string? "creator" none ms <;>
      cases settled Json.Tree.string? "name" none ms <;>
      cases settled (Json.Tree.list? Json.Tree.string?) "users" none ms <;> rfl
  | null | boolean | number | text => rfl

lemma decides_readEntry (bound : Nat) : DecidesBelow bound (readEntry bound) entryOf? := by
  have hentry : entryOf? = fun t =>
      (t.record? EntryDraft.put (EntryDraft.fields bound) .blank).map EntryDraft.entry :=
    funext (entryOf?_eq bound)
  rw [hentry]
  exact (decides_record "struct CreationEntry" (fillable_entry bound) .blank).map EntryDraft.entry

/-! ### Manifests -/

/-- What a value makes of the only field. -/
def Draft.put (_ : String) (_ : Draft) (t : Json.Tree String) : Option Draft :=
  (t.list? entryOf?).map some

lemma fillable_manifest (bound : Nat) : Fillable bound Draft.put (fields bound) := by
  intro field hfield d
  obtain rfl := List.mem_singleton.mp hfield
  exact (decides_array (decides_readEntry bound)).map fun entries => (some entries : Draft)

lemma absorbed_manifest (bound : Nat) (ms : List (String × Json.Tree String)) (d : Draft) :
    absorbed Draft.put (fields bound) ms d =
      (do return some (← settled (Json.Tree.list? entryOf?) "creators" d ms)) := by
  induction ms generalizing d with
  | nil => cases d <;> rfl
  | cons m ms ih =>
    obtain ⟨key, t⟩ := m
    rw [absorbed]
    by_cases hkey : key = "creators"
    · subst hkey
      change (if d.isSome = true then none else
        ((t.list? entryOf?).map some) >>= absorbed Draft.put (fields bound) ms) = _
      cases d with
      | some entries => simp [settled_cons]
      | none => cases ht : t.list? entryOf? <;> simp [settled_cons, ht, ih]
    · have hfind : (fields bound).find? (·.name == key) = none := by
        simp [fields, Ne.symm hkey]
      rw [hfind, settled_cons_of_ne hkey]
      exact ih d

lemma manifestOf?_eq (bound : Nat) (t : Json.Tree String) :
    manifestOf? t = (t.record? Draft.put (fields bound) none).map fun d => ⟨d.getD []⟩ := by
  cases t with
  | array ts =>
    rw [Json.Tree.record?]
    match ts with
    | [creators] =>
      cases hcreators : creators.list? entryOf? <;>
        simp [manifestOf?, placed, fields, Draft.put, hcreators]
    | [] | _ :: _ :: _ =>
      rw [placed_eq_none (by simp [fields])]
      rfl
  | object ms =>
    have hmanifest : manifestOf? (.object ms) =
        (do return ⟨← settled (Json.Tree.list? entryOf?) "creators" none ms⟩) := by
      simp [manifestOf?, settled_none, Option.bind_assoc]
    rw [hmanifest, Json.Tree.record?, absorbed_manifest]
    cases settled (Json.Tree.list? entryOf?) "creators" none ms <;> rfl
  | null | boolean | number | text => rfl

lemma decides_read (bound : Nat) : DecidesBelow bound (read bound) manifestOf? := by
  have hmanifest : manifestOf? = fun t =>
      (t.record? Draft.put (fields bound) none).map fun d => Manifest.mk (d.getD []) :=
    funext (manifestOf?_eq bound)
  rw [hmanifest]
  exact (decides_record "struct Manifest" (fillable_manifest bound) none).map
    fun d : Draft => Manifest.mk (d.getD [])

/-! ### Whole texts -/

lemma takes_readEntry (bound : Nat) : Takes (readEntry bound) := by
  have hstring := takes_text "a string"
  refine (takes_record fun field hfield d => ?_).map EntryDraft.entry
  simp only [EntryDraft.fields, List.mem_cons, List.not_mem_nil, or_false] at hfield
  rcases hfield with rfl | rfl | rfl
  · exact hstring.map fun text => ({ d with creator := some text } : EntryDraft)
  · exact hstring.map fun text => ({ d with name := some text } : EntryDraft)
  · exact (takes_array hstring bound).map fun users => ({ d with users := some users } : EntryDraft)

lemma takes_read (bound : Nat) : Takes (read bound) := by
  refine (takes_record fun field hfield d => ?_).map fun d : Draft => Manifest.mk (d.getD [])
  obtain rfl := List.mem_singleton.mp hfield
  exact (takes_array (takes_readEntry bound) bound).map fun entries => (some entries : Draft)

/-- A text that is no JSON is rejected, and every text of a JSON value is read as the manifest that
the value stands for, or rejected if it stands for none. -/
theorem ofJson_accepts_exactly_manifests :
    (∀ text : String, (∀ t, ¬DocumentText Verbatim t text.toList) → ∃ e, ofJson text = .error e) ∧
    ∀ (t : Json.Tree String) (text : String), DocumentText Spelled t text.toList →
      ∀ m, ofJson text = .ok m ↔ manifestOf? t = some m := by
  constructor
  · intro text hnone
    rw [ofJson]
    cases hdocument : document read text with
    | ok m =>
      obtain ⟨t, ht⟩ := documentText_of_document takes_read hdocument
      exact absurd ht (hnone t)
    | error f => exact ⟨_, rfl⟩
  · intro t text h m
    have hanswer := answers_document decides_read h
    rw [ofJson]
    cases hdocument : document read text with
    | error f =>
      rw [hdocument] at hanswer
      cases hmanifest : manifestOf? t <;> rw [hmanifest] at hanswer <;> cases hanswer
      simp
    | ok found =>
      rw [hdocument] at hanswer
      cases hmanifest : manifestOf? t <;> rw [hmanifest] at hanswer <;> cases hanswer
      next heq => simp [heq]

theorem ofJson_accepts_exactly_manifests_of_texts :
    (∃ e, ofJson "]" = .error e) ∧
      ofJson "\x7b\"\\u0063reators\":[[\"a\",\"b\",[]]],\"x\":-1\x7d " =
        .ok ⟨[⟨"a", "b", []⟩]⟩ := by
  have hnone : ∀ t, ¬DocumentText Verbatim t "]".toList := by
    intro t h
    obtain ⟨c, v, hv, hc⟩ := h.opens
    rw [show "]".toList = [']'] by decide, skipSpace_cons_of_not (by decide)] at hv
    exact hc (List.cons.inj hv).1.symm
  have hpadded {t : Json.Tree String} {w : List Char} (h : Written Spelled t w) :
      Padded Spelled t ([] ++ (w ++ [])) := .mk Blank.nil h Blank.nil
  have hspace : Blank [' '] := by simp [Blank, isSpace]
  have ha : Written Spelled (.text "a") _ := .text (Spelling.self (by simp [Unescaped]))
  have hb : Written Spelled (.text "b") _ := .text (Spelling.self (by simp [Unescaped]))
  have hentry : Written Spelled (.array [.text "a", .text "b", .array []]) _ :=
    .array (.cons (hpadded ha) (.cons (hpadded hb) (.last (hpadded (.emptyArray Blank.nil)))))
  have hkey : Spelled "creators" ('\\' :: 'u' :: (['0', '0', '6', '3'] ++ "reators".toList)) := by
    have hcreators : "creators".toList = 'c' :: "reators".toList := by decide
    have hunit : HexUnit ['0', '0', '6', '3'] 'c'.toNat :=
      .mk (i := 0) (j := 0) (k := 6) (l := 3) (by decide) (by decide) (by decide) (by decide)
    rw [Spelled, hcreators]
    exact .unit hunit (.self (by simp [Unescaped]))
  have hnumber : NumeralText (['-'] ++ (['1'] ++ ([] ++ []))) :=
    .mk (.inr rfl) (.digits ⟨by simp, by simp⟩ (by simp)) .none .none
  have hdocument : DocumentText Spelled
      (.object [("creators", .array [.array [.text "a", .text "b", .array []]]),
        ("x", .number ['-', '1'])])
      "\x7b\"\\u0063reators\":[[\"a\",\"b\",[]]],\"x\":-1\x7d ".toList := by
    have hparts := Padded.mk Blank.nil (.object (.cons (.mk Blank.nil hkey Blank.nil)
      (hpadded (.array (.last (hpadded hentry))))
      (.last (.mk Blank.nil (Spelling.self (by simp [Unescaped]) : Spelled "x" _) Blank.nil)
        (hpadded (.number hnumber))))) hspace
    exact cast (congrArg (Padded Spelled _) (by decide)) hparts
  exact ⟨ofJson_accepts_exactly_manifests.1 "]" hnone,
    (ofJson_accepts_exactly_manifests.2 _ _ hdocument _).mpr (by decide)⟩

end Manifest

end RoomDraw
