import RoomDraw.Proofs.Json.Places
import RoomDraw.Proofs.Json.Skipping
import RoomDraw.Proofs.Manifest.RoundTrip

/-!
# Layouts differ in space only

Both layouts write the same tokens in the same order. What the indented one has besides are blanks
and line breaks between tokens, so that taking these out gives the other one; and since controls are
escaped in strings, the line breaks of a text are those of its layout.
-/

namespace RoomDraw

namespace Json

/-! ### Texts without their space -/

/-- A blank or a line break that stands outside of strings. -/
def isGap (x : Place × Char) : Bool := x.1 == .outside && (x.2 == ' ' || x.2 == '\n')

/-- A text without its blanks and line breaks outside of strings. -/
def condensed (s : List Char) : List Char :=
  ((Place.outside.along s).filter (!isGap ·)).map Prod.snd

/-- The first text has the tokens of the second one, with no control but line breaks between them.
It leads into no string, so that another text may follow. -/
structure Condenses (w v : List Char) : Prop where
  after_eq : Place.outside.after w = .outside
  break_of_control : ∀ x ∈ Place.outside.along w, x.2 < ' ' → x = (.outside, '\n')
  condensed_eq : condensed w = v

namespace Condenses

variable {w w' v v' : List Char}

lemma append (h : Condenses w v) (h' : Condenses w' v') : Condenses (w ++ w') (v ++ v') := by
  refine ⟨by rw [Place.after_append, h.after_eq, h'.after_eq], fun x hx => ?_, ?_⟩
  · rw [Place.along_append, h.after_eq, List.mem_append] at hx
    exact hx.elim (h.break_of_control x) (h'.break_of_control x)
  · rw [condensed, Place.along_append, h.after_eq, List.filter_append, List.map_append, ← condensed,
      ← condensed, h.condensed_eq, h'.condensed_eq]

lemma space (h : ∀ c ∈ w, c = ' ' ∨ c = '\n') : Condenses w [] := by
  have hquote : ∀ c ∈ w, c ≠ '"' := by
    rintro c hc rfl
    rcases h _ hc with h | h <;> cases h
  refine ⟨after_unquoted hquote, ?_, ?_⟩
  · rw [along_unquoted hquote]
    intro x hx hcontrol
    obtain ⟨c, hc, rfl⟩ := List.mem_map.mp hx
    rcases h c hc with rfl | rfl
    · exact absurd hcontrol (by decide)
    · rfl
  · rw [condensed, along_unquoted hquote, List.map_eq_nil_iff, List.filter_eq_nil_iff]
    intro x hx
    obtain ⟨c, hc, rfl⟩ := List.mem_map.mp hx
    rcases h c hc with rfl | rfl <;> decide

lemma nil : Condenses [] [] := space (by simp)

/-- A character that is a token. -/
lemma mark {c : Char} (hquote : c ≠ '"') (hspace : c ≠ ' ') (hcontrol : ¬c < ' ') :
    Condenses [c] [c] := by
  have hbreak : c ≠ '\n' := by
    rintro rfl
    exact hcontrol (by decide)
  have hgap : isGap (.outside, c) = false := by simp [isGap, hspace, hbreak]
  refine ⟨by simp [Place.next, hquote], ?_, by simp [condensed, hgap]⟩
  intro x hx hlt
  obtain rfl := List.mem_singleton.mp hx
  exact absurd hlt hcontrol

/-- A string keeps all of its characters. -/
lemma quoted (h : RawText w) : Condenses ('"' :: (w ++ ['"'])) ('"' :: (w ++ ['"'])) := by
  refine ⟨after_quoted h, fun x hx hcontrol => ?_, ?_⟩
  · rcases mem_along_quoted h hx with rfl | ⟨-, hlow⟩
    · exact absurd hcontrol (by decide)
    · exact absurd hcontrol hlow
  · have hkeep : ∀ x ∈ Place.outside.along ('"' :: (w ++ ['"'])), (!isGap x) = true := by
      intro x hx
      rcases mem_along_quoted h hx with rfl | ⟨hinside, -⟩
      · rfl
      · simp [isGap, hinside]
    rw [condensed, List.filter_eq_self.mpr hkeep, Place.map_snd_along]

lemma joined {ws vs : List (List Char)} (h : List.Forall₂ Condenses ws vs) :
    Condenses (joined ws) (joined vs) := by
  cases h with
  | nil => exact nil
  | cons hw h =>
    refine hw.append ?_
    induction h with
    | nil => exact nil
    | cons hw _ ih => exact ((mark (by decide) (by decide) (by decide)).append hw).append ih

/-- A text that stays the same has no space between its tokens. -/
lemma not_gap (h : Condenses w w) : ∀ x ∈ Place.outside.along w, isGap x = false := by
  have hlength := congrArg List.length (h.condensed_eq.trans (Place.map_snd_along .outside w).symm)
  rw [condensed, List.length_map, List.length_map, List.length_filter_eq_length_iff] at hlength
  exact fun x hx => by simpa using hlength x hx

end Condenses

end Json

open Json

/-! ### Layouts -/

namespace Layout

variable (layout : Layout)

lemma condenses_lineBreak (depth : Nat) : Condenses (layout.lineBreak depth) [] := by
  cases layout with
  | compact => exact .nil
  | pretty =>
    refine .space fun c hc => ?_
    rcases List.mem_cons.mp hc with rfl | hc
    · exact .inr rfl
    · exact .inl (List.mem_replicate.mp hc).2

lemma condenses_lastBreak (depth : Nat) (vs : List (List Char)) :
    Condenses (layout.lastBreak depth vs) [] := by
  unfold lastBreak
  split
  · exact .nil
  · exact layout.condenses_lineBreak depth

lemma condenses_colon : Condenses layout.colon [':'] := by
  have hgap : Condenses layout.gap [] := by
    cases layout with
    | compact => exact .nil
    | pretty => exact .space (by simp [gap])
  rw [layout.colon_eq]
  exact (Condenses.mark (by decide) (by decide) (by decide)).append hgap

lemma compact_bracketed (opening closing : Char) (depth : Nat) (vs : List (List Char)) :
    compact.bracketed opening closing depth vs = opening :: joined vs ++ [closing] := by
  simp [bracketed_eq, lineBreak, lastBreak]

/-- Brackets around texts are brackets around the tokens of the texts. -/
lemma condenses_bracketed {opening closing : Char} (hopening : Condenses [opening] [opening])
    (hclosing : Condenses [closing] [closing]) (depth : Nat) {ws vs : List (List Char)}
    (h : List.Forall₂ Condenses ws vs) :
    Condenses (layout.bracketed opening closing depth ws)
      (compact.bracketed opening closing depth vs) := by
  have hbroken : List.Forall₂ Condenses (ws.map (layout.lineBreak (depth + 1) ++ ·)) vs :=
    List.forall₂_map_left_iff.mpr <| h.imp fun _ _ hw =>
      (layout.condenses_lineBreak (depth + 1)).append hw
  have hinner := (Condenses.joined hbroken).append (layout.condenses_lastBreak depth ws)
  rw [layout.bracketed_eq, compact_bracketed]
  simpa using (hopening.append hinner).append hclosing

end Layout

/-! ### Texts of manifests -/

namespace Manifest

variable (layout : Layout)

/-- A written string stands between its quotes in an escaped form. -/
lemma rawText_escaped (s : String) : RawText (s.toList.flatMap escaped) := by
  obtain ⟨w, heq, hw⟩ := rawText_of_readText (readText_spelled s [])
  rwa [List.append_cancel_right heq]

lemma condenses_string (s : String) : Condenses (string s) (string s) :=
  .quoted (rawText_escaped s)

lemma condenses_member (key : String) {w v : List Char} (h : Condenses w v) :
    Condenses (member layout key w) (member .compact key v) :=
  ((condenses_string key).append layout.condenses_colon).append h

lemma condenses_object (depth : Nat) {ws vs : List (List Char)}
    (h : List.Forall₂ Condenses ws vs) :
    Condenses (layout.bracketed '{' '}' depth ws) (Layout.compact.bracketed '{' '}' depth vs) :=
  layout.condenses_bracketed (.mark (by decide) (by decide) (by decide))
    (.mark (by decide) (by decide) (by decide)) depth h

lemma condenses_array {α : Type} (depth : Nat) {text text' : α → List Char}
    (h : ∀ a, Condenses (text a) (text' a)) (as : List α) :
    Condenses (layout.bracketed '[' ']' depth (as.map text))
      (Layout.compact.bracketed '[' ']' depth (as.map text')) := by
  refine layout.condenses_bracketed (.mark (by decide) (by decide) (by decide))
    (.mark (by decide) (by decide) (by decide)) depth ?_
  rw [List.forall₂_map_left_iff, List.forall₂_map_right_iff]
  exact List.forall₂_same.mpr fun a _ => h a

lemma condenses_entryText (e : CreationEntry) :
    Condenses (entryText layout e) (entryText .compact e) := by
  have husers := condenses_array layout 3 condenses_string e.users
  exact condenses_object layout 2
    (.cons (condenses_member layout "creator" (condenses_string e.creator))
      (.cons (condenses_member layout "name" (condenses_string e.name))
        (.cons (condenses_member layout "users" husers) .nil)))

/-- In any layout a manifest has the tokens of its compact text. -/
lemma condenses_chars (m : Manifest) : Condenses (m.chars layout) (m.chars .compact) :=
  condenses_object layout 0 (.cons (condenses_member layout "creators"
    (condenses_array layout 1 (condenses_entryText layout) m.creators)) .nil)

/-- The compact text has no control, and no space outside of its strings. The only controls of the
indented text are line breaks outside of its strings, and without its blanks and line breaks there
it is the compact text. -/
theorem layouts_differ_in_space (m : Manifest) :
    (∀ c ∈ (m.toJson .compact).toList, ¬c < ' ') ∧
    (∀ x ∈ Place.outside.along (m.toJson .compact).toList,
      x.1 = .outside → isSpace x.2 = false) ∧
    (∀ x ∈ Place.outside.along (m.toJson .pretty).toList, x.2 < ' ' → x = (.outside, '\n')) ∧
    condensed (m.toJson .pretty).toList = (m.toJson .compact).toList := by
  simp only [toJson, String.toList_ofList]
  have hcompact := condenses_chars .compact m
  have hpretty := condenses_chars .pretty m
  have hnone : ∀ x ∈ Place.outside.along (m.chars .compact), ¬x.2 < ' ' := by
    intro x hx hcontrol
    obtain rfl := hcompact.break_of_control x hx hcontrol
    cases hcompact.not_gap _ hx
  refine ⟨?_, ?_, hpretty.break_of_control, hpretty.condensed_eq⟩
  · rw [← Place.map_snd_along .outside (m.chars .compact)]
    exact List.forall_mem_map.mpr hnone
  · rintro ⟨p, c⟩ hx rfl
    have hgap := hcompact.not_gap _ hx
    have hcontrol := hnone _ hx
    refine Bool.eq_false_iff.mpr fun hspace => ?_
    rcases isSpace_iff.mp hspace with rfl | rfl | rfl | rfl
    · cases hgap
    · cases hgap
    · exact hcontrol (by decide)
    · exact hcontrol (by decide)

/-- The blank of a name with a quote before it and a backslash behind it is not taken out. -/
theorem layouts_differ_in_space_of_quotes :
    let m : Manifest := ⟨[⟨"\" \\", "a\nb", []⟩]⟩
    ('\\' ∈ (m.toJson .compact).toList ∧ ¬ '\\' < ' ') ∧
    ((.outside, ':') ∈ Place.outside.along (m.toJson .compact).toList ∧ isSpace ':' = false) ∧
    (∃ x ∈ Place.outside.along (m.toJson .pretty).toList, x.2 < ' ' ∧ x = (.outside, '\n')) ∧
    condensed (m.toJson .pretty).toList = (m.toJson .compact).toList ∧
    ' ' ∈ condensed (m.toJson .pretty).toList := by
  intro m
  obtain ⟨hcontrol, hspace, hbreak, hcondensed⟩ := layouts_differ_in_space m
  have hbackslash : '\\' ∈ (m.toJson .compact).toList := by decide
  have hcolon : (.outside, ':') ∈ Place.outside.along (m.toJson .compact).toList := by decide
  have hline : (.outside, '\n') ∈ Place.outside.along (m.toJson .pretty).toList := by decide
  refine ⟨⟨hbackslash, hcontrol _ hbackslash⟩, ⟨hcolon, hspace _ hcolon rfl⟩,
    ⟨_, hline, by decide, hbreak _ hline (by decide)⟩, hcondensed, ?_⟩
  rw [hcondensed]
  decide

end Manifest

end RoomDraw
