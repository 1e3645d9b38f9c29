import RoomDraw.Proofs.Json.Nesting
import RoomDraw.Proofs.Manifest.Format
import RoomDraw.Proofs.Manifest.RoundTrip

/-!
# Texts that are cut off or go on

The text of a manifest opens a bracket that only its last character closes. A beginning of it is
therefore no text of a JSON value, and neither is anything that goes on behind it with more than
space.
-/

namespace RoomDraw

open Json

namespace Manifest

lemma ofJson_eq_error {text : String} (h : ∀ m, document read text ≠ .ok m) :
    ∃ e, ofJson text = .error e := by
  rw [ofJson]
  cases hdocument : document read text with
  | error f => exact ⟨_, rfl⟩
  | ok m => exact absurd hdocument (h m)

/-- The brackets of a manifest's text. -/
lemma exists_toJson_eq (layout : Layout) (m : Manifest) :
    ∃ w, (m.toJson layout).toList = Bracket.object.opening :: (w ++ [Bracket.object.closing]) := by
  rw [toJson, String.toList_ofList, chars, layout.bracketed_eq]
  exact ⟨_, rfl⟩

/-- Of two texts that are read as manifests, one of which is the other with something behind it, the
longer one has only space there, if it begins with a bracket. -/
lemma blank_of_document {text more : String} {m m' : Manifest} {w : List Char}
    (htext : document read text = .ok m) (hlonger : document read (text ++ more) = .ok m')
    (hw : text.toList ++ more.toList = Bracket.object.opening :: w) : Blank more.toList := by
  obtain ⟨t, ht⟩ := documentText_of_document takes_read htext
  obtain ⟨t', ht'⟩ := documentText_of_document takes_read hlonger
  have hraw : ∀ a w, Verbatim a w → RawText w := fun _ _ h => h.2
  rw [String.toList_append, hw] at ht'
  exact ht'.blank_of_append hraw ht hw

/-- A manifest is read back from its text if nothing but space follows. The text is rejected if
anything else follows it, or if it is cut off before its end. -/
theorem ofJson_rejects_cut_or_extended (layout : Layout) (m : Manifest) :
    (∀ text : String, text.toList <+: (m.toJson layout).toList → text ≠ m.toJson layout →
      ∃ e, ofJson text = .error e) ∧
    (∀ more : String, (∃ c ∈ more.toList, isSpace c = false) →
      ∃ e, ofJson (m.toJson layout ++ more) = .error e) ∧
    ∀ space : String, (∀ c ∈ space.toList, isSpace c = true) →
      ofJson (m.toJson layout ++ space) = .ok m := by
  obtain ⟨w, hw⟩ := exists_toJson_eq layout m
  have hwhole := document_toJson layout m
  refine ⟨?_, ?_, ?_⟩
  · rintro text ⟨cut, hcut⟩ hne
    refine ofJson_eq_error fun m' htext => ?_
    have heq : text ++ String.ofList cut = m.toJson layout := by
      rw [← String.toList_inj, String.toList_append, String.toList_ofList, hcut]
    rw [← heq] at hwhole
    have hblank := blank_of_document htext hwhole (by rw [String.toList_ofList, hcut, hw])
    rw [String.toList_ofList] at hblank
    rcases List.eq_nil_or_concat' cut with rfl | ⟨before, c, rfl⟩
    · exact hne (by simpa using heq)
    · -- the last character that is cut off is the closing bracket
      rw [hw, ← List.append_assoc, ← List.cons_append] at hcut
      obtain rfl := List.singleton_inj.mp (List.append_inj_right' hcut rfl)
      exact absurd (hblank _ (List.mem_append_right _ List.mem_cons_self)) (by decide)
  · rintro more ⟨c, hc, hspace⟩
    refine ofJson_eq_error fun m' hlonger => ?_
    have hblank := blank_of_document hwhole hlonger (by rw [hw]; rfl)
    rw [hblank c hc] at hspace
    cases hspace
  · intro space hspace
    rw [ofJson, document_toJson_append layout m hspace]

/-- A text that is cut off behind brackets in a name, one that only lacks its last bracket, one
with a bracket too many, and one with a line break at its end. -/
theorem ofJson_rejects_cut_or_extended_of_bracket :
    let m : Manifest := ⟨[⟨"\x7d]", "", []⟩]⟩
    let early := "\x7b\"creators\":[\x7b\"creator\":\"\x7d]"
    let late := "\x7b\"creators\":[\x7b\"creator\":\"\x7d]\",\"name\":\"\",\"users\":[]\x7d]"
    (early.toList <+: (m.toJson .compact).toList ∧ early ≠ m.toJson .compact ∧
      ∃ e, ofJson early = .error e) ∧
    (late.toList <+: (m.toJson .compact).toList ∧ late ≠ m.toJson .compact ∧
      ∃ e, ofJson late = .error e) ∧
    ((∃ c ∈ "\n\x7d".toList, isSpace c = false) ∧
      ∃ e, ofJson (m.toJson .compact ++ "\n\x7d") = .error e) ∧
    (∀ c ∈ "\r\n".toList, isSpace c = true) ∧ ofJson (m.toJson .compact ++ "\r\n") = .ok m := by
  intro m early late
  obtain ⟨hcut, hextended, hspace⟩ := ofJson_rejects_cut_or_extended .compact m
  have hearly : early.toList <+: (m.toJson .compact).toList ∧ early ≠ m.toJson .compact := by decide
  have hlate : late.toList <+: (m.toJson .compact).toList ∧ late ≠ m.toJson .compact := by decide
  have hmore : ∃ c ∈ "\n\x7d".toList, isSpace c = false := ⟨'}', by decide, rfl⟩
  have hblank : ∀ c ∈ "\r\n".toList, isSpace c = true := List.all_eq_true.mp (by decide)
  exact ⟨⟨hearly.1, hearly.2, hcut early hearly.1 hearly.2⟩,
    ⟨hlate.1, hlate.2, hcut late hlate.1 hlate.2⟩, ⟨hmore, hextended _ hmore⟩, hblank,
    hspace _ hblank⟩

end Manifest

end RoomDraw
