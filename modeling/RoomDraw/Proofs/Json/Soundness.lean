import RoomDraw.Proofs.Json.Skipping

/-!
# What is read is JSON

Whatever a reader takes off the front of a text is one value of the grammar, whether the value is
wanted or passed over. All loops over members are followed in the same way: what is still to be read
of an array or object is told by `Tail` behind a member and by `Inside` before the first one.
-/

namespace RoomDraw

namespace Json

/-! ### Texts of values -/

/-- The text of some value. -/
def Value (w : List Char) : Prop := ∃ t, Written Verbatim t w

/-- The texts of members, one at least. -/
def Body : Bracket → List Char → Prop
  | .array, w => ∃ ts, Elements Verbatim ts w
  | .object, w => ∃ ms, Members Verbatim ms w

/-- What stands before the value of a member. -/
def LeadText : Bracket → List Char → Prop
  | .array, w => w = []
  | .object, w => ∃ key, KeyText Verbatim key w

/-- What stands between a member and the closing bracket. -/
def Tail (b : Bracket) (w : List Char) : Prop :=
  Blank w ∨ ∃ space v, w = space ++ ',' :: v ∧ Blank space ∧ Body b v

/-- What stands between the brackets, or behind the first members. -/
def Inside (b : Bracket) (first : Bool) (w : List Char) : Prop :=
  if first then Blank w ∨ Body b w else Tail b w

lemma Blank.append {space gap : List Char} (h : Blank space) (hgap : Blank gap) :
    Blank (space ++ gap) := by
  intro c hc
  exact (List.mem_append.mp hc).elim (h c) (hgap c)

lemma Inside.of_blank {b : Bracket} {w : List Char} (h : Blank w) (first : Bool) :
    Inside b first w := by
  cases first <;> exact .inl h

lemma Padded.blank_append {t : Tree (List Char)} {space w : List Char} (hspace : Blank space)
    (h : Padded Verbatim t w) : Padded Verbatim t (space ++ w) := by
  obtain ⟨hbefore, hw, hafter⟩ := h
  rw [← List.append_assoc]
  exact .mk (hspace.append hbefore) hw hafter

lemma KeyText.blank_append {key space k : List Char} (hspace : Blank space)
    (h : KeyText Verbatim key k) : KeyText Verbatim key (space ++ k) := by
  obtain ⟨hbefore, hw, hafter⟩ := h
  rw [← List.append_assoc]
  exact .mk (hspace.append hbefore) hw hafter

lemma Body.blank_append {b : Bracket} {space w : List Char} (hspace : Blank space)
    (h : Body b w) : Body b (space ++ w) := by
  cases b with
  | array =>
    obtain ⟨ts, hts⟩ := h
    cases hts with
    | last hw => exact ⟨_, .last (hw.blank_append hspace)⟩
    | cons hw hrest =>
      rw [← List.append_assoc]
      exact ⟨_, .cons (hw.blank_append hspace) hrest⟩
  | object =>
    obtain ⟨ms, hms⟩ := h
    cases hms with
    | last hkey hw =>
      rw [← List.append_assoc]
      exact ⟨_, .last (hkey.blank_append hspace) hw⟩
    | cons hkey hw hrest =>
      rw [← List.append_assoc]
      exact ⟨_, .cons (hkey.blank_append hspace) hw hrest⟩

/-- A member and what follows it are the texts of members. -/
lemma Tail.body {b : Bracket} {lead space v w : List Char} (hlead : LeadText b lead)
    (hspace : Blank space) (hv : Value v) (h : Tail b w) :
    Body b (lead ++ (space ++ (v ++ w))) := by
  obtain ⟨t, ht⟩ := hv
  obtain hw | ⟨after, u, rfl, hafter, hu⟩ := h
  · have hpadded := Padded.mk hspace ht hw
    cases b with
    | array =>
      obtain rfl : lead = [] := hlead
      exact ⟨[t], .last hpadded⟩
    | object =>
      obtain ⟨key, hkey⟩ := hlead
      exact ⟨[(key, t)], .last hkey hpadded⟩
  · have hpadded := Padded.mk hspace ht hafter
    have hassoc : space ++ (v ++ (after ++ ',' :: u)) = (space ++ (v ++ after)) ++ ',' :: u := by
      simp
    rw [hassoc]
    cases b with
    | array =>
      obtain rfl : lead = [] := hlead
      obtain ⟨ts, hts⟩ := hu
      exact ⟨t :: ts, .cons hpadded hts⟩
    | object =>
      obtain ⟨key, hkey⟩ := hlead
      obtain ⟨ms, hms⟩ := hu
      exact ⟨(key, t) :: ms, .cons hkey hpadded hms⟩

lemma Inside.value {b : Bracket} {w : List Char} (h : Inside b true w) :
    Value (b.opening :: (w ++ [b.closing])) := by
  obtain hspace | hbody := h
  · cases b with
    | array => exact ⟨_, .emptyArray hspace⟩
    | object => exact ⟨_, .emptyObject hspace⟩
  · cases b with
    | array =>
      obtain ⟨ts, hts⟩ := hbody
      exact ⟨_, .array hts⟩
    | object =>
      obtain ⟨ms, hms⟩ := hbody
      exact ⟨_, .object hms⟩

/-! ### Parts of values -/

lemma skipSpace_split (s : List Char) : ∃ space, s = space ++ skipSpace s ∧ Blank space :=
  ⟨s.takeWhile isSpace, List.takeWhile_append_dropWhile.symm, fun _ hc => List.mem_takeWhile_imp hc⟩

lemma eq_append_of_word {w s rest : List Char} (h : word w s = .ok ((), rest)) : s = w ++ rest := by
  induction w generalizing s with
  | nil =>
    cases h
    rfl
  | cons c w ih =>
    cases s with
    | nil => cases h
    | cons d s =>
      rw [word] at h
      split_ifs at h with hc
      · rw [hc, ih h, List.cons_append]
      · cases h

lemma value_of_skipScalar {s rest : List Char} (h : skipScalar s = .ok ((), rest)) :
    ∃ v, s = v ++ rest ∧ Value v := by
  unfold skipScalar at h
  split at h
  · cases h
  next c s =>
  split_ifs at h with hn ht hf hquote hnumber
  · obtain rfl := hn
    rw [eq_append_of_word h]
    exact ⟨_, rfl, .null, .null⟩
  · obtain rfl := ht
    rw [eq_append_of_word h]
    exact ⟨_, rfl, .boolean true, .yes⟩
  · obtain rfl := hf
    rw [eq_append_of_word h]
    exact ⟨_, rfl, .boolean false, .no⟩
  · obtain rfl := hquote
    obtain ⟨w, rfl, hw⟩ := rawText_of_skipText h
    exact ⟨'"' :: (w ++ ['"']), by simp, .text w, .text ⟨rfl, hw⟩⟩
  · obtain ⟨w, hw, hnumeral⟩ := numeralText_of_skipNumber h
    exact ⟨w, hw, .number w, .number hnumeral⟩
  · cases h

lemma keyThen_eq_ok {β : Type} {key : Reader β} {k : β} {s rest : List Char}
    (h : keyThen key s = .ok (k, rest)) :
    ∃ after, key s = .ok (k, after ++ ':' :: rest) ∧ Blank after := by
  obtain ⟨⟨k', left⟩, hkey, h⟩ := bind_eq_ok h
  obtain ⟨after, hleft, hafter⟩ := skipSpace_split left
  simp only at h
  split at h
  · cases h
  · next heq =>
    cases h
    rw [heq] at hleft
    exact ⟨after, hleft ▸ hkey, hafter⟩
  · cases h

lemma lead_of_beforeMember {b : Bracket} {s rest : List Char}
    (h : beforeMember b s = .ok ((), rest)) : ∃ lead, s = lead ++ rest ∧ LeadText b lead := by
  cases b with
  | array =>
    cases h
    exact ⟨[], rfl, rfl⟩
  | object =>
    obtain ⟨before, hs, hbefore⟩ := skipSpace_split s
    rw [beforeMember] at h
    split at h
    · cases h
    · next s' heq =>
      obtain ⟨after, hskip, hafter⟩ := keyThen_eq_ok h
      obtain ⟨w, rfl, hw⟩ := rawText_of_skipText hskip
      refine ⟨_, ?_, w, .mk hbefore ⟨rfl, hw⟩ hafter⟩
      rw [hs, heq]
      simp
    · cases h

/-! ### Passing over values -/

/-- What closes the open brackets, of which the innermost comes first. -/
def Closes : List Bracket → List Char → Prop
  | [], w => w = []
  | b :: stack, w => ∃ tail v, w = tail ++ b.closing :: v ∧ Tail b tail ∧ Closes stack v

/-- What is still to be passed over. -/
def Remains : List Bracket → SkipState → List Char → Prop
  | stack, .value, w =>
    ∃ space v u, w = space ++ (v ++ u) ∧ Blank space ∧ Value v ∧ Closes stack u
  | [], .opened, w => w = []
  | b :: stack, .opened, w =>
    ∃ inner v, w = inner ++ b.closing :: v ∧ Inside b true inner ∧ Closes stack v
  | stack, .closed, w => Closes stack w

lemma remains_of_opening {b : Bracket} {stack : List Bracket} {space w : List Char}
    (hspace : Blank space) (h : Remains (b :: stack) .opened w) :
    Remains stack .value (space ++ b.opening :: w) := by
  obtain ⟨inner, v, rfl, hinner, hclose⟩ := h
  exact ⟨space, _, v, by simp, hspace, hinner.value, hclose⟩

lemma remains_of_value {n : Nat} {stack : List Bracket} {s rest : List Char}
    (ih : ∀ {stack state s}, skipRest n stack state s = .ok ((), rest) →
      ∃ w, s = w ++ rest ∧ Remains stack state w)
    (h : skipRest (n + 1) stack .value s = .ok ((), rest)) :
    ∃ w, s = w ++ rest ∧ Remains stack .value w := by
  obtain ⟨space, hs, hspace⟩ := skipSpace_split s
  rw [skipRest_value] at h
  split at h
  · next t heq =>
    obtain ⟨w, rfl, hw⟩ := ih h
    rw [heq] at hs
    exact ⟨_, by simp [hs, Bracket.opening], remains_of_opening (b := .array) hspace hw⟩
  · next t heq =>
    obtain ⟨w, rfl, hw⟩ := ih h
    rw [heq] at hs
    exact ⟨_, by simp [hs, Bracket.opening], remains_of_opening (b := .object) hspace hw⟩
  · obtain ⟨⟨⟨⟩, left⟩, hscalar, h⟩ := bind_eq_ok h
    obtain ⟨v, hv, hvalue⟩ := value_of_skipScalar hscalar
    obtain ⟨w, rfl, hw⟩ := ih h
    rw [hv] at hs
    exact ⟨space ++ (v ++ w), by simp [hs], space, v, w, rfl, hspace, hvalue, hw⟩

/-- From the key of a member on, or from its value if it has no key, the members are passed over that
are left of the innermost bracket. -/
lemma body_of_skipRest {n : Nat} {b : Bracket} {stack : List Bracket} {s next rest : List Char}
    (ih : ∀ {stack state s}, skipRest n stack state s = .ok ((), rest) →
      ∃ w, s = w ++ rest ∧ Remains stack state w)
    (hbefore : beforeMember b s = .ok ((), next))
    (h : skipRest n (b :: stack) .value next = .ok ((), rest)) :
    ∃ body v, s = body ++ b.closing :: v ++ rest ∧ Body b body ∧ Closes stack v := by
  obtain ⟨lead, rfl, hlead⟩ := lead_of_beforeMember hbefore
  obtain ⟨w, rfl, space, v, u, rfl, hspace, hv, tail, u', rfl, htail, hclose⟩ := ih h
  exact ⟨lead ++ (space ++ (v ++ tail)), u', by simp, htail.body hlead hspace hv, hclose⟩

/-- What stands inside an open bracket, before the first member or behind one. -/
lemma inside_of_skipRest {n : Nat} {b : Bracket} {stack : List Bracket} {state : SkipState}
    {s rest : List Char} (hstate : state ≠ .value)
    (ih : ∀ {stack state s}, skipRest n stack state s = .ok ((), rest) →
      ∃ w, s = w ++ rest ∧ Remains stack state w)
    (h : skipRest (n + 1) (b :: stack) state s = .ok ((), rest)) :
    ∃ inner v, s = inner ++ b.closing :: v ++ rest ∧ Inside b (state = .opened) inner ∧
      Closes stack v := by
  obtain ⟨space, hs, hspace⟩ := skipSpace_split s
  rw [skipRest_member n b stack hstate] at h
  split at h
  · cases h
  next c t heq =>
  rw [heq] at hs
  split_ifs at h with hclosing hopened hcomma
  · obtain ⟨w, rfl, hw⟩ := ih h
    exact ⟨space, w, by simp [hs, hclosing], .of_blank hspace _, hw⟩
  · obtain ⟨⟨⟨⟩, left⟩, hbefore, hskip⟩ := bind_eq_ok h
    obtain ⟨body, v, hbody, hinner, hclose⟩ := body_of_skipRest ih hbefore hskip
    refine ⟨space ++ body, v, by simp [hs, hbody], ?_, hclose⟩
    simpa [Inside, hopened] using Or.inr (hinner.blank_append hspace)
  · obtain ⟨⟨⟨⟩, left⟩, hbefore, hskip⟩ := bind_eq_ok h
    obtain ⟨body, v, hbody, hinner, hclose⟩ := body_of_skipRest ih hbefore hskip
    have htail : Tail b (space ++ ',' :: body) := .inr ⟨space, body, rfl, hspace, hinner⟩
    refine ⟨space ++ ',' :: body, v, by simp [hs, hcomma, hbody], ?_, hclose⟩
    simpa [Inside, hopened] using htail
  · cases h

/-- What is passed over has the right form, wherever it begins. -/
lemma remains_of_skipRest {n : Nat} {stack : List Bracket} {state : SkipState}
    {s rest : List Char} (h : skipRest n stack state s = .ok ((), rest)) :
    ∃ w, s = w ++ rest ∧ Remains stack state w := by
  induction n generalizing stack state s with
  | zero => cases h
  | succ n ih =>
    cases state with
    | value => exact remains_of_value ih h
    | opened =>
      cases stack with
      | nil =>
        cases h
        exact ⟨[], rfl, rfl⟩
      | cons b stack =>
        obtain ⟨inner, v, hs, hinner, hclose⟩ := inside_of_skipRest (by decide) ih h
        exact ⟨_, hs, inner, v, rfl, hinner, hclose⟩
    | closed =>
      cases stack with
      | nil =>
        cases h
        exact ⟨[], rfl, rfl⟩
      | cons b stack =>
        obtain ⟨inner, v, hs, hinner, hclose⟩ := inside_of_skipRest (by decide) ih h
        exact ⟨_, hs, inner, v, rfl, hinner, hclose⟩

/-! ### Readers -/

/-- What the reader takes off a text is one value, with space before it. -/
def Takes {β : Type} (reader : Reader β) : Prop :=
  ∀ s b rest, reader s = .ok (b, rest) →
    ∃ space v, s = space ++ (v ++ rest) ∧ Blank space ∧ Value v

lemma takes_skipValue (bound : Nat) : Takes (skipValue bound) := by
  rintro s ⟨⟩ rest h
  obtain ⟨w, hs, space, v, u, rfl, hspace, hv, rfl⟩ := remains_of_skipRest h
  exact ⟨space, v, by simp [hs], hspace, hv⟩

variable {β γ : Type}

lemma Takes.map {reader : Reader β} (h : Takes reader) (f : β → γ) :
    Takes (fun s => do let (b, s) ← reader s; return (f b, s)) := by
  intro s c rest hread
  obtain ⟨⟨b, left⟩, hread, hpure⟩ := bind_eq_ok hread
  cases hpure
  exact h s b rest hread

/-- A value of another form is never read. -/
lemma mismatch_ne_ok {expected : String} {s : List Char} {b : β} :
    mismatch expected s ≠ .ok b := by
  intro h
  obtain ⟨⟨found, rest⟩, -, h⟩ := bind_eq_ok h
  cases h

lemma takes_text (expected : String) : Takes (text expected) := by
  intro s b rest h
  obtain ⟨space, hs, hspace⟩ := skipSpace_split s
  rw [text] at h
  split at h
  · cases h
  · next t heq =>
    obtain ⟨w, rfl, hw⟩ := rawText_of_readText h
    rw [heq] at hs
    exact ⟨space, '"' :: (w ++ ['"']), by simp [hs], hspace, .text w, .text ⟨rfl, hw⟩⟩
  · exact absurd h mismatch_ne_ok

/-! ### Arrays -/

/-- The text leads from one member to the next, or to the first one. -/
def Steps (b : Bracket) (first : Bool) (w : List Char) : Prop :=
  ∀ body, Body b body → Inside b first (w ++ body)

lemma steps_first {b : Bracket} {space : List Char} (hspace : Blank space) : Steps b true space :=
  fun _ hbody => .inr (hbody.blank_append hspace)

lemma steps_comma {b : Bracket} {space gap : List Char} (hspace : Blank space) (hgap : Blank gap) :
    Steps b false (space ++ ',' :: gap) :=
  fun body hbody => .inr ⟨space, gap ++ body, by simp, hspace, hbody.blank_append hgap⟩

lemma steps_of_nextElement {first : Bool} {s rest : List Char}
    (h : nextElement first s = .ok (true, rest)) :
    ∃ w, s = w ++ rest ∧ Steps .array first w := by
  obtain ⟨space, hs, hspace⟩ := skipSpace_split s
  rw [nextElement] at h
  split at h
  · cases h
  next c t heq =>
  rw [heq] at hs
  split_ifs at h with hend hfirst hcomma
  · cases h
  · cases h
    exact ⟨space, hs, hfirst ▸ steps_first hspace⟩
  · obtain ⟨gap, ht, hgap⟩ := skipSpace_split t
    split at h
    · cases h
    · cases h
    · cases h
      refine ⟨space ++ ',' :: gap, ?_, ?_⟩
      · rw [List.append_assoc, List.cons_append, ← ht, hs, hcomma]
      · rw [Bool.eq_false_iff.mpr hfirst]
        exact steps_comma hspace hgap
  · cases h

lemma blank_of_nextElement {first : Bool} {s rest : List Char}
    (h : nextElement first s = .ok (false, rest)) :
    ∃ space t, s = space ++ rest ∧ rest = ']' :: t ∧ Blank space := by
  obtain ⟨space, hs, hspace⟩ := skipSpace_split s
  rw [nextElement] at h
  split at h
  · cases h
  next c t heq =>
  rw [heq] at hs
  split_ifs at h with hend hfirst hcomma
  · cases h
    exact ⟨space, t, hs, by rw [hend], hspace⟩
  · cases h
  · split at h <;> cases h
  · cases h

lemma inside_of_elements {item : Reader β} (hitem : Takes item) {bound : Nat} {before bs : List β}
    {s rest : List Char} (h : elements item bound before s = .ok (bs, rest)) :
    ∃ inner t, s = inner ++ rest ∧ rest = ']' :: t ∧ Inside .array before.isEmpty inner := by
  induction bound generalizing before s with
  | zero => cases h
  | succ bound ih =>
    obtain ⟨⟨more, left⟩, hnext, hmore⟩ := bind_eq_ok h
    cases more with
    | false =>
      cases hmore
      obtain ⟨space, t, hs, hrest, hspace⟩ := blank_of_nextElement hnext
      exact ⟨space, t, hs, hrest, .of_blank hspace _⟩
    | true =>
      obtain ⟨⟨b, left'⟩, hread, hothers⟩ := bind_eq_ok hmore
      obtain ⟨w, hs, hsteps⟩ := steps_of_nextElement hnext
      obtain ⟨space, v, hleft, hspace, hv⟩ := hitem _ _ _ hread
      obtain ⟨tail, t, rfl, hrest, htail⟩ := ih hothers
      refine ⟨w ++ (space ++ (v ++ tail)), t, by simp [hs, hleft], hrest, hsteps _ ?_⟩
      exact Tail.body (b := .array) rfl hspace hv htail

lemma closing_of_closeArray {s rest : List Char} (h : closeArray s = .ok ((), rest)) :
    ∃ space, s = space ++ ']' :: rest ∧ Blank space := by
  obtain ⟨space, hs, hspace⟩ := skipSpace_split s
  rw [closeArray] at h
  split at h
  · cases h
  · next heq =>
    cases h
    exact ⟨space, heq ▸ hs, hspace⟩
  · split at h <;> cases h
  · cases h

lemma takes_array {item : Reader β} (hitem : Takes item) (bound : Nat) :
    Takes (array bound item) := by
  intro s bs rest h
  obtain ⟨space, hs, hspace⟩ := skipSpace_split s
  rw [array] at h
  split at h
  · cases h
  · next t heq =>
    obtain ⟨⟨as, left⟩, helements, h⟩ := bind_eq_ok h
    obtain ⟨⟨⟨⟩, left'⟩, hclose, h⟩ := bind_eq_ok h
    cases h
    obtain ⟨inner, t', rfl, rfl, hinner⟩ := inside_of_elements hitem helements
    rw [closeArray_end] at hclose
    cases hclose
    rw [heq] at hs
    exact ⟨space, _, by simp [hs, Bracket.opening, Bracket.closing], hspace,
      Inside.value (b := .array) hinner⟩
  · exact absurd h mismatch_ne_ok

/-! ### Records -/

lemma key_of_nextKey {first : Bool} {s rest : List Char}
    (h : nextKey first s = .ok (true, rest)) :
    ∃ w, s = w ++ '"' :: rest ∧ Steps .object first w := by
  have hquote {t : List Char} (ht : nextKey.quote t = .ok (true, rest)) : t = '"' :: rest := by
    unfold nextKey.quote at ht
    split at ht <;> cases ht
    rfl
  obtain ⟨space, hs, hspace⟩ := skipSpace_split s
  rw [nextKey] at h
  split at h
  · cases h
  next c t heq =>
  rw [heq] at hs
  split_ifs at h with hend hfirst hcomma
  · cases h
  · rw [hquote h] at hs
    exact ⟨space, hs, hfirst ▸ steps_first hspace⟩
  · obtain ⟨gap, ht, hgap⟩ := skipSpace_split t
    split at h
    · cases h
    · cases h
    · rw [hquote h] at ht
      refine ⟨space ++ ',' :: gap, ?_, ?_⟩
      · rw [List.append_assoc, List.cons_append, ← ht, hs, hcomma]
      · rw [Bool.eq_false_iff.mpr hfirst]
        exact steps_comma hspace hgap
  · cases h

lemma blank_of_nextKey {first : Bool} {s rest : List Char}
    (h : nextKey first s = .ok (false, rest)) :
    ∃ space t, s = space ++ rest ∧ rest = '}' :: t ∧ Blank space := by
  have hquote {t : List Char} : nextKey.quote t ≠ .ok (false, rest) := by
    unfold nextKey.quote
    split <;> rintro ⟨⟩
  obtain ⟨space, hs, hspace⟩ := skipSpace_split s
  rw [nextKey] at h
  split at h
  · cases h
  next c t heq =>
  rw [heq] at hs
  split_ifs at h with hend hfirst hcomma
  · cases h
    exact ⟨space, t, hs, by rw [hend], hspace⟩
  · exact absurd h hquote
  · split at h
    · cases h
    · cases h
    · exact absurd h hquote
  · cases h

lemma part_eq_ok {x : Except Fault β} {b : β} (h : part x = .ok b) : x = .ok b := by
  cases x with
  | error f => cases h
  | ok a => exact congrArg _ (Except.ok.inj h)

/-- A member is a key, a colon and a value. -/
lemma member_of_afterColon {key : String} {value : Reader β} {b : β} {s left rest : List Char}
    (hkey : readText [] s = .ok (key, left)) (hvalue : Takes value)
    (h : members.afterColon value left = .ok (b, rest)) :
    ∃ lead space v, '"' :: s = lead ++ (space ++ (v ++ rest)) ∧ LeadText .object lead ∧
      Blank space ∧ Value v := by
  obtain ⟨⟨⟨⟩, colon⟩, hcolon, hread⟩ := bind_eq_ok h
  obtain ⟨after, hafter, hblank⟩ := keyThen_eq_ok hcolon
  cases hafter
  obtain ⟨w, rfl, hw⟩ := rawText_of_readText hkey
  obtain ⟨space, v, rfl, hspace, hv⟩ := hvalue _ _ _ hread
  exact ⟨_, space, v, by simp, ⟨w, .mk Blank.nil ⟨rfl, hw⟩ hblank⟩, hspace, hv⟩

/-- A member and the members behind it. -/
lemma inside_of_member {key : String} {value : Reader β} {b : β} {first : Bool}
    {w s left next rest : List Char} (hsteps : Steps .object first w)
    (hkey : readText [] s = .ok (key, left)) (hvalue : Takes value)
    (hread : members.afterColon value left = .ok (b, next))
    (hothers : ∃ tail t, next = tail ++ rest ∧ rest = '}' :: t ∧ Inside .object false tail) :
    ∃ inner t, w ++ '"' :: s = inner ++ rest ∧ rest = '}' :: t ∧ Inside .object first inner := by
  obtain ⟨lead, space, v, hs, hlead, hspace, hv⟩ := member_of_afterColon hkey hvalue hread
  obtain ⟨tail, t, rfl, hrest, htail⟩ := hothers
  refine ⟨w ++ (lead ++ (space ++ (v ++ tail))), t, by simp [hs], hrest, hsteps _ ?_⟩
  exact Tail.body hlead hspace hv htail

variable {σ : Type} {fields : List (Field σ)}

lemma inside_of_members (hfill : ∀ f ∈ fields, ∀ draft, Takes (f.fill draft))
    {skip : Reader Unit} (hskip : Takes skip) {bound : Nat} {first : Bool} {draft filled : σ}
    {s rest : List Char} (h : members fields skip bound first draft s = .ok (filled, rest)) :
    ∃ inner t, s = inner ++ rest ∧ rest = '}' :: t ∧ Inside .object first inner := by
  induction bound generalizing first draft s with
  | zero => cases h
  | succ bound ih =>
    obtain ⟨⟨more, left⟩, hnext, hmore⟩ := bind_eq_ok h
    have hnext := part_eq_ok hnext
    cases more with
    | false =>
      obtain ⟨space, t, hs, hrest, hspace⟩ := blank_of_nextKey hnext
      simp only at hmore
      split at hmore
      · cases hmore
      · cases hmore
        exact ⟨space, t, hs, hrest, .of_blank hspace _⟩
    | true =>
      obtain ⟨w, rfl, hsteps⟩ := key_of_nextKey hnext
      obtain ⟨⟨name, left'⟩, hkey, hmember⟩ := bind_eq_ok hmore
      have hkey := part_eq_ok hkey
      simp only at hmember
      split at hmember
      · next field hfind =>
        split_ifs at hmember
        obtain ⟨⟨draft', next⟩, hread, hothers⟩ := bind_eq_ok hmember
        exact inside_of_member hsteps hkey (hfill field (List.mem_of_find?_eq_some hfind) draft)
          (part_eq_ok hread) (ih hothers)
      · obtain ⟨⟨⟨⟩, next⟩, hread, hothers⟩ := bind_eq_ok hmember
        exact inside_of_member hsteps hkey hskip (part_eq_ok hread) (ih hothers)

/-- The elements that are read into fields, up to the end of the array. -/
lemma inside_of_inOrder {expected : String} (hfill : ∀ f ∈ fields, ∀ draft, Takes (f.fill draft))
    {read : Nat} {draft filled : σ} {s rest : List Char}
    (h : inOrder expected read fields draft s = .ok (filled, rest)) :
    ∃ w, s = w ++ rest ∧ ∀ space, Blank space → Inside .array (read == 0) (w ++ space) := by
  induction fields generalizing read draft s with
  | nil =>
    cases h
    exact ⟨[], rfl, fun space hspace => .of_blank hspace _⟩
  | cons field fields ih =>
    obtain ⟨⟨more, left⟩, hnext, hmore⟩ := bind_eq_ok h
    have hnext := part_eq_ok hnext
    cases more with
    | false => cases hmore
    | true =>
      obtain ⟨⟨draft', left'⟩, hread, hothers⟩ := bind_eq_ok hmore
      obtain ⟨w, rfl, hsteps⟩ := steps_of_nextElement hnext
      obtain ⟨space, v, rfl, hspace, hv⟩ :=
        hfill field List.mem_cons_self draft _ _ _ (part_eq_ok hread)
      obtain ⟨u, rfl, hu⟩ := ih (fun f hf => hfill f (List.mem_cons_of_mem _ hf)) hothers
      refine ⟨w ++ (space ++ (v ++ u)), by simp, ?_⟩
      intro gap hgap
      have hbody := Tail.body (b := .array) rfl hspace hv (hu gap hgap)
      simpa using hsteps _ hbody

lemma closed_eq_ok {close : Reader Unit} {x : Except Misread (σ × List Char)} {filled : σ}
    {rest : List Char} (h : closed close x = .ok (filled, rest)) :
    ∃ s, x = .ok (filled, s) ∧ close s = .ok ((), rest) := by
  rcases x with (f | ⟨cause, s⟩) | ⟨filled', s⟩
  · cases h
  · rw [closed] at h
    split at h <;> cases h
  · obtain ⟨⟨⟨⟩, s'⟩, hclose, h⟩ := bind_eq_ok h
    cases h
    exact ⟨s, rfl, hclose⟩

lemma takes_record {expected : String} {bound : Nat} {blank : σ}
    (hfill : ∀ f ∈ fields, ∀ draft, Takes (f.fill draft)) :
    Takes (record expected fields bound blank) := by
  intro s filled rest h
  obtain ⟨space, hs, hspace⟩ := skipSpace_split s
  rw [record] at h
  split at h
  · cases h
  · next t heq =>
    obtain ⟨left, hread, hclose⟩ := closed_eq_ok h
    obtain ⟨w, rfl, hinside⟩ := inside_of_inOrder hfill hread
    obtain ⟨gap, rfl, hgap⟩ := closing_of_closeArray hclose
    rw [heq] at hs
    exact ⟨space, _, by simp [hs, Bracket.opening, Bracket.closing], hspace,
      Inside.value (b := .array) (hinside gap hgap)⟩
  · next t heq =>
    obtain ⟨left, hread, hclose⟩ := closed_eq_ok h
    obtain ⟨inner, t', rfl, rfl, hinner⟩ := inside_of_members hfill (takes_skipValue bound) hread
    rw [closeObject_end] at hclose
    cases hclose
    rw [heq] at hs
    exact ⟨space, _, by simp [hs, Bracket.opening, Bracket.closing], hspace,
      Inside.value (b := .object) hinner⟩
  · exact absurd h mismatch_ne_ok

/-- A text that is read as a document holds one value, with nothing but space around it. -/
lemma documentText_of_document {value : Nat → Reader β} (hvalue : ∀ bound, Takes (value bound))
    {source : String} {b : β} (h : document value source = .ok b) :
    ∃ t, DocumentText Verbatim t source.toList := by
  obtain ⟨⟨b', rest⟩, hread, h⟩ := bind_eq_ok h
  obtain ⟨space, v, hs, hspace, t, ht⟩ := hvalue _ _ _ _ hread
  obtain ⟨gap, hrest, hgap⟩ := skipSpace_split rest
  simp only at h
  split at h
  · next heq =>
    rw [heq, List.append_nil] at hrest
    rw [hs, hrest]
    exact ⟨t, .mk hspace ht hgap⟩
  · cases h

end Json

end RoomDraw
