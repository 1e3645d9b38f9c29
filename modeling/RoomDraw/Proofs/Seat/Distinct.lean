import Mathlib.Data.List.Nodup
import Mathlib.Data.List.Range
import Mathlib.Tactic.Linarith
import RoomDraw.Proofs.Seat.Draws
import RoomDraw.Seat.Selection

/-!
# Selections are distinct seats

Each of the three methods makes a list of distinct seats, as many as are wanted, out of draws that
are within their bounds. The invariant of selection by replacement is that the seats chosen are
distinct and older than the newest; shuffling only permutes the seats; rejection keeps the first
occurrence of every draw.
-/

namespace RoomDraw

namespace Selection

/-! ### Replacing in a list -/

lemma mem_of_mem_replace {l : List Nat} {a b x : Nat} (h : x ∈ l.replace a b) : x ∈ l ∨ x = b := by
  induction l with
  | nil => simp at h
  | cons c l ih =>
    rw [List.replace_cons] at h
    split at h
    · rcases List.mem_cons.mp h with rfl | hx
      · exact Or.inr rfl
      · exact Or.inl (List.mem_cons_of_mem c hx)
    · rcases List.mem_cons.mp h with rfl | hx
      · exact Or.inl List.mem_cons_self
      · exact (ih hx).imp_left (List.mem_cons_of_mem c)

/-- A new element in the place of an old one leaves the elements distinct. -/
lemma nodup_replace {l : List Nat} {a b : Nat} (hl : l.Nodup) (hb : b ∉ l) :
    (l.replace a b).Nodup := by
  induction l with
  | nil => simp
  | cons c l ih =>
    obtain ⟨hc, hl⟩ := List.nodup_cons.mp hl
    obtain ⟨hbc, hb⟩ := List.ne_and_not_mem_of_not_mem_cons hb
    rw [List.replace_cons]
    split
    · exact List.nodup_cons.mpr ⟨hb, hl⟩
    · refine List.nodup_cons.mpr ⟨fun hmem => ?_, ih hl hb⟩
      rcases mem_of_mem_replace hmem with hmem | rfl
      · exact hc hmem
      · exact hbc rfl

/-- What is replaced is gone, if it was there only once. -/
lemma not_mem_replace {l : List Nat} {a b : Nat} (hl : l.Nodup) (hab : a ≠ b) :
    a ∉ l.replace a b := by
  induction l with
  | nil => simp
  | cons c l ih =>
    obtain ⟨hc, hl⟩ := List.nodup_cons.mp hl
    rw [List.replace_cons]
    split
    · rename_i hac
      obtain rfl : a = c := by simpa using hac
      exact List.not_mem_cons_of_ne_of_not_mem hab hc
    · rename_i hac
      exact List.not_mem_cons_of_ne_of_not_mem (by simpa using hac) (ih hl)

/-! ### Selection by replacement -/

/-- The invariant of selection by replacement: the seats chosen are distinct and below the
newest. -/
def Older (newest : Nat) (chosen : List Nat) : Prop :=
  chosen.Nodup ∧ ∀ seat ∈ chosen, seat < newest

lemma Older.nil (newest : Nat) : Older newest [] := by simp [Older]

/-- A draw of the newest seat or an older one keeps the invariant. -/
lemma Older.replaceAndPush {newest drawn : Nat} {chosen : List Nat} (h : Older newest chosen)
    (hdrawn : drawn < newest + 1) : Older (newest + 1) (replaceAndPush newest chosen drawn) := by
  obtain ⟨hnodup, hlt⟩ := h
  have hnewest : newest ∉ chosen := by
    intro hmem
    exact Nat.lt_irrefl _ (hlt _ hmem)
  have hgone : drawn ∉ chosen.replace drawn newest := by
    by_cases hd : drawn = newest
    · rw [List.replace_of_not_mem (hd ▸ hnewest)]
      exact hd ▸ hnewest
    · exact not_mem_replace hnodup hd
  constructor
  · refine List.nodup_append.mpr ⟨nodup_replace hnodup hnewest, List.nodup_singleton drawn, ?_⟩
    rintro x hx y hy rfl
    rw [List.mem_singleton.mp hy] at hx
    exact hgone hx
  · intro seat hseat
    rcases List.mem_append.mp hseat with hmem | hmem
    · rcases mem_of_mem_replace hmem with hmem | rfl
      · exact Nat.lt_succ_of_lt (hlt seat hmem)
      · exact Nat.lt_succ_self seat
    · rw [List.mem_singleton.mp hmem]
      exact hdrawn

/-- The invariant holds to the end of a sequence of draws, each of which is below one more. -/
lemma Older.byReplacement {newest : Nat} {chosen draws : List Nat} (h : Older newest chosen)
    (hdraws : ∀ k (hk : k < draws.length), draws[k] < newest + k + 1) :
    Older (newest + draws.length) (byReplacement newest chosen draws) := by
  induction draws generalizing newest chosen with
  | nil => exact h
  | cons drawn draws ih =>
    have hnext := h.replaceAndPush (hdraws 0 (by simp))
    have hlast := ih hnext fun k hk => by
      have := hdraws (k + 1) (by simpa using hk)
      simp only [List.getElem_cons_succ] at this
      omega
    rw [List.length_cons, Nat.add_comm draws.length, ← Nat.add_assoc]
    exact hlast

lemma length_byReplacement (newest : Nat) (chosen draws : List Nat) :
    (byReplacement newest chosen draws).length = chosen.length + draws.length := by
  induction draws generalizing newest chosen with
  | nil => rfl
  | cons drawn draws ih =>
    rw [byReplacement, ih, replaceAndPush, List.length_append, List.length_replace]
    simp only [List.length_cons, List.length_nil]
    omega

/-! ### Selection by shuffling -/

lemma swapIfInBounds_perm (order : Array Nat) (i j : Nat) :
    (order.swapIfInBounds i j).Perm order := by
  rw [Array.swapIfInBounds_def]
  split_ifs with hi hj
  · exact Array.swap_perm hi hj
  · exact Array.Perm.refl order
  · exact Array.Perm.refl order

/-- Shuffling permutes the seats. -/
lemma shuffle_perm (place : Nat) (order : Array Nat) (draws : List Nat) :
    (shuffle place order draws).Perm order := by
  induction draws generalizing place order with
  | nil => exact Array.Perm.refl order
  | cons drawn draws ih => exact (ih _ _).trans (swapIfInBounds_perm order _ _)

lemma toList_shuffle_perm_range (seats : Nat) (draws : List Nat) :
    (shuffle 0 (Array.range seats) draws).toList.Perm (List.range seats) := by
  have h := (shuffle_perm 0 (Array.range seats) draws).toList
  rwa [Array.toList_range] at h

lemma byShuffle_eq_take (seats : Nat) (draws : List Nat) :
    byShuffle seats draws = (shuffle 0 (Array.range seats) draws).toList.take draws.length := by
  simp [byShuffle]

/-! ### Selection by rejection -/

lemma nodup_eraseDups (l : List Nat) : l.eraseDups.Nodup := by
  match l with
  | [] => simp
  | a :: l =>
    rw [List.eraseDups_cons, List.nodup_cons]
    exact ⟨by simp, nodup_eraseDups _⟩
termination_by l.length
decreasing_by
  have := List.length_filter_le (fun b => !b == a) l
  simp only [List.length_cons]
  omega

variable {σ : Type} [Generator σ]

/-- A number of draws by rejection, one after the other. -/
def acceptedDraws (seats count : Nat) : Draw? σ (List Nat) :=
  (List.replicate count seats).mapM evenIndexBelow

lemma acceptedDraws_zero (seats : Nat) (g : σ) : acceptedDraws seats 0 g = some ([], g) := rfl

lemma acceptedDraws_succ {seats count drawn : Nat} {draws : List Nat} {g g₁ g₂ : σ}
    (hdrawn : evenIndexBelow seats g = some (drawn, g₁))
    (hdraws : acceptedDraws seats count g₁ = some (draws, g₂)) :
    acceptedDraws seats (count + 1) g = some (drawn :: draws, g₂) := by
  simp only [acceptedDraws] at hdraws
  simp only [acceptedDraws, List.replicate_succ, List.mapM_cons, Draw?.bind_apply, hdrawn, hdraws,
    Draw?.pure_apply, Option.bind_some]

lemma exists_of_acceptedDraws_succ {seats count : Nat} {draws : List Nat} {g g' : σ}
    (h : acceptedDraws seats (count + 1) g = some (draws, g')) :
    ∃ drawn others g₁, evenIndexBelow seats g = some (drawn, g₁) ∧
      acceptedDraws seats count g₁ = some (others, g') ∧ draws = drawn :: others := by
  simp only [acceptedDraws, List.replicate_succ, List.mapM_cons, Draw?.bind_apply,
    Draw?.pure_apply, Option.bind_eq_some_iff] at h
  obtain ⟨⟨drawn, g₁⟩, hdrawn, ⟨others, g₂⟩, hothers, h⟩ := h
  obtain ⟨rfl, rfl⟩ := Prod.mk.inj (Option.some.inj h)
  exact ⟨drawn, others, g₁, hdrawn, hothers, rfl⟩

lemma lt_of_acceptedDraws {seats count : Nat} {draws : List Nat} {g g' : σ}
    (h : acceptedDraws seats count g = some (draws, g')) : ∀ drawn ∈ draws, drawn < seats := by
  induction count generalizing draws g with
  | zero =>
    rw [acceptedDraws_zero] at h
    simp [← (Prod.mk.inj (Option.some.inj h)).1]
  | succ count ih =>
    obtain ⟨drawn, others, g₁, hdrawn, hothers, rfl⟩ := exists_of_acceptedDraws_succ h
    intro d hd
    rcases List.mem_cons.mp hd with rfl | hd
    · exact evenIndexBelow_lt hdrawn
    · exact ih hothers d hd

/-- The draws that are new once a seat has been seen too. -/
lemma filter_unseen_insert (seen : Std.HashSet Nat) (seat : Nat) (draws : List Nat) :
    (draws.filter fun d => !(seen.insert seat).contains d) =
      (draws.filter fun d => !seen.contains d).filter fun d => !d == seat := by
  rw [List.filter_filter]
  apply List.filter_congr
  intro d _
  rw [Std.HashSet.contains_insert, Bool.not_or, Bool.beq_comm]

lemma filter_unseen_empty (draws : List Nat) :
    (draws.filter fun d => !(∅ : Std.HashSet Nat).contains d) = draws := by
  simp

lemma unseen?_apply {seats drawn : Nat} {g g₁ : σ} (seen : Std.HashSet Nat)
    (h : evenIndexBelow seats g = some (drawn, g₁)) :
    unseen? seats seen g = some (if seen.contains drawn then none else some drawn, g₁) := by
  rw [unseen?, Draw?.bind_apply, h]
  rfl

/-- A draw of an unseen seat drops seats that have been seen, and then gives one that has not. -/
lemma exists_dropped_of_unseen {seats : Nat} {seen : Std.HashSet Nat} {g : σ} {r : Nat × σ}
    (h : untilSome (unseen? seats seen) g = some r) :
    seen.contains r.1 = false ∧ ∃ dropped : List Nat, (∀ d ∈ dropped, seen.contains d) ∧
      ∀ {count draws g'}, acceptedDraws seats count r.2 = some (draws, g') →
        acceptedDraws seats (dropped.length + (count + 1)) g =
          some (dropped ++ r.1 :: draws, g') := by
  have hr := untilSome_eq_some_iff.mp h
  clear h
  induction hr with
  | last hdraw =>
    obtain ⟨⟨drawn, g₁⟩, hdrawn, hr⟩ := Option.bind_eq_some_iff.mp hdraw
    obtain ⟨hseen, rfl⟩ := Prod.mk.inj (Option.some.inj hr)
    split_ifs at hseen with hcontains
    obtain rfl := Option.some.inj hseen
    refine ⟨by simpa using hcontains, [], by simp, ?_⟩
    intro count draws g' hdraws
    simpa using acceptedDraws_succ hdrawn hdraws
  | again hdraw _ ih =>
    obtain ⟨⟨drawn, g₁⟩, hdrawn, hr⟩ := Option.bind_eq_some_iff.mp hdraw
    obtain ⟨hseen, rfl⟩ := Prod.mk.inj (Option.some.inj hr)
    split_ifs at hseen with hcontains
    obtain ⟨hunseen, dropped, hdropped, haccepted⟩ := ih
    refine ⟨hunseen, drawn :: dropped, ?_, ?_⟩
    · intro d hd
      rcases List.mem_cons.mp hd with rfl | hd
      · exact hcontains
      · exact hdropped d hd
    · intro count draws g' hdraws
      rw [List.length_cons, Nat.add_right_comm]
      exact acceptedDraws_succ hdrawn (haccepted hdraws)

/-- What rejection selects: the first occurrences of the draws that the generator gives, without
those seen before. -/
lemma untilDistinct_eq_eraseDups {seats wanted : Nat} {seen : Std.HashSet Nat} {g : σ}
    {r : List Nat × σ} (h : untilDistinct seats wanted seen g = some r) :
    r.1.length = wanted ∧ ∃ draws : List Nat,
      acceptedDraws seats draws.length g = some (draws, r.2) ∧
      r.1 = (draws.filter fun d => !seen.contains d).eraseDups := by
  induction wanted generalizing seen g r with
  | zero =>
    obtain rfl := Option.some.inj h
    exact ⟨rfl, [], acceptedDraws_zero seats g, by simp⟩
  | succ wanted ih =>
    obtain ⟨⟨seat, g₁⟩, hseat, h⟩ := Option.bind_eq_some_iff.mp h
    obtain ⟨⟨others, g₂⟩, hothers, h⟩ := Option.bind_eq_some_iff.mp h
    obtain rfl := Option.some.inj h
    obtain ⟨hunseen, dropped, hdropped, haccepted⟩ := exists_dropped_of_unseen hseat
    obtain ⟨hlength, draws, hdraws, heq⟩ := ih hothers
    refine ⟨congrArg (· + 1) hlength, dropped ++ seat :: draws, ?_, ?_⟩
    · rw [List.length_append, List.length_cons]
      exact haccepted hdraws
    -- the seats dropped have been seen, and later ones are compared with this one too
    have hnone : (dropped.filter fun d => !seen.contains d) = [] := by
      apply List.filter_eq_nil_iff.mpr
      intro d hd
      simp [hdropped d hd]
    rw [List.filter_append, hnone, List.nil_append,
      List.filter_cons_of_pos (by simpa using hunseen), List.eraseDups_cons,
      ← filter_unseen_insert]
    exact congrArg (seat :: ·) heq

/-- Rejection ends if there are enough new seats among the draws that the generator gives. The
induction is on these draws: one that has been seen is dropped, and one that is new is wanted no
more. -/
lemma exists_untilDistinct_of_acceptedDraws {seats wanted count : Nat} {seen : Std.HashSet Nat}
    {draws : List Nat} {g g' : σ} (hdraws : acceptedDraws seats count g = some (draws, g'))
    (henough : wanted ≤ (draws.filter fun d => !seen.contains d).eraseDups.length) :
    ∃ r, untilDistinct seats wanted seen g = some r := by
  induction count generalizing wanted seen draws g with
  | zero =>
    obtain rfl : [] = draws := (Prod.mk.inj (Option.some.inj hdraws)).1
    obtain rfl : wanted = 0 := by simpa using henough
    exact ⟨_, rfl⟩
  | succ count ih =>
    cases wanted with
    | zero => exact ⟨_, rfl⟩
    | succ wanted =>
      obtain ⟨drawn, others, g₁, hdrawn, hothers, rfl⟩ := exists_of_acceptedDraws_succ hdraws
      have hunseen := unseen?_apply seen hdrawn
      by_cases hseen : seen.contains drawn
      · rw [List.filter_cons_of_neg (by simp [hseen])] at henough
        obtain ⟨r, hr⟩ := ih hothers henough
        obtain ⟨first, hfirst, hr⟩ := Option.bind_eq_some_iff.mp hr
        rw [if_pos hseen] at hunseen
        have hagain : untilSome (unseen? seats seen) g = some first :=
          untilSome_eq_some_iff.mpr (.again hunseen (untilSome_eq_some_iff.mp hfirst))
        exact ⟨r, Option.bind_eq_some_iff.mpr ⟨first, hagain, hr⟩⟩
      · rw [List.filter_cons_of_pos (by simp [hseen]), List.eraseDups_cons, ← filter_unseen_insert]
          at henough
        obtain ⟨r, hr⟩ := ih hothers (Nat.le_of_succ_le_succ henough)
        rw [if_neg hseen] at hunseen
        have hlast : untilSome (unseen? seats seen) g = some (drawn, g₁) :=
          untilSome_eq_some_iff.mpr (.last hunseen)
        exact ⟨_, Option.bind_eq_some_iff.mpr
          ⟨_, hlast, Option.bind_eq_some_iff.mpr ⟨r, hr, rfl⟩⟩⟩

/-- From the start, rejection selects the first occurrences of all draws that it accepts. -/
lemma untilDistinct_empty {seats wanted : Nat} {g : σ} {r : List Nat × σ}
    (h : untilDistinct seats wanted ∅ g = some r) :
    r.1.length = wanted ∧ ∃ draws : List Nat,
      acceptedDraws seats draws.length g = some (draws, r.2) ∧ r.1 = draws.eraseDups := by
  obtain ⟨hlength, draws, hdraws, heq⟩ := untilDistinct_eq_eraseDups h
  rw [filter_unseen_empty] at heq
  exact ⟨hlength, draws, hdraws, heq⟩

/-! ### All methods -/

/-- What a method makes of draws within their bounds. -/
inductive FromDraws (seats amount : Nat) : SelectionMethod → List Nat → Prop
  | replacement {draws : List Nat} (h : Within (replacementBounds seats amount) draws) :
      FromDraws seats amount .replacement (byReplacement (seats - amount) [] draws)
  | shuffle {draws : List Nat} (h : Within (shuffleBounds seats amount) draws) :
      FromDraws seats amount .shuffle (byShuffle seats draws)
  | rejection {draws : List Nat} (h : ∀ drawn ∈ draws, drawn < seats)
      (hamount : draws.eraseDups.length = amount) :
      FromDraws seats amount .rejection draws.eraseDups

/-- A method makes a list of distinct seats, as many as are wanted. -/
lemma FromDraws.distinct {seats amount : Nat} {method : SelectionMethod} {chosen : List Nat}
    (h : FromDraws seats amount method chosen) (hamount : amount ≤ seats) :
    chosen.Nodup ∧ (∀ seat ∈ chosen, seat < seats) ∧ chosen.length = amount := by
  cases h with
  | @replacement draws h =>
    have hlength : draws.length = amount := by simpa [replacementBounds] using h.length_eq
    have hdraws : ∀ k (hk : k < draws.length), draws[k] < seats - amount + k + 1 := by
      intro k hk
      simpa [replacementBounds] using h.getElem_lt hk (h.length_eq ▸ hk)
    obtain ⟨hnodup, hlt⟩ := (Older.nil (seats - amount)).byReplacement hdraws
    rw [hlength, Nat.sub_add_cancel hamount] at hlt
    exact ⟨hnodup, hlt, by simp [length_byReplacement, hlength]⟩
  | @shuffle draws h =>
    have hlength : draws.length = amount := by simpa [shuffleBounds] using h.length_eq
    have hperm := toList_shuffle_perm_range seats draws
    rw [byShuffle_eq_take]
    refine ⟨(hperm.nodup_iff.mpr List.nodup_range).sublist (List.take_sublist _ _), ?_, ?_⟩
    · intro seat hseat
      exact List.mem_range.mp (hperm.mem_iff.mp (List.mem_of_mem_take hseat))
    · rw [List.length_take, hperm.length_eq, List.length_range]
      omega
  | @rejection draws h hlength =>
    exact ⟨nodup_eraseDups draws, fun seat hseat => h seat (List.mem_eraseDups.mp hseat), hlength⟩

end Selection

open Selection

variable {σ : Type} [Generator σ]

/-- Every bound is above zero, so that there is an index to draw. -/
lemma pos_of_mem_replacementBounds {seats amount bound : Nat}
    (h : bound ∈ replacementBounds seats amount) : 0 < bound := by
  obtain ⟨k, _, rfl⟩ := List.mem_map.mp h
  exact Nat.succ_pos _

lemma pos_of_mem_shuffleBounds {seats amount bound : Nat} (hamount : amount ≤ seats)
    (h : bound ∈ shuffleBounds seats amount) : 0 < bound := by
  obtain ⟨k, hk, rfl⟩ := List.mem_map.mp h
  have := List.mem_range.mp hk
  omega

/-- Whatever method selects seats, it makes them of draws within their bounds. -/
lemma fromDraws_of_selectSeatsBy {method : SelectionMethod} {seats amount : Nat} {g : σ}
    {r : List Nat × σ} (hamount : amount ≤ seats)
    (h : selectSeatsBy method seats amount g = some r) : FromDraws seats amount method r.1 := by
  cases method with
  | replacement =>
    obtain rfl := Option.some.inj h
    exact .replacement (within_mapM_indexBelow (fun _ => pos_of_mem_replacementBounds) g)
  | shuffle =>
    obtain rfl := Option.some.inj h
    exact .shuffle (within_mapM_indexBelow (fun _ => pos_of_mem_shuffleBounds hamount) g)
  | rejection =>
    obtain ⟨hlength, draws, hdraws, heq⟩ := untilDistinct_empty h
    rw [heq] at hlength ⊢
    exact .rejection (lt_of_acceptedDraws hdraws) hlength

end RoomDraw
