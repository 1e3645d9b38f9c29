import Mathlib.Data.Nat.Factorial.Basic
import Mathlib.Data.Set.Card
import RoomDraw.Generator.Script
import RoomDraw.Proofs.Seat.Arrangements

/-!
# Selections are unbiased

As every ordered selection comes from exactly one sequence of draws, the selections that begin with
a seat, and those that put the others in some order, can be counted instead of the draws. So no seat
and no order is favoured, if no draw is.
-/

namespace RoomDraw

namespace Selection

variable {order : Array Nat} {place : Nat}

/-! ### Equally many draws -/

lemma ncard_drawsWithin (bounds : List Nat) : (drawsWithin bounds).ncard = bounds.prod := by
  induction bounds with
  | nil =>
    have hdraws : drawsWithin [] = {[]} := Set.ext fun draws => within_nil
    rw [hdraws, Set.ncard_singleton, List.prod_nil]
  | cons bound bounds ih =>
    have hdraws : drawsWithin (bound :: bounds) =
        (fun p : Nat × List Nat => p.1 :: p.2) '' (Set.Iio bound ×ˢ drawsWithin bounds) := by
      ext draws
      constructor
      · intro hdraws
        obtain ⟨drawn, others, hdrawn, hothers, rfl⟩ := within_cons.mp hdraws
        exact ⟨(drawn, others), ⟨hdrawn, hothers⟩, rfl⟩
      · rintro ⟨⟨drawn, others⟩, ⟨hdrawn, hothers⟩, rfl⟩
        exact within_cons.mpr ⟨drawn, others, hdrawn, hothers, rfl⟩
    have hinjective : Function.Injective fun p : Nat × List Nat => p.1 :: p.2 := by
      intro p q h
      exact Prod.ext (List.cons.inj h).1 (List.cons.inj h).2
    have hbound : (Set.Iio bound).ncard = bound := by
      rw [← Finset.coe_range, Set.ncard_coe_finset, Finset.card_range]
    rw [hdraws, Set.ncard_image_of_injective _ hinjective, Set.ncard_prod, ih, hbound,
      List.prod_cons]

lemma prod_shuffleBounds (seats amount : Nat) :
    (shuffleBounds seats amount).prod = seats.descFactorial amount := by
  induction amount generalizing seats with
  | zero => rfl
  | succ amount ih =>
    rw [shuffleBounds_succ, List.prod_cons, ih]
    cases seats with
    | zero => rw [Nat.zero_mul, Nat.zero_descFactorial_succ]
    | succ seats => rw [Nat.succ_descFactorial_succ, Nat.add_sub_cancel]

lemma ncard_arrangements_poolFrom {amount : Nat} (hnodup : order.toList.Nodup)
    (hamount : place + amount ≤ order.size) :
    (arrangements (poolFrom order place) amount).ncard =
      (order.size - place).descFactorial amount := by
  rw [← (bijOn_filled hnodup hamount).ncard_eq, ncard_drawsWithin, prod_shuffleBounds]

/-- Any seat is the first of equally many ordered selections: the others are selected from the seats
behind it, once it has been moved to the front. -/
lemma ncard_arrangements_first {seats amount seat : Nat} (hamount : amount + 1 ≤ seats)
    (hseat : seat < seats) :
    {chosen ∈ arrangements (Set.Iio seats) (amount + 1) | chosen.head? = some seat}.ncard =
      (seats - 1).descFactorial amount := by
  have hselections :
      {chosen ∈ arrangements (Set.Iio seats) (amount + 1) | chosen.head? = some seat} =
        (seat :: ·) '' arrangements (Set.Iio seats \ {seat}) amount := by
    ext chosen
    constructor
    · rintro ⟨hchosen, hfirst⟩
      obtain ⟨others, rfl⟩ := List.head?_eq_some_iff.mp hfirst
      exact ⟨others, (cons_mem_arrangements.mp hchosen).2, rfl⟩
    · rintro ⟨others, hothers, rfl⟩
      exact ⟨cons_mem_arrangements.mpr ⟨hseat, hothers⟩, rfl⟩
  have hrange : 0 + seat < (Array.range seats).size := by simpa using hseat
  have hothers : Set.Iio seats \ {seat} =
      poolFrom ((Array.range seats).swap 0 (0 + seat) (by omega) hrange) (0 + 1) := by
    rw [poolFrom_swap (nodup_range seats) hrange, poolFrom_range, Array.getElem_range, Nat.zero_add]
  have hsize : ((Array.range seats).swap 0 (0 + seat) (by omega) hrange).size = seats := by simp
  rw [hselections, Set.ncard_image_of_injective _ List.cons_injective, hothers,
    ncard_arrangements_poolFrom (nodup_swap (nodup_range seats) _ _) (by omega), hsize]

/-- Any order of the others stands behind equally many seats: those that are not among them. -/
lemma ncard_arrangements_others {seats amount : Nat} {others : List Nat}
    (hothers : others ∈ arrangements (Set.Iio seats) amount) :
    {chosen ∈ arrangements (Set.Iio seats) (amount + 1) | chosen.tail = others}.ncard =
      seats - amount := by
  obtain ⟨hnodup, hlt, hlength⟩ := hothers
  have hselections :
      {chosen ∈ arrangements (Set.Iio seats) (amount + 1) | chosen.tail = others} =
        (· :: others) '' ↑(Finset.range seats \ others.toFinset) := by
    ext chosen
    constructor
    · rintro ⟨hchosen, rfl⟩
      cases chosen with
      | nil => cases hchosen.2.2
      | cons seat others =>
        refine ⟨seat, ?_, rfl⟩
        simpa using ⟨hchosen.2.1 seat List.mem_cons_self, (List.nodup_cons.mp hchosen.1).1⟩
    · rintro ⟨seat, hseat, rfl⟩
      obtain ⟨hseat, hmem⟩ : seat < seats ∧ seat ∉ others := by simpa using hseat
      refine ⟨cons_mem_arrangements.mpr ⟨hseat, hnodup, ?_, hlength⟩, rfl⟩
      exact fun other hother => ⟨hlt other hother, fun heq => hmem (heq ▸ hother)⟩
  have hsubset : others.toFinset ⊆ Finset.range seats := by
    intro other hother
    exact Finset.mem_range.mpr (hlt other (List.mem_toFinset.mp hother))
  rw [hselections, Set.ncard_image_of_injective _ fun _ _ h => (List.cons.inj h).1,
    Set.ncard_coe_finset, Finset.card_sdiff_of_subset hsubset, Finset.card_range,
    List.toFinset_card_of_nodup hnodup, hlength]

/-- A selection that is made of a sequence of draws is unbiased: every ordered selection of distinct
seats comes from exactly one sequence within the bounds. -/
structure Unbiased (seats amount : Nat) (bounds : List Nat) (select : List Nat → List Nat) :
    Prop where
  bijOn : Set.BijOn select (drawsWithin bounds) (arrangements (Set.Iio seats) amount)
  ncard_draws : (drawsWithin bounds).ncard = seats.descFactorial amount
  /-- Every order of the seats chosen comes from one sequence. -/
  ncard_order : ∀ chosen ∈ arrangements (Set.Iio seats) amount,
    {draws ∈ drawsWithin bounds | select draws = chosen}.ncard = 1
  /-- Every seat comes first in equally many. -/
  ncard_first : ∀ seat < seats,
    {draws ∈ drawsWithin bounds | (select draws).head? = some seat}.ncard =
      (seats - 1).descFactorial (amount - 1)
  /-- Every order of the seats behind the first comes from equally many. -/
  ncard_others : ∀ others ∈ arrangements (Set.Iio seats) (amount - 1),
    {draws ∈ drawsWithin bounds | (select draws).tail = others}.ncard = seats - (amount - 1)

lemma ncard_sep_of_bijOn {D A : Set (List Nat)} {select : List Nat → List Nat}
    (h : Set.BijOn select D A) (P : List Nat → Prop) :
    {draws ∈ D | P (select draws)}.ncard = {chosen ∈ A | P chosen}.ncard := by
  have hsep : Set.BijOn select {draws ∈ D | P (select draws)} {chosen ∈ A | P chosen} := by
    refine ⟨fun draws hdraws => ⟨h.mapsTo hdraws.1, hdraws.2⟩,
      h.injOn.mono fun draws hdraws => hdraws.1, ?_⟩
    rintro chosen ⟨hchosen, hP⟩
    obtain ⟨draws, hdraws, rfl⟩ := h.surjOn hchosen
    exact ⟨draws, ⟨hdraws, hP⟩, rfl⟩
  exact hsep.ncard_eq

/-- Draws are spread evenly by any bijection. -/
lemma Unbiased.of_bijOn {seats amount : Nat} {bounds : List Nat} {select : List Nat → List Nat}
    (hpos : 0 < amount) (hamount : amount ≤ seats)
    (h : Set.BijOn select (drawsWithin bounds) (arrangements (Set.Iio seats) amount)) :
    Unbiased seats amount bounds select where
  bijOn := h
  ncard_draws := by
    rw [h.ncard_eq, ← (bijOn_byShuffle hamount).ncard_eq, ncard_drawsWithin, prod_shuffleBounds]
  ncard_order := by
    intro chosen hchosen
    rw [ncard_sep_of_bijOn h (· = chosen), Set.ncard_eq_one]
    refine ⟨chosen, Set.ext fun other => ⟨fun hother => hother.2, ?_⟩⟩
    rintro rfl
    exact ⟨hchosen, rfl⟩
  ncard_first := by
    intro seat hseat
    obtain ⟨amount, rfl⟩ := Nat.exists_eq_add_one_of_ne_zero hpos.ne'
    rw [ncard_sep_of_bijOn h (·.head? = some seat)]
    exact ncard_arrangements_first hamount hseat
  ncard_others := by
    intro others hothers
    obtain ⟨amount, rfl⟩ := Nat.exists_eq_add_one_of_ne_zero hpos.ne'
    rw [ncard_sep_of_bijOn h (·.tail = others)]
    exact ncard_arrangements_others hothers

end Selection

open Selection

/-- Words that are all free of bias give as many accepted draws. -/
lemma acceptedDraws_of_mapM_evenIndex? {σ : Type} [Generator σ] {seats count : Nat}
    {draws : List Nat} {g g' : σ}
    (h : (List.replicate count seats).mapM (m := StateM σ) evenIndex? g = (draws.map some, g')) :
    acceptedDraws seats count g = some (draws, g') := by
  induction count generalizing draws g with
  | zero =>
    obtain ⟨hdraws, rfl⟩ := Prod.mk.inj h
    obtain rfl : draws = [] := by simpa using hdraws.symm
    rfl
  | succ count ih =>
    simp only [List.replicate_succ, List.mapM_cons, Draw.bind_apply, Draw.pure_apply] at h
    obtain ⟨hdraws, rfl⟩ := Prod.mk.inj h
    cases draws with
    | nil => cases hdraws
    | cons drawn draws =>
      obtain ⟨hdrawn, hdraws⟩ := List.cons.inj hdraws
      have hfirst : settled (evenIndex? seats) g = some (some drawn, (evenIndex? seats g).2) :=
        congrArg some (Prod.ext hdrawn rfl)
      exact acceptedDraws_succ (untilSome_eq_some_iff.mpr (.last hfirst))
        (ih (Prod.ext hdraws rfl))

/-- The selection of seats is unbiased. Replacement and shuffling select what their draws say, and
every selection in every order comes from exactly one sequence of draws within the bounds. Rejection
selects the first occurrences of the draws that it accepts, and ends once they are enough. -/
theorem selectSeats_unbiased (σ : Type) [Generator σ] {seats amount : Nat} (hpos : 0 < amount)
    (hamount : amount ≤ seats) :
    (SelectionMethod.choose seats amount = .replacement →
      Unbiased seats amount (replacementBounds seats amount) (byReplacement (seats - amount) []) ∧
      ∀ g : σ, ∃ draws g',
        (replacementBounds seats amount).mapM (m := StateM σ) indexBelow g = (draws, g') ∧
        draws ∈ drawsWithin (replacementBounds seats amount) ∧
        selectSeats seats amount g = some (byReplacement (seats - amount) [] draws, g')) ∧
    (SelectionMethod.choose seats amount = .shuffle →
      Unbiased seats amount (shuffleBounds seats amount) (byShuffle seats) ∧
      ∀ g : σ, ∃ draws g',
        (shuffleBounds seats amount).mapM (m := StateM σ) indexBelow g = (draws, g') ∧
        draws ∈ drawsWithin (shuffleBounds seats amount) ∧
        selectSeats seats amount g = some (byShuffle seats draws, g')) ∧
    (SelectionMethod.choose seats amount = .rejection →
      (∀ (g : σ) chosen g', selectSeats seats amount g = some (chosen, g') →
        ∃ draws, acceptedDraws seats draws.length g = some (draws, g') ∧
          (∀ drawn ∈ draws, drawn < seats) ∧ chosen = draws.eraseDups ∧
          chosen.length = amount) ∧
      ∀ (g : σ) draws g', acceptedDraws seats draws.length g = some (draws, g') →
        amount ≤ draws.eraseDups.length → ∃ r, selectSeats seats amount g = some r) := by
  refine ⟨fun hmethod => ⟨?_, fun g => ?_⟩, fun hmethod => ⟨?_, fun g => ?_⟩,
    fun hmethod => ⟨fun g chosen g' h => ?_, fun g draws g' hdraws henough => ?_⟩⟩
  · have hbijOn := bijOn_byReplacement (seats - amount) amount
    rw [Nat.sub_add_cancel hamount] at hbijOn
    exact .of_bijOn hpos hamount hbijOn
  · refine ⟨_, _, rfl, within_mapM_indexBelow (fun _ => pos_of_mem_replacementBounds) g, ?_⟩
    rw [selectSeats, hmethod]
    rfl
  · exact .of_bijOn hpos hamount (bijOn_byShuffle hamount)
  · refine ⟨_, _, rfl, within_mapM_indexBelow (fun _ => pos_of_mem_shuffleBounds hamount) g, ?_⟩
    rw [selectSeats, hmethod]
    rfl
  · rw [selectSeats, hmethod] at h
    obtain ⟨hlength, draws, hdraws, heq⟩ := untilDistinct_empty h
    exact ⟨draws, hdraws, lt_of_acceptedDraws hdraws, heq, hlength⟩
  · rw [selectSeats, hmethod]
    exact exists_untilDistinct_of_acceptedDraws hdraws (by rwa [filter_unseen_empty])

/-- Three seats of five are replaced, twelve of twelve shuffled, and 163 of 50000 drawn until they
are different; the words of the script are all free of bias. -/
theorem selectSeats_unbiased_of_each_method :
    let script := Script.ofList ((List.range 163).map fun k => UInt64.ofNat (85900 * (k + 1)))
    Unbiased 5 3 (replacementBounds 5 3) (byReplacement 2 []) ∧
      Unbiased 12 12 (shuffleBounds 12 12) (byShuffle 12) ∧
      ∃ chosen g', selectSeats 50000 163 script = some (chosen, g') ∧ chosen.length = 163 := by
  intro script
  have hreplacement :=
    (selectSeats_unbiased Script (show 0 < 3 by decide) (show 3 ≤ 5 by decide)).1
      (by decide +kernel)
  have hshuffle :=
    (selectSeats_unbiased Script (show 0 < 12 by decide) (Nat.le_refl 12)).2.1 (by decide +kernel)
  obtain ⟨hdistinct, hends⟩ :=
    (selectSeats_unbiased Script (show 0 < 163 by decide) (show 163 ≤ 50000 by decide)).2.2
      (by decide +kernel)
  set draws := (List.range 163).map fun k => 85900 * (k + 1) * 50000 / wordCount
  have hwords : (List.replicate draws.length 50000).mapM (m := StateM Script) evenIndex? script =
      (draws.map some, script) := Prod.ext (by decide +kernel) (by decide +kernel)
  obtain ⟨⟨chosen, g'⟩, hselect⟩ :=
    hends script draws script (acceptedDraws_of_mapM_evenIndex? hwords) (by decide +kernel)
  obtain ⟨-, -, -, -, hlength⟩ := hdistinct script chosen g' hselect
  exact ⟨hreplacement.1, hshuffle.1, chosen, g', hselect, hlength⟩

end RoomDraw
