import Mathlib.Data.Set.Function
import RoomDraw.Proofs.Seat.Distinct

/-!
# Selections and their draws

Selection by replacement and selection by shuffling make every ordered selection of distinct seats
from exactly one sequence of draws. Both bijections are found step by step. For replacement, the
last draw stands at the end of the list, and undoing its step leaves the selection that was there
before. For shuffling, the first seat tells the first draw, and what is left is a shuffle of the
other seats.
-/

namespace RoomDraw

namespace Selection

/-- The ordered selections of an amount of distinct seats from a pool. -/
def arrangements (pool : Set Nat) (amount : Nat) : Set (List Nat) :=
  {chosen | chosen.Nodup ∧ (∀ seat ∈ chosen, seat ∈ pool) ∧ chosen.length = amount}

/-- The sequences of draws within their bounds. -/
def drawsWithin (bounds : List Nat) : Set (List Nat) := {draws | Within bounds draws}

lemma arrangements_zero (pool : Set Nat) : arrangements pool 0 = {[]} := by
  ext chosen
  constructor
  · rintro ⟨-, -, hlength⟩
    exact List.length_eq_zero_iff.mp hlength
  · rintro rfl
    exact ⟨List.nodup_nil, by simp, rfl⟩

/-- The first seat is one of the pool, and the others are selected from what it leaves. -/
lemma cons_mem_arrangements {pool : Set Nat} {amount seat : Nat} {chosen : List Nat} :
    seat :: chosen ∈ arrangements pool (amount + 1) ↔
      seat ∈ pool ∧ chosen ∈ arrangements (pool \ {seat}) amount := by
  constructor
  · rintro ⟨hnodup, hpool, hlength⟩
    obtain ⟨hseat, hnodup⟩ := List.nodup_cons.mp hnodup
    refine ⟨hpool seat List.mem_cons_self, hnodup, ?_, Nat.succ.inj hlength⟩
    intro other hother
    exact ⟨hpool other (List.mem_cons_of_mem seat hother), fun h => hseat (h ▸ hother)⟩
  · rintro ⟨hseat, hnodup, hpool, hlength⟩
    refine ⟨List.nodup_cons.mpr ⟨fun h => (hpool seat h).2 rfl, hnodup⟩, ?_, congrArg _ hlength⟩
    intro other hother
    rcases List.mem_cons.mp hother with rfl | hother
    · exact hseat
    · exact (hpool other hother).1

/-! ### Selection by replacement -/

/-- What is put in the place of an element can be exchanged for it again. -/
lemma replace_replace_cancel {l : List Nat} {a b : Nat} (hb : b ∉ l) :
    (l.replace a b).replace b a = l := by
  induction l with
  | nil => simp
  | cons c l ih =>
    obtain ⟨hbc, hb⟩ := List.ne_and_not_mem_of_not_mem_cons hb
    have hbc' : (b == c) = false := by simpa using hbc
    by_cases hac : a = c
    · simp [hac]
    · have hac' : (a == c) = false := by simpa using hac
      simp only [List.replace_cons, hac', hbc', ih hb]

/-- The draw and the selection before it are known from what the step makes of them. -/
lemma replaceAndPush_inj {newest drawn drawn' : Nat} {chosen chosen' : List Nat}
    (hchosen : newest ∉ chosen) (hchosen' : newest ∉ chosen')
    (h : replaceAndPush newest chosen drawn = replaceAndPush newest chosen' drawn') :
    chosen = chosen' ∧ drawn = drawn' := by
  obtain ⟨hreplace, hdrawn⟩ := List.append_inj' h rfl
  obtain rfl := List.singleton_inj.mp hdrawn
  refine ⟨?_, rfl⟩
  rw [← replace_replace_cancel (a := drawn) hchosen, hreplace, replace_replace_cancel hchosen']

/-- Every selection that may use the newest seat comes from one that does not: the last seat was
drawn, and the newest stands where it was before, if it stands anywhere. -/
lemma exists_replaceAndPush {newest amount : Nat} {chosen : List Nat}
    (h : chosen ∈ arrangements (Set.Iio (newest + 1)) (amount + 1)) :
    ∃ before ∈ arrangements (Set.Iio newest) amount, ∃ drawn < newest + 1,
      replaceAndPush newest before drawn = chosen := by
  obtain ⟨hnodup, hlt, hlength⟩ := h
  obtain rfl | ⟨others, drawn, rfl⟩ := List.eq_nil_or_concat' chosen
  · cases hlength
  obtain ⟨hothers, -, hdisjoint⟩ := List.nodup_append.mp hnodup
  have hdrawn : drawn ∉ others := fun hmem =>
    hdisjoint drawn hmem drawn List.mem_cons_self rfl
  refine ⟨others.replace newest drawn, ⟨nodup_replace hothers hdrawn, ?_, ?_⟩, drawn,
    hlt drawn (by simp), ?_⟩
  · intro seat hseat
    have hle : seat < newest + 1 := by
      rcases mem_of_mem_replace hseat with hmem | rfl
      · exact hlt seat (List.mem_append_left _ hmem)
      · exact hlt seat (by simp)
    have hne : seat ≠ newest := by
      rintro rfl
      by_cases heq : seat = drawn
      · rw [heq, List.replace_of_not_mem hdrawn] at hseat
        exact hdrawn hseat
      · exact not_mem_replace hothers heq hseat
    exact Nat.lt_of_le_of_ne (Nat.lt_succ_iff.mp hle) hne
  · simpa using hlength
  · rw [replaceAndPush, replace_replace_cancel hdrawn]

lemma byReplacement_append (newest : Nat) (chosen draws : List Nat) (drawn : Nat) :
    byReplacement newest chosen (draws ++ [drawn]) =
      replaceAndPush (newest + draws.length) (byReplacement newest chosen draws) drawn := by
  induction draws generalizing newest chosen with
  | nil => rfl
  | cons first draws ih =>
    rw [List.cons_append, byReplacement, ih, byReplacement, List.length_cons, Nat.add_right_comm,
      Nat.add_assoc newest]

lemma within_append_singleton {bounds : List Nat} {bound : Nat} {draws : List Nat} :
    Within (bounds ++ [bound]) draws ↔
      ∃ others drawn, Within bounds others ∧ drawn < bound ∧ draws = others ++ [drawn] := by
  induction bounds generalizing draws with
  | nil => simp
  | cons first bounds ih =>
    simp only [List.cons_append, within_cons, ih]
    constructor
    · rintro ⟨d, _, hd, ⟨others, drawn, hothers, hdrawn, rfl⟩, rfl⟩
      exact ⟨d :: others, drawn, ⟨d, others, hd, hothers, rfl⟩, hdrawn, rfl⟩
    · rintro ⟨_, drawn, ⟨d, others, hd, hothers, rfl⟩, hdrawn, rfl⟩
      exact ⟨d, others ++ [drawn], hd, ⟨others, drawn, hothers, hdrawn, rfl⟩, rfl⟩

lemma replacementBounds_succ (newest amount : Nat) :
    replacementBounds (newest + (amount + 1)) (amount + 1) =
      replacementBounds (newest + amount) amount ++ [newest + amount + 1] := by
  simp [replacementBounds, List.range_succ]

/-- The last of the draws makes a step on the selection of the others. -/
lemma exists_step_of_drawsWithin {newest amount : Nat} {draws : List Nat}
    (h : draws ∈ drawsWithin (replacementBounds (newest + (amount + 1)) (amount + 1))) :
    ∃ others ∈ drawsWithin (replacementBounds (newest + amount) amount),
      ∃ drawn < newest + amount + 1, draws = others ++ [drawn] ∧
        byReplacement newest [] draws =
          replaceAndPush (newest + amount) (byReplacement newest [] others) drawn := by
  rw [replacementBounds_succ] at h
  obtain ⟨others, drawn, hothers, hdrawn, rfl⟩ := within_append_singleton.mp h
  have hlength : others.length = amount := by simpa [replacementBounds] using hothers.length_eq
  exact ⟨others, hothers, drawn, hdrawn, rfl, by rw [byReplacement_append, hlength]⟩

/-- Selection by replacement is a bijection, by induction on the number of draws: one more step
brings in one more seat. -/
lemma bijOn_byReplacement (newest amount : Nat) :
    Set.BijOn (byReplacement newest []) (drawsWithin (replacementBounds (newest + amount) amount))
      (arrangements (Set.Iio (newest + amount)) amount) := by
  induction amount with
  | zero =>
    have hdraws : drawsWithin (replacementBounds (newest + 0) 0) = {[]} :=
      Set.ext fun draws => within_nil
    rw [hdraws, arrangements_zero]
    exact Set.bijOn_singleton.mpr rfl
  | succ amount ih =>
    have hnewest : ∀ others ∈ drawsWithin (replacementBounds (newest + amount) amount),
        newest + amount ∉ byReplacement newest [] others :=
      fun others hothers hmem => Nat.lt_irrefl _ ((ih.mapsTo hothers).2.1 _ hmem)
    refine ⟨?_, ?_, ?_⟩
    · intro draws hdraws
      obtain ⟨others, hothers, drawn, hdrawn, -, hstep⟩ := exists_step_of_drawsWithin hdraws
      obtain ⟨hnodup, hlt, hlength⟩ := ih.mapsTo hothers
      obtain ⟨hnodup, hlt⟩ := Older.replaceAndPush ⟨hnodup, hlt⟩ hdrawn
      rw [hstep]
      exact ⟨hnodup, hlt, by simp [replaceAndPush, hlength]⟩
    · intro draws hdraws draws' hdraws' heq
      obtain ⟨others, hothers, drawn, -, rfl, hstep⟩ := exists_step_of_drawsWithin hdraws
      obtain ⟨others', hothers', drawn', -, rfl, hstep'⟩ := exists_step_of_drawsWithin hdraws'
      obtain ⟨hbefore, rfl⟩ := replaceAndPush_inj (hnewest others hothers)
        (hnewest others' hothers') (hstep.symm.trans (heq.trans hstep'))
      rw [ih.injOn hothers hothers' hbefore]
    · intro chosen hchosen
      obtain ⟨before, hbefore, drawn, hdrawn, rfl⟩ :
          ∃ before ∈ arrangements (Set.Iio (newest + amount)) amount,
            ∃ drawn < newest + amount + 1,
              replaceAndPush (newest + amount) before drawn = chosen :=
        exists_replaceAndPush hchosen
      obtain ⟨others, hothers, rfl⟩ := ih.surjOn hbefore
      have hlength : others.length = amount := by
        simpa [replacementBounds] using Within.length_eq hothers
      refine ⟨others ++ [drawn], ?_, by rw [byReplacement_append, hlength]⟩
      rw [replacementBounds_succ]
      exact within_append_singleton.mpr ⟨others, drawn, hothers, hdrawn, rfl⟩

/-! ### Selection by shuffling -/

/-- The seats from a place on. -/
def poolFrom (order : Array Nat) (place : Nat) : Set Nat :=
  {seat | ∃ k, place ≤ k ∧ order[k]? = some seat}

/-- What a shuffle from a place on makes of the places that the draws fill. -/
def filled (place : Nat) (order : Array Nat) (draws : List Nat) : List Nat :=
  ((shuffle place order draws).toList.drop place).take draws.length

lemma byShuffle_eq_filled (seats : Nat) (draws : List Nat) :
    byShuffle seats draws = filled 0 (Array.range seats) draws := by
  rw [byShuffle_eq_take, filled, List.drop_zero]

/-- A shuffle leaves the places before its first one as they are. -/
lemma shuffle_getElem?_of_lt {place k : Nat} (hk : k < place) (order : Array Nat)
    (draws : List Nat) : (shuffle place order draws)[k]? = order[k]? := by
  induction draws generalizing place order with
  | nil => rfl
  | cons drawn draws ih =>
    rw [shuffle, ih (Nat.lt_succ_of_lt hk), Array.swapIfInBounds_def]
    split_ifs
    · rw [Array.getElem?_swap, if_neg (by omega), if_neg (by omega)]
    all_goals rfl

lemma size_shuffle (place : Nat) (order : Array Nat) (draws : List Nat) :
    (shuffle place order draws).size = order.size :=
  (shuffle_perm place order draws).size_eq

variable {order : Array Nat} {place drawn : Nat}

/-- The first draw tells the first seat, and the others shuffle the seats that are left. -/
lemma filled_cons (hdrawn : place + drawn < order.size) (draws : List Nat) :
    filled place order (drawn :: draws) = order[place + drawn] ::
      filled (place + 1) (order.swap place (place + drawn) (by omega)) draws := by
  have hplace : place < order.size := by omega
  set swapped := order.swap place (place + drawn) hplace hdrawn
  have hshuffle : shuffle place order (drawn :: draws) = shuffle (place + 1) swapped draws := by
    rw [shuffle, Array.swapIfInBounds_def, dif_pos hplace, dif_pos hdrawn]
  have hlength : place < (shuffle (place + 1) swapped draws).toList.length := by
    simpa [size_shuffle, swapped] using hplace
  have hfirst : (shuffle (place + 1) swapped draws).toList[place] = order[place + drawn] := by
    have hfixed := shuffle_getElem?_of_lt (Nat.lt_succ_self place) swapped draws
    have hswapped : swapped[place]? = some order[place + drawn] := by
      rw [Array.getElem?_swap]
      split_ifs with hzero <;> simp_all
    apply Option.some.inj
    rw [← List.getElem?_eq_getElem, Array.getElem?_toList, hfixed, hswapped]
  rw [filled, hshuffle, List.drop_eq_getElem_cons hlength, List.length_cons, List.take_succ_cons,
    hfirst]
  rfl

lemma nodup_swap (hnodup : order.toList.Nodup) {i j : Nat} (hi : i < order.size)
    (hj : j < order.size) : (order.swap i j hi hj).toList.Nodup :=
  (Array.swap_perm hi hj).toList.nodup_iff.mpr hnodup

lemma eq_of_getElem?_eq_some (hnodup : order.toList.Nodup) {i j seat : Nat}
    (hi : order[i]? = some seat) (hj : order[j]? = some seat) : i = j := by
  have hlt : i < order.toList.length := (Array.getElem?_eq_some_iff.mp hi).1
  refine (List.getElem?_inj hlt hnodup).mp ?_
  rw [Array.getElem?_toList, Array.getElem?_toList, hi, hj]

/-- The seat that moves to the front is gone from the places behind it. -/
lemma poolFrom_swap (hnodup : order.toList.Nodup) (hdrawn : place + drawn < order.size) :
    poolFrom (order.swap place (place + drawn) (by omega)) (place + 1) =
      poolFrom order place \ {order[place + drawn]} := by
  have hat : order[place + drawn]? = some order[place + drawn] := Array.getElem?_eq_getElem hdrawn
  have hfront : order[place]? = some order[place] := Array.getElem?_eq_getElem (by omega)
  ext seat
  constructor
  · rintro ⟨k, hk, hseat⟩
    rw [Array.getElem?_swap] at hseat
    split_ifs at hseat with hback hfirst
    · obtain rfl := Option.some.inj hseat
      refine ⟨⟨place, Nat.le_refl place, hfront⟩, fun heq => ?_⟩
      have := eq_of_getElem?_eq_some hnodup hfront (heq ▸ hat)
      omega
    · omega
    · refine ⟨⟨k, by omega, hseat⟩, fun heq => hback ?_⟩
      exact eq_of_getElem?_eq_some hnodup (heq ▸ hat) hseat
  · rintro ⟨⟨k, hk, hseat⟩, hne⟩
    have hback : place + drawn ≠ k := by
      rintro rfl
      exact hne (Option.some.inj (hseat.symm.trans hat))
    by_cases hkplace : k = place
    · subst hkplace
      refine ⟨k + drawn, by omega, ?_⟩
      rw [Array.getElem?_swap, if_pos rfl, ← hseat, hfront]
    · refine ⟨k, by omega, ?_⟩
      rw [Array.getElem?_swap, if_neg hback, if_neg (Ne.symm hkplace), hseat]

lemma shuffleBounds_succ (seats amount : Nat) :
    shuffleBounds seats (amount + 1) = seats :: shuffleBounds (seats - 1) amount := by
  rw [shuffleBounds, List.range_succ_eq_map, List.map_cons, List.map_map]
  refine congrArg _ (List.map_congr_left fun k _ => ?_)
  simp only [Function.comp_apply]
  omega

lemma mem_drawsWithin_succ {seats amount : Nat} {draws : List Nat} :
    draws ∈ drawsWithin (shuffleBounds seats (amount + 1)) ↔
      ∃ drawn < seats, ∃ others ∈ drawsWithin (shuffleBounds (seats - 1) amount),
        draws = drawn :: others := by
  rw [shuffleBounds_succ]
  constructor
  · intro hdraws
    obtain ⟨drawn, others, hdrawn, hothers, rfl⟩ := within_cons.mp hdraws
    exact ⟨drawn, hdrawn, others, hothers, rfl⟩
  · rintro ⟨drawn, hdrawn, others, hothers, rfl⟩
    exact within_cons.mpr ⟨drawn, others, hdrawn, hothers, rfl⟩

/-- Shuffling from a place on is a bijection, by induction on the number of draws: the first seat is
any of those from the place on, and the others are selected from what it leaves. -/
lemma bijOn_filled {amount : Nat} (hnodup : order.toList.Nodup)
    (hamount : place + amount ≤ order.size) :
    Set.BijOn (filled place order) (drawsWithin (shuffleBounds (order.size - place) amount))
      (arrangements (poolFrom order place) amount) := by
  induction amount generalizing place order with
  | zero =>
    have hdraws : drawsWithin (shuffleBounds (order.size - place) 0) = {[]} :=
      Set.ext fun draws => within_nil
    rw [hdraws, arrangements_zero]
    exact Set.bijOn_singleton.mpr rfl
  | succ amount ih =>
    have hrest : ∀ drawn (hdrawn : place + drawn < order.size),
        Set.BijOn (filled (place + 1) (order.swap place (place + drawn) (by omega)))
          (drawsWithin (shuffleBounds (order.size - place - 1) amount))
          (arrangements (poolFrom order place \ {order[place + drawn]}) amount) := by
      intro drawn hdrawn
      set swapped := order.swap place (place + drawn) (by omega) hdrawn
      have hsize : swapped.size = order.size := Array.size_swap
      have hswapped : swapped.toList.Nodup := nodup_swap hnodup _ _
      have hbijOn : Set.BijOn (filled (place + 1) swapped)
          (drawsWithin (shuffleBounds (swapped.size - (place + 1)) amount))
          (arrangements (poolFrom swapped (place + 1)) amount) := ih hswapped (by omega)
      rwa [hsize, Nat.sub_add_eq, poolFrom_swap hnodup hdrawn] at hbijOn
    refine ⟨?_, ?_, ?_⟩
    · intro draws hdraws
      obtain ⟨drawn, hdrawn, others, hothers, rfl⟩ := mem_drawsWithin_succ.mp hdraws
      have hlt : place + drawn < order.size := by omega
      rw [filled_cons hlt]
      exact cons_mem_arrangements.mpr
        ⟨⟨place + drawn, by omega, Array.getElem?_eq_getElem hlt⟩, (hrest drawn hlt).mapsTo hothers⟩
    · intro draws hdraws draws' hdraws' heq
      obtain ⟨drawn, hdrawn, others, hothers, rfl⟩ := mem_drawsWithin_succ.mp hdraws
      obtain ⟨drawn', hdrawn', others', hothers', rfl⟩ := mem_drawsWithin_succ.mp hdraws'
      have hlt : place + drawn < order.size := by omega
      have hlt' : place + drawn' < order.size := by omega
      rw [filled_cons hlt, filled_cons hlt'] at heq
      obtain ⟨hfirst, heq⟩ := List.cons.inj heq
      obtain rfl : drawn = drawn' := by
        have := eq_of_getElem?_eq_some hnodup (Array.getElem?_eq_getElem hlt)
          (hfirst ▸ Array.getElem?_eq_getElem hlt')
        omega
      rw [(hrest drawn hlt).injOn hothers hothers' heq]
    · intro chosen hchosen
      cases chosen with
      | nil => cases hchosen.2.2
      | cons seat chosen =>
        obtain ⟨⟨k, hk, hseat⟩, hothers⟩ := cons_mem_arrangements.mp hchosen
        obtain ⟨drawn, rfl⟩ := Nat.exists_eq_add_of_le hk
        obtain ⟨hlt, rfl⟩ := Array.getElem?_eq_some_iff.mp hseat
        obtain ⟨others, hdraws, rfl⟩ := (hrest drawn hlt).surjOn hothers
        exact ⟨drawn :: others, mem_drawsWithin_succ.mpr ⟨drawn, by omega, others, hdraws, rfl⟩,
          filled_cons hlt others⟩

lemma poolFrom_range (seats : Nat) : poolFrom (Array.range seats) 0 = Set.Iio seats := by
  ext seat
  simp [poolFrom, Array.getElem?_range]

lemma nodup_range (seats : Nat) : (Array.range seats).toList.Nodup := by
  rw [Array.toList_range]
  exact List.nodup_range

lemma bijOn_byShuffle {seats amount : Nat} (hamount : amount ≤ seats) :
    Set.BijOn (byShuffle seats) (drawsWithin (shuffleBounds seats amount))
      (arrangements (Set.Iio seats) amount) := by
  have hbijOn : Set.BijOn (filled 0 (Array.range seats))
      (drawsWithin (shuffleBounds ((Array.range seats).size - 0) amount))
      (arrangements (poolFrom (Array.range seats) 0) amount) :=
    bijOn_filled (nodup_range seats) (by simpa using hamount)
  rw [poolFrom_range, Array.size_range, Nat.sub_zero] at hbijOn
  exact hbijOn.congr fun draws _ => (byShuffle_eq_filled seats draws).symm

end Selection

end RoomDraw
