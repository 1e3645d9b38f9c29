import Mathlib.Algebra.Order.BigOperators.Group.List
import RoomDraw.Proofs.Number.Doubles
import RoomDraw.Proofs.Statistics

/-!
# The reported mean

The mean size of rooms is rounded twice: to a double, and in the report to two decimal places. Each
time it becomes the nearest number there is, so that it stays between the least and the greatest
size.
-/

namespace RoomDraw

/-! ### Quotients of natural numbers -/

namespace Binary

lemma toRat_div_toRat (x y : Binary) :
    x.toRat / y.toRat = ((x.ratio.1 * y.ratio.2 : ℕ) : ℚ) / ((x.ratio.2 * y.ratio.1 : ℕ) : ℚ) := by
  rw [toRat_eq_div, toRat_eq_div, div_div_div_eq]
  push_cast
  rfl

lemma toRat_pos_iff {x : Binary} : 0 < x.toRat ↔ 0 < x.ratio.1 := by
  have hpos : (0 : ℚ) < x.ratio.2 := by exact_mod_cast x.ratio_snd_pos
  rw [toRat_eq_div, div_pos_iff_of_pos_right hpos, Nat.cast_pos]

/-- A positive number is not rounded to zero. -/
lemma toRat_ofNat_double_pos {n : Nat} (hn : n ≠ 0) : 0 < (ofNat .double n).toRat := by
  have hexp : exponentFor .double n 1 ≤ digitsBeforePoint n 1 - 1 := by
    rw [exponentFor, digitsBeforePoint_one hn]
    simp only [BinaryFormat.double]
    omega
  have hmantissa : 1 ≤ (ofNat .double n).mantissa := by
    refine le_mantissa_ofRatio .double Nat.one_pos ?_
    rw [Nat.cast_one, one_mul]
    exact (zpow_le_zpow_right₀ one_le_two hexp).trans
      (two_zpow_le_of_digitsBeforePoint hn Nat.one_pos)
  rw [toRat]
  positivity

end Binary

lemma natCast_lt_two_pow {n : Nat} (hn : n ≤ 2 ^ 53) : (n : ℚ) < 2 ^ 1023 := by
  have hlt : (2 : ℚ) ^ 53 < 2 ^ 1023 := pow_lt_pow_right₀ one_lt_two (by norm_num)
  exact lt_of_le_of_lt (by exact_mod_cast hn) hlt

/-- Natural numbers up to `2 ^ 53` are doubles. -/
lemma natCast_mem_doubles {n : Nat} (hn : n ≤ 2 ^ 53) : (n : ℚ) ∈ doubles := by
  have hbound : (n / (1 : ℕ) : ℚ) < 2 ^ 1023 := by
    rw [Nat.cast_one, div_one]
    exact natCast_lt_two_pow hn
  have hmem := (Binary.normalized_ofRatio Nat.one_pos hbound).mem_doubles
  rwa [← Binary.ofNat, toRat_ofNat_double hn] at hmem

/-- The mean of natural numbers up to `2 ^ 53` is the double nearest to their quotient. -/
lemma SizeRange.roundedToEven_mean {total count : Nat} (hcount : count ≠ 0)
    (htotal : total ≤ 2 ^ 53) (hcount' : count ≤ 2 ^ 53) :
    RoundedToEven doubles evenDoubles (total / count) (mean total count).toRat := by
  have hquotient := Binary.toRat_div_toRat (.ofNat .double total) (.ofNat .double count)
  rw [toRat_ofNat_double htotal, toRat_ofNat_double hcount'] at hquotient
  have hpos : 0 < (Binary.ofNat .double count).ratio.1 :=
    Binary.toRat_pos_iff.mp (Binary.toRat_ofNat_double_pos hcount)
  have hbound : (total / count : ℚ) < 2 ^ 1023 := by
    refine (div_le_self (Nat.cast_nonneg total) ?_).trans_lt (natCast_lt_two_pow htotal)
    exact_mod_cast Nat.one_le_iff_ne_zero.mpr hcount
  rw [hquotient] at hbound ⊢
  exact Binary.roundedToEven_ofRatio_double
    (Nat.mul_pos (Binary.ratio_snd_pos _) hpos) hbound

/-! ### Two decimal places -/

/-- The number with the given digits before and behind the point. -/
def twoPlaces (whole tens ones : Nat) : ℚ := whole + tens / 10 + ones / 100

lemma twoPlaces_eq (n : Nat) : twoPlaces (n / 100) (n / 10 % 10) (n % 10) = n * (1 / 100) := by
  have hparts : (n : ℚ) = (n / 100 : ℕ) * 100 + (n / 10 % 10 : ℕ) * 10 + (n % 10 : ℕ) := by
    exact_mod_cast (by omega : n = n / 100 * 100 + n / 10 % 10 * 10 + n % 10)
  rw [twoPlaces]
  linarith

lemma hundredthsText_eq (n : Nat) :
    hundredthsText n = s!"{n / 100}.{n / 10 % 10}{n % 10}" := by
  have hdigits : ∀ cents < 100, (if cents < 10 then "0" else "") ++ toString cents =
      toString (cents / 10) ++ toString (cents % 10) := by decide
  have htens : n % 100 / 10 = n / 10 % 10 := by omega
  have hones : n % 100 % 10 = n % 10 := by omega
  simp only [hundredthsText, String.append_assoc]
  rw [hdigits _ (Nat.mod_lt n (by decide)), htens, hones]

/-- The two places of a value are those of the nearest multiple of a hundredth. -/
lemma roundedToEven_hundredths (x : Binary) :
    RoundedToEven (multiples (1 / 100)) (multiples (1 / 50)) x.toRat
      (hundredths x.ratio.1 x.ratio.2 * (1 / 100)) := by
  have hrounded := roundedToEven_roundHalfEven (x.ratio.1 * 100) x.ratio_snd_pos
    (one_div_pos.mpr (by norm_num : (0 : ℚ) < 100))
  have hquotient : ((x.ratio.1 * 100 : ℕ) : ℚ) / x.ratio.2 * (1 / 100) = x.toRat := by
    rw [Binary.toRat_eq_div]
    push_cast
    ring
  have heven : (2 * (1 / 100) : ℚ) = 1 / 50 := by norm_num
  rwa [hquotient, heven] at hrounded

/-! ### Rooms -/

namespace SizeRange

variable {rooms : List Room} {range : SizeRange}

/-- All members of rooms together are at least as many as the least size in every room, and at most
as many as the greatest size in every room. -/
lemma sum_bounds (h : ofRooms rooms = some range) :
    rooms.length * range.min ≤ (rooms.map Room.size).sum ∧
      (rooms.map Room.size).sum ≤ rooms.length * range.max := by
  constructor
  · have hle := List.card_nsmul_le_sum (rooms.map Room.size) range.min
      (List.forall_mem_map.mpr (isLeast_min h).2)
    rwa [List.length_map, nsmul_eq_mul, Nat.cast_id] at hle
  · have hle := List.sum_le_card_nsmul (rooms.map Room.size) range.max
      (List.forall_mem_map.mpr (isGreatest_max h).2)
    rwa [List.length_map, nsmul_eq_mul, Nat.cast_id] at hle

/-- The greatest size is at most the number of all members together. -/
lemma max_le_sum (h : ofRooms rooms = some range) :
    range.max ≤ (rooms.map Room.size).sum := by
  obtain ⟨room, hroom, hsize⟩ := (isGreatest_max h).1
  rw [← hsize]
  exact List.single_le_sum (fun _ _ => Nat.zero_le _) _ (List.mem_map_of_mem hroom)

lemma min_le_max (h : ofRooms rooms = some range) :
    range.min ≤ range.max := by
  obtain ⟨room, hroom, hsize⟩ := (isGreatest_max h).1
  rw [← hsize]
  exact (isLeast_min h).2 room hroom

lemma average_eq (h : ofRooms rooms = some range) :
    range.average = mean (rooms.map Room.size).sum rooms.length := by
  simp only [ofRooms] at h
  split at h
  · rw [← Option.some.inj h, List.length_map]
    rfl
  · cases h

/-- The lines of a report give the mean size of rooms faithfully: the average is the double nearest
to the quotient, the line on it shows the nearest multiple of a hundredth, and both are between the
least and the greatest size. -/
structure Faithful (range : SizeRange) (rooms : List Room) (lines : List String) : Prop where
  average_nearest : RoundedToEven doubles evenDoubles
    ((rooms.map Room.size).sum / rooms.length) range.average.toRat
  min_le_average : range.min ≤ range.average.toRat
  average_le_max : range.average.toRat ≤ range.max
  line_nearest : ∃ whole tens ones : Nat, tens < 10 ∧ ones < 10 ∧
    lines[4]? = some s!"Avg = {whole}.{tens}{ones}" ∧
    RoundedToEven (multiples (1 / 100)) (multiples (1 / 50)) range.average.toRat
      (twoPlaces whole tens ones) ∧
    range.min ≤ twoPlaces whole tens ones ∧ twoPlaces whole tens ones ≤ range.max

/-- The average is the double nearest to the quotient. Neither the least nor the greatest size,
which are doubles, lies between the two. -/
lemma average_nearest_and_between (h : ofRooms rooms = some range) (hrooms : rooms ≠ [])
    (hlength : rooms.length < 2 ^ 53) (hsum : (rooms.map Room.size).sum < 2 ^ 53) :
    RoundedToEven doubles evenDoubles ((rooms.map Room.size).sum / rooms.length)
        range.average.toRat ∧
      range.min ≤ range.average.toRat ∧ range.average.toRat ≤ range.max := by
  have hcount : rooms.length ≠ 0 := List.length_eq_zero_iff.not.mpr hrooms
  have hpos : (0 : ℚ) < rooms.length := by exact_mod_cast Nat.pos_of_ne_zero hcount
  have hnearest := roundedToEven_mean hcount hsum.le hlength.le
  rw [← average_eq h] at hnearest
  have hmax : range.max ≤ 2 ^ 53 := (max_le_sum h).trans hsum.le
  have hmin : range.min ≤ 2 ^ 53 := (min_le_max h).trans hmax
  refine ⟨hnearest, ?_, ?_⟩
  · refine hnearest.le_of_le (natCast_mem_doubles hmin) ((le_div_iff₀' hpos).mpr ?_)
    exact_mod_cast (sum_bounds h).1
  · refine hnearest.ge_of_ge (natCast_mem_doubles hmax) ((div_le_iff₀' hpos).mpr ?_)
    exact_mod_cast (sum_bounds h).2

end SizeRange

namespace Statistics

/-- The line on the average is the fifth of a report. -/
lemma getElem?_reportLines {s : Statistics} {range : SizeRange} (h : s.sizes = some range) :
    s.reportLines[4]? = some ("Avg = " ++
      hundredthsText (hundredths range.average.ratio.1 range.average.ratio.2)) := by
  rw [reportLines, h]
  rfl

/-- What the line shows is the nearest multiple of a hundredth. Natural numbers are such multiples,
so that none of them lies between it and the average. -/
lemma exists_line {s : Statistics} {range : SizeRange} (h : s.sizes = some range)
    (hmin : range.min ≤ range.average.toRat) (hmax : range.average.toRat ≤ range.max) :
    ∃ whole tens ones : Nat, tens < 10 ∧ ones < 10 ∧
      s.reportLines[4]? = some s!"Avg = {whole}.{tens}{ones}" ∧
      RoundedToEven (multiples (1 / 100)) (multiples (1 / 50)) range.average.toRat
        (twoPlaces whole tens ones) ∧
      range.min ≤ twoPlaces whole tens ones ∧ twoPlaces whole tens ones ≤ range.max := by
  set n := hundredths range.average.ratio.1 range.average.ratio.2 with hn
  have hplaces := roundedToEven_hundredths range.average
  rw [← hn, ← twoPlaces_eq] at hplaces
  have hnatural : ∀ k : Nat, (k : ℚ) ∈ multiples (1 / 100) :=
    natCast_mem_multiples (k := 100) (by norm_num)
  refine ⟨n / 100, n / 10 % 10, n % 10, Nat.mod_lt _ (by decide), Nat.mod_lt _ (by decide), ?_,
    hplaces, hplaces.le_of_le (hnatural _) hmin, hplaces.ge_of_ge (hnatural _) hmax⟩
  rw [getElem?_reportLines h, ← hn, hundredthsText_eq]
  rfl

/-- The mean is divided by a positive number of rooms, or not worked out at all, and it is reported
faithfully if doubles represent the number of rooms and that of their members. -/
theorem summarize_mean_faithful (rooms : List Room) :
    (rooms = [] ∧ SizeRange.ofRooms rooms = none ∨
      ∃ range, SizeRange.ofRooms rooms = some range ∧
        range.average = .div .double (.ofNat .double (rooms.map Room.size).sum)
          (.ofNat .double rooms.length) ∧
        0 < (Binary.ofNat .double rooms.length).toRat ∧ 0 < range.average.ratio.2) ∧
    (rooms ≠ [] → rooms.length < 2 ^ 53 → (rooms.map Room.size).sum < 2 ^ 53 →
      ∀ roster threshold, ∃ range, (summarize roster rooms threshold).sizes = some range ∧
        range.Faithful rooms (summarize roster rooms threshold).reportLines) := by
  constructor
  · rcases hrange : SizeRange.ofRooms rooms with _ | range
    · exact .inl ⟨SizeRange.ofRooms_eq_none.mp hrange, rfl⟩
    · have hrooms : rooms ≠ [] := by
        rintro rfl
        cases hrange
      exact .inr ⟨range, rfl, SizeRange.average_eq hrange,
        Binary.toRat_ofNat_double_pos (List.length_eq_zero_iff.not.mpr hrooms),
        Binary.ratio_snd_pos _⟩
  · intro hrooms hlength hsum roster threshold
    obtain ⟨range, hrange⟩ := Option.ne_none_iff_exists'.mp
      (SizeRange.ofRooms_eq_none.not.mpr hrooms)
    obtain ⟨hnearest, hmin, hmax⟩ :=
      SizeRange.average_nearest_and_between hrange hrooms hlength hsum
    have hsizes : (summarize roster rooms threshold).sizes = some range := hrange
    exact ⟨range, hsizes, hnearest, hmin, hmax, exists_line hsizes hmin hmax⟩

/-- The mean of eight rooms that is halfway between two hundredths is shown as the even one. -/
theorem summarize_mean_faithful_of_tie :
    let rooms := Room.numbered 0 ["ann", "bob", "cid"] ::
      (List.range 7).map fun k => .numbered (k + 1) ["ann", "bob"]
    let statistics := summarize (.ofList ["ann", "bob", "cid"]) rooms defaultThreshold
    rooms ≠ [] ∧ rooms.length < 2 ^ 53 ∧ (rooms.map Room.size).sum < 2 ^ 53 ∧
      (∃ range, statistics.sizes = some range ∧ range.average.toRat = 17 / 8 ∧
        range.Faithful rooms statistics.reportLines) ∧
      statistics.reportLines[4]? = some "Avg = 2.12" := by
  intro rooms statistics
  have hrooms : rooms ≠ [] := by decide
  have hlength : rooms.length < 2 ^ 53 := by decide
  have hsum : (rooms.map Room.size).sum < 2 ^ 53 := by decide
  obtain ⟨range, hrange, hfaithful⟩ := (summarize_mean_faithful rooms).2 hrooms hlength hsum
    (.ofList ["ann", "bob", "cid"]) defaultThreshold
  have hsizes : statistics.sizes = some ⟨3, 2, 17 * 2 ^ 48, -51⟩ := by decide
  obtain rfl := Option.some.inj (hrange.symm.trans hsizes)
  refine ⟨hrooms, hlength, hsum, ⟨_, hrange, ?_, hfaithful⟩, by decide⟩
  norm_num [Binary.toRat]

end Statistics

end RoomDraw
