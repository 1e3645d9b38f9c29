import RoomDraw.Files.Replacement
import RoomDraw.Proofs.Text.Utf8
import Std.Data.String.ToNat

/-!
# Temporary names are told apart

A temporary name ends in a dot and the number of its stamp, and a number has no dots. So the number
can be read off the end of the name, whatever the name of the target looks like.
-/

namespace RoomDraw

namespace Utf8

lemma encode_append (s t : String) : encode (s ++ t) = encode s ++ encode t := by
  simp only [encode_eq_ofChars, String.toList_append, ofChars_append]

lemma encode_injective {s t : String} (h : encode s = encode t) : s = t := by
  have hdecode := congrArg decode? h
  rw [decode?_encode, decode?_encode] at hdecode
  exact Option.some.inj hdecode

/-- The digits of a number have no byte among theirs that is below that of zero. -/
lemma not_mem_encode_repr {b : UInt8} (hb : b.toNat < 48) (n : Nat) : b ∉ encode n.repr := by
  intro hmem
  rw [encode_eq_ofChars, Nat.toList_repr] at hmem
  obtain ⟨c, hc, hmem⟩ := List.mem_flatMap.mp hmem
  have hdigit : c.isDigit = true := Nat.isDigit_of_mem_toDigits (by decide) (by decide) hc
  have hvalue : c.toNat = b.toNat := toNat_eq_of_mem_utf8EncodeChar hmem (by omega)
  simp only [Char.isDigit, Bool.and_eq_true, decide_eq_true_eq] at hdigit
  have hzero : (48 : UInt32).toNat ≤ c.toNat := UInt32.le_iff_toNat_le.mp hdigit.1
  rw [hvalue] at hzero
  exact absurd hzero (Nat.not_le.mpr hb)

lemma dot_not_mem_encode_repr (n : Nat) : Path.dot ∉ encode n.repr :=
  not_mem_encode_repr (by decide) n

end Utf8

open Utf8

/-- The bytes behind the last dot of a name. -/
def behindLastDot (name : Name) : Bytes := (name.reverse.takeWhile (· != Path.dot)).reverse

lemma behindLastDot_append (stem : Bytes) {ending : Bytes} (h : Path.dot ∉ ending) :
    behindLastDot (stem ++ Path.dot :: ending) = ending := by
  have hall : ∀ b ∈ ending.reverse, (b != Path.dot) = true := by
    intro b hb
    simpa using ne_of_mem_of_not_mem (List.mem_reverse.mp hb) h
  rw [behindLastDot, List.reverse_append, List.reverse_cons, List.append_assoc,
    List.takeWhile_append_of_pos hall]
  simp

lemma exists_temporaryName_eq (target : Name) (s : Stamp) :
    ∃ stem, temporaryName target s = stem ++ Path.dot :: encode s.counter.repr := by
  have hending : encode s!".tmp.{s.process}.{s.clock}.{s.counter}" =
      encode s!".tmp.{s.process}.{s.clock}" ++ Path.dot :: encode s.counter.repr := by
    rw [← List.singleton_append, ← Path.encode_dot, ← encode_append, ← encode_append, ← String.append_assoc]
    rfl
  refine ⟨encode "." ++ target ++ encode s!".tmp.{s.process}.{s.clock}", ?_⟩
  rw [temporaryName, hending, ← List.append_assoc]

lemma behindLastDot_temporaryName (target : Name) (s : Stamp) :
    behindLastDot (temporaryName target s) = encode s.counter.repr := by
  obtain ⟨stem, hstem⟩ := exists_temporaryName_eq target s
  rw [hstem, behindLastDot_append stem (dot_not_mem_encode_repr s.counter)]

/-- Equal names have stamps of equal numbers. -/
lemma counter_eq_of_temporaryName_eq {target target' : Name} {s s' : Stamp}
    (h : temporaryName target s = temporaryName target' s') : s.counter = s'.counter := by
  have hending := congrArg behindLastDot h
  rw [behindLastDot_temporaryName, behindLastDot_temporaryName] at hending
  exact Nat.repr_inj.mp (encode_injective hending)

end RoomDraw
