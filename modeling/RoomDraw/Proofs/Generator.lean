import Mathlib.Tactic.Lemma
import RoomDraw.Generator.Basic

/-!
# Runs of draws

What a draw made of others gives from a generator, and the runs of a repeated draw: the generators
it passes while nothing is given, up to the one from which something is.
-/

namespace RoomDraw

variable {σ α β : Type}

/-! ### Draws that always end -/

@[simp] lemma Draw.pure_apply (a : α) (g : σ) : (pure a : Draw σ α) g = (a, g) := rfl

@[simp] lemma Draw.bind_apply (draw : Draw σ α) (next : α → Draw σ β) (g : σ) :
    (draw >>= next) g = next (draw g).1 (draw g).2 := rfl

/-! ### Draws that may not end -/

@[simp] lemma Draw?.pure_apply (a : α) (g : σ) : (pure a : Draw? σ α) g = some (a, g) := rfl

@[simp] lemma Draw?.bind_apply (draw : Draw? σ α) (next : α → Draw? σ β) (g : σ) :
    (draw >>= next) g = (draw g).bind fun r => next r.1 r.2 := rfl

/-! ### Repeated draws -/

/-- The draw, repeated from a generator, gives a result after finitely many times. -/
inductive Repeats (draw : Draw? σ (Option α)) : σ → α × σ → Prop
  | last {g g' : σ} {a : α} (h : draw g = some (some a, g')) : Repeats draw g (a, g')
  | again {g g' : σ} {r : α × σ} (h : draw g = some (none, g')) (hr : Repeats draw g' r) :
      Repeats draw g r

/-- A repeated draw gives the results of its finite runs, and no others. -/
lemma untilSome_eq_some_iff {draw : Draw? σ (Option α)} {g : σ} {r : α × σ} :
    untilSome draw g = some r ↔ Repeats draw g r := by
  constructor
  · intro h
    refine untilSome.partial_correctness draw (Repeats draw) ?_ g r h
    intro rest ih g r hr
    obtain ⟨⟨a, g'⟩, hdraw, hr⟩ := Option.bind_eq_some_iff.mp hr
    cases a with
    | none => exact .again hdraw (ih g' r hr)
    | some a =>
      obtain rfl := Option.some.inj hr
      exact .last hdraw
  · intro h
    induction h with
    | last h => rw [untilSome, h]; rfl
    | again h _ ih => rw [untilSome, h]; exact ih

end RoomDraw
