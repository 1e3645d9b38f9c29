import Mathlib.Tactic.SplitIfs
import RoomDraw.Files.Resolution

/-!
# Paths of one name

A name that is a component of a path holds no slash, and as a path of its own it has no other
component. It is then looked for in the working directory, wherever the other path led.
-/

namespace RoomDraw

namespace Path

/-- No piece between slashes has a slash. -/
lemma slash_not_mem_of_mem_splitOn {bytes piece : Bytes} (h : piece ∈ bytes.splitOn slash) :
    slash ∉ piece := by
  rw [List.splitOn_eq_splitOnP] at h
  induction bytes generalizing piece with
  | nil =>
    rw [List.splitOnP_nil, List.mem_singleton] at h
    simp [h]
  | cons byte bytes ih =>
    rw [List.splitOnP_cons_eq_if_modifyHead] at h
    split_ifs at h with hslash
    · rcases List.mem_cons.mp h with rfl | h
      · simp
      · exact ih h
    · obtain ⟨first, others, hpieces⟩ :=
        List.exists_cons_of_ne_nil (List.splitOnP_ne_nil (· == slash) bytes)
      rw [hpieces] at ih
      rw [hpieces, List.modifyHead_cons] at h
      rcases List.mem_cons.mp h with rfl | h
      · intro hmem
        rcases List.mem_cons.mp hmem with rfl | hmem
        · simp at hslash
        · exact ih List.mem_cons_self hmem
      · exact ih (List.mem_cons_of_mem first h)

/-- A name that can stand between slashes, and counts. -/
structure Single (name : Bytes) : Prop where
  slash_not_mem : slash ∉ name
  component?_eq : component? name = some (.name name)

lemma component?_eq_name {piece name : Bytes} (h : component? piece = some (.name name)) :
    piece = name := by
  rw [component?] at h
  split_ifs at h
  · cases h
  · exact Component.name.inj (Option.some.inj h)

/-- The last component of a path is a single name. -/
lemma single_of_fileName? {p : Path} {name : Bytes} (h : p.fileName? = some name) :
    Single name := by
  have hlast : p.components.getLast? = some (.name name) := by
    rw [fileName?] at h
    split at h
    · rename_i bytes heq
      rw [heq, Option.some.inj h]
    · cases h
  have hmem := List.mem_of_getLast? hlast
  rw [components, List.mem_append] at hmem
  rcases hmem with hfront | hname
  · split_ifs at hfront <;> simp at hfront
  · obtain ⟨piece, hpiece, hcomponent⟩ := List.mem_filterMap.mp hname
    obtain rfl := component?_eq_name hcomponent
    exact ⟨slash_not_mem_of_mem_splitOn hpiece, hcomponent⟩

namespace Single

variable {name : Bytes}

lemma pieces_eq (h : Single name) : (⟨name⟩ : Path).pieces = [name] := by
  rw [pieces, List.splitOn_eq_splitOnP]
  refine List.splitOnP_eq_singleton fun byte hbyte => ?_
  rw [beq_eq_false_iff_ne]
  exact ne_of_mem_of_not_mem hbyte h.slash_not_mem

lemma components_eq (h : Single name) : (⟨name⟩ : Path).components = [.name name] := by
  have hrelative : (⟨name⟩ : Path).isAbsolute = false := by
    rw [isAbsolute, beq_eq_false_iff_ne]
    exact fun hhead => h.slash_not_mem (List.mem_of_head? hhead)
  have hdot : name ≠ [dot] := by
    rintro rfl
    have hcomponent := h.component?_eq
    simp [component?] at hcomponent
  simp [components, hrelative, h.pieces_eq, hdot, h.component?_eq]

lemma parent_eq (h : Single name) : (⟨name⟩ : Path).parent = [] := by
  rw [parent, h.components_eq]
  rfl

lemma parentLength_eq (h : Single name) : (⟨name⟩ : Path).parentLength = 0 := by
  simp [parentLength, h.pieces_eq, h.component?_eq]

/-- A path of one name is looked for in the working directory. -/
lemma openParent_eq (h : Single name) (d : Disk) (here : Location) :
    d.openParent here ⟨name⟩ =
      if d.isDirectory here then .ok here else .error .notDirectory := by
  simp only [Disk.openParent, h.parent_eq, h.parentLength_eq]
  rfl

end Single

end Path

end RoomDraw
