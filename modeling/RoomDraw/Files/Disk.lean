import RoomDraw.Path

/-!
# Disks

A tree of named entries: files, directories, and links to paths. An entry is found by its location,
the names on the way from the root to it.
-/

namespace RoomDraw

/-- The name of an entry in its directory. -/
abbrev Name := Bytes

/-- The names on the way from the root. -/
abbrev Location := List Name

/-- What stands at a location. -/
inductive Entry where
  | file (contents : Bytes)
  | directory
  | link (target : Path)
deriving BEq, Repr

/-- The entries below the root, each with its location. -/
structure Disk where
  entries : List (Location × Entry)

namespace Disk

/-- The greatest length of a name, in bytes. -/
def maxName : Nat := 255

/-- The disk that holds nothing but its root. -/
def empty : Disk := ⟨[]⟩

/-- The entry at a location below the root. -/
def get (d : Disk) (l : Location) : Option Entry := d.entries.lookup l

/-- The disk without the entry at a location. -/
def remove (d : Disk) (l : Location) : Disk := ⟨d.entries.filter (·.1 != l)⟩

def set (d : Disk) (l : Location) (e : Entry) : Disk := ⟨(l, e) :: (d.remove l).entries⟩

/-- Whether a location is the root or that of a directory. -/
def isDirectory (d : Disk) (l : Location) : Bool :=
  l.isEmpty || match d.get l with
    | some .directory => true
    | _ => false

theorem get_remove (d : Disk) (l m : Location) :
    (d.remove l).get m = if l = m then none else d.get m := by
  obtain ⟨entries⟩ := d
  simp only [remove, get]
  induction entries with
  | nil => simp
  | cons p ps ih =>
    obtain ⟨k, e⟩ := p
    by_cases hk : k = l
    · subst hk
      rw [List.filter_cons_of_neg (by simp), ih]
      by_cases hm : k = m
      · simp [hm]
      · have : (m == k) = false := by simpa using fun h => hm h.symm
        simp [hm, List.lookup_cons, this]
    · rw [List.filter_cons_of_pos (by simpa using hk)]
      by_cases hm : m = k
      · subst hm
        simp [Ne.symm hk]
      · have : (m == k) = false := by simpa using hm
        simp only [List.lookup_cons, this, ih]

theorem get_set (d : Disk) (l m : Location) (e : Entry) :
    (d.set l e).get m = if l = m then some e else d.get m := by
  have h := get_remove d l m
  simp only [set, get, List.lookup_cons] at h ⊢
  by_cases hl : l = m
  · simp [hl]
  · have : (m == l) = false := by simpa using fun h => hl h.symm
    simp [this, h, hl]

end Disk

/-- Why the system refuses to do something with a file. -/
inductive SystemError where
  | notFound
  | alreadyExists
  | notDirectory
  | isDirectory
  | invalid
  | nameTooLong
  | tooManyLinks
  /-- A link leads out of the directory that was opened. -/
  | escapes
  /-- A path holds a byte that no path can hold. -/
  | nulInPath
deriving DecidableEq, Repr

def SystemError.message : SystemError → String
  | .notFound => "No such file or directory (os error 2)"
  | .alreadyExists => "File exists (os error 17)"
  | .notDirectory => "Not a directory (os error 20)"
  | .isDirectory => "Is a directory (os error 21)"
  | .invalid => "Invalid argument (os error 22)"
  | .nameTooLong => "File name too long (os error 36)"
  | .tooManyLinks => "Too many levels of symbolic links (os error 40)"
  | .escapes => "a path led outside of the filesystem"
  | .nulInPath => "file name contained an unexpected NUL byte"

end RoomDraw
