import RoomDraw.Json.Record
import RoomDraw.Manifest.Basic

/-!
# Reading manifests

Reads back what is written as a manifest, in any spelling that JSON has for it. Members that a
manifest does not know are passed over.
-/

namespace RoomDraw

namespace Manifest

/-- An entry that is being read. -/
structure EntryDraft where
  creator : Option String
  name : Option String
  users : Option (List String)

namespace EntryDraft

def blank : EntryDraft := ⟨none, none, none⟩

def fields (bound : Nat) : List (Json.Field EntryDraft) :=
  [{ name := "creator"
     given := fun d => d.creator.isSome
     fill := fun d s => do
       let (text, s) ← Json.text "a string" s
       return ({ d with creator := some text }, s)
     required := true },
   { name := "name"
     given := fun d => d.name.isSome
     fill := fun d s => do
       let (text, s) ← Json.text "a string" s
       return ({ d with name := some text }, s)
     required := true },
   { name := "users"
     given := fun d => d.users.isSome
     fill := fun d s => do
       let (users, s) ← Json.array bound (Json.text "a string") s
       return ({ d with users := some users }, s)
     required := true }]

/-- The entry, when all its fields have been read. -/
def entry (d : EntryDraft) : CreationEntry :=
  ⟨d.creator.getD "", d.name.getD "", d.users.getD []⟩

end EntryDraft

def readEntry (bound : Nat) : Json.Reader CreationEntry := fun s => do
  let (draft, s) ← Json.record "struct CreationEntry" (EntryDraft.fields bound) bound .blank s
  return (draft.entry, s)

/-- A manifest that is being read. -/
abbrev Draft := Option (List CreationEntry)

/-- The only field of a manifest. -/
def fields (bound : Nat) : List (Json.Field Draft) :=
  [{ name := "creators"
     given := Option.isSome
     fill := fun _ s => do
       let (entries, s) ← Json.array bound (readEntry bound) s
       return (some entries, s)
     required := true }]

def read (bound : Nat) : Json.Reader Manifest := fun s => do
  let (draft, s) ← Json.record "struct Manifest" (fields bound) bound none s
  return (⟨draft.getD []⟩, s)

/-- The manifest that a text holds. -/
def ofJson (text : String) : Except ManifestError Manifest :=
  match Json.document read text with
  | .ok m => .ok m
  | .error f => .error (.malformed (f.report text))

end Manifest

end RoomDraw
