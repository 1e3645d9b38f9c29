import RoomDraw.Json.Record
import RoomDraw.Settings.Basic

/-!
# Settings in JSON

Settings written as a JSON object or as the array of all five. Only the layout has to be there; the
other settings are absent if they are left out or null.
-/

namespace RoomDraw

namespace Settings

/-- Settings that are being read. A setting that was null has been read as absent. -/
structure Draft where
  rosterPath : Option (Option Path)
  manifestPath : Option (Option Path)
  seed : Option (Option UInt64)
  centurionThreshold : Option (Option Nat)
  pretty : Option Bool

namespace Draft

def blank : Draft := ⟨none, none, none, none, none⟩

def path : Json.Reader Path := fun s => do
  let (text, s) ← Json.text "path string" s
  return (.ofString text, s)

def seedValue : Json.Reader UInt64 := fun s => do
  let (n, s) ← Json.natural "u64" s
  return (.ofNat n, s)

/-- The settings, in the order in which an array holds them. -/
def fields : List (Json.Field Draft) :=
  [{ name := "roster_path"
     given := fun d => d.rosterPath.isSome
     fill := fun d s => do
       let (p, s) ← Json.optional path s
       return ({ d with rosterPath := some p }, s)
     required := false },
   { name := "manifest_path"
     given := fun d => d.manifestPath.isSome
     fill := fun d s => do
       let (p, s) ← Json.optional path s
       return ({ d with manifestPath := some p }, s)
     required := false },
   { name := "seed"
     given := fun d => d.seed.isSome
     fill := fun d s => do
       let (n, s) ← Json.optional seedValue s
       return ({ d with seed := some n }, s)
     required := false },
   { name := "centurion_threshold"
     given := fun d => d.centurionThreshold.isSome
     fill := fun d s => do
       let (n, s) ← Json.optional (Json.natural "usize") s
       return ({ d with centurionThreshold := some n }, s)
     required := false },
   { name := "pretty"
     given := fun d => d.pretty.isSome
     fill := fun d s => do
       let (b, s) ← Json.boolean s
       return ({ d with pretty := some b }, s)
     required := true }]

/-- The settings that have been read. -/
def settings (d : Draft) : Settings :=
  ⟨d.rosterPath.join, d.manifestPath.join, d.seed.join, d.centurionThreshold.join,
    d.pretty.getD false⟩

end Draft

/-- The settings that a text holds, or the report of what is wrong with it. -/
def ofJson (text : String) : Except String Settings :=
  let read (bound : Nat) : Json.Reader Draft :=
    Json.record "struct RoomSeedSettings" Draft.fields bound .blank
  match Json.document read text with
  | .ok d => .ok d.settings
  | .error f => .error (f.report text)

end Settings

end RoomDraw
