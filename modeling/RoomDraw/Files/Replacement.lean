import RoomDraw.Files.Disk

/-!
# Replacing a file

A file is replaced by writing a temporary file beside it, and giving that the name of the file when
it is complete. A replacement asks for one step at a time and goes on from the answer, so that any
step may fail, and steps of several replacements may mix. After a failure it asks for the temporary
file to be removed.
-/

namespace RoomDraw

/-- What the names of temporary files are made of: a process, a reading of the clock, and a number
that the process uses once. -/
structure Stamp where
  process : Nat
  clock : Nat
  counter : Nat
deriving DecidableEq, Repr

/-- The name of the temporary file for a file. -/
def temporaryName (target : Name) (s : Stamp) : Name :=
  Utf8.encode "." ++ target ++ Utf8.encode s!".tmp.{s.process}.{s.clock}.{s.counter}"

/-- A step in a directory. -/
inductive Request where
  /-- Creates a file that does not exist yet. -/
  | create (name : Name)
  /-- Writes at the end of a file as many of the bytes as it takes. -/
  | write (name : Name) (bytes : Bytes)
  /-- Waits until a file is safe. -/
  | sync (name : Name)
  /-- Gives an entry another name, in place of the entry that had it. -/
  | rename (source target : Name)
  | discard (name : Name)
  /-- Waits until the entries of the directory are safe. -/
  | syncDirectory
deriving DecidableEq, Repr

/-- The answer to a request: the number of bytes written, where the request is to write some, or
the text of an error. -/
abbrev Response := Except String Nat

/-- What a replacement asks for next, or how it ended. -/
inductive Phase where
  | creating
  | writing (left : Bytes)
  | syncing
  | moving
  /-- The file has been replaced. -/
  | settling
  /-- A step on the file with a name has failed. -/
  | discarding (culprit : Name) (message : String)
  | done
  | failed (culprit : Name) (message : String)
deriving DecidableEq, Repr

/-- The replacement of a file in a directory, as far as it has come. -/
structure Replacement where
  target : Name
  temporary : Name
  contents : Bytes
  phase : Phase
deriving DecidableEq, Repr

namespace Replacement

/-- The replacement of a file by one with the given contents, before its first step. -/
def start (target : Name) (s : Stamp) (contents : Bytes) : Replacement :=
  ⟨target, temporaryName target s, contents, .creating⟩

/-- The phase in which so much is left to be written. -/
def writingPhase (left : Bytes) : Phase := if left.isEmpty then .syncing else .writing left

/-- What the replacement asks for, unless it has ended. -/
def request? (r : Replacement) : Option Request :=
  match r.phase with
  | .creating => some (.create r.temporary)
  | .writing left => some (.write r.temporary left)
  | .syncing => some (.sync r.temporary)
  | .moving => some (.rename r.temporary r.target)
  | .settling => some .syncDirectory
  | .discarding _ _ => some (.discard r.temporary)
  | .done | .failed _ _ => none

/-- The phase after an answer. Whether the directory is safe, or the temporary file is gone, makes
no difference. -/
def phaseAfter (r : Replacement) : Response → Phase := fun response =>
  match r.phase, response with
  | .creating, .ok _ => writingPhase r.contents
  | .writing left, .ok n =>
    if n = 0 then .discarding r.temporary "failed to write whole buffer"
    else writingPhase (left.drop n)
  | .syncing, .ok _ => .moving
  | .moving, .ok _ => .settling
  | .moving, .error message => .discarding r.target message
  | .creating, .error message | .writing _, .error message | .syncing, .error message =>
    .discarding r.temporary message
  | .settling, _ => .done
  | .discarding culprit message, _ => .failed culprit message
  | .done, _ => .done
  | .failed culprit message, _ => .failed culprit message

/-- The replacement after an answer. -/
def receive (r : Replacement) (response : Response) : Replacement :=
  { r with phase := r.phaseAfter response }

/-- A bound on the number of steps to come. -/
def stepsLeft (r : Replacement) : Nat :=
  match r.phase with
  | .creating => r.contents.length + 6
  | .writing left => left.length + 5
  | .syncing => 4
  | .moving => 3
  | .settling => 2
  | .discarding _ _ => 2
  | .done | .failed _ _ => 0

theorem stepsLeft_writingPhase (r : Replacement) (left : Bytes) :
    ({ r with phase := writingPhase left } : Replacement).stepsLeft < left.length + 6 := by
  unfold writingPhase
  split <;> simp only [stepsLeft] <;> omega

theorem stepsLeft_writingPhase_drop (r : Replacement) (left : Bytes) {n : Nat} (h : n ≠ 0) :
    ({ r with phase := writingPhase (left.drop n) } : Replacement).stepsLeft < left.length + 5 := by
  unfold writingPhase
  split
  · simp only [stepsLeft]; omega
  · rename_i hd
    simp only [List.isEmpty_iff, List.drop_eq_nil_iff] at hd
    simp only [stepsLeft, List.length_drop]; omega

theorem stepsLeft_receive_lt {r : Replacement} {request : Request} (h : r.request? = some request)
    (response : Response) : (r.receive response).stepsLeft < r.stepsLeft := by
  obtain ⟨target, temporary, contents, phase⟩ := r
  cases phase with
  | creating =>
    cases response with
    | error message => simp [receive, phaseAfter, stepsLeft]
    | ok n => exact stepsLeft_writingPhase ⟨target, temporary, contents, .creating⟩ contents
  | writing left =>
    cases response with
    | error message => simp only [receive, phaseAfter, stepsLeft]; omega
    | ok n =>
      by_cases hn : n = 0
      · simp only [receive, phaseAfter, hn, if_true, stepsLeft]; omega
      · simp only [receive, phaseAfter, hn, if_false]
        exact stepsLeft_writingPhase_drop ⟨target, temporary, contents, .creating⟩ left hn
  | syncing => cases response <;> simp [receive, phaseAfter, stepsLeft]
  | moving => cases response <;> simp [receive, phaseAfter, stepsLeft]
  | settling => simp [receive, phaseAfter, stepsLeft]
  | discarding culprit message => simp [receive, phaseAfter, stepsLeft]
  | done => simp [request?] at h
  | failed culprit message => simp [request?] at h

/-- How the replacement ended: with the name of the file on which a step failed, and the text of the
error, or well. -/
def outcome (r : Replacement) : Except (Name × String) Unit :=
  match r.phase with
  | .failed culprit message => .error (culprit, message)
  | _ => .ok ()

/-- Takes all steps of a replacement to its end. -/
def complete {m : Type → Type} [Monad m] (perform : Request → m Response) (r : Replacement) :
    m (Except (Name × String) Unit) :=
  match h : r.request? with
  | none => return r.outcome
  | some request => do
    let response ← perform request
    have := stepsLeft_receive_lt h response
    complete perform (r.receive response)
termination_by r.stepsLeft

end Replacement

end RoomDraw
