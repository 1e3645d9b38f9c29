import RoomDraw.Json.Fault

/-!
# Texts in JSON

Strings between quotes, with their escapes, read from behind the opening quote. `Text.read` decodes
a string; `Text.skip` only finds its end and accepts every escape of the right form, whatever it
spells.
-/

namespace RoomDraw

namespace Json

/-- The value of a hexadecimal digit. -/
def hexDigit? (c : Char) : Option Nat :=
  if c.isDigit then some (c.toNat - '0'.toNat)
  else if 'a' ≤ c ∧ c ≤ 'f' then some (c.toNat - 'a'.toNat + 10)
  else if 'A' ≤ c ∧ c ≤ 'F' then some (c.toNat - 'A'.toNat + 10)
  else none

/-- Reads four hexadecimal digits. What is taken for them is four bytes, whatever they are. -/
def hexDigits : Reader Nat := fun s =>
  if Utf8.width (s.take 4) < 4 then fault .endInString []
  else
    match s with
    | a :: b :: c :: d :: rest =>
      match hexDigit? a, hexDigit? b, hexDigit? c, hexDigit? d with
      | some a, some b, some c, some d => .ok (((a * 16 + b) * 16 + c) * 16 + d, rest)
      | _, _, _, _ => .error ⟨.escapeInvalid, s, 4⟩
    | _ => .error ⟨.escapeInvalid, s, 4⟩

/-- The character that a short escape spells. -/
def shortEscape? : Char → Option Char
  | '"' => some '"'
  | '\\' => some '\\'
  | '/' => some '/'
  | 'b' => some '\x08'
  | 'f' => some '\x0c'
  | 'n' => some '\n'
  | 'r' => some '\r'
  | 't' => some '\t'
  | _ => none

/-- Whether a code unit is the first of a pair that spells one character. -/
def isLead (n : Nat) : Bool := 0xD800 ≤ n && n ≤ 0xDBFF

/-- Whether a code unit is the second of a pair that spells one character. -/
def isTrail (n : Nat) : Bool := 0xDC00 ≤ n && n ≤ 0xDFFF

/-- The character that a pair of code units spells. -/
def pairChar (lead trail : Nat) : Char :=
  .ofNat ((lead - 0xD800) * 0x400 + (trail - 0xDC00) + 0x10000)

/-- Reads the second escape of a pair whose first code unit is given. -/
def trailEscape (lead : Nat) : Reader Char
  | [] => fault .endInString []
  | '\\' :: [] => fault .endInString []
  | '\\' :: 'u' :: rest =>
    match hexDigits rest with
    | .error f => .error f
    | .ok (trail, rest) =>
      if isTrail trail then .ok (pairChar lead trail, rest) else fault .surrogateAlone rest
  | '\\' :: rest => faultAhead .surrogateCut rest
  | rest => faultAhead .surrogateCut rest

/-- Reads an escape, from behind the backslash. -/
def escape : Reader Char
  | [] => fault .endInString []
  | 'u' :: rest =>
    match hexDigits rest with
    | .error f => .error f
    | .ok (unit, rest) =>
      if isTrail unit then fault .surrogateAlone rest
      else if isLead unit then trailEscape unit rest
      else .ok (.ofNat unit, rest)
  | c :: rest =>
    match shortEscape? c with
    | some d => .ok (d, rest)
    | none => faultAhead .escapeInvalid (c :: rest)

/-- Passes over an escape, from behind the backslash. -/
def skipEscape : Reader Unit
  | [] => fault .endInString []
  | 'u' :: rest => (hexDigits rest).map fun (_, rest) => ((), rest)
  | c :: rest =>
    if (shortEscape? c).isSome then .ok ((), rest) else faultAhead .escapeInvalid (c :: rest)

/-! ### Every escape takes something off the text -/

theorem length_of_hexDigits {s rest : List Char} {n : Nat} (h : hexDigits s = .ok (n, rest)) :
    rest.length < s.length := by
  unfold hexDigits fault at h
  split at h
  · cases h
  · split at h
    · split at h
      · simp only [Except.ok.injEq, Prod.mk.injEq] at h
        simp [← h.2]; omega
      · cases h
    · cases h

theorem length_of_trailEscape {lead : Nat} {s rest : List Char} {c : Char}
    (h : trailEscape lead s = .ok (c, rest)) : rest.length < s.length := by
  unfold trailEscape fault faultAhead at h
  split at h <;> try cases h
  split at h
  · cases h
  · rename_i hd
    split at h
    · simp only [Except.ok.injEq, Prod.mk.injEq] at h
      have := length_of_hexDigits hd
      simp only [List.length_cons, ← h.2]; omega
    · cases h

theorem length_of_escape {s rest : List Char} {c : Char} (h : escape s = .ok (c, rest)) :
    rest.length < s.length := by
  unfold escape fault faultAhead at h
  split at h
  · cases h
  · split at h
    · cases h
    · rename_i hd
      have := length_of_hexDigits hd
      split at h
      · cases h
      · split at h
        · have := length_of_trailEscape h
          simp only [List.length_cons]; omega
        · simp only [Except.ok.injEq, Prod.mk.injEq] at h
          simp only [List.length_cons, ← h.2]; omega
  · split at h
    · simp only [Except.ok.injEq, Prod.mk.injEq] at h
      simp [← h.2]
    · cases h

theorem length_of_skipEscape {s rest : List Char} (h : skipEscape s = .ok ((), rest)) :
    rest.length < s.length := by
  unfold skipEscape fault faultAhead at h
  split at h
  · cases h
  · rename_i t
    cases hd : hexDigits t with
    | error f => simp [hd, Except.map] at h
    | ok p =>
      have : p.2.length < t.length := length_of_hexDigits hd
      simp only [hd, Except.map, Except.ok.injEq, Prod.mk.injEq, true_and] at h
      simp only [List.length_cons, ← h]; omega
  · split at h
    · simp only [Except.ok.injEq, Prod.mk.injEq, true_and] at h
      simp [← h]
    · cases h

/-! ### Whole strings -/

/-- Reads the rest of a string, after the characters read already, of which the last comes first. -/
def readText (before : List Char) : Reader String
  | [] => fault .endInString []
  | c :: rest =>
    if c = '"' then .ok (.ofList before.reverse, rest)
    else if c = '\\' then
      match _ : escape rest with
      | .error f => .error f
      | .ok (d, rest) => readText (d :: before) rest
    else if c < ' ' then faultAhead .controlCharacter (c :: rest)
    else readText (c :: before) rest
termination_by s => s.length
decreasing_by
  · have := length_of_escape (by assumption)
    simp only [List.length_cons]; omega
  · simp

/-- Passes over the rest of a string. -/
def skipText : Reader Unit
  | [] => fault .endInString []
  | c :: rest =>
    if c = '"' then .ok ((), rest)
    else if c = '\\' then
      match _ : skipEscape rest with
      | .error f => .error f
      | .ok ((), rest) => skipText rest
    else if c < ' ' then fault .controlCharacter (c :: rest)
    else skipText rest
termination_by s => s.length
decreasing_by
  · have := length_of_skipEscape (by assumption)
    simp only [List.length_cons]; omega
  · simp

end Json

end RoomDraw
