import RoomDraw.Proofs.Json.Values

/-!
# The grammar of JSON

What a text of a value looks like, told by rules that know nothing of a reader. A value is a tree,
and one tree has many texts: space may stand between its parts, and the characters of its strings
may be escaped. How a string is spelled is left open, since a text can be taken at two levels: for
what stands between the quotes, or for the characters that are meant.
-/

namespace RoomDraw

namespace Json

/-- A value, with its strings in `α`. A number is kept as it is written. -/
inductive Tree (α : Type) where
  | null
  | boolean (value : Bool)
  | number (numeral : List Char)
  | text (value : α)
  | array (elements : List (Tree α))
  | object (members : List (α × Tree α))

namespace Tree

variable {α β : Type}

/-- The string, if the value is one. -/
def string? : Tree α → Option α
  | text a => some a
  | _ => none

/-- What the elements stand for, if the value is an array and each of them stands for something. -/
def list? (item : Tree α → Option β) : Tree α → Option (List β)
  | array ts => ts.mapM item
  | _ => none

end Tree

/-! ### Numbers -/

/-- One decimal digit or more. -/
def Digits (w : List Char) : Prop := w ≠ [] ∧ ∀ c ∈ w, c.isDigit = true

inductive WholeText : List Char → Prop where
  | zero : WholeText ['0']
  | digits {w} : Digits w → w.head? ≠ some '0' → WholeText w

inductive FractionText : List Char → Prop where
  | none : FractionText []
  | digits {w} : Digits w → FractionText ('.' :: w)

inductive ExponentText : List Char → Prop where
  | none : ExponentText []
  | digits {e sign w} : e = 'e' ∨ e = 'E' → sign = [] ∨ sign = ['+'] ∨ sign = ['-'] → Digits w →
      ExponentText (e :: (sign ++ w))

/-- The texts of numbers. -/
inductive NumeralText : List Char → Prop where
  | mk {sign whole fraction exponent} : sign = [] ∨ sign = ['-'] → WholeText whole →
      FractionText fraction → ExponentText exponent →
      NumeralText (sign ++ (whole ++ (fraction ++ exponent)))

/-! ### Strings -/

/-- The character is a hexadecimal digit of the value. -/
def HexDigit (c : Char) (n : Nat) : Prop :=
  ('0' ≤ c ∧ c ≤ '9' ∧ c.toNat = n + '0'.toNat) ∨
    ('a' ≤ c ∧ c ≤ 'f' ∧ c.toNat + 10 = n + 'a'.toNat) ∨
    ('A' ≤ c ∧ c ≤ 'F' ∧ c.toNat + 10 = n + 'A'.toNat)

instance (c : Char) (n : Nat) : Decidable (HexDigit c n) :=
  inferInstanceAs (Decidable (_ ∨ _ ∨ _))

/-- Four hexadecimal digits and the number that they spell. -/
inductive HexUnit : List Char → Nat → Prop where
  | mk {a b c d i j k l} : HexDigit a i → HexDigit b j → HexDigit c k → HexDigit d l →
      HexUnit [a, b, c, d] (((i * 16 + j) * 16 + k) * 16 + l)

/-- The letters of the short escapes, each with the character that it stands for. -/
def shortEscapes : List (Char × Char) :=
  [('"', '"'), ('\\', '\\'), ('/', '/'), ('b', '\x08'), ('f', '\x0c'), ('n', '\n'), ('r', '\r'),
    ('t', '\t')]

/-- A character that may stand for itself in a string. -/
def Unescaped (c : Char) : Prop := c ≠ '"' ∧ c ≠ '\\' ∧ ¬c < ' '

instance : DecidablePred Unescaped := fun _ => inferInstanceAs (Decidable (_ ∧ _ ∧ _))

/-- What may stand between the quotes of a string. An escape of a code unit has the right form even
if the unit is no character. -/
inductive RawText : List Char → Prop where
  | nil : RawText []
  | plain {c w} : Unescaped c → RawText w → RawText (c :: w)
  | short {c d w} : (c, d) ∈ shortEscapes → RawText w → RawText ('\\' :: c :: w)
  | unit {unit n w} : HexUnit unit n → RawText w → RawText ('\\' :: 'u' :: (unit ++ w))

/-- The spellings of characters. Each of them can be escaped by its code point, or from 2¹⁶ on by a
pair of units. -/
inductive Spelling : List Char → List Char → Prop where
  | nil : Spelling [] []
  | plain {c s w} : Unescaped c → Spelling s w → Spelling (c :: s) (c :: w)
  | short {c d s w} : (c, d) ∈ shortEscapes → Spelling s w → Spelling (d :: s) ('\\' :: c :: w)
  | unit {c unit s w} : HexUnit unit c.toNat → Spelling s w →
      Spelling (c :: s) ('\\' :: 'u' :: (unit ++ w))
  | pair {c lead trail s w} : 0x10000 ≤ c.toNat →
      HexUnit lead (0xD800 + (c.toNat - 0x10000) / 0x400) →
      HexUnit trail (0xDC00 + (c.toNat - 0x10000) % 0x400) → Spelling s w →
      Spelling (c :: s) ('\\' :: 'u' :: (lead ++ '\\' :: 'u' :: (trail ++ w)))

/-- Characters without a meaning of their own are their own spelling. -/
lemma Spelling.self {s : List Char} (h : ∀ c ∈ s, Unescaped c) : Spelling s s := by
  induction s with
  | nil => exact .nil
  | cons c s ih =>
    exact .plain (h c List.mem_cons_self) (ih fun d hd => h d (List.mem_cons_of_mem _ hd))

/-- Between the quotes stands nothing but the text itself, which only has to be well formed. -/
def Verbatim (text w : List Char) : Prop := w = text ∧ RawText w

/-- Between the quotes stands some spelling of the string. -/
def Spelled (s : String) (w : List Char) : Prop := Spelling s.toList w

/-! ### Values -/

section

variable {α : Type} (spelled : α → List Char → Prop)

/-- The texts of a key and the colon behind it. -/
inductive KeyText (key : α) : List Char → Prop where
  | mk {before w after} : Blank before → spelled key w → Blank after →
      KeyText key (before ++ '"' :: (w ++ '"' :: (after ++ [':'])))

mutual

/-- The texts of a value. -/
inductive Written : Tree α → List Char → Prop where
  | null : Written .null "null".toList
  | yes : Written (.boolean true) "true".toList
  | no : Written (.boolean false) "false".toList
  | number {w} : NumeralText w → Written (.number w) w
  | text {a w} : spelled a w → Written (.text a) ('"' :: (w ++ ['"']))
  | emptyArray {space} : Blank space → Written (.array []) ('[' :: (space ++ [']']))
  | array {ts w} : Elements ts w → Written (.array ts) ('[' :: (w ++ [']']))
  | emptyObject {space} : Blank space → Written (.object []) ('{' :: (space ++ ['}']))
  | object {ms w} : Members ms w → Written (.object ms) ('{' :: (w ++ ['}']))

/-- The texts of a value with space around it. -/
inductive Padded : Tree α → List Char → Prop where
  | mk {before t w after} : Blank before → Written t w → Blank after →
      Padded t (before ++ (w ++ after))

/-- The texts of the elements of an array, of which there is one at least. -/
inductive Elements : List (Tree α) → List Char → Prop where
  | last {t w} : Padded t w → Elements [t] w
  | cons {t w ts rest} : Padded t w → Elements ts rest → Elements (t :: ts) (w ++ ',' :: rest)

/-- The texts of the members of an object, of which there is one at least. -/
inductive Members : List (α × Tree α) → List Char → Prop where
  | last {key k t w} : KeyText spelled key k → Padded t w → Members [(key, t)] (k ++ w)
  | cons {key k t w ms rest} : KeyText spelled key k → Padded t w → Members ms rest →
      Members ((key, t) :: ms) (k ++ (w ++ ',' :: rest))

end

/-- The texts that hold one value, and nothing but space around it. -/
abbrev DocumentText : Tree α → List Char → Prop := Padded spelled

end

end Json

end RoomDraw
