import Mathlib.Data.List.DropRight
import Mathlib.Tactic.Common

/-!
# Text operations

Trimming, splitting into lines and splitting at whitespace, on strings of Unicode characters.
Whitespace is the Unicode property `White_Space`; a line ends at a line feed, which a carriage
return may precede, and a final line feed opens no further line.
-/

namespace Text

/-- The Unicode property `White_Space`. -/
def isWhitespace (c : Char) : Bool :=
  (9 ≤ c.toNat && c.toNat ≤ 13) || c.toNat = 32 || c.toNat = 0x85 || c.toNat = 0xA0 ||
  c.toNat = 0x1680 || (0x2000 ≤ c.toNat && c.toNat ≤ 0x200A) || c.toNat = 0x2028 ||
  c.toNat = 0x2029 || c.toNat = 0x202F || c.toNat = 0x205F || c.toNat = 0x3000

/-- A text is read back from its bytes. -/
theorem from_utf8_to_utf8 (s : String) : String.fromUTF8? s.toUTF8 = some s := by
  simp [String.fromUTF8?, String.fromUTF8, String.isValidUTF8]

/-- Drop whitespace at both ends. -/
def trimChars (chars : List Char) : List Char :=
  ((chars.dropWhile isWhitespace).reverse.dropWhile isWhitespace).reverse

/-- Drop whitespace at both ends. -/
def trim (s : String) : String :=
  String.ofList (trimChars s.toList)

/-- A text between two characters that are not whitespace is left as it is. -/
theorem trim_chars_between {first last : Char} (inner : List Char)
    (hfirst : ¬ isWhitespace first) (hlast : ¬ isWhitespace last) :
    trimChars (first :: (inner ++ [last])) = first :: (inner ++ [last]) := by
  unfold trimChars
  rw [List.dropWhile_cons_of_neg hfirst, List.reverse_cons, List.reverse_append]
  show ((last :: (inner.reverse ++ [first])).dropWhile isWhitespace).reverse = _
  rw [List.dropWhile_cons_of_neg hlast]
  simp

/-- Dropping characters at the end leaves a text without such characters at the front alone. -/
theorem drop_while_of_trimmed (p : Char → Bool) (chars : List Char)
    (h : chars.dropWhile p = chars) :
    ((chars.reverse.dropWhile p).reverse).dropWhile p = (chars.reverse.dropWhile p).reverse := by
  cases chars with
  | nil => rfl
  | cons c rest =>
      have hc : ¬ p c := by
        intro hp
        have hlength := congrArg List.length h
        rw [List.dropWhile_cons_of_pos hp, List.length_cons] at hlength
        have := (List.dropWhile_sublist p (l := rest)).length_le
        omega
      rw [List.reverse_cons, List.dropWhile_append]
      split
      · rw [List.dropWhile_cons_of_neg hc]
        exact List.dropWhile_cons_of_neg hc
      · rw [List.reverse_append]
        exact List.dropWhile_cons_of_neg hc

/-- A trimmed text stays as it is when it is trimmed again. -/
theorem trim_trim (s : String) : trim (trim s) = trim s := by
  have hchars (chars : List Char) : trimChars (trimChars chars) = trimChars chars := by
    unfold trimChars
    rw [drop_while_of_trimmed _ (chars.dropWhile _) (List.dropWhile_idempotent _ _),
      List.reverse_reverse,
      List.dropWhile_idempotent]
  unfold trim
  rw [String.toList_ofList, hchars]

/-- The pieces of a text, each up to and including its line feed; the last one may lack it. -/
def splitInclusive : List Char → List (List Char)
  | [] => []
  | c :: rest =>
      if c = '\n' then [c] :: splitInclusive rest
      else
        match splitInclusive rest with
        | [] => [[c]]
        | piece :: pieces => (c :: piece) :: pieces

/-- Drop the line feed at the end of a piece, and the carriage return before it. -/
def stripTerminator (piece : List Char) : List Char :=
  if piece.getLast? = some '\n' then
    let line := piece.dropLast
    if line.getLast? = some '\r' then line.dropLast else line
  else piece

/-- The lines of a text, without their terminators. -/
def lines (s : String) : List String :=
  (splitInclusive s.toList).map fun piece => String.ofList (stripTerminator piece)

/-- The maximal runs of characters that are not whitespace. -/
def splitWords : List Char → List (List Char)
  | [] => []
  | [c] => if isWhitespace c then [] else [[c]]
  | c :: d :: rest =>
      if isWhitespace c then splitWords (d :: rest)
      else if isWhitespace d then [c] :: splitWords (d :: rest)
      else
        match splitWords (d :: rest) with
        | [] => [[c]]
        | word :: words => (c :: word) :: words

/-- The words of a text. -/
def splitWhitespace (s : String) : List String :=
  (splitWords s.toList).map String.ofList

example : lines "a b\r\n\n c" = ["a b", "", " c"] ∧
    splitWhitespace "  iptables  -L\t" = ["iptables", "-L"] ∧ trim " x \n" = "x" := by decide

/-! ## UTF-8 -/

/-- How many bytes a sequence takes that begins with a byte; 0 if none does. -/
def sequenceLength (first : UInt8) : Nat :=
  if first < 0x80 then 1
  else if 0xC2 ≤ first && first ≤ 0xDF then 2
  else if 0xE0 ≤ first && first ≤ 0xEF then 3
  else if 0xF0 ≤ first && first ≤ 0xF4 then 4
  else 0

/-- The bytes that may come second. -/
def secondAllowed (first second : UInt8) : Bool :=
  if first = 0xE0 then 0xA0 ≤ second && second ≤ 0xBF
  else if first = 0xED then 0x80 ≤ second && second ≤ 0x9F
  else if first = 0xF0 then 0x90 ≤ second && second ≤ 0xBF
  else if first = 0xF4 then 0x80 ≤ second && second ≤ 0x8F
  else 0x80 ≤ second && second ≤ 0xBF

/-- The first byte that its check refuses, by the number of bytes before it; `none` if the bytes
end too early. -/
def refused (before : Nat) : List (UInt8 → Bool) → List UInt8 → Option (Option Nat)
  | [], _ => none
  | _ :: _, [] => some none
  | check :: checks, b :: rest =>
      if check b then refused (before + 1) checks rest else some (some before)

/-- The first sequence that is not valid: where it begins, and how many bytes it takes unless the
bytes end too early. The first `skip` bytes belong to a sequence that is. -/
def invalidSequence (skip index : Nat) : List UInt8 → Option (Nat × Option Nat)
  | [] => none
  | first :: rest =>
      match skip with
      | skip' + 1 => invalidSequence skip' (index + 1) rest
      | 0 =>
          match sequenceLength first with
          | 0 => some (index, some 1)
          | len + 1 =>
              let checks := (List.range len).map fun i =>
                if i = 0 then secondAllowed first else fun b => 0x80 ≤ b && b ≤ 0xBF
              match refused 1 checks rest with
              | some taken => some (index, taken)
              | none => invalidSequence len (index + 1) rest

/-- The text of the error for bytes that are not UTF-8. -/
def utf8Error (bytes : ByteArray) : String :=
  match invalidSequence 0 0 bytes.toList with
  | some (index, some taken) => s!"invalid utf-8 sequence of {taken} bytes from index {index}"
  | some (index, none) => s!"incomplete utf-8 byte sequence from index {index}"
  | none => ""

example : invalidSequence 0 0 [0x61, 0xC3, 0xA9, 0xE2, 0x82] = some (3, none) ∧
    invalidSequence 0 0 [0xE2, 0x82, 0x41] = some (0, some 2) ∧
    invalidSequence 0 0 [0xE2, 0x82, 0xAC, 0xFF] = some (3, some 1) := by decide

end Text
