import Wireforge.Domain.Net
import Wireforge.Lib.Text

/-!
# Reading numbers and addresses

The parsers of the standard library that the forms rely on: unsigned decimal numbers of a bounded
size, and IP addresses without a prefix length or a zone.
-/

namespace Wireforge

/-- The digits of a number, which may follow a plus sign. -/
def digitsOf : List Char → List Char
  | '+' :: digits => digits
  | chars => chars

/-- Read a decimal number below `bound`. -/
def parseUnsigned (bound : Nat) (s : String) : Option Nat :=
  let digits := digitsOf s.toList
  if digits ≠ [] ∧ digits.all Char.isDigit then
    let n := digits.foldl (fun n c => n * 10 + (c.toNat - 48)) 0
    if n < bound then some n else none
  else none

/-- A number is read back from its digits. -/
theorem parse_unsigned_display {bound n : Nat} (h : n < bound) :
    parseUnsigned bound (toString n) = some n := by
  have hdigits : (toString n).toList = Nat.toDigits 10 n := Nat.toList_repr
  have hall : (Nat.toDigits 10 n).all Char.isDigit = true :=
    List.all_eq_true.mpr fun c hc =>
      Nat.isDigit_of_mem_toDigits (by decide) (by decide) hc
  -- A number has no sign, so that its first character is a digit.
  have hplain : digitsOf (Nat.toDigits 10 n) = Nat.toDigits 10 n := by
    unfold digitsOf
    split
    · rename_i digits heq
      rw [heq] at hall
      simp [Char.isDigit] at hall
    · rfl
  have hvalue : (Nat.toDigits 10 n).foldl (fun n c => n * 10 + (c.toNat - 48)) 0 = n := by
    have hread := Nat.ofDigitChars_ten_toDigits (n := n)
    rw [Nat.ofDigitChars_eq_foldl] at hread
    simpa only [Nat.mul_comm, show '0'.toNat = 48 from rfl] using hread
  rw [parseUnsigned, hdigits, hplain]
  simp only [hall, hvalue, h, Nat.toDigits_ne_nil, ne_eq, not_false_eq_true, and_self, if_true]

/-- Read a `u16`. -/
def parseU16 (s : String) : Option UInt16 :=
  (parseUnsigned (2 ^ 16) s).map UInt16.ofNat

namespace IpAddr

/-- The pieces of a text between the occurrences of a separator. -/
def splitAt (sep : Char) : List Char → List (List Char)
  | [] => [[]]
  | c :: rest =>
      if c = sep then [] :: splitAt sep rest
      else
        match splitAt sep rest with
        | [] => [[c]]
        | piece :: pieces => (c :: piece) :: pieces

/-- One to three decimal digits without a leading zero, up to 255. -/
def parseOctet (chars : List Char) : Option Nat :=
  if chars ≠ [] ∧ chars.length ≤ 3 ∧ chars.all Char.isDigit ∧
      (chars.head? = some '0' → chars.length = 1) then
    let n := chars.foldl (fun n c => n * 10 + (c.toNat - 48)) 0
    if n < 256 then some n else none
  else none

/-- Four octets separated by dots. -/
def parseV4 (chars : List Char) : Option (BitVec 32) := do
  match ← (splitAt '.' chars).mapM parseOctet with
  | [a, b, c, d] => some (ipv4 a b c d)
  | _ => none

/-- The value of a hexadecimal digit. -/
def hexValue (c : Char) : Option Nat :=
  if '0' ≤ c ∧ c ≤ '9' then some (c.toNat - 48)
  else if 'a' ≤ c ∧ c ≤ 'f' then some (c.toNat - 87)
  else if 'A' ≤ c ∧ c ≤ 'F' then some (c.toNat - 55)
  else none

/-- One to four hexadecimal digits. -/
def parseGroup (chars : List Char) : Option Nat := do
  let values ← chars.mapM hexValue
  if chars ≠ [] ∧ chars.length ≤ 4 then some (values.foldl (fun n v => n * 16 + v) 0) else none

/-- Groups separated by colons, of which the last may be an IPv4 address that stands for two. -/
def parseGroups (v4Allowed : Bool) : List (List Char) → Option (List Nat)
  | [] => some []
  | [last] =>
      match parseGroup last with
      | some group => some [group]
      | none =>
          if v4Allowed then
            (parseV4 last).map fun bits => [bits.toNat / 2 ^ 16, bits.toNat % 2 ^ 16]
          else none
  | piece :: rest => do
      let group ← parseGroup piece
      let groups ← parseGroups v4Allowed rest
      return group :: groups

/-- The groups of a text that may be empty. -/
def parseSide (v4Allowed : Bool) (chars : List Char) : Option (List Nat) :=
  if chars = [] then some [] else parseGroups v4Allowed (splitAt ':' chars)

/-- The texts before and after the first double colon. -/
def splitElision : List Char → Option (List Char × List Char)
  | ':' :: ':' :: rest => some ([], rest)
  | c :: rest => (splitElision rest).map fun parts => (c :: parts.1, parts.2)
  | [] => none

/-- Eight groups, or fewer around a double colon that stands for the missing zeros. -/
def parseV6 (chars : List Char) : Option (BitVec 128) := do
  let groups ← match splitElision chars with
    | none => parseSide true chars
    | some (before, after) => do
        let first ← parseSide false before
        let second ← parseSide true after
        if first.length + second.length ≤ 7 then
          some (first ++ List.replicate (8 - first.length - second.length) 0 ++ second)
        else none
  if groups.length = 8 then
    some (BitVec.ofNat 128 (groups.foldl (fun n group => n * 2 ^ 16 + group) 0))
  else none

/-- Read an address. -/
def parse (s : String) : Option IpAddr :=
  match parseV4 s.toList with
  | some bits => some (.v4 bits)
  | none => (parseV6 s.toList).map .v6

example : parse "10.7.0.1" = some (.v4 (ipv4 10 7 0 1)) ∧ parse "1.1.1.01" = none ∧
    parse "::1" = some (.v6 1) ∧ parse "2001:db8::192.0.2.1" =
      some (.v6 0x20010db80000000000000000c0000201) ∧ parse "1:2:3:4:5:6:7::8" = none ∧
    parse ":::" = none := by decide +kernel

end IpAddr

end Wireforge
