import Mathlib.Data.List.Basic

/-!
# JSON texts

Scalars and flat objects as a JSON serializer prints them: strings with the mandatory escapes only,
control characters by their short escapes where there are any, and objects without spaces.
-/

namespace Json

/-- A string, a natural number or a boolean. -/
inductive Scalar where
  | str (s : String)
  | num (n : Nat)
  | bool (b : Bool)
  deriving DecidableEq, Repr

/-- The fields of an object, by their names. -/
abbrev Object := List (String × Scalar)

/-- A value: a scalar, or one of another kind with its text. -/
inductive Value where
  | scalar (s : Scalar)
  | other (text : String)
  deriving DecidableEq

/-- A character of a string. -/
def escapeChar (c : Char) : List Char :=
  if c = '"' then ['\\', '"']
  else if c = '\\' then ['\\', '\\']
  else if c = '\n' then ['\\', 'n']
  else if c = '\r' then ['\\', 'r']
  else if c = '\t' then ['\\', 't']
  else if c.toNat = 8 then ['\\', 'b']
  else if c.toNat = 12 then ['\\', 'f']
  else if c.toNat < 32 then
    ['\\', 'u', '0', '0', Nat.digitChar (c.toNat / 16), Nat.digitChar (c.toNat % 16)]
  else [c]

/-- A string between its quotes. -/
def escape (s : String) : List Char :=
  s.toList.flatMap escapeChar

/-- A string. -/
def quote (s : String) : String :=
  String.ofList ('"' :: (escape s ++ ['"']))

/-- The text of a scalar. -/
def Scalar.display : Scalar → String
  | .str s => quote s
  | .num n => toString n
  | .bool b => toString b

/-- The text of a value. -/
def Value.display : Value → String
  | .scalar s => s.display
  | .other text => text

/-- The text of an object. -/
def display (object : Object) : String :=
  "\x7b" ++ ",".intercalate (object.map fun field => quote field.1 ++ ":" ++ field.2.display)
    ++ "\x7d"

/-- The character stands for itself in a string. -/
def Plain (c : Char) : Prop :=
  c ≠ '"' ∧ c ≠ '\\' ∧ 32 ≤ c.toNat

instance (c : Char) : Decidable (Plain c) :=
  inferInstanceAs (Decidable (_ ∧ _ ∧ _))

theorem escape_char_plain {c : Char} (h : Plain c) : escapeChar c = [c] := by
  obtain ⟨hquote, hslash, hprint⟩ := h
  have hcontrol : c ≠ '\n' ∧ c ≠ '\r' ∧ c ≠ '\t' := by
    refine ⟨?_, ?_, ?_⟩ <;>
    · rintro rfl
      exact absurd hprint (by decide)
  unfold escapeChar
  rw [if_neg hquote, if_neg hslash, if_neg hcontrol.1, if_neg hcontrol.2.1,
    if_neg hcontrol.2.2, if_neg (by omega), if_neg (by omega), if_neg (by omega)]

/-- The escape of a character is longer than the character unless the character is plain. -/
theorem length_escape_char (c : Char) :
    1 ≤ (escapeChar c).length ∧ ((escapeChar c).length = 1 → Plain c) := by
  by_cases hplain : Plain c
  · rw [escape_char_plain hplain]
    exact ⟨Nat.le_refl _, fun _ => hplain⟩
  · unfold escapeChar
    split_ifs with hquote hslash _ _ _ _ _ hprint
    case neg => exact absurd ⟨hquote, hslash, by omega⟩ hplain
    all_goals simp

theorem length_le_escape (chars : List Char) :
    chars.length ≤ (chars.flatMap escapeChar).length := by
  induction chars with
  | nil => exact Nat.le_refl _
  | cons c rest ih =>
      have hc := (length_escape_char c).1
      rw [List.flatMap_cons, List.length_append, List.length_cons]
      omega

/-- A string is printed as it is exactly when all its characters are plain. -/
theorem escape_eq_iff {s : String} : escape s = s.toList ↔ ∀ c ∈ s.toList, Plain c := by
  unfold escape
  generalize s.toList = chars
  induction chars with
  | nil => simp
  | cons c rest ih =>
      rw [List.flatMap_cons, List.forall_mem_cons, ← ih]
      constructor
      · intro h
        have hlength := congrArg List.length h
        rw [List.length_append, List.length_cons] at hlength
        -- Neither part is shorter than what it stands for, so that both are as long.
        have hrest := length_le_escape rest
        obtain ⟨hc, hplain⟩ := length_escape_char c
        have hplain : Plain c := hplain (by omega)
        rw [escape_char_plain hplain] at h
        exact ⟨hplain, (List.cons.inj h).2⟩
      · intro h
        rw [escape_char_plain h.1, h.2]
        rfl

theorem escape_eq_nil_iff {s : String} : escape s = [] ↔ s = "" := by
  constructor
  · intro h
    have hlength := length_le_escape s.toList
    rw [show s.toList.flatMap escapeChar = [] from h] at hlength
    exact String.toList_eq_nil_iff.mp (List.eq_nil_of_length_eq_zero (by simpa using hlength))
  · rintro rfl
    rfl

example : display [("name", .str "a\"b"), ("on", .bool true)] =
    "\x7b\"name\":\"a\\\"b\",\"on\":true\x7d" := by decide

end Json
