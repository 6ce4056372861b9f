import Wireforge.Lib.Words

/-!
# Configurations of sections and keys

A configuration is read line by line: a number sign opens a comment, a line in brackets begins a
section, and any other line is a key and a value with an equals sign between them. `read_append`
reads two texts with a line feed between them one after the other, and `read_entry_iff` says which
values a line gives back.
-/

namespace KeyValue

open Text

/-- What a line says. -/
inductive Item where
  | header (text : List Char)
  | entry (key value : List Char)
  | junk (text : List Char)
  deriving DecidableEq

/-- Read a line, of which nothing may be left without its comment. -/
def readLine (line : List Char) : Option Item :=
  let text := line.takeWhile (· ≠ '#')
  let trimmed := trimChars text
  if trimmed = [] then none
  else if trimmed.head? = some '[' then some (.header trimmed)
  else if '=' ∈ text then
    some (.entry (trimChars (text.takeWhile (· ≠ '=')))
      (trimChars (text.dropWhile (· ≠ '=')).tail))
  else some (.junk trimmed)

/-- Read a text. -/
def read (text : List Char) : List Item :=
  (text.splitOn '\n').filterMap readLine

example : read "[Peer] # laptop\n\nMTU = 1420\n on".toList =
    [.header "[Peer]".toList, .entry "MTU".toList "1420".toList, .junk "on".toList] := by
  decide +kernel

/-! ## Lines -/

variable {text line first rest key value : List Char} {others : List (List Char)}

/-- A text that is followed by a line feed is read on its own. -/
theorem read_append (text rest : List Char) :
    read (text ++ '\n' :: rest) = read text ++ read rest := by
  unfold read
  rw [List.splitOn_append_cons_self, List.filterMap_append]

/-- A text on one line in front of another text. -/
theorem split_lines_append (hline : '\n' ∉ line) (text : List Char) :
    (line ++ text).splitOn '\n' = (text.splitOn '\n').modifyHead (line ++ ·) := by
  induction line with
  | nil =>
      cases hsplit : text.splitOn '\n' with
      | nil => exact absurd hsplit (List.splitOn_ne_nil _ _)
      | cons first others => simp [hsplit]
  | cons c line ih =>
      have hc : ¬ (c == '\n') = true := fun h => hline (beq_iff_eq.mp h ▸ List.mem_cons_self)
      rw [List.cons_append, List.splitOn_cons_eq_if_modifyHead, if_neg hc,
        ih fun h => hline (List.mem_cons_of_mem c h), List.modifyHead_modifyHead]
      rfl

/-- What is read of a text in front of which more stands on the first line. -/
theorem read_after (hline : '\n' ∉ line) (hsplit : text.splitOn '\n' = first :: others) :
    read (line ++ text) = (readLine (line ++ first)).toList ++ others.filterMap readLine := by
  unfold read
  rw [split_lines_append hline, hsplit, List.modifyHead_cons, List.filterMap_cons]
  cases readLine (line ++ first) <;> rfl

theorem read_nil : read [] = [] := by decide

/-- A comment goes to the end of its line. -/
theorem read_comment (text : List Char) :
    read ('#' :: text) = (text.splitOn '\n').tail.filterMap readLine := by
  obtain ⟨first, others, hsplit⟩ := List.exists_cons_of_ne_nil (List.splitOn_ne_nil '\n' text)
  rw [← List.singleton_append, read_after (by simp) hsplit, hsplit]
  have hcomment : readLine (['#'] ++ first) = none := by
    simp [readLine, trimChars]
  rw [hcomment]
  rfl

/-! ## Values -/

/-- A value that stands on one line, without a comment and without whitespace at its ends. -/
structure IsValue (value : List Char) : Prop where
  oneLine : '\n' ∉ value
  uncommented : '#' ∉ value
  trimmed : trimChars value = value

/-- A name of letters and the like. -/
structure IsKey (key : List Char) : Prop where
  nonempty : key ≠ []
  plain : ∀ c ∈ key, isWhitespace c = false ∧ c ≠ '#' ∧ c ≠ '=' ∧ c ≠ '['

instance (key : List Char) : Decidable (IsKey key) :=
  letI : Decidable (∀ c ∈ key, isWhitespace c = false ∧ c ≠ '#' ∧ c ≠ '=' ∧ c ≠ '[') :=
    List.decidableBAll _ key
  decidable_of_iff (key ≠ [] ∧ ∀ c ∈ key, isWhitespace c = false ∧ c ≠ '#' ∧ c ≠ '=' ∧ c ≠ '[')
    ⟨fun h => ⟨h.1, h.2⟩, fun h => ⟨h.nonempty, h.plain⟩⟩

/-- A text without whitespace at its front begins with the same character when it is trimmed. -/
theorem head_trim_chars_cons {c : Char} (hc : isWhitespace c = false) (rest : List Char) :
    (trimChars (c :: rest)).head? = some c := by
  have hneg : ¬ isWhitespace c = true := by simp [hc]
  unfold trimChars
  rw [List.dropWhile_cons_of_neg hneg, List.head?_reverse, List.reverse_cons,
    List.dropWhile_append]
  split
  · rw [List.dropWhile_cons_of_neg hneg]
    rfl
  · simp

/-- Of a line with a key, the value is read without its comment. -/
theorem read_line_entry (hkey : IsKey key) (value : List Char) :
    readLine (key ++ " = ".toList ++ value) =
      some (.entry key (trimChars (value.takeWhile (· ≠ '#')))) := by
  obtain ⟨c, tail, rfl⟩ := List.exists_cons_of_ne_nil hkey.nonempty
  obtain ⟨hc, -, -, hbracket⟩ := hkey.plain c List.mem_cons_self
  generalize hread : value.takeWhile (· ≠ '#') = read
  have htext : ((c :: tail) ++ " = ".toList ++ value).takeWhile (· ≠ '#') =
      c :: (tail ++ [' ', '=', ' '] ++ read) := by
    show ((c :: tail) ++ [' ', '=', ' '] ++ value).takeWhile (· ≠ '#') = _
    rw [List.append_assoc, List.takeWhile_append_of_pos fun d hd => ?_, ← hread]
    · simp
    · simpa using (hkey.plain d hd).2.1
  have hhead := head_trim_chars_cons hc (tail ++ [' ', '=', ' '] ++ read)
  have hne : trimChars (c :: (tail ++ [' ', '=', ' '] ++ read)) ≠ [] := by
    intro hnil
    rw [hnil] at hhead
    cases hhead
  have hequals : '=' ∈ c :: (tail ++ [' ', '=', ' '] ++ read) := by simp
  have hfree : ∀ d ∈ c :: tail ++ [' '], decide (d ≠ '=') = true := by
    intro d hd
    rcases List.mem_append.mp hd with hd | hd
    · simpa using (hkey.plain d hd).2.2.1
    · rw [List.mem_singleton.mp hd]
      decide
  have hbefore : (c :: (tail ++ [' ', '=', ' '] ++ read)).takeWhile (· ≠ '=') =
      c :: tail ++ [' '] := by
    have hsplit : c :: (tail ++ [' ', '=', ' '] ++ read) =
        (c :: tail ++ [' ']) ++ '=' :: ' ' :: read := by simp
    rw [hsplit, List.takeWhile_append_of_pos hfree]
    simp
  have hafter : (c :: (tail ++ [' ', '=', ' '] ++ read)).dropWhile (· ≠ '=') =
      '=' :: ' ' :: read := by
    have hsplit : c :: (tail ++ [' ', '=', ' '] ++ read) =
        (c :: tail ++ [' ']) ++ '=' :: ' ' :: read := by simp
    rw [hsplit, List.dropWhile_append_of_pos hfree]
    simp
  have hname : trimChars (c :: tail ++ [' ']) = c :: tail := by
    have hneg : ¬ isWhitespace c = true := by simp [hc]
    have hself := trim_chars_self fun d hd => (hkey.plain d hd).1
    unfold trimChars at hself ⊢
    rw [List.dropWhile_cons_of_neg hneg] at hself
    rw [List.cons_append, List.dropWhile_cons_of_neg hneg, ← List.cons_append,
      List.reverse_append, List.reverse_singleton, List.singleton_append,
      List.dropWhile_cons_of_pos (by decide)]
    exact hself
  unfold readLine
  simp only [htext, hhead, hne, hequals, hbefore, hafter, hname, Option.some.injEq, hbracket,
    if_false, if_true, List.tail_cons, trim_chars_space]

/-- A text of one line in front of a key. -/
theorem read_entry (hkey : IsKey key) (hsplit : value.splitOn '\n' = first :: others) :
    read (key ++ " = ".toList ++ value) =
      .entry key (trimChars (first.takeWhile (· ≠ '#'))) :: others.filterMap readLine := by
  have hline : '\n' ∉ key ++ " = ".toList := by
    intro hmem
    rcases List.mem_append.mp hmem with hmem | hmem
    · exact absurd (hkey.plain _ hmem).1 (by decide)
    · exact absurd hmem (by decide)
  rw [read_after hline hsplit, read_line_entry hkey]
  rfl

/-- A key is read once at least. -/
theorem length_read_entry (hkey : IsKey key) (value : List Char) :
    1 ≤ (read (key ++ " = ".toList ++ value)).length := by
  obtain ⟨first, others, hsplit⟩ := List.exists_cons_of_ne_nil (List.splitOn_ne_nil '\n' value)
  rw [read_entry hkey hsplit, List.length_cons]
  omega

/-- A line gives back exactly the values. -/
theorem read_entry_iff (hkey : IsKey key) :
    read (key ++ " = ".toList ++ value) = [.entry key value] ↔ IsValue value := by
  obtain ⟨first, others, hsplit⟩ := List.exists_cons_of_ne_nil (List.splitOn_ne_nil '\n' value)
  rw [read_entry hkey hsplit, List.cons.injEq, Item.entry.injEq]
  constructor
  · intro h
    obtain ⟨⟨-, hvalue⟩, -⟩ := h
    have hmem {c : Char} (hc : c ∈ value) : c ∈ first.takeWhile (· ≠ '#') := by
      rw [← hvalue] at hc
      exact mem_of_mem_trim_chars hc
    refine ⟨fun hc => ?_, fun hc => ?_, ?_⟩
    · have hfirst : '\n' ∉ first := (mem_split_on (hsplit ▸ List.mem_cons_self)).1
      exact hfirst ((List.takeWhile_sublist _).subset (hmem hc))
    · simpa using List.mem_takeWhile_imp (hmem hc)
    · rw [← hvalue, trim_chars_eq_self_iff]
      exact ⟨fun c hc => by simpa using head_trim_chars _ c hc, last_trim_chars _⟩
  · intro h
    rw [List.splitOn_eq_singleton h.oneLine, List.cons.injEq] at hsplit
    obtain ⟨rfl, rfl⟩ := hsplit
    have hall : value.takeWhile (· ≠ '#') = value := by
      refine List.takeWhile_eq_self_iff.mpr fun c hc => ?_
      simpa using fun heq : c = '#' => h.uncommented (heq ▸ hc)
    rw [hall, h.trimmed]
    exact ⟨⟨rfl, rfl⟩, rfl⟩

/-- Two values with a separator between them. -/
theorem IsValue.append (hfirst : IsValue first) (hrest : IsValue rest) (hne : first ≠ [])
    (hne' : rest ≠ []) {sep : List Char} (hsep : '\n' ∉ sep ∧ '#' ∉ sep) :
    IsValue (first ++ sep ++ rest) := by
  obtain ⟨hhead, -⟩ := trim_chars_eq_self_iff.mp hfirst.trimmed
  obtain ⟨-, hlast⟩ := trim_chars_eq_self_iff.mp hrest.trimmed
  refine ⟨?_, ?_, trim_chars_eq_self_iff.mpr ⟨?_, ?_⟩⟩
  · simp [hfirst.oneLine, hrest.oneLine, hsep.1]
  · simp [hfirst.uncommented, hrest.uncommented, hsep.2]
  · rw [List.append_assoc, List.head?_append_of_ne_nil _ hne]
    exact hhead
  · rw [List.getLast?_append_of_ne_nil _ hne']
    exact hlast

end KeyValue
