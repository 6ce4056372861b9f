import Wireforge.Lib.Text

/-!
# Words and lines

A line spells a list of words when the words stand in it in order, each without whitespace, with
whitespace between them and possibly around them. Splitting at whitespace reads exactly the words
that a line spells (`split_words_eq_iff`), so what depends on the words alone does not depend on
the amount of whitespace. A text made of lines is split into these lines again.
-/

namespace Text

/-! ## Words -/

/-- The line consists of the words, which whitespace separates and may surround. -/
inductive Spells : List (List Char) → List Char → Prop where
  | blank (gap : List Char) : (∀ c ∈ gap, isWhitespace c) → Spells [] gap
  | word (gap word rest : List Char) (words : List (List Char)) :
      (∀ c ∈ gap, isWhitespace c) → word ≠ [] → (∀ c ∈ word, ¬ isWhitespace c) →
      (∀ c ∈ rest.head?, isWhitespace c) → Spells words rest →
      Spells (word :: words) (gap ++ word ++ rest)

variable {line gap word rest : List Char} {words : List (List Char)} {c : Char}

/-- Whitespace before a line. -/
theorem Spells.gap_append (h : Spells words line) (hgap : ∀ c ∈ gap, isWhitespace c) :
    Spells words (gap ++ line) := by
  cases h with
  | blank inner hinner =>
      refine .blank _ fun c hc => ?_
      rcases List.mem_append.mp hc with hc | hc
      · exact hgap c hc
      · exact hinner c hc
  | word inner word rest words hinner hne hword hrest hspells =>
      rw [← List.append_assoc, ← List.append_assoc]
      refine .word _ _ _ _ (fun c hc => ?_) hne hword hrest hspells
      rcases List.mem_append.mp hc with hc | hc
      · exact hgap c hc
      · exact hinner c hc

/-- Whitespace after a line. -/
theorem Spells.append_gap (h : Spells words line) (hgap : ∀ c ∈ gap, isWhitespace c) :
    Spells words (line ++ gap) := by
  induction h with
  | blank inner hinner => exact (Spells.blank gap hgap).gap_append hinner
  | word inner word rest words hinner hne hword hrest hspells ih =>
      rw [List.append_assoc]
      refine .word _ _ _ _ hinner hne hword (fun c hc => ?_) ih
      cases rest with
      | nil => exact hgap c (List.mem_of_head? hc)
      | cons first others => exact hrest c hc

/-- A line without words consists of whitespace. -/
theorem spells_nil_iff : Spells [] line ↔ ∀ c ∈ line, isWhitespace c := by
  constructor
  · intro h
    cases h with
    | blank _ hgap => exact hgap
  · exact .blank line

/-- A line that does not begin with whitespace begins with its first word. -/
theorem Spells.head_eq (h : Spells (word :: words) line)
    (hhead : ∀ c ∈ line.head?, ¬ isWhitespace c) : line.head? = word.head? := by
  cases h with
  | word gap _ rest _ hgap hne _ _ _ =>
      cases gap with
      | nil => rw [List.nil_append, List.head?_append_of_ne_nil _ hne]
      | cons c gap => exact absurd (hgap c List.mem_cons_self) (hhead c rfl)

/-- A line without words that does not begin with whitespace is empty. -/
theorem Spells.eq_nil (h : Spells [] line) (hhead : ∀ c ∈ line.head?, ¬ isWhitespace c) :
    line = [] := by
  cases h with
  | blank _ hgap =>
      cases line with
      | nil => rfl
      | cons c rest => exact absurd (hgap c List.mem_cons_self) (hhead c rfl)

/-! ## Splitting at whitespace -/

theorem split_words_cons_whitespace (hc : isWhitespace c) :
    splitWords (c :: rest) = splitWords rest := by
  cases rest with
  | nil => simp [splitWords, hc]
  | cons d rest => simp [splitWords, hc]

theorem split_words_gap_append (hgap : ∀ c ∈ gap, isWhitespace c) :
    splitWords (gap ++ rest) = splitWords rest := by
  induction gap with
  | nil => rfl
  | cons c gap ih =>
      rw [List.cons_append, split_words_cons_whitespace (hgap c List.mem_cons_self)]
      exact ih fun d hd => hgap d (List.mem_cons_of_mem c hd)

/-- A word ends where whitespace begins, or the line. -/
theorem split_words_word_append (hne : word ≠ []) (hword : ∀ c ∈ word, ¬ isWhitespace c)
    (hrest : ∀ c ∈ rest.head?, isWhitespace c) :
    splitWords (word ++ rest) = word :: splitWords rest := by
  induction word with
  | nil => exact absurd rfl hne
  | cons c word ih =>
      have hc : ¬ isWhitespace c := hword c List.mem_cons_self
      cases word with
      | nil =>
          cases rest with
          | nil => simp [splitWords, hc]
          | cons d rest =>
              have hd : isWhitespace d := hrest d rfl
              simp [splitWords, hc, hd]
      | cons d word =>
          have hd : ¬ isWhitespace d := hword d (List.mem_cons_of_mem c List.mem_cons_self)
          have hsplit := ih (List.cons_ne_nil d word)
            fun e he => hword e (List.mem_cons_of_mem c he)
          rw [List.cons_append] at hsplit
          show splitWords (c :: d :: (word ++ rest)) = _
          rw [splitWords, if_neg hc, if_neg hd, hsplit]

theorem Spells.split_words (h : Spells words line) : splitWords line = words := by
  induction h with
  | blank gap hgap =>
      rw [← List.append_nil gap, split_words_gap_append hgap]
      rfl
  | word gap word rest words hgap hne hword hrest _ ih =>
      rw [List.append_assoc, split_words_gap_append hgap,
        split_words_word_append hne hword hrest, ih]

/-- The words that splitting finds are spelled by the line. -/
theorem spells_split_words (line : List Char) : Spells (splitWords line) line := by
  fun_induction splitWords line with
  | case1 => exact .blank [] (by simp)
  | case2 c hc => exact .blank [c] (by simpa using hc)
  | case3 c hc =>
      have hblank : Spells [] [] := .blank [] (by simp)
      exact hblank.word [] [c] [] [] (by simp) (by simp) (by simpa using hc) (by simp)
  | case4 c d rest hc ih =>
      have hgap : ∀ e ∈ [c], isWhitespace e := by simpa using hc
      exact ih.gap_append hgap
  | case5 c d rest hc hd ih =>
      exact .word [] [c] (d :: rest) _ (by simp) (by simp) (by simpa using hc)
        (by simpa using hd) ih
  | case6 c d rest hc hd hnil ih =>
      rw [hnil] at ih
      exact absurd (ih.eq_nil (by simpa using hd)) (List.cons_ne_nil d rest)
  | case7 c d rest hc hd word words hsplit ih =>
      rw [hsplit] at ih
      -- The line goes on with a character of the word, so its gap is empty.
      generalize hline : d :: rest = line at ih
      cases ih with
      | word gap _ tail _ hgap hne hword htail hspells =>
          cases gap with
          | nil =>
              rw [List.nil_append, ← List.cons_append]
              refine .word [] (c :: word) tail words (by simp) (by simp) ?_ htail hspells
              simpa using ⟨by simpa using hc, fun e he => by simpa using hword e he⟩
          | cons e gap =>
              rw [List.cons_append, List.cons_append, List.cons.injEq] at hline
              exact absurd (hgap e List.mem_cons_self) (hline.1 ▸ hd)

/-- Splitting at whitespace finds exactly the words that the line spells. -/
theorem split_words_eq_iff : splitWords line = words ↔ Spells words line :=
  ⟨fun h => h ▸ spells_split_words line, Spells.split_words⟩

/-! ## Trimming -/

/-- A trimmed line has no whitespace at its front. -/
theorem head_trim_chars (line : List Char) :
    ∀ c ∈ (trimChars line).head?, ¬ isWhitespace c := by
  intro c hc
  have htrimmed : (trimChars line).dropWhile isWhitespace = trimChars line :=
    drop_while_of_trimmed _ _ (List.dropWhile_idempotent _ _)
  rw [← htrimmed] at hc
  have hhead := List.head?_dropWhile_not isWhitespace (trimChars line)
  rw [hc] at hhead
  simpa using hhead

/-- Trimming keeps the words. -/
theorem split_words_trim_chars (line : List Char) :
    splitWords (trimChars line) = splitWords line := by
  have htake (chars : List Char) : ∀ c ∈ chars.takeWhile isWhitespace, isWhitespace c :=
    fun _ => List.mem_takeWhile_imp
  have hfront : splitWords (line.dropWhile isWhitespace) = splitWords line := by
    rw [← split_words_gap_append (htake line), List.takeWhile_append_dropWhile]
  refine Eq.trans (Eq.symm ?_) hfront
  -- What is cut off at the end is a prefix of the reversed line.
  have hend : trimChars line ++
      ((line.dropWhile isWhitespace).reverse.takeWhile isWhitespace).reverse =
        line.dropWhile isWhitespace := by
    rw [trimChars, ← List.reverse_append, List.takeWhile_append_dropWhile, List.reverse_reverse]
  rw [split_words_eq_iff]
  have hgap : ∀ c ∈ ((line.dropWhile isWhitespace).reverse.takeWhile isWhitespace).reverse,
      isWhitespace c := fun c hc => htake _ c (List.mem_reverse.mp hc)
  have hspells := (spells_split_words (trimChars line)).append_gap hgap
  rwa [hend] at hspells

/-- A trimmed line is empty exactly when the line has no words. -/
theorem trim_chars_eq_nil_iff : trimChars line = [] ↔ splitWords line = [] := by
  rw [← split_words_trim_chars]
  constructor
  · intro h
    rw [h]
    rfl
  · intro h
    exact (split_words_eq_iff.mp h).eq_nil (head_trim_chars line)

/-- A trimmed line begins as the first word does. -/
theorem head_trim_chars_of_words (h : splitWords line = word :: words) :
    (trimChars line).head? = word.head? := by
  rw [← split_words_trim_chars] at h
  exact (split_words_eq_iff.mp h).head_eq (head_trim_chars line)

/-- A text without whitespace has nothing to trim. -/
theorem trim_chars_self {chars : List Char} (h : ∀ c ∈ chars, isWhitespace c = false) :
    trimChars chars = chars := by
  have hdrop : ∀ l : List Char, (∀ c ∈ l, isWhitespace c = false) →
      l.dropWhile isWhitespace = l := by
    intro l hl
    cases l with
    | nil => rfl
    | cons c rest =>
        have hc := hl c List.mem_cons_self
        exact List.dropWhile_cons_of_neg (by rw [hc]; exact Bool.false_ne_true)
  unfold trimChars
  rw [hdrop chars h, hdrop chars.reverse fun c hc => h c (List.mem_reverse.mp hc),
    List.reverse_reverse]

/-- A space in front is trimmed. -/
theorem trim_chars_space (chars : List Char) : trimChars (' ' :: chars) = trimChars chars := by
  unfold trimChars
  rw [List.dropWhile_cons_of_pos (show isWhitespace ' ' = true by decide)]

/-- Trimming adds no character. -/
theorem mem_of_mem_trim_chars {chars : List Char} {c : Char} (h : c ∈ trimChars chars) :
    c ∈ chars := by
  unfold trimChars at h
  have hinner := (List.dropWhile_sublist isWhitespace).subset (List.mem_reverse.mp h)
  exact (List.dropWhile_sublist isWhitespace).subset (List.mem_reverse.mp hinner)

/-- Trimming drops whitespace only. -/
theorem mem_trim_chars {chars : List Char} {c : Char} (h : c ∈ chars)
    (hc : isWhitespace c = false) : c ∈ trimChars chars := by
  have hdrop : ∀ l : List Char, c ∈ l → c ∈ l.dropWhile isWhitespace := by
    intro l hl
    rw [← List.takeWhile_append_dropWhile (p := isWhitespace) (l := l)] at hl
    refine (List.mem_append.mp hl).resolve_left fun htake => ?_
    rw [List.mem_takeWhile_imp htake] at hc
    cases hc
  unfold trimChars
  exact List.mem_reverse.mpr (hdrop _ (List.mem_reverse.mpr (hdrop _ h)))

/-- A text with a character that is not whitespace is not blank. -/
theorem not_blank_of_mem {s : String} {c : Char} (h : c ∈ s.toList)
    (hc : isWhitespace c = false) : (trim s).isEmpty = false := by
  refine Bool.eq_false_iff.mpr fun hempty => ?_
  have hmem : c ∈ (trim s).toList := by
    rw [trim, String.toList_ofList]
    exact mem_trim_chars h hc
  rw [String.isEmpty_iff.mp hempty] at hmem
  exact List.not_mem_nil hmem

/-- A trimmed text has no whitespace at its end. -/
theorem last_trim_chars (line : List Char) :
    ∀ c ∈ (trimChars line).getLast?, isWhitespace c = false := by
  intro c hc
  rw [trimChars, List.getLast?_reverse] at hc
  have hhead := List.head?_dropWhile_not isWhitespace (line.dropWhile isWhitespace).reverse
  rw [hc] at hhead
  simpa using hhead

/-- Trimming leaves exactly the texts alone that have no whitespace at their ends. -/
theorem trim_chars_eq_self_iff :
    trimChars line = line ↔ (∀ c ∈ line.head?, isWhitespace c = false) ∧
      ∀ c ∈ line.getLast?, isWhitespace c = false := by
  have hdrop {chars : List Char} (h : ∀ c ∈ chars.head?, isWhitespace c = false) :
      chars.dropWhile isWhitespace = chars := by
    cases chars with
    | nil => rfl
    | cons c rest =>
        exact List.dropWhile_cons_of_neg (by rw [h c rfl]; exact Bool.false_ne_true)
  constructor
  · intro h
    rw [← h]
    exact ⟨fun c hc => by simpa using head_trim_chars line c hc, last_trim_chars line⟩
  · intro h
    have hlast : ∀ c ∈ line.reverse.head?, isWhitespace c = false := by
      rw [List.head?_reverse]
      exact h.2
    rw [trimChars, hdrop h.1, hdrop hlast, List.reverse_reverse]

/-! ## Lines -/

/-- A piece between two separators contains no separator, and nothing that the list does not. -/
theorem mem_split_on {α : Type} [BEq α] [LawfulBEq α] {a : α} {xs piece : List α}
    (h : piece ∈ xs.splitOn a) : a ∉ piece ∧ piece ⊆ xs := by
  induction xs generalizing piece with
  | nil =>
      rw [List.splitOn_nil, List.mem_singleton] at h
      rw [h]
      exact ⟨List.not_mem_nil, List.nil_subset _⟩
  | cons x xs ih =>
      rw [List.splitOn_cons_eq_if_modifyHead] at h
      split at h
      · rcases List.mem_cons.mp h with rfl | h
        · exact ⟨List.not_mem_nil, List.nil_subset _⟩
        · obtain ⟨hnot, hsubset⟩ := ih h
          exact ⟨hnot, List.subset_cons_of_subset x hsubset⟩
      · rename_i hne
        cases hsplit : xs.splitOn a with
        | nil => exact absurd hsplit (List.splitOn_ne_nil a xs)
        | cons first others =>
            rw [hsplit, List.modifyHead_cons] at h
            rcases List.mem_cons.mp h with rfl | h
            · obtain ⟨hnot, hsubset⟩ := ih (hsplit ▸ List.mem_cons_self)
              have hx : a ≠ x := fun heq => hne (beq_iff_eq.mpr heq.symm)
              exact ⟨fun hmem => (List.mem_cons.mp hmem).elim hx hnot,
                List.cons_subset_cons x hsubset⟩
            · obtain ⟨hnot, hsubset⟩ := ih (hsplit ▸ List.mem_cons_of_mem first h)
              exact ⟨hnot, List.subset_cons_of_subset x hsubset⟩

/-- A line ends at the first line feed. -/
theorem split_inclusive_append (hline : '\n' ∉ line) :
    splitInclusive (line ++ '\n' :: rest) = (line ++ ['\n']) :: splitInclusive rest := by
  induction line with
  | nil => rfl
  | cons c line ih =>
      have hc : c ≠ '\n' := fun h => hline (h ▸ List.mem_cons_self)
      rw [List.cons_append, splitInclusive, if_neg hc,
        ih fun h => hline (List.mem_cons_of_mem c h)]
      rfl

/-- A text without a line feed is one piece, unless it is empty. -/
theorem split_inclusive_of_not_mem (hline : '\n' ∉ line) :
    splitInclusive line = if line = [] then [] else [line] := by
  induction line with
  | nil => rfl
  | cons c line ih =>
      have hc : c ≠ '\n' := fun h => hline (h ▸ List.mem_cons_self)
      rw [splitInclusive, if_neg hc, ih fun h => hline (List.mem_cons_of_mem c h)]
      cases line with
      | nil => rfl
      | cons d line => rfl

/-- Without its line feed, a line also loses the carriage return before it. -/
theorem strip_terminator_append (line : List Char) :
    stripTerminator (line ++ ['\n']) =
      if line.getLast? = some '\r' then line.dropLast else line := by
  simp [stripTerminator]

theorem strip_terminator_of_not_mem (hline : '\n' ∉ line) : stripTerminator line = line := by
  unfold stripTerminator
  rw [if_neg]
  exact fun h => hline (List.mem_of_getLast? h)

/-- A text whose lines all end in a line feed is split into these lines, provided that none of
them ends in a carriage return. -/
theorem lines_unlines {texts : List String}
    (htexts : ∀ text ∈ texts, '\n' ∉ text.toList ∧ text.toList.getLast? ≠ some '\r') :
    lines (String.join (texts.map (· ++ "\n"))) = texts := by
  unfold lines
  rw [String.toList_join]
  induction texts with
  | nil => rfl
  | cons text texts ih =>
      obtain ⟨⟨hfeed, hreturn⟩, hrest⟩ := List.forall_mem_cons.mp htexts
      have hcons : ((text :: texts).map (· ++ "\n")).flatMap String.toList =
          text.toList ++ '\n' :: (texts.map (· ++ "\n")).flatMap String.toList := by
        simp
      rw [hcons, split_inclusive_append hfeed, List.map_cons, ih hrest, strip_terminator_append,
        if_neg hreturn, String.ofList_toList]

/-- What ignores a carriage return at the end of a line, and empty lines, can be read off the
pieces between the line feeds. -/
theorem flat_map_lines {γ : Type} (f : List Char → List γ) (hnil : f [] = [])
    (hreturn : ∀ line, f (line ++ ['\r']) = f line) (text : List Char) :
    ((splitInclusive text).map stripTerminator).flatMap f = (text.splitOn '\n').flatMap f := by
  have hpieces : ∀ piece ∈ text.splitOn '\n', '\n' ∉ piece := fun _ h => (mem_split_on h).1
  conv_lhs => rw [← @List.intercalate_splitOn _ text _ _ '\n']
  generalize text.splitOn '\n' = pieces at hpieces
  induction pieces with
  | nil => rfl
  | cons piece pieces ih =>
      obtain ⟨hpiece, hrest⟩ := List.forall_mem_cons.mp hpieces
      cases pieces with
      | nil =>
          rw [List.intercalate_singleton, split_inclusive_of_not_mem hpiece]
          split
          · rename_i hempty
            simp [hempty, hnil]
          · simp [strip_terminator_of_not_mem hpiece]
      | cons next others =>
          rw [List.intercalate_cons_cons, List.append_assoc, List.singleton_append,
            split_inclusive_append hpiece, List.map_cons, List.flatMap_cons, ih hrest,
            List.flatMap_cons (x := piece), strip_terminator_append]
          congr 1
          split
          · rename_i hlast
            obtain ⟨front, rfl⟩ := List.getLast?_eq_some_iff.mp hlast
            rw [List.dropLast_concat, hreturn]
          · rfl

/-! ## Splitting at spaces -/

/-- The pieces of a text between its spaces. -/
def splitSpaces (s : String) : List String :=
  (s.toList.splitOn ' ').map String.ofList

/-- Words with a space between any two of them form a line that spells them. -/
theorem spells_intercalate (hwords : ∀ word ∈ words, word ≠ [] ∧ ∀ c ∈ word, ¬ isWhitespace c) :
    Spells words ([' '].intercalate words) := by
  induction words with
  | nil => exact .blank [] (by simp)
  | cons word words ih =>
      obtain ⟨⟨hne, hword⟩, hrest⟩ := List.forall_mem_cons.mp hwords
      cases words with
      | nil =>
          have hblank : Spells [] [] := .blank [] (by simp)
          simpa using hblank.word [] word [] [] (by simp) hne hword (by simp)
      | cons next others =>
          have hspace : ∀ c ∈ [' '], isWhitespace c := by simp [isWhitespace]
          have hspells := (ih hrest).gap_append hspace
          rw [List.intercalate_cons_cons, List.append_assoc]
          exact hspells.word [] word _ _ (by simp) hne hword (by simp [isWhitespace])

/-- A text that is one word. -/
def IsWord (text : String) : Prop :=
  text ≠ "" ∧ ∀ c ∈ text.toList, ¬ isWhitespace c

instance (text : String) : Decidable (IsWord text) :=
  decidable_of_iff (text ≠ "" ∧ (text.toList.all fun c => !isWhitespace c) = true) (by
    unfold IsWord
    simp)

/-- A text made of lines, each made of words with a space between any two of them. -/
def unparse (rows : List (List String)) : String :=
  String.join (rows.map fun row => " ".intercalate row ++ "\n")

section Unparse

variable {row : List String} {rows : List (List String)}

theorem is_word_to_list (hrow : ∀ text ∈ row, IsWord text) :
    ∀ word ∈ row.map String.toList, word ≠ [] ∧ ∀ c ∈ word, ¬ isWhitespace c := by
  intro word hword
  obtain ⟨text, htext, rfl⟩ := List.mem_map.mp hword
  obtain ⟨hne, hchars⟩ := hrow text htext
  exact ⟨by simpa using hne, hchars⟩

theorem to_list_unwords (row : List String) :
    (" ".intercalate row).toList = [' '].intercalate (row.map String.toList) :=
  String.toList_intercalate

/-- The only whitespace in a line of words is the spaces. -/
theorem eq_space_of_mem_unwords (hrow : ∀ text ∈ row, IsWord text) {c : Char}
    (hc : c ∈ (" ".intercalate row).toList) (hspace : isWhitespace c) : c = ' ' := by
  rw [to_list_unwords] at hc
  have hwords := is_word_to_list hrow
  generalize row.map String.toList = words at hc hwords
  induction words with
  | nil => exact absurd hc List.not_mem_nil
  | cons word words ih =>
      obtain ⟨⟨-, hword⟩, hrest⟩ := List.forall_mem_cons.mp hwords
      cases words with
      | nil =>
          rw [List.intercalate_singleton] at hc
          exact absurd hspace (hword c hc)
      | cons next others =>
          rw [List.intercalate_cons_cons, List.append_assoc] at hc
          rcases List.mem_append.mp hc with hc | hc
          · exact absurd hspace (hword c hc)
          · rcases List.mem_append.mp hc with hc | hc
            · exact List.mem_singleton.mp hc
            · exact ih hc hrest

/-- Splitting a line of words at its spaces finds the words. -/
theorem split_spaces_unwords (hne : row ≠ []) (hrow : ∀ text ∈ row, IsWord text) :
    splitSpaces (" ".intercalate row) = row := by
  have hwords := is_word_to_list hrow
  unfold splitSpaces
  rw [to_list_unwords, List.splitOn_intercalate ' '
    (fun word hword hspace => (hwords word hword).2 ' ' hspace rfl) (by simpa using hne)]
  simp [Function.comp_def]

/-- The lines of a text made of lines of words. -/
theorem lines_unparse (hrows : ∀ row ∈ rows, ∀ text ∈ row, IsWord text) :
    lines (unparse rows) = rows.map (" ".intercalate ·) := by
  have hmap : rows.map (fun row => " ".intercalate row ++ "\n") =
      (rows.map (" ".intercalate ·)).map (· ++ "\n") := by
    rw [List.map_map]
    rfl
  unfold unparse
  rw [hmap]
  refine lines_unlines fun text htext => ?_
  obtain ⟨row, hrow, rfl⟩ := List.mem_map.mp htext
  refine ⟨fun hfeed => ?_, fun hreturn => ?_⟩
  · exact absurd (eq_space_of_mem_unwords (hrows row hrow) hfeed (by decide)) (by decide)
  · exact absurd (eq_space_of_mem_unwords (hrows row hrow) (List.mem_of_getLast? hreturn)
      (by decide)) (by decide)

/-- Splitting such a text into lines, and each line at its spaces, finds the words. -/
theorem split_unparse (hrows : ∀ row ∈ rows, row ≠ [] ∧ ∀ text ∈ row, IsWord text) :
    (lines (unparse rows)).map splitSpaces = rows := by
  rw [lines_unparse fun row hrow => (hrows row hrow).2, List.map_map]
  refine (List.map_congr_left fun row hrow => ?_).trans (List.map_id rows)
  exact split_spaces_unwords (hrows row hrow).1 (hrows row hrow).2

end Unparse

end Text
