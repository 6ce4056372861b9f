import Mathlib
import Wireforge.Lib.Outcome
import Wireforge.Lib.Table

/-!
# Statements with positional parameters

A relational store as a program that binds parameters sees it: a row gives a value to every column,
an insertion names the columns it fills, and an update sets some columns of the row with a key.
Parameters are counted from one, as in `?1`. A parameter that is not bound is `NULL`, and `NULL`
equals no value.
-/

namespace Sql

/-- A value, by its storage class. -/
inductive Value where
  | null
  | integer (n : Int64)
  | text (s : String)
  | blob (bytes : ByteArray)
  deriving DecidableEq

/-- What a statement puts into a column: the parameter of a number, or a literal. -/
inductive Expr where
  | param (number : Nat)
  | literal (value : Value)

/-- The value of an expression. -/
def Expr.eval (binds : List Value) : Expr → Value
  | param number => (Value.null :: binds)[number]?.getD .null
  | literal value => value

/-- A row. -/
abbrev Row (κ : Type) := κ → Value

/-- A table whose rows have distinct values in the key column. -/
abbrev Relation {κ : Type} (key : κ) := Table fun row : Row κ => row key

/-- `INSERT INTO … (columns) VALUES (values)`. -/
structure Insert (κ : Type) where
  columns : List κ
  values : List Expr

/-- `UPDATE … SET sets WHERE key = wanted`. -/
structure Update (κ : Type) where
  sets : List (κ × Expr)
  wanted : Expr

variable {κ : Type} [DecidableEq κ] {key column : κ} {binds : List Value} {row : Row κ}
  {value : Value}

/-- The row an insertion adds: a column it does not name is `NULL`. -/
def Insert.newRow (statement : Insert κ) (binds : List Value) : Row κ := fun column =>
  ((statement.columns.zip statement.values).lookup column).elim .null (Expr.eval binds)

/-- What an update makes of a row. -/
def Update.apply (statement : Update κ) (key : κ) (binds : List Value) (row : Row κ) : Row κ :=
  if row key ≠ .null ∧ row key = statement.wanted.eval binds then fun column =>
    (statement.sets.lookup column).elim (row column) (Expr.eval binds)
  else row

section Updates

variable {statement : Update κ}

/-- A column that an update does not set keeps its value. -/
theorem Update.apply_kept (h : statement.sets.lookup column = none) :
    statement.apply key binds row column = row column := by
  unfold Update.apply
  split
  · simp [h]
  · rfl

/-- In the wanted row, a column that an update sets has the value that it sets. -/
theorem Update.apply_set (hkey : row key = statement.wanted.eval binds) (hnull : row key ≠ .null)
    (h : (statement.sets.lookup column).isSome) :
    statement.apply key binds row column =
      (statement.sets.lookup column).elim .null (Expr.eval binds) := by
  obtain ⟨e, he⟩ := Option.isSome_iff_exists.mp h
  simp [Update.apply, ← hkey, hnull, he]

theorem Update.apply_other (h : row key ≠ statement.wanted.eval binds) :
    statement.apply key binds row = row := by
  simp [Update.apply, h]

end Updates

namespace Relation

/-- The row with a key, `SELECT * FROM … WHERE key = ?1`. -/
def select (t : Relation key) (value : Value) : Option (Row κ) :=
  if value = .null then none else t.find value

/-- A statement takes effect if the new table meets the other constraints of the schema. -/
def commit (check : Relation key → Option String) (t : Relation key) :
    Except String (Relation key) :=
  match check t with
  | none => .ok t
  | some text => .error text

/-- Run an insertion. -/
def insert (check : Relation key → Option String) (statement : Insert κ) (binds : List Value)
    (t : Relation key) : Except String (Relation key) :=
  if h : t.find (statement.newRow binds key) = none then
    commit check (Table.insert t (statement.newRow binds) h)
  else .error "UNIQUE constraint failed"

/-- Run an update that does not set the key. -/
def update (check : Relation key → Option String) (statement : Update κ) (binds : List Value)
    (hkey : statement.sets.lookup key = none) (t : Relation key) : Except String (Relation key) :=
  commit check (Table.modify t (statement.apply key binds) fun _ => Update.apply_kept hkey)

variable {check : Relation key → Option String} {t t' : Relation key}

omit [DecidableEq κ] in
theorem commit_ok (h : commit check t = .ok t') : t' = t := by
  unfold commit at h
  split at h
  · cases h
    rfl
  · cases h

/-- The other constraints of the schema are met by a table with the given rows. -/
def Accepts (check : Relation key → Option String) (rows : List (Row κ)) : Prop :=
  ∀ t : Relation key, t.rows = rows → check t = none

omit [DecidableEq κ] in
/-- A table is committed exactly if its rows are accepted. -/
theorem commit_succeeds_iff : (∃ t', commit check t = .ok t') ↔ Accepts check t.rows := by
  constructor
  · rintro ⟨t', h⟩ u hrows
    obtain rfl : u = t := by
      cases u
      cases t
      cases hrows
      rfl
    unfold commit at h
    split at h
    · assumption
    · cases h
  · intro h
    refine ⟨t, ?_⟩
    rw [commit, h t rfl]

/-- An insertion succeeds exactly if its key is free and the rows with the new one are accepted. -/
theorem insert_succeeds_iff {statement : Insert κ} (hkey : statement.newRow binds key ≠ .null) :
    (∃ t', insert check statement binds t = .ok t') ↔
      t.select (statement.newRow binds key) = none ∧
        Accepts check (t.rows ++ [statement.newRow binds]) := by
  rw [select, if_neg hkey]
  unfold insert
  split
  next hfree => exact commit_succeeds_iff.trans (and_iff_right hfree).symm
  next htaken =>
    refine iff_of_false ?_ fun h => htaken h.1
    rintro ⟨_, h⟩
    cases h

/-- An update succeeds exactly if the rows with the rewritten one are accepted. -/
theorem update_succeeds_iff {statement : Update κ} {hkey : statement.sets.lookup key = none} :
    (∃ t', update check statement binds hkey t = .ok t') ↔
      Accepts check (t.rows.map (statement.apply key binds)) :=
  commit_succeeds_iff

/-- A row that has been inserted is the row of its key, under which there was none, and the rows of
the other keys are as before. -/
theorem select_insert {statement : Insert κ} (h : insert check statement binds t = .ok t')
    (hvalue : value ≠ .null) :
    t'.select value =
        (if value = statement.newRow binds key then some (statement.newRow binds)
          else t.select value) ∧
      (value = statement.newRow binds key → t.select value = none) := by
  unfold insert at h
  split at h
  · rename_i hnone
    obtain rfl := commit_ok h
    rw [select, select, if_neg hvalue, if_neg hvalue]
    by_cases hrow : value = statement.newRow binds key
    · rw [if_pos hrow, hrow, Table.find_eq_some]
      exact ⟨⟨Table.mem_insert.mpr (.inr rfl), rfl⟩, fun _ => hnone⟩
    · refine ⟨?_, fun h => absurd h hrow⟩
      simp [Table.find, Table.insert, List.find?_append, hrow, Ne.symm hrow]
  · cases h

/-- An update changes the row of a key into what it makes of that row. -/
theorem select_update {statement : Update κ} {hkey : statement.sets.lookup key = none}
    (h : update check statement binds hkey t = .ok t') :
    t'.select value = (t.select value).map (statement.apply key binds) := by
  obtain rfl := commit_ok h
  unfold select
  split
  · rfl
  · exact Table.find_modify (h := fun _ => Update.apply_kept hkey)

omit [DecidableEq κ] in
/-- A selected row has the key it was selected by. -/
theorem select_key (h : t.select value = some row) : row key = value ∧ value ≠ .null := by
  unfold select at h
  split at h
  · cases h
  · rename_i hvalue
    exact ⟨(Table.find_eq_some.mp h).2, hvalue⟩

end Relation

/-! ## Values that may be absent -/

namespace Value

variable {α ε : Type} {x : Option α} {bind : α → Value} {read : Value → Except ε α}

/-- Bind a value that may be absent. -/
def ofOption (bind : α → Value) (x : Option α) : Value :=
  x.elim .null bind

/-- Read a column that may be `NULL`. -/
def nullable (read : Value → Except ε α) : Value → Except ε (Option α)
  | .null => .ok none
  | value => (read value).map some

theorem nullable_of_ne (h : value ≠ .null) : nullable read value = (read value).map some := by
  cases value with
  | null => exact absurd rfl h
  | integer | text | blob => rfl

/-- A column is read as a value that may be absent if it holds what is bound for it. -/
theorem nullable_ok (hread : ∀ {a}, read value = .ok a ↔ value = bind a)
    (hnull : ∀ a, bind a ≠ .null) :
    nullable read value = .ok x ↔ value = ofOption bind x := by
  by_cases hvalue : value = .null
  · subst hvalue
    cases x with
    | none => exact iff_of_true rfl rfl
    | some a =>
        refine iff_of_false (fun h => ?_) fun h => hnull a h.symm
        cases h
  · rw [nullable_of_ne hvalue]
    cases hvalue' : read value with
    | error e =>
        refine iff_of_false (fun h => ?_) fun h => ?_
        · cases h
        · cases x with
          | none => exact hvalue h
          | some a => cases hvalue'.symm.trans (hread.mpr h)
    | ok a =>
        obtain rfl := hread.mp hvalue'
        cases x with
        | none => exact iff_of_false (fun h => by cases h) hvalue
        | some b =>
            constructor
            · intro h
              cases h
              rfl
            · intro h
              cases hvalue'.symm.trans (hread.mpr h)
              rfl

/-- A value that is bound is read back. -/
theorem nullable_of_option (hnull : ∀ a, bind a ≠ .null)
    (hread : ∀ a, x = some a → read (bind a) = .ok a) :
    nullable read (ofOption bind x) = .ok x := by
  cases x with
  | none => rfl
  | some a =>
      rw [ofOption, Option.elim_some, nullable_of_ne (hnull a), hread a rfl]
      rfl

end Value

/-! ## Rows that stand for entities -/

section Represents

variable {κ ρ ι ε : Type} [DecidableEq κ] [DecidableEq ι] {key : κ} {rows rows' : Relation key}
  {value : Value} {binds : List Value} {check : Relation key → Option String} {keyOf : ρ → ι}
  {table : Table keyOf} {decode : Row κ → Except ε ρ} {print : ι → Value} {x : ρ}

omit [DecidableEq κ] [DecidableEq ι] in
/-- What a lookup finds when its row is decoded. -/
theorem Relation.select_map_ok :
    (rows.select value).mapM decode = .ok (some x) ↔
      ∃ row, rows.select value = some row ∧ decode row = .ok x := by
  cases hrow : rows.select value with
  | none =>
      constructor
      · intro h
        cases h
      · rintro ⟨_, h, _⟩
        cases h
  | some row =>
      constructor
      · intro h
        obtain ⟨_, hdecode, hsome⟩ := Outcome.map_ok.mp h
        cases hsome
        exact ⟨row, rfl, hdecode⟩
      · rintro ⟨_, hsome, hdecode⟩
        cases hsome
        exact Outcome.map_ok.mpr ⟨x, hdecode, rfl⟩

omit [DecidableEq κ] [DecidableEq ι] in
/-- A lookup finds nothing exactly if there is no row, whatever the rows decode to. -/
theorem Relation.select_map_none :
    (rows.select value).mapM decode = .ok none ↔ rows.select value = none := by
  cases hrow : rows.select value with
  | none => exact iff_of_true rfl rfl
  | some row =>
      refine iff_of_false (fun h => ?_) nofun
      obtain ⟨_, -, hsome⟩ := Outcome.map_ok.mp h
      cases hsome

/-- The lookup of every identifier finds the entity that the table has. -/
def Relation.Represents (decode : Row κ → Except ε ρ) (print : ι → Value) (rows : Relation key)
    (table : Table keyOf) : Prop :=
  ∀ i, (rows.select (print i)).mapM decode = .ok (table.find i)

/-- An insertion of a row that is decoded into an entity adds that entity. -/
theorem Relation.Represents.insert {statement : Insert κ}
    (h : rows.Represents decode print table) (hprint : ∀ i, print i ≠ .null)
    (hinjective : Function.Injective print)
    (hinsert : Relation.insert check statement binds rows = .ok rows')
    (hkey : statement.newRow binds key = print (keyOf x))
    (hdecode : decode (statement.newRow binds) = .ok x) :
    ∃ hnone : table.find (keyOf x) = none,
      rows'.Represents decode print (table.insert x hnone) := by
  have hselect (i : ι) := Relation.select_insert hinsert (hprint i)
  have hnone : table.find (keyOf x) = none := by
    have hfind := h (keyOf x)
    rw [(hselect (keyOf x)).2 hkey.symm] at hfind
    exact (Except.ok.inj hfind).symm
  refine ⟨hnone, fun i => ?_⟩
  rw [(hselect i).1, hkey]
  by_cases hi : i = keyOf x
  · subst hi
    rw [if_pos rfl, Table.find_eq_some.mpr ⟨Table.mem_insert.mpr (.inr rfl), rfl⟩]
    exact Outcome.map_ok.mpr ⟨x, hdecode, rfl⟩
  · rw [if_neg (hinjective.ne hi), h i]
    simp [Table.find, Table.insert, List.find?_append, Ne.symm hi]

/-- An update that changes the entity with an identifier, and no other, changes the table. -/
theorem Relation.Represents.update {statement : Update κ}
    {hkey : statement.sets.lookup key = none} {i : ι} {f : ρ → ρ} {hf : ∀ x, keyOf (f x) = keyOf x}
    (h : rows.Represents decode print table) (hinjective : Function.Injective print)
    (hupdate : Relation.update check statement binds hkey rows = .ok rows')
    (hwanted : statement.wanted.eval binds = print i)
    (hother : ∀ x, keyOf x ≠ i → f x = x)
    (hdecode : ∀ row x, row key = print i → decode row = .ok x →
      decode (statement.apply key binds row) = .ok (f x)) :
    rows'.Represents decode print (table.modify f hf) := by
  intro j
  have hj := h j
  rw [Relation.select_update hupdate, Table.find_modify]
  cases hrow : rows.select (print j) with
  | none =>
      rw [hrow] at hj
      rw [← Except.ok.inj hj]
      rfl
  | some row =>
      obtain ⟨x, hx, hsome⟩ : ∃ x, decode row = .ok x ∧ some x = table.find j := by
        rw [hrow] at hj
        exact Outcome.map_ok.mp hj
      have hrowkey : row key = print j := (Relation.select_key hrow).1
      have hxkey : keyOf x = j := (Table.find_eq_some.mp hsome.symm).2
      rw [← hsome]
      refine Outcome.map_ok.mpr ⟨f x, ?_, rfl⟩
      by_cases hij : j = i
      · exact hdecode row x (hij ▸ hrowkey) hx
      · -- a row with another key is left alone
        rw [Update.apply_other (by rw [hrowkey, hwanted]; exact hinjective.ne hij), hx,
          hother x (hxkey ▸ hij)]

end Represents

/-- A text is not `NULL`. -/
theorem Value.text_ne_null (s : String) : Value.text s ≠ .null :=
  fun h => by cases h

end Sql
