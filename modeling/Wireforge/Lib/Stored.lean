import Wireforge.Lib.Statements

/-!
# Tables stored row by row

Conditions on any column, orders and constraints of statements, for relations whose rows are the
images of the entities of a table under a printing function. What a statement does to the rows is
the image of what it does to the entities: each rule asks only what the statement does to one row.
-/

namespace Sql

/-! ## Orders -/

/-- Values as they are sorted: by their storage class first. -/
def Value.precedes : Value → Value → Bool
  | null, _ => true
  | integer a, integer b => a ≤ b
  | integer _, text _ | integer _, blob _ => true
  | text a, text b => a ≤ b
  | text _, blob _ => true
  | blob a, blob b => a.toList ≤ b.toList
  | _, _ => false

section Statements

variable {κ : Type}

/-- `ORDER BY column DESC`. -/
def descending (column : κ) (rows : List (Row κ)) : List (Row κ) :=
  (rows.insertionSort fun row row' => (row column).precedes (row' column)).reverse

/-! ## Conditions -/

/-- A condition of a `WHERE` clause. -/
inductive Condition (κ : Type) where
  | equals (column : κ) (e : Expr)
  | isNull (column : κ)

/-- The condition holds of a row. -/
def Condition.holds (binds : List Value) (row : Row κ) : Condition κ → Bool
  | equals column e => row column ≠ .null && row column = e.eval binds
  | isNull column => row column = .null

/-- All conditions hold of a row. -/
def meets (conditions : List (Condition κ)) (binds : List Value) (row : Row κ) : Bool :=
  conditions.all (Condition.holds binds row)

/-- `SELECT * FROM … WHERE conditions`. -/
def selectWhere (conditions : List (Condition κ)) (binds : List Value) (rows : List (Row κ)) :
    List (Row κ) :=
  rows.filter (meets conditions binds)

/-- `UPDATE … SET sets WHERE conditions`. -/
structure UpdateWhere (κ : Type) where
  sets : List (κ × Expr)
  conditions : List (Condition κ)

variable [DecidableEq κ] {key : κ}

/-- What an update makes of a row. -/
def UpdateWhere.apply (statement : UpdateWhere κ) (binds : List Value) (row : Row κ) : Row κ :=
  if meets statement.conditions binds row then fun column =>
    (statement.sets.lookup column).elim (row column) (Expr.eval binds)
  else row

theorem UpdateWhere.apply_kept {statement : UpdateWhere κ} {binds : List Value} {row : Row κ}
    {column : κ} (h : statement.sets.lookup column = none) :
    statement.apply binds row column = row column := by
  unfold UpdateWhere.apply
  split
  · simp [h]
  · rfl

namespace Relation

/-- Run an update that does not set the key: the number of its rows, and the table after it. -/
def updateWhere (check : Relation key → Option String) (statement : UpdateWhere κ)
    (binds : List Value) (hkey : statement.sets.lookup key = none) (t : Relation key) :
    Except String (Nat × Relation key) := do
  let t' ← commit check (Table.modify t (statement.apply binds) fun _ =>
    UpdateWhere.apply_kept hkey)
  return (t.rows.countP (meets statement.conditions binds), t')

/-- Run an insertion with `ON CONFLICT(key) DO UPDATE`: the row of the key is updated if there is
one. -/
def upsert (check : Relation key → Option String) (statement : Insert κ) (update : Update κ)
    (binds : List Value) (hkey : update.sets.lookup key = none) (t : Relation key) :
    Except String (Relation key) :=
  if t.find (statement.newRow binds key) = none then insert check statement binds t
  else Relation.update check update binds hkey t

omit [DecidableEq κ] in
/-- No two rows have one value in a column. -/
def distinct (column : κ) (t : Relation key) : Bool :=
  decide ((t.rows.map (· column)).filter (· ≠ .null)).Nodup

omit [DecidableEq κ] in
theorem commit_of_none {check : Relation key → Option String} {t : Relation key}
    (h : check t = none) : commit check t = .ok t := by
  unfold commit
  rw [h]

omit [DecidableEq κ] in
theorem commit_error {check : Relation key → Option String} {t : Relation key}
    (h : check t ≠ none) : ∃ e, commit check t = .error e := by
  obtain ⟨e, he⟩ := Option.ne_none_iff_exists'.mp h
  unfold commit
  rw [he]
  exact ⟨e, rfl⟩

end Relation

end Statements

/-! ## Images -/

section Images

variable {κ ρ ι α ε : Type} {print : ρ → Row κ} {xs : List ρ}

/-- Conditions that say of the image of an entity what a test says of the entity. -/
theorem select_where_map {conditions : List (Condition κ)} {binds : List Value} {test : ρ → Bool}
    (h : ∀ x ∈ xs, meets conditions binds (print x) = test x) :
    selectWhere conditions binds (xs.map print) = (xs.filter test).map print := by
  unfold selectWhere
  rw [List.filter_map]
  exact congrArg (List.map print) (List.filter_congr h)

/-- Images that are decoded into their entities. -/
theorem map_m_decode {decode : Row κ → Except ε ρ} (h : ∀ x ∈ xs, decode (print x) = .ok x) :
    (xs.map print).mapM decode = .ok xs :=
  Outcome.map_m_ok.mpr (List.forall₂_map_left_iff.mpr (List.forall₂_same.mpr h))

/-- A column that is sorted as a rank of the entities. -/
theorem descending_map {column : κ} [LE α] [DecidableLE α] {rank : ρ → α}
    (h : ∀ x ∈ xs, ∀ y ∈ xs,
      (print x column).precedes (print y column) = true ↔ rank x ≤ rank y) :
    descending column (xs.map print) = (sortedBy rank xs).reverse.map print := by
  unfold descending sortedBy
  rw [List.map_reverse, List.map_insertionSort (fun x y => rank x ≤ rank y)
    (fun row row' => (row column).precedes (row' column) = true) print xs
    fun x hx y hy => (h x hx y hy).symm]

variable {key : κ} {rows : Relation key} {keyOf : ρ → ι} {bind : ι → Value}

/-- A column without repeated values is one of a field that no two entities share. -/
theorem distinct_map {column : κ} {field : ρ → Option α} {bind : α → Value}
    (hrows : rows.rows = xs.map print)
    (h : ∀ x ∈ xs, print x column = .ofOption bind (field x))
    (hinjective : Function.Injective bind) (hnull : ∀ a, bind a ≠ .null) :
    rows.distinct column = true ↔ (xs.filterMap field).Nodup := by
  have hcolumn : (rows.rows.map (· column)).filter (· ≠ .null) =
      (xs.filterMap field).map bind := by
    rw [hrows, List.map_map]
    clear hrows
    induction xs with
    | nil => rfl
    | cons x rest ih =>
        have hrest := ih fun y hy => h y (List.mem_cons_of_mem _ hy)
        have hx : print x column = .ofOption bind (field x) := h x List.mem_cons_self
        cases hfield : field x with
        | none =>
            rw [hfield] at hx
            simpa [hx, hfield, Value.ofOption] using hrest
        | some a =>
            rw [hfield] at hx
            simpa [hx, hfield, Value.ofOption, hnull a] using hrest
  unfold Relation.distinct
  rw [decide_eq_true_eq, hcolumn, List.nodup_map_iff hinjective]

variable {table : Table keyOf}

section Lookups

variable [DecidableEq ι]

/-- The row of a key is the image of the entity of that key. -/
theorem find_map (hrows : rows.rows = table.rows.map print)
    (hkey : ∀ x, print x key = bind (keyOf x)) (hinjective : Function.Injective bind) (i : ι) :
    rows.find (bind i) = (table.find i).map print := by
  unfold Table.find
  rw [hrows, List.find?_map]
  refine congrArg (Option.map print) (List.find?_congr fun x _ => ?_)
  simp [hkey, hinjective.eq_iff]

theorem select_map (hrows : rows.rows = table.rows.map print)
    (hkey : ∀ x, print x key = bind (keyOf x)) (hinjective : Function.Injective bind)
    (hnull : ∀ i, bind i ≠ .null) (i : ι) :
    rows.select (bind i) = (table.find i).map print := by
  unfold Relation.select
  rw [if_neg (hnull i)]
  exact find_map hrows hkey hinjective i

end Lookups

variable [DecidableEq κ] {binds : List Value} (check : Relation key → Option String)

/-- The insertion of the image of an entity fails as the insertion of the entity does, unless a
constraint forbids the rows after it. -/
theorem insert_map [DecidableEq ι] {statement : Insert κ} {x : ρ}
    (hrows : rows.rows = table.rows.map print)
    (hkey : ∀ x, print x key = bind (keyOf x)) (hinjective : Function.Injective bind)
    (hnew : statement.newRow binds = print x) :
    ((table.find (keyOf x)).isSome = true ∧
      ∃ e, Relation.insert check statement binds rows = .error e) ∨
    ∃ (hnone : table.find (keyOf x) = none) (rows' : Relation key),
      rows'.rows = (table.insert x hnone).rows.map print ∧
        Relation.insert check statement binds rows = Relation.commit check rows' := by
  have hfind : rows.find (statement.newRow binds key) = (table.find (keyOf x)).map print := by
    rw [hnew, hkey]
    exact find_map hrows hkey hinjective _
  unfold Relation.insert
  by_cases hnone : table.find (keyOf x) = none
  · have hfree : rows.find (statement.newRow binds key) = none := by
      rw [hfind, hnone]
      rfl
    refine .inr ⟨hnone, Table.insert rows _ hfree, ?_, dif_pos hfree⟩
    show rows.rows ++ [statement.newRow binds] = _
    rw [hrows, hnew, Table.insert, List.map_append]
    rfl
  · have htaken : ¬ rows.find (statement.newRow binds key) = none := by
      rw [hfind, Option.map_eq_none_iff]
      exact hnone
    exact .inl ⟨Option.isSome_iff_ne_none.mpr hnone, _, dif_neg htaken⟩

/-- An update that changes the images as a function changes the entities. -/
theorem update_map {statement : Update κ} (hset : statement.sets.lookup key = none) {f : ρ → ρ}
    (hf : ∀ x, keyOf (f x) = keyOf x) (hrows : rows.rows = table.rows.map print)
    (happly : ∀ x ∈ table.rows, statement.apply key binds (print x) = print (f x)) :
    ∃ rows' : Relation key, rows'.rows = (table.modify f hf).rows.map print ∧
      Relation.update check statement binds hset rows = Relation.commit check rows' := by
  refine ⟨_, ?_, rfl⟩
  show rows.rows.map _ = _
  rw [hrows, List.map_map, Table.modify, List.map_map]
  exact List.map_congr_left happly

/-- An insertion that updates the row of its key, if there is one, writes the image of an entity if
both of its parts do. -/
theorem upsert_map [DecidableEq ι] {statement : Insert κ} {update : Update κ}
    (hset : update.sets.lookup key = none) {x : ρ} (hrows : rows.rows = table.rows.map print)
    (hkey : ∀ x, print x key = bind (keyOf x)) (hinjective : Function.Injective bind)
    (hnewkey : statement.newRow binds key = bind (keyOf x))
    (hnew : table.find (keyOf x) = none → statement.newRow binds = print x)
    (happly : ∀ old ∈ table.rows,
      update.apply key binds (print old) = print (if keyOf old = keyOf x then x else old)) :
    ∃ rows' : Relation key, rows'.rows = (table.upsert x).rows.map print ∧
      Relation.upsert check statement update binds hset rows = Relation.commit check rows' := by
  have hfind : rows.find (statement.newRow binds key) = (table.find (keyOf x)).map print := by
    rw [hnewkey]
    exact find_map hrows hkey hinjective _
  unfold Relation.upsert Table.upsert
  by_cases hnone : table.find (keyOf x) = none
  · have hfree : rows.find (statement.newRow binds key) = none := by
      rw [hfind, hnone]
      rfl
    rw [if_pos hfree, dif_pos hnone]
    rcases insert_map check hrows hkey hinjective (hnew hnone) with ⟨hsome, _⟩ | ⟨_, h⟩
    · rw [hnone] at hsome
      cases hsome
    · exact h
  · have htaken : ¬ rows.find (statement.newRow binds key) = none := by
      rw [hfind, Option.map_eq_none_iff]
      exact hnone
    rw [if_neg htaken, dif_neg hnone]
    exact update_map check hset _ hrows happly

theorem update_where_map {statement : UpdateWhere κ} (hset : statement.sets.lookup key = none)
    {f : ρ → ρ} (hf : ∀ x, keyOf (f x) = keyOf x) {test : ρ → Bool}
    (hrows : rows.rows = table.rows.map print)
    (happly : ∀ x ∈ table.rows, statement.apply binds (print x) = print (f x))
    (hmeets : ∀ x ∈ table.rows, meets statement.conditions binds (print x) = test x) :
    ∃ rows' : Relation key, rows'.rows = (table.modify f hf).rows.map print ∧
      Relation.updateWhere check statement binds hset rows =
        (Relation.commit check rows').map fun rows' => (table.rows.countP test, rows') := by
  have hcount : rows.rows.countP (meets statement.conditions binds) = table.rows.countP test := by
    rw [hrows, List.countP_map]
    exact List.countP_congr fun x hx => by simp [hmeets x hx]
  refine ⟨Table.modify rows (statement.apply binds) fun _ => UpdateWhere.apply_kept hset, ?_, ?_⟩
  · show rows.rows.map _ = _
    rw [hrows, List.map_map, Table.modify, List.map_map]
    exact List.map_congr_left happly
  · unfold Relation.updateWhere
    rw [hcount]
    cases Relation.commit check _ <;> rfl

end Images

end Sql
