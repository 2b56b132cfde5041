import Recathon.Engine.Ident

/-!
# Recathon.Engine.Db — the relational engine, as far as the recommender code uses it

The recommender code reaches the engine only through statements it formats: it
creates tables, inserts rows, drops tables, deletes catalogue rows, and reads a
table back with a full scan. This module gives those statements a meaning on a
database that maps each relation name to its columns and rows.

The engine is not part of the repository. Following the specification (§5, §7), each
statement takes effect on its own: there is no transaction around a request, and a
failing statement changes nothing, so a request that fails keeps the effects of the
statements before it. `serial` sequences and statement notices are not modelled.

The inversion lemmas (`exec_createTable`, `exec_insert`, `exec_dropTable`,
`exec_deleteWhere`) say once what a successful statement did; everything later
reasons from them.
-/

namespace Recathon

set_option autoImplicit false

/-- A column type, as the code's `CREATE TABLE` statements declare them. -/
inductive ColType
  | serial | integer | real | varchar | timestamp | boolean
deriving DecidableEq, Repr

/-- A value as the code's `INSERT` statements write it. A `real` literal such as `0.5`
is kept as written: `real 5 1`. -/
inductive Value
  | default
  | int (n : Int)
  | real (mantissa : Int) (scale : Nat)
  | text (s : String)
  | bool (b : Bool)
  | localtimestamp
deriving DecidableEq, Repr

/-- Whether the engine stores `v` in a column of type `ty`. -/
def Value.fits : Value → ColType → Bool
  | .default, .serial => true
  | .int _, .integer => true
  | .int _, .real => true
  | .real _ _, .real => true
  | .text _, .varchar => true
  | .bool _, .boolean => true
  | .localtimestamp, .timestamp => true
  | _, _ => false

/-- The text a value reads back as (the output function of its type). -/
def Value.out : Value → String
  | .default => "DEFAULT"
  | .int n => toString n
  | .real m s => toString m ++ "e-" ++ toString s
  | .text s => s
  | .bool b => if b then "t" else "f"
  | .localtimestamp => "LOCALTIMESTAMP"

abbrev Row := List Value

structure Column where
  name : String
  type : ColType
deriving DecidableEq, Repr

structure Table where
  columns : List Column
  rows : List Row
deriving DecidableEq, Repr

/-- The names of an association list of relations. -/
def keysOf {α : Type} (l : List (String × α)) : List String := l.map Prod.fst

@[simp] theorem keysOf_nil {α : Type} : keysOf ([] : List (String × α)) = [] := rfl
@[simp] theorem keysOf_cons {α : Type} (p : String × α) (l : List (String × α)) :
    keysOf (p :: l) = p.1 :: keysOf l := rfl
@[simp] theorem keysOf_append {α : Type} (l₁ l₂ : List (String × α)) :
    keysOf (l₁ ++ l₂) = keysOf l₁ ++ keysOf l₂ := List.map_append _ _ _

theorem keysOf_flatMap {α β : Type} (l : List α) (f : α → List (String × β)) :
    keysOf (l.flatMap f) = l.flatMap fun a => keysOf (f a) := by
  simp [keysOf, List.map_flatMap]

theorem mem_keysOf_flatMap {α β : Type} (l : List α) (f : α → List (String × β)) (k : String) :
    k ∈ keysOf (l.flatMap f) ↔ ∃ a ∈ l, k ∈ keysOf (f a) := by
  simp only [keysOf, List.mem_map, List.mem_flatMap]
  constructor
  · rintro ⟨p, ⟨a, mem, inF⟩, rfl⟩; exact ⟨a, mem, p, inF, rfl⟩
  · rintro ⟨a, mem, p, inF, rfl⟩; exact ⟨p, ⟨a, mem, inF⟩, rfl⟩

/-- A database: its relations, each under its folded name, in creation order. -/
structure Db where
  tables : List (String × Table)
deriving DecidableEq

/-- The statements the recommender code formats. Names are as the code writes them;
the engine reads them with `ident`. -/
inductive Stmt
  | createTable (name : String) (columns : List Column)
  | createTableIfNotExists (name : String) (columns : List Column)
  | insert (table : String) (row : Row)
  | dropTable (name : String)
  | deleteWhere (table column value : String)
deriving DecidableEq, Repr

namespace Table

/-- A row the table accepts: one value per column, each of the column's type. -/
def admits (t : Table) (row : Row) : Bool :=
  row.length == t.columns.length && (row.zip t.columns).all fun p => p.1.fits p.2.type

/-- The position of the column named `name`. -/
def column? (t : Table) (name : String) : Option Nat :=
  t.columns.findIdx? (·.name == name)

/-- An empty table with the given column definitions, their names folded. -/
def empty (columns : List Column) : Table :=
  ⟨columns.map fun c => { c with name := ident c.name }, []⟩

def addRow (t : Table) (row : Row) : Table := { t with rows := t.rows ++ [row] }

/-- The rows whose column `i` is not the text `value`. -/
def deleteRows (t : Table) (i : Nat) (value : String) : Table :=
  { t with rows := t.rows.filter fun r => r.get? i != some (.text value) }

@[simp] theorem empty_columns (columns : List Column) :
    (empty columns).columns = columns.map fun c => { c with name := ident c.name } := rfl
@[simp] theorem empty_rows (columns : List Column) : (empty columns).rows = [] := rfl
@[simp] theorem addRow_columns (t : Table) (row : Row) : (t.addRow row).columns = t.columns := rfl
@[simp] theorem addRow_rows (t : Table) (row : Row) : (t.addRow row).rows = t.rows ++ [row] := rfl

end Table

namespace Db

/-- The table relation `n` holds. -/
def table? (db : Db) (n : String) : Option Table :=
  (db.tables.find? fun p => p.1 = n).map Prod.snd

/-- `relationExists` for a name given as the catalogue stores it (already folded). -/
def relationExists (db : Db) (n : String) : Bool := (db.table? n).isSome

/-- A new relation `n`, after every existing one. -/
def add (db : Db) (n : String) (t : Table) : Db := ⟨db.tables ++ [(n, t)]⟩

/-- Relation `n` with its table changed by `f`. -/
def modify (db : Db) (n : String) (f : Table → Table) : Db :=
  ⟨db.tables.map fun p => if p.1 = n then (p.1, f p.2) else p⟩

/-- The database without relation `n`. -/
def remove (db : Db) (n : String) : Db := ⟨db.tables.filter fun p => p.1 ≠ n⟩

/-- One statement. -/
def exec (db : Db) : Stmt → Except String Db
  | .createTable n columns =>
      match db.table? (ident n) with
      | some _ => .error ("relation " ++ ident n ++ " already exists")
      | none => .ok (db.add (ident n) (Table.empty columns))
  | .createTableIfNotExists n columns =>
      match db.table? (ident n) with
      | some _ => .ok db
      | none => .ok (db.add (ident n) (Table.empty columns))
  | .insert n row =>
      match db.table? (ident n) with
      | none => .error ("relation " ++ ident n ++ " does not exist")
      | some t =>
          if t.admits row then .ok (db.modify (ident n) (·.addRow row))
          else .error ("INSERT does not match the columns of " ++ ident n)
  | .dropTable n =>
      match db.table? (ident n) with
      | none => .error ("table " ++ ident n ++ " does not exist")
      | some _ => .ok (db.remove (ident n))
  | .deleteWhere n column value =>
      match db.table? (ident n) with
      | none => .error ("relation " ++ ident n ++ " does not exist")
      | some t =>
          match t.column? (ident column) with
          | none => .error ("column " ++ ident column ++ " does not exist")
          | some i => .ok (db.modify (ident n) (·.deleteRows i value))

/-- `SELECT * FROM n`: the table, to be read row by row. -/
def scan (db : Db) (n : String) : Except String Table :=
  match db.table? (ident n) with
  | none => .error ("relation " ++ ident n ++ " does not exist")
  | some t => .ok t

@[simp] theorem table?_add (db : Db) (n m : String) (t : Table) :
    (db.add n t).table? m = (db.table? m).or (if m = n then some t else none) := by
  simp only [table?, add, List.find?_append, List.find?_cons, List.find?_nil]
  cases db.tables.find? (fun p => p.1 = m) <;> by_cases h : m = n <;> simp [h, Ne.symm, eq_comm]

@[simp] theorem table?_modify (db : Db) (n m : String) (f : Table → Table) :
    (db.modify n f).table? m = if m = n then (db.table? m).map f else db.table? m := by
  obtain ⟨tables⟩ := db
  simp only [table?, modify]
  induction tables with
  | nil => simp
  | cons p ps ih =>
      by_cases hp : p.1 = m
      · have hp' : (if p.1 = n then (p.1, f p.2) else p).1 = m := by split <;> exact hp
        rw [List.map_cons, List.find?_cons_of_pos _ (by simpa using hp'),
          List.find?_cons_of_pos _ (by simpa using hp)]
        subst hp; by_cases hm : p.1 = n <;> simp [hm]
      · have hp' : ¬ (if p.1 = n then (p.1, f p.2) else p).1 = m := by split <;> exact hp
        rw [List.map_cons, List.find?_cons_of_neg _ (by simpa using hp'),
          List.find?_cons_of_neg _ (by simpa using hp), ih]

@[simp] theorem table?_remove (db : Db) (n m : String) :
    (db.remove n).table? m = if m = n then none else db.table? m := by
  obtain ⟨tables⟩ := db
  simp only [table?, remove]
  induction tables with
  | nil => simp
  | cons p ps ih =>
      by_cases hn : p.1 = n
      · rw [List.filter_cons_of_neg (by simpa using hn), ih]
        by_cases hp : p.1 = m
        · rw [List.find?_cons_of_pos _ (by simpa using hp)]; subst hp; simp [hn]
        · rw [List.find?_cons_of_neg _ (by simpa using hp)]
      · rw [List.filter_cons_of_pos (by simpa using hn)]
        by_cases hp : p.1 = m
        · rw [List.find?_cons_of_pos _ (by simpa using hp),
            List.find?_cons_of_pos _ (by simpa using hp)]
          subst hp; simp [hn]
        · rw [List.find?_cons_of_neg _ (by simpa using hp),
            List.find?_cons_of_neg _ (by simpa using hp), ih]

@[simp] theorem keysOf_add (db : Db) (n : String) (t : Table) :
    keysOf (db.add n t).tables = keysOf db.tables ++ [n] := by
  simp [add]

@[simp] theorem keysOf_modify (db : Db) (n : String) (f : Table → Table) :
    keysOf (db.modify n f).tables = keysOf db.tables := by
  simp only [modify, keysOf, List.map_map]
  congr 1; funext p; simp only [Function.comp_apply]; split <;> rfl

@[simp] theorem mem_keysOf_remove (db : Db) (n k : String) :
    k ∈ keysOf (db.remove n).tables ↔ k ∈ keysOf db.tables ∧ k ≠ n := by
  simp only [remove, keysOf, List.mem_map, List.mem_filter, decide_eq_true_eq]
  constructor
  · rintro ⟨p, ⟨mem, ne⟩, rfl⟩; exact ⟨⟨p, mem, rfl⟩, ne⟩
  · rintro ⟨⟨p, mem, rfl⟩, ne⟩; exact ⟨p, ⟨mem, ne⟩, rfl⟩

theorem table?_eq_none (db : Db) (k : String) : db.table? k = none ↔ k ∉ keysOf db.tables := by
  simp only [table?, keysOf, Option.map_eq_none', List.find?_eq_none, decide_eq_true_eq,
    List.mem_map, not_exists, not_and]

theorem table?_append (l₁ l₂ : List (String × Table)) (k : String) :
    (⟨l₁ ++ l₂⟩ : Db).table? k = ((⟨l₁⟩ : Db).table? k).or ((⟨l₂⟩ : Db).table? k) := by
  simp only [table?, List.find?_append]
  cases l₁.find? (fun p => p.1 = k) <;> rfl

theorem table?_cons_self (k : String) (t : Table) (l : List (String × Table)) :
    (⟨(k, t) :: l⟩ : Db).table? k = some t := by
  simp [table?]

theorem table?_cons_of_ne {k n : String} (other : k ≠ n) (t : Table) (l : List (String × Table)) :
    (⟨(k, t) :: l⟩ : Db).table? n = (⟨l⟩ : Db).table? n := by
  simp [table?, other]

theorem modify_append (l₁ l₂ : List (String × Table)) (n : String) (f : Table → Table) :
    (⟨l₁ ++ l₂⟩ : Db).modify n f = ⟨((⟨l₁⟩ : Db).modify n f).tables ++ ((⟨l₂⟩ : Db).modify n f).tables⟩ := by
  simp [modify]

theorem modify_cons_self (n : String) (t : Table) (l : List (String × Table)) (f : Table → Table) :
    (⟨(n, t) :: l⟩ : Db).modify n f = ⟨(n, f t) :: ((⟨l⟩ : Db).modify n f).tables⟩ := by
  simp [modify]

theorem modify_of_not_mem {l : List (String × Table)} {n : String} (absent : n ∉ keysOf l)
    (f : Table → Table) : (⟨l⟩ : Db).modify n f = ⟨l⟩ := by
  simp only [modify, mk.injEq]
  conv => rhs; rw [← List.map_id l]
  apply List.map_congr_left
  intro p mem
  have : p.1 ≠ n := fun same => absent (same ▸ List.mem_map_of_mem Prod.fst mem)
  simp [this]

theorem modify_add_self {db : Db} {n : String} (absent : n ∉ keysOf db.tables) (t : Table)
    (f : Table → Table) : (db.add n t).modify n f = db.add n (f t) := by
  rw [add, modify_append, modify_of_not_mem absent, add]
  simp [modify]

theorem remove_append (l₁ l₂ : List (String × Table)) (n : String) :
    (⟨l₁ ++ l₂⟩ : Db).remove n = ⟨((⟨l₁⟩ : Db).remove n).tables ++ ((⟨l₂⟩ : Db).remove n).tables⟩ := by
  simp [remove]

theorem remove_cons_self (n : String) (t : Table) (l : List (String × Table)) :
    (⟨(n, t) :: l⟩ : Db).remove n = (⟨l⟩ : Db).remove n := by
  simp [remove]

theorem remove_of_not_mem {l : List (String × Table)} {n : String} (absent : n ∉ keysOf l) :
    (⟨l⟩ : Db).remove n = ⟨l⟩ := by
  simp only [remove, mk.injEq, List.filter_eq_self, decide_eq_true_eq]
  intro p mem same
  exact absent (same ▸ List.mem_map_of_mem Prod.fst mem)

variable {db db' : Db}

theorem exec_createTable_of_fresh {n : String} (fresh : ident n ∉ keysOf db.tables)
    (columns : List Column) :
    db.exec (.createTable n columns) = .ok (db.add (ident n) (Table.empty columns)) := by
  simp [exec, (table?_eq_none _ _).2 fresh]

theorem exec_insert_of {n : String} {t : Table} (found : db.table? (ident n) = some t) {row : Row}
    (admits : t.admits row = true) :
    db.exec (.insert n row) = .ok (db.modify (ident n) (·.addRow row)) := by
  simp [exec, found, admits]

theorem exec_createTable {n : String} {columns : List Column}
    (ok : db.exec (.createTable n columns) = .ok db') :
    db.table? (ident n) = none ∧ db' = db.add (ident n) (Table.empty columns) := by
  simp only [exec] at ok
  split at ok
  · cases ok
  · rename_i fresh; cases ok; exact ⟨fresh, rfl⟩

theorem exec_createTableIfNotExists {n : String} {columns : List Column}
    (ok : db.exec (.createTableIfNotExists n columns) = .ok db') :
    (db.table? (ident n) ≠ none ∧ db' = db) ∨
      (db.table? (ident n) = none ∧ db' = db.add (ident n) (Table.empty columns)) := by
  simp only [exec] at ok
  split at ok <;> cases ok
  · rename_i present; exact .inl ⟨by simp [present], rfl⟩
  · rename_i fresh; exact .inr ⟨fresh, rfl⟩

theorem exec_insert {n : String} {row : Row} (ok : db.exec (.insert n row) = .ok db') :
    ∃ t, db.table? (ident n) = some t ∧ t.admits row ∧ db' = db.modify (ident n) (·.addRow row) := by
  simp only [exec] at ok
  split at ok
  · cases ok
  · rename_i t found
    split at ok
    · cases ok; exact ⟨t, found, ‹_›, rfl⟩
    · cases ok

theorem exec_dropTable {n : String} (ok : db.exec (.dropTable n) = .ok db') :
    db.table? (ident n) ≠ none ∧ db' = db.remove (ident n) := by
  simp only [exec] at ok
  split at ok
  · cases ok
  · rename_i found; cases ok; exact ⟨by simp [found], rfl⟩

theorem exec_dropTable_of_mem {n : String} (present : ident n ∈ keysOf db.tables) :
    db.exec (.dropTable n) = .ok (db.remove (ident n)) := by
  rw [← not_not (a := ident n ∈ keysOf db.tables), ← table?_eq_none] at present
  obtain ⟨t, found⟩ := Option.ne_none_iff_exists'.1 present
  simp [exec, found]

theorem exec_deleteWhere_of {n column value : String} {t : Table} {i : Nat}
    (found : db.table? (ident n) = some t) (at_i : t.column? (ident column) = some i) :
    db.exec (.deleteWhere n column value) = .ok (db.modify (ident n) (·.deleteRows i value)) := by
  simp [exec, found, at_i]

theorem exec_deleteWhere {n column value : String}
    (ok : db.exec (.deleteWhere n column value) = .ok db') :
    ∃ t i, db.table? (ident n) = some t ∧ t.column? (ident column) = some i ∧
      db' = db.modify (ident n) (·.deleteRows i value) := by
  simp only [exec] at ok
  split at ok
  · cases ok
  · rename_i t found
    split at ok
    · cases ok
    · rename_i i at_i; cases ok; exact ⟨t, i, found, at_i, rfl⟩

end Db

end Recathon
