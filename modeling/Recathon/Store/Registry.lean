import Recathon.Builder.Create
import Recathon.Destroy.Drop

/-!
# Recathon.Store.Registry — what the catalogue is for

The abstract state of the subsystem: whether the infrastructure tables exist, and the
recommenders in catalogue order, each with its request, its method and its cells. A
cell is its clock reading, its context values and its rating count.

`Registry.realize base` is the database that state stands for on top of the tables
`base` had before any recommender: the catalogue with one row per recommender, the
properties table with its default row, and per recommender its index table (one row
per cell) followed by each cell's model and view tables. `Registry.WF` says every
relation the registry adds has its own name, unused in `base`, and every stored method
name was validated.

The build and destroy modules show each request takes a realized state to a realized
state; the store invariant is that every reachable database is `realize` of a
well-formed registry.
-/

namespace Recathon

set_option autoImplicit false

/-- A cell as the store records it. -/
structure CellRec where
  timestamp : Timeval
  attvalues : List String
  count : Int
deriving DecidableEq

/-- A recommender as the store records it. -/
structure Recommender where
  recStmt : CreateRStmt
  method : RecMethod
  cells : List CellRec
deriving DecidableEq

/-- The abstract catalogue state. -/
structure Registry where
  installed : Bool
  recommenders : List Recommender
deriving DecidableEq

namespace Family

variable (F : Family) (recStmt : CreateRStmt) (ts : Timeval)

/-- The relations a completed cell adds, under their folded names: its model tables,
empty, then its view with the placeholder row. -/
def cellTables : List (String × Table) :=
  (F.models ts).map (fun m => (ident m.1, Table.empty m.2)) ++
    [(ident (recViewName recStmt.relname ts),
      (Table.empty (viewColumns recStmt.userkey recStmt.itemkey)).addRow dummyRow)]

/-- The names of a cell's relations, in creation order. -/
def cellKeys : List String :=
  (F.models ts).map (ident ∘ Prod.fst) ++ [ident (recViewName recStmt.relname ts)]

@[simp] theorem keysOf_cellTables : keysOf (F.cellTables recStmt ts) = F.cellKeys recStmt ts := by
  simp [cellTables, cellKeys, keysOf]

end Family

namespace Recommender

variable (r : Recommender)

def family : Family := familyOf r.recStmt r.method

/-- The relation `<relname>Index` names. -/
def indexKey : String := ident (recIndexName r.recStmt.relname)

/-- The model table names of a cell. -/
def modelNames (c : CellRec) : List String := (r.family.models c.timestamp).map Prod.fst

/-- A cell's index row. -/
def row (c : CellRec) : Row :=
  indexRow (r.modelNames c) (recViewName r.recStmt.relname c.timestamp) c.count c.attvalues

def indexTable : Table :=
  { Table.empty (indexColumns r.method r.recStmt.attributes) with rows := r.cells.map r.row }

@[simp] theorem indexTable_rows : r.indexTable.rows = r.cells.map r.row := rfl

/-- A cell's relations. -/
def cellTables (c : CellRec) : List (String × Table) := r.family.cellTables r.recStmt c.timestamp

/-- Every relation of the recommender, in creation order. -/
def tables : List (String × Table) := (r.indexKey, r.indexTable) :: r.cells.flatMap r.cellTables

/-- The recommender with one more cell. -/
def addCell (c : CellRec) : Recommender := { r with cells := r.cells ++ [c] }

section AddCell

variable (c : CellRec)

@[simp] theorem recStmt_addCell : (r.addCell c).recStmt = r.recStmt := rfl
@[simp] theorem method_addCell : (r.addCell c).method = r.method := rfl
@[simp] theorem cells_addCell : (r.addCell c).cells = r.cells ++ [c] := rfl
@[simp] theorem family_addCell : (r.addCell c).family = r.family := rfl
@[simp] theorem indexKey_addCell : (r.addCell c).indexKey = r.indexKey := rfl
@[simp] theorem row_addCell : (r.addCell c).row = r.row := rfl
@[simp] theorem cellTables_addCell : (r.addCell c).cellTables = r.cellTables := rfl

@[simp] theorem indexTable_addCell : (r.addCell c).indexTable = r.indexTable.addRow (r.row c) := by
  simp [indexTable, Table.addRow]

/-- The recommender with more cells. -/
def addCells (cs : List CellRec) : Recommender := { r with cells := r.cells ++ cs }

@[simp] theorem addCells_nil : r.addCells [] = r := by simp [addCells]
@[simp] theorem addCells_cons (cs : List CellRec) :
    r.addCells (c :: cs) = (r.addCell c).addCells cs := by
  simp [addCells, addCell]
@[simp] theorem recStmt_addCells (cs : List CellRec) : (r.addCells cs).recStmt = r.recStmt := rfl
@[simp] theorem method_addCells (cs : List CellRec) : (r.addCells cs).method = r.method := rfl
@[simp] theorem family_addCells (cs : List CellRec) : (r.addCells cs).family = r.family := rfl

end AddCell

end Recommender

def catalogueTable (recs : List Recommender) : Table :=
  { Table.empty catalogueColumns with
    rows := recs.map fun r => catalogueRow r.recStmt r.recStmt.attributes.length }

@[simp] theorem catalogueTable_rows (recs : List Recommender) :
    (catalogueTable recs).rows = recs.map fun r => catalogueRow r.recStmt r.recStmt.attributes.length :=
  rfl

def propertiesTable : Table := (Table.empty propertiesColumns).addRow propertiesRow

namespace Registry

variable (reg : Registry)

/-- The infrastructure tables, once installed. -/
def infra : List (String × Table) :=
  if reg.installed then
    [("recmodelscatalogue", catalogueTable reg.recommenders),
      ("recathonproperties", propertiesTable)]
  else []

/-- The relations the registry adds to `base`. -/
def own : List (String × Table) := reg.infra ++ reg.recommenders.flatMap Recommender.tables

def realize (base : Db) : Db := ⟨base.tables ++ reg.own⟩

/-- A registry that can stand for a database over `base`. -/
structure WF (base : Db) : Prop where
  installed : reg.recommenders ≠ [] → reg.installed = true
  catalogue_free : base.table? "recmodelscatalogue" = none
  properties_free : base.table? "recathonproperties" = none
  nodup : (keysOf reg.own).Nodup
  fresh : ∀ k ∈ keysOf reg.own, base.table? k = none
  validated : ∀ r ∈ reg.recommenders, getRecMethod r.recStmt.method = some r.method

instance (reg : Registry) (base : Db) : Decidable (reg.WF base) :=
  decidable_of_iff ((reg.recommenders ≠ [] → reg.installed = true) ∧
      base.table? "recmodelscatalogue" = none ∧ base.table? "recathonproperties" = none ∧
      (keysOf reg.own).Nodup ∧ (∀ k ∈ keysOf reg.own, base.table? k = none) ∧
      ∀ r ∈ reg.recommenders, getRecMethod r.recStmt.method = some r.method)
    ⟨fun ⟨a, b, c, d, e, f⟩ => ⟨a, b, c, d, e, f⟩, fun ⟨a, b, c, d, e, f⟩ => ⟨a, b, c, d, e, f⟩⟩

/-- The registry before any build: nothing installed. -/
theorem WF.empty (base : Db) (catalogue : base.table? "recmodelscatalogue" = none)
    (properties : base.table? "recathonproperties" = none) :
    (⟨false, []⟩ : Registry).WF base :=
  ⟨fun absurd => absurd rfl |>.elim, catalogue, properties, by simp [own, infra],
    by simp [own, infra], by simp⟩

end Registry

end Recathon
