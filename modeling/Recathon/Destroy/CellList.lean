import Recathon.Builder.Request

/-!
# Recathon.Destroy.CellList — the list of cells a destroy request collects

The destroy request reads every row of `<name>index` into a `cell_node`, appended to
a singly linked list through `chead` and `ctail`, and then walks the list from
`chead`, dropping each non-`NULL` name. Nodes live in a `Heap`: `palloc` hands out
the next address.

`listState cells` is the state the scan leaves after reading `cells`: node `i` at
address `i`, linked to `i + 1`, the last one to `NULL`. The step lemma
`scanRow_listState` appends one node; `scanLoop_eq` is the whole loop; `walk_listState`
is the drop loop visiting each node once, in scan order.

`freeCellList` then walks the same list once more, calling `pfree` on each non-`NULL`
name and on the node, after reading its `next`. Its model records those calls as
`Release`s and fails on a read of a released node, so running to the end means no use
after free. `scan_then_freeCellList`: on every list the scan builds, it runs to the end
and releases each node and each name the scan stored exactly once.
-/

namespace Recathon

set_option autoImplicit false

/-- The data of a `cell_node`: `modelname1`, `modelname2` (SVD only), `viewname`. -/
structure Cell where
  modelname1 : Option String
  modelname2 : Option String
  viewname : Option String
deriving DecidableEq, Repr

/-- `struct cell_node_t`. -/
structure CellNode where
  cell : Cell
  next : Option Nat
deriving DecidableEq, Repr

/-- The nodes allocated so far, at addresses `0, 1, …`. -/
abbrev Heap := List CellNode

/-- The scan loop's variables. -/
structure ScanState where
  heap : Heap
  chead : Option Nat
  ctail : Option Nat
deriving DecidableEq, Repr

/-- Modelled from the spec: `getTupleString` (not in this repository) returns the text
of the named attribute of a row of `t`. -/
def getTupleString (t : Table) (row : Row) (name : String) : Except String String :=
  match t.column? name with
  | none => .error ("attribute " ++ name ++ " not found")
  | some i =>
      match row.get? i with
      | none => .error ("attribute " ++ name ++ " not found")
      | some v => .ok v.out

/-- The names one index row holds, read as the scan loop reads them:
`recusermodelname` and `recitemmodelname` when the stored method is `svd`,
`recmodelname` otherwise, then `recviewname`. -/
def readCell (svd : Bool) (t : Table) (row : Row) : Except String Cell := do
  let (modelname1, modelname2) ←
    if svd then do
      let m1 ← getTupleString t row "recusermodelname"
      let m2 ← getTupleString t row "recitemmodelname"
      pure (some m1, some m2)
    else do
      let m1 ← getTupleString t row "recmodelname"
      pure (some m1, none)
  let viewname ← getTupleString t row "recviewname"
  pure ⟨modelname1, modelname2, some viewname⟩

/-- `ctail->next = new_cell`. -/
def setNext (heap : Heap) (ctail new_cell : Nat) : Heap :=
  heap.modify (fun node => { node with next := some new_cell }) ctail

/-- One pass of the scan loop: read the row into a new node and link it in. -/
def scanRow (svd : Bool) (t : Table) (st : ScanState) (row : Row) : Except String ScanState := do
  let cell ← readCell svd t row
  let new_cell := st.heap.length
  let heap := st.heap ++ [⟨cell, none⟩]
  match st.chead, st.ctail with
  | none, _ => pure ⟨heap, some new_cell, some new_cell⟩
  | some chead, some ctail => pure ⟨setNext heap ctail new_cell, some chead, some new_cell⟩
  | some _, none => throw "NULL pointer dereference"

/-- The scan loop over the rows of the index table. -/
def scanLoop (svd : Bool) (t : Table) : ScanState → List Row → Except String ScanState
  | st, [] => pure st
  | st, row :: rows => do scanLoop svd t (← scanRow svd t st row) rows

/-- `for (ctemp = chead; ctemp; ctemp = ctemp->next)`, for at most `fuel` nodes:
the cells visited, or `none` on a dangling pointer or when the fuel runs out. -/
def walk (heap : Heap) : Nat → Option Nat → Option (List Cell)
  | _, none => some []
  | 0, some _ => none
  | fuel + 1, some a => do
      let node ← heap[a]?
      let rest ← walk heap fuel node.next
      pure (node.cell :: rest)

/-- The drop statements of one cell: `drop table %s;` for each non-`NULL` name. -/
def Cell.drops (c : Cell) : List Event :=
  ([c.modelname1, c.modelname2, c.viewname].filterMap id).map fun n => .exec (.dropTable n)

/-- The drop loop: the `drop table` statements for every non-`NULL` name of every
node from `chead`, in list order; `none` if the list is broken. -/
def dropLoop (st : ScanState) : Option (List Event) :=
  (walk st.heap st.heap.length st.chead).map fun cells => cells.flatMap Cell.drops

/-- The heap the scan builds from `cells`, the first node at address `base`. -/
def layout (base : Nat) : List Cell → Heap
  | [] => []
  | [c] => [⟨c, none⟩]
  | c :: d :: rest => ⟨c, some (base + 1)⟩ :: layout (base + 1) (d :: rest)

/-- The scan state after reading `cells`. -/
def listState (cells : List Cell) : ScanState :=
  ⟨layout 0 cells, if cells = [] then none else some 0,
    if cells = [] then none else some (cells.length - 1)⟩

@[simp] theorem length_layout (base : Nat) : ∀ cells : List Cell, (layout base cells).length = cells.length
  | [] => rfl
  | [_] => rfl
  | _ :: d :: rest => by simp [layout, length_layout (base + 1) (d :: rest)]

theorem setNext_layout (base : Nat) (x : Cell) :
    ∀ (cells : List Cell), cells ≠ [] →
      setNext (layout base cells ++ [⟨x, none⟩]) (cells.length - 1) (base + cells.length) =
        layout base (cells ++ [x])
  | [], nonempty => absurd rfl nonempty
  | [c], _ => by simp [setNext, layout]
  | c :: d :: rest, _ => by
      have ih := setNext_layout (base + 1) x (d :: rest) (by simp)
      simp only [setNext, List.length_cons, Nat.add_sub_cancel] at ih ⊢
      simp only [layout, List.cons_append, List.modify_succ_cons]
      rw [show base + (rest.length + 1 + 1) = base + 1 + (rest.length + 1) by omega, ih]
      rfl

theorem scanRow_listState (svd : Bool) (t : Table) (cells : List Cell) (row : Row) :
    scanRow svd t (listState cells) row = (readCell svd t row).map fun c => listState (cells ++ [c]) := by
  rcases read : readCell svd t row with e | c
  · simp [scanRow, read, bind, Except.bind, Except.map]
  · by_cases empty : cells = []
    · subst empty; simp [scanRow, read, listState, layout, bind, Except.bind, Except.map, pure, Except.pure]
    · have linked := setNext_layout 0 c cells empty
      simp only [Nat.zero_add] at linked
      simp [scanRow, read, listState, empty, linked, bind, Except.bind, Except.map, pure, Except.pure]

theorem scanLoop_eq (svd : Bool) (t : Table) (rows : List Row) :
    ∀ cells : List Cell, scanLoop svd t (listState cells) rows =
      (rows.mapM (readCell svd t)).map fun more => listState (cells ++ more) := by
  induction rows with
  | nil => intro cells; rw [List.mapM_nil]; simp [scanLoop, pure, Except.pure, Except.map]
  | cons row rows ih =>
      intro cells
      simp only [scanLoop, scanRow_listState, List.mapM_cons]
      rcases readCell svd t row with e | c
      · rfl
      · simp only [Except.map, bind, Except.bind, ih]
        rcases rows.mapM (readCell svd t) with e | more
        · rfl
        · simp [pure, Except.pure]

theorem getElem?_layout (base : Nat) : ∀ (cells : List Cell) (i : Nat),
    (layout base cells)[i]? = cells[i]?.map fun c =>
      ⟨c, if i + 1 < cells.length then some (base + i + 1) else none⟩
  | [], _ => rfl
  | [_], 0 => rfl
  | [_], _ + 1 => rfl
  | _ :: _ :: _, 0 => by simp [layout]
  | _ :: d :: rest, i + 1 => by
      simp only [layout, List.getElem?_cons_succ, getElem?_layout (base + 1) (d :: rest) i,
        List.length_cons]
      rw [show base + (i + 1) + 1 = base + 1 + i + 1 by omega]
      simp

/-- From node `i` on, the drop loop visits the remaining cells in order. -/
theorem walk_layout (cells : List Cell) : ∀ (fuel i : Nat), cells.length ≤ i + fuel →
    walk (layout 0 cells) fuel (if i < cells.length then some i else none) = some (cells.drop i)
  | fuel, i, enough => by
      by_cases inside : i < cells.length
      · cases fuel with
        | zero => omega
        | succ fuel =>
            have rest := walk_layout cells fuel (i + 1) (by omega)
            rw [if_pos inside]
            simp only [walk, getElem?_layout, List.getElem?_eq_getElem inside, Option.map_some',
              Nat.zero_add, Option.bind_eq_bind, Option.some_bind, rest]
            rw [List.drop_eq_getElem_cons inside]
            rfl
      · simp [inside, walk, List.drop_of_length_le (Nat.le_of_not_lt inside)]

theorem walk_listState (cells : List Cell) :
    walk (listState cells).heap (listState cells).heap.length (listState cells).chead = some cells := by
  have := walk_layout cells cells.length 0 (by omega)
  simp only [List.drop_zero] at this
  simpa [listState, List.length_pos, Nat.pos_iff_ne_zero] using this

theorem dropLoop_listState (cells : List Cell) :
    dropLoop (listState cells) = some (cells.flatMap Cell.drops) := by
  simp [dropLoop, walk_listState]

/-- The columns `readCell` reads from an index row, and the cell it makes of them:
`recusermodelname`, `recitemmodelname` and `recviewname` when the stored method is
`svd`, otherwise `recmodelname` and `recviewname`, with no second model name. -/
theorem readCell_eq_ok (svd : Bool) (t : Table) (row : Row) (c : Cell) :
    readCell svd t row = .ok c ↔
      if svd then ∃ m1 m2 v, getTupleString t row "recusermodelname" = .ok m1 ∧
          getTupleString t row "recitemmodelname" = .ok m2 ∧
          getTupleString t row "recviewname" = .ok v ∧ c = ⟨some m1, some m2, some v⟩
      else ∃ m v, getTupleString t row "recmodelname" = .ok m ∧
          getTupleString t row "recviewname" = .ok v ∧ c = ⟨some m, none, some v⟩ := by
  cases svd
  case false =>
    simp only [readCell, Bool.false_eq_true, if_false]
    rcases getTupleString t row "recmodelname" with e | m <;>
      rcases getTupleString t row "recviewname" with e | v <;>
      simp [bind, Except.bind, pure, Except.pure, eq_comm]
  case true =>
    simp only [readCell, if_true]
    rcases getTupleString t row "recusermodelname" with e | m1 <;>
      rcases getTupleString t row "recitemmodelname" with e | m2 <;>
      rcases getTupleString t row "recviewname" with e | v <;>
      simp [bind, Except.bind, pure, Except.pure, eq_comm]

/-- The three name fields of a `cell_node`, each a string `getTupleString` allocated. -/
inductive NameSlot
  | modelname1 | modelname2 | viewname
deriving DecidableEq, Repr

def Cell.slot (c : Cell) : NameSlot → Option String
  | .modelname1 => c.modelname1
  | .modelname2 => c.modelname2
  | .viewname => c.viewname

/-- A `pfree` call: of the name in a slot of the node at an address, or of the node. -/
inductive Release
  | name (node : Nat) (slot : NameSlot)
  | node (node : Nat)
deriving DecidableEq, Repr

/-- The node a release belongs to. -/
def Release.addr : Release → Nat
  | .name a _ => a
  | .node a => a

/-- The body of the `freeCellList` loop for the node at `a`: each non-`NULL` name in
field order, then the node. -/
def Cell.releases (a : Nat) (c : Cell) : List Release :=
  (if c.modelname1.isSome then [.name a .modelname1] else []) ++
  (if c.modelname2.isSome then [.name a .modelname2] else []) ++
  (if c.viewname.isSome then [.name a .viewname] else []) ++
  [.node a]

/-- `freeCellList(head)`, for at most `fuel` nodes, with `freed` the nodes released so
far: the `pfree` calls in order, or `none` if it reads a released node, follows a
dangling pointer or runs out of fuel. `temp = head->next` is read before the node
goes. -/
def freeCellList (heap : Heap) : Nat → List Nat → Option Nat → Option (List Release)
  | _, _, none => some []
  | 0, _, some _ => none
  | fuel + 1, freed, some head =>
      if head ∈ freed then none else do
        let node ← heap[head]?
        let temp := node.next
        let rest ← freeCellList heap fuel (head :: freed) temp
        pure (node.cell.releases head ++ rest)

/-- The releases of the nodes holding `cells`, the first at address `base`, in list
order. -/
def releasesFrom : Nat → List Cell → List Release
  | _, [] => []
  | base, c :: cs => c.releases base ++ releasesFrom (base + 1) cs

theorem mem_releases {a : Nat} {c : Cell} {r : Release} :
    r ∈ c.releases a ↔ r = .node a ∨ ∃ s, r = .name a s ∧ (c.slot s).isSome := by
  cases r with
  | node b => simp [Cell.releases]
  | name b s => cases s <;> simp [Cell.releases, Cell.slot, and_assoc, and_comm]

/-- Every release of a node's loop body belongs to that node. -/
theorem addr_of_mem_releases {a : Nat} {c : Cell} {r : Release} (mem : r ∈ c.releases a) :
    r.addr = a := by
  rcases mem_releases.mp mem with rfl | ⟨s, rfl, _⟩ <;> rfl

theorem nodup_releases (a : Nat) (c : Cell) : (c.releases a).Nodup := by
  simp only [Cell.releases]
  split <;> split <;> split <;> simp

theorem mem_releasesFrom {r : Release} : ∀ {base : Nat} {cells : List Cell},
    r ∈ releasesFrom base cells ↔
      base ≤ r.addr ∧ ∃ c, cells[r.addr - base]? = some c ∧ r ∈ c.releases r.addr
  | _, [] => by simp [releasesFrom]
  | base, c :: cs => by
      rw [releasesFrom, List.mem_append, mem_releasesFrom]
      have later : base < r.addr → (c :: cs)[r.addr - base]? = cs[r.addr - (base + 1)]? :=
        fun after => by rw [show r.addr - base = r.addr - (base + 1) + 1 by omega,
          List.getElem?_cons_succ]
      constructor
      · rintro (here | ⟨le, c', get, mem⟩)
        · have at_base := addr_of_mem_releases here
          exact ⟨at_base.ge, c, by simp [at_base], at_base ▸ here⟩
        · exact ⟨by omega, c', (later (by omega)).trans get, mem⟩
      · rintro ⟨le, c', get, mem⟩
        by_cases at_base : r.addr = base
        · simp only [at_base, Nat.sub_self, List.getElem?_cons_zero, Option.some.injEq] at get
          exact .inl (get ▸ at_base ▸ mem)
        · exact .inr ⟨by omega, c', (later (by omega)).symm.trans get, mem⟩

theorem nodup_releasesFrom : ∀ (base : Nat) (cells : List Cell), (releasesFrom base cells).Nodup
  | _, [] => List.nodup_nil
  | base, c :: cs => by
      refine List.pairwise_append.mpr ⟨nodup_releases base c, nodup_releasesFrom (base + 1) cs, ?_⟩
      rintro r here r' later rfl
      have := (mem_releasesFrom.mp later).1
      have := addr_of_mem_releases here
      omega

/-- From node `i` on, with only nodes before `i` released, the free loop releases the
remaining nodes in order. -/
theorem freeCellList_layout (cells : List Cell) : ∀ (fuel i : Nat) (freed : List Nat),
    cells.length ≤ i + fuel → (∀ a ∈ freed, a < i) →
    freeCellList (layout 0 cells) fuel freed (if i < cells.length then some i else none) =
      some (releasesFrom i (cells.drop i))
  | fuel, i, freed, enough, before => by
      by_cases inside : i < cells.length
      · cases fuel with
        | zero => omega
        | succ fuel =>
            have fresh : i ∉ freed := fun mem => Nat.lt_irrefl i (before i mem)
            have rest := freeCellList_layout cells fuel (i + 1) (i :: freed) (by omega)
              (fun a mem => (List.mem_cons.mp mem).elim (fun h => by omega)
                fun h => Nat.lt_succ_of_lt (before a h))
            rw [if_pos inside]
            simp only [freeCellList, if_neg fresh, getElem?_layout,
              List.getElem?_eq_getElem inside, Option.map_some', Nat.zero_add,
              Option.bind_eq_bind, Option.some_bind, rest]
            rw [List.drop_eq_getElem_cons inside]
            rfl
      · simp [inside, freeCellList, releasesFrom, List.drop_of_length_le (Nat.le_of_not_lt inside)]

theorem freeCellList_listState (cells : List Cell) :
    freeCellList (listState cells).heap (listState cells).heap.length [] (listState cells).chead =
      some (releasesFrom 0 cells) := by
  simpa [listState, List.length_pos, Nat.pos_iff_ne_zero] using
    freeCellList_layout cells cells.length 0 [] (by omega) (by simp)

/-- Memory safety of the cell list: whatever rows the scan reads, the `freeCellList`
that follows runs to the end of the list without reading a node it has released, and
calls `pfree` exactly once on every node the scan allocated and on every non-`NULL`
name it stored, and on nothing else. -/
theorem scan_then_freeCellList (svd : Bool) (t : Table) (rows : List Row) (st : ScanState)
    (scan : scanLoop svd t ⟨[], none, none⟩ rows = .ok st) :
    ∃ rels, freeCellList st.heap st.heap.length [] st.chead = some rels ∧ rels.Nodup ∧
      (∀ a, .node a ∈ rels ↔ a < st.heap.length) ∧
      (∀ a s, .name a s ∈ rels ↔ ∃ node, st.heap[a]? = some node ∧ (node.cell.slot s).isSome) := by
  have built : scanLoop svd t ⟨[], none, none⟩ rows = _ := scanLoop_eq svd t rows []
  rw [scan] at built
  rcases read : rows.mapM (readCell svd t) with e | cells
  · rw [read] at built; cases built
  · rw [read] at built
    cases built
    refine ⟨_, freeCellList_listState cells, nodup_releasesFrom 0 cells, fun a => ?_, fun a s => ?_⟩
    · simp only [mem_releasesFrom, Release.addr, mem_releases, listState, length_layout]
      simp [List.getElem?_eq_some_iff]
      exact ⟨fun ⟨_, inside, _⟩ => inside, fun inside => ⟨_, inside, rfl⟩⟩
    · simp [mem_releasesFrom, Release.addr, mem_releases, listState, getElem?_layout]

/-- An index table of an item-based recommender with two cells, as the scan reads it. -/
def twoCellIndex : Table :=
  ⟨[⟨"recmodelname", .varchar⟩, ⟨"recviewname", .varchar⟩],
    [[.text "foomodel0", .text "fooview0"], [.text "foomodel1", .text "fooview1"]]⟩

/-- The cells the scan reads from `twoCellIndex`. -/
def twoCells : List Cell :=
  [⟨some "foomodel0", none, some "fooview0"⟩, ⟨some "foomodel1", none, some "fooview1"⟩]

theorem two_cell_list_released :
    scanLoop false twoCellIndex ⟨[], none, none⟩ twoCellIndex.rows = .ok (listState twoCells) ∧
    ∃ rels, freeCellList (listState twoCells).heap (listState twoCells).heap.length []
        (listState twoCells).chead = some rels ∧ rels.Nodup ∧
      (∀ a, .node a ∈ rels ↔ a < (listState twoCells).heap.length) ∧
      (∀ a s, .name a s ∈ rels ↔
        ∃ node, (listState twoCells).heap[a]? = some node ∧ (node.cell.slot s).isSome) :=
  ⟨rfl, scan_then_freeCellList false twoCellIndex twoCellIndex.rows _ rfl⟩

end Recathon
