import Recathon.Text.CellBuffer
import Recathon.Store.Order

/-!
# Recathon.Text.DropBuffer — the buffers a destroy request formats

`case T_DropRecStmt` names the index into `palloc(strlen(recname) + 6)`, formats its scan
into `query_string` (1024), each `drop table <name>;` of a cell into a fresh
`drop_string` (512), and the index `drop table` and the catalogue `delete` into one more
`drop_string` (512): `dropBuffers`.

* `dropBuffers_fit_iff`: they all fit exactly when the folded name has at most 443 bytes
  and every name a cell node holds at most 499;
* `destroy_buffers_fit`: for a live recommender of a well-formed store, built from an
  admitted request with clock readings that fit a `long`, the scan reads names of at
  most 98 bytes, so every buffer of its destroy fits. Unlike a build
  (`long_attribute_overflows`, `long_value_overflows`), a destroy never writes past a
  buffer.
-/

namespace Recathon

set_option autoImplicit false

/-- The names of a cell node the drop loop drops: the non-`NULL` ones, in field order. -/
def Cell.names (c : Cell) : List String := [c.modelname1, c.modelname2, c.viewname].filterMap id

/-- `sprintf(drop_string,"drop table %s;",name)` -/
def dropText (name : String) : String := "drop table " ++ name ++ ";"

/-- `sprintf(query_string,"select * from %sindex;",recname)` -/
def indexScanText (recname : String) : String := "select * from " ++ recname ++ "index;"

/-- The buffers `case T_DropRecStmt` writes for the folded name `recname` once its scan has
read `cells`: `recindexname`, `query_string`, one `drop_string` per name of every cell,
and the last `drop_string`, written twice, of which the longer text is the `delete`. -/
def dropBuffers (recname : String) (cells : List Cell) : List Buffer :=
  [⟨byteLength recname.data + 6, recIndexName recname⟩, ⟨1024, indexScanText recname⟩] ++
    cells.flatMap (fun c => c.names.map fun n => ⟨512, dropText n⟩) ++
    [⟨512, dropText (recname ++ "index")⟩, ⟨512, render (deleteCatalogue recname)⟩]

theorem Cell.drops_eq_names (c : Cell) : c.drops = c.names.map fun n => .exec (.dropTable n) :=
  rfl

/-! ## Their lengths -/

section Lengths

variable (recname : String)

@[simp] theorem byteLength_dropText (name : String) :
    byteLength (dropText name).data = byteLength name.data + 12 := by
  simp (disch := decide) only [dropText, byteLength_data_append, byteLength_cons, byteLength_nil,
    utf8Size_ofNat_of_lt]
  omega

@[simp] theorem byteLength_indexScanText :
    byteLength (indexScanText recname).data = byteLength recname.data + 20 := by
  simp (disch := decide) only [indexScanText, byteLength_data_append, byteLength_cons,
    byteLength_nil, utf8Size_ofNat_of_lt]
  omega

@[simp] theorem byteLength_deleteCatalogue :
    byteLength (render (deleteCatalogue recname)).data = byteLength recname.data + 68 := by
  simp (disch := decide) only [deleteCatalogue, fields, List.flatMap_cons, List.flatMap_nil,
    List.cons_append, List.nil_append, render, Piece.render, recIndexName, byteLength_data_append,
    byteLength_cons, byteLength_nil, utf8Size_ofNat_of_lt]
  omega

end Lengths

/-- Every buffer of a destroy fits exactly when the folded name has at most 443 bytes, for
the catalogue `delete`, and every name a cell holds at most 499, for its `drop table`. -/
theorem dropBuffers_fit_iff (recname : String) (cells : List Cell) :
    (∀ b ∈ dropBuffers recname cells, b.Fits) ↔
      byteLength recname.data ≤ 443 ∧ ∀ c ∈ cells, ∀ n ∈ c.names, byteLength n.data ≤ 499 := by
  constructor
  · intro fits
    have delete := fits ⟨512, render (deleteCatalogue recname)⟩ (by simp [dropBuffers])
    simp only [Buffer.Fits, byteLength_deleteCatalogue] at delete
    refine ⟨by omega, fun c mem n named => ?_⟩
    have listed : (⟨512, dropText n⟩ : Buffer) ∈ dropBuffers recname cells := by
      simp only [dropBuffers, List.mem_append, List.mem_flatMap, List.mem_map]
      exact .inl (.inr ⟨c, mem, n, named, rfl⟩)
    have drop := fits _ listed
    simp only [Buffer.Fits, byteLength_dropText] at drop
    omega
  · rintro ⟨short, names⟩ b mem
    simp only [dropBuffers, List.mem_append, List.mem_cons, List.mem_flatMap, List.mem_map,
      List.not_mem_nil, or_false] at mem
    rcases mem with ((rfl | rfl) | ⟨c, inCells, n, named, rfl⟩) | rfl | rfl
    · simp [Buffer.Fits]
    · simp only [Buffer.Fits, byteLength_indexScanText]; omega
    · simp only [Buffer.Fits, byteLength_dropText]; have := names c inCells n named; omega
    · simp only [Buffer.Fits, byteLength_dropText, byteLength_data_append]
      simp (disch := decide) only [byteLength_cons, byteLength_nil, utf8Size_ofNat_of_lt]
      omega
    · simp only [Buffer.Fits, byteLength_deleteCatalogue]; omega

/-! ## On a store -/

namespace Recommender

variable (r : Recommender)

/-- The names the scan reads from a cell's index row are the ones the build wrote. -/
theorem names_cellOf (c : CellRec) :
    (r.cellOf c).names = r.modelNames c ++ [recViewName r.recStmt.relname c.timestamp] :=
  List.map_injective_iff.2 (fun _ _ same => by simpa using same)
    ((Cell.drops_eq_names _).symm.trans (r.cellOf_drops c))

/-- Every name a cell's index row holds has at most 98 bytes when the request was
admitted and the clock reading fits a `long`. -/
theorem byteLength_names_cellOf_le (admitted : Admitted r.recStmt) (c : CellRec)
    (long : c.timestamp.tvSec.natAbs ≤ 2 ^ 63) :
    ∀ n ∈ (r.cellOf c).names, byteLength n.data ≤ 98 := by
  have relname := admitted.names r.recStmt.relname (List.mem_cons_self _ _)
  have suffix := byteLength_suffix_le c.timestamp long
  intro n mem
  rw [names_cellOf, List.mem_append, List.mem_singleton] at mem
  rcases mem with model | rfl
  · obtain ⟨m, inModels, rfl⟩ := List.mem_map.1 model
    have := byteLength_model_le r.recStmt r.method c.timestamp m inModels
    omega
  · rw [byteLength_recViewName]; omega

end Recommender

/-- A destroy of a live recommender of a well-formed store, built from an admitted request
with clock readings that fit a `long`, writes within every buffer: its scan reads the
cells the build recorded, and their names and the folded name are short enough for
`dropBuffers_fit_iff`. -/
theorem destroy_buffers_fit {base : Db} {reg : Registry} (wf : reg.WF base) {r : Recommender}
    (live : r ∈ reg.recommenders) (admitted : Admitted r.recStmt)
    (long : ∀ c ∈ r.cells, c.timestamp.tvSec.natAbs ≤ 2 ^ 63) {name : String}
    (named : lower name = r.recStmt.relname) :
    ∃ cells, r.indexTable.rows.mapM (readCell (r.recStmt.method == "svd") r.indexTable) = .ok cells ∧
      ∀ b ∈ dropBuffers (lower name) cells, b.Fits := by
  refine ⟨_, r.mapM_readCell_rows (wf.validated r live) r.cells, (dropBuffers_fit_iff _ _).2 ⟨?_, ?_⟩⟩
  · have := admitted.names r.recStmt.relname (List.mem_cons_self _ _)
    rw [named]; omega
  · intro c mem n named
    obtain ⟨c', inCells, rfl⟩ := List.mem_map.1 mem
    have := r.byteLength_names_cellOf_le admitted c' (long c' inCells) n named
    omega

/-- The recommender `foo` of `fooRegistry`. -/
def fooRecommender : Recommender := ⟨sampleStmt "foo", .itemCosCF, [⟨sampleClock 0, [], 3⟩]⟩

theorem foo_destroy_buffers_fit :
    Admitted fooRecommender.recStmt ∧
      ∃ cells, fooRecommender.indexTable.rows.mapM
          (readCell (fooRecommender.recStmt.method == "svd") fooRecommender.indexTable) = .ok cells ∧
        ∀ b ∈ dropBuffers (lower "FOO") cells, b.Fits :=
  ⟨by decide, destroy_buffers_fit Registry.fooRegistry_wf (List.mem_singleton_self _) (by decide)
    (fun _ mem => by rw [List.mem_singleton.1 mem]; decide) rfl⟩

end Recathon
