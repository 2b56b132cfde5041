import Recathon.Store.Invariant
import Recathon.Text.Statement

/-!
# Recathon.Store.IndexTable — what a build writes into `<relname>Index`

`index_rows_follow_cursor`: after a completed build, `<relname>Index` has the columns the
`CREATE TABLE` declared and one row per cursor row, in cursor order (one row for a
context-free recommender). Row `i` is `Family.cellRow` at the clock reading of cell `i`;
laid against the declared columns it is `specIndexEntries`, the row as the
specification describes it, column by column; and its rating total is what the populate
call of cell `i` returned, a call whose context pairs each attribute with row `i`'s value
for it.

The engine model stores each row as data. That it is also the row PostgreSQL stores from
the INSERT text the code formats needs a relname and cursor values without quotes: then
the text of row `i`'s INSERT reads back as exactly the row's text values. The code pastes
each value into `'%s'` without doubling its quotes, so a value written `a''b` is stored
as `a'b` (`doubled_quote_read_back`), and one such as `O'Brien` ends its literal early.
-/

namespace Recathon

set_option autoImplicit false

/-- The context a populate call filters the ratings by: each attribute name with its
value. -/
def BackendCall.context : BackendCall → List (String × String)
  | .precompute _ => []
  | .updateItemCosModel _ _ attnames attvalues _ => attnames.zip attvalues
  | .updateItemPearModel _ _ attnames attvalues _ => attnames.zip attvalues
  | .updateUserCosModel _ _ attnames attvalues _ => attnames.zip attvalues
  | .updateUserPearModel _ _ attnames attvalues _ => attnames.zip attvalues
  | .SVDsimilarity _ _ _ attnames attvalues => attnames.zip attvalues

/-- A cell's row of `<relname>Index` as the specification describes it, column by column:
the model table name(s) (for SVD the user model, then the item model), the view name,
the three counters with the rating total `count`, the two rates, the creation time, and
one context value per attribute. -/
def specIndexEntries (method : RecMethod) (relname : String) (attList : List String) (ts : Timeval)
    (count : Int) (attvalues : List String) : List (Column × Value) :=
  [(⟨"systemId", .serial⟩, .default)] ++
    (if method = .SVD then
      [(⟨"recUserModelName", .varchar⟩, .text (recUserModelName relname ts)),
        (⟨"recItemModelName", .varchar⟩, .text (recItemModelName relname ts))]
    else [(⟨"recModelName", .varchar⟩, .text (recModelName relname ts))]) ++
    [(⟨"recViewName", .varchar⟩, .text (recViewName relname ts)), (⟨"updateCounter", .integer⟩, .int 0),
      (⟨"ratingTotal", .integer⟩, .int count), (⟨"queryCounter", .integer⟩, .int 0),
      (⟨"updateRate", .real⟩, .real 0 1), (⟨"queryRate", .real⟩, .real 0 1),
      (⟨"levelone_timestamp", .timestamp⟩, .localtimestamp)] ++
    (attList.zip attvalues).map fun p => (⟨p.1, .varchar⟩, .text p.2)

section Cells

variable (recStmt : CreateRStmt) (method : RecMethod) (ratings : BackendCall → Int)

/-- Each value of a cell's row stands in the column the specification gives it. -/
theorem cellRow_aligned (attList : List String) (ts : Timeval) (attvalues : List String) :
    (indexColumns method attList).zip
        ((familyOf recStmt method).cellRow recStmt ratings attList ts attvalues) =
      specIndexEntries method recStmt.relname attList ts
        (numRatings ratings ((familyOf recStmt method).populate ts attList attvalues)) attvalues := by
  cases method <;>
    simp [indexColumns, Family.cellRow, indexRow, familyOf, itemFamily, userFamily, svdFamily,
      specIndexEntries, List.zip_map, Function.comp_def]

/-- Every populate call is made, and its context pairs each attribute with its value. -/
theorem populate_context (attList : List String) (ts : Timeval) (attvalues : List String) :
    ∃ call, (familyOf recStmt method).populate ts attList attvalues = some call ∧
      call.context = attList.zip attvalues := by
  cases method <;>
    simp [familyOf, itemFamily, userFamily, svdFamily, itemUpdate, userUpdate, BackendCall.context]

end Cells

namespace Family

variable (F : Family) (ratings : BackendCall → Int) (attnames : List String)
  (clock : Nat → Timeval)

/-- The cells of a loop, as a list over the enumerated cursor. -/
theorem cellRecs_eq_enumFrom {n : Nat} (cursor : List (Tuple n)) :
    ∀ i, F.cellRecs ratings attnames clock i cursor =
      (cursor.enumFrom i).map fun p => F.cellRec ratings attnames (clock p.1) p.2.values := by
  induction cursor with
  | nil => intro i; rfl
  | cons t rest ih => intro i; simp [cellRecs, ih]

end Family

namespace Registry

variable {base : Db}

theorem index_rows_follow_cursor {reg : Registry} (wf : reg.WF base) (recStmt : CreateRStmt)
    (clock : Nat → Timeval) (cursor : List (Tuple recStmt.attributes.length))
    (ratings : BackendCall → Int) (plainName : NoQuote recStmt.relname)
    (plainValues : ∀ t ∈ cursor, ∀ v ∈ t.values, NoQuote v) {db' : Db}
    (built : createRStmt recStmt clock cursor ratings (reg.realize base) = .ok db') :
    ∃ method, validateCreateRStmt recStmt = .ok method ∧
      db'.table? (ident (recIndexName recStmt.relname)) =
        some ⟨(Table.empty (indexColumns method recStmt.attributes)).columns,
          (contextCells _ cursor).enum.map fun p =>
            (familyOf recStmt method).cellRow recStmt ratings recStmt.attributes (clock p.1)
              p.2.values⟩ ∧
      (∀ p ∈ (contextCells _ cursor).enum,
        literals .outside (render ((familyOf recStmt method).indexInsert recStmt (clock p.1)
            (numRatings ratings ((familyOf recStmt method).populate (clock p.1) recStmt.attributes
              p.2.values)) p.2.values)).data =
          some (textsOf ((familyOf recStmt method).cellRow recStmt ratings recStmt.attributes
            (clock p.1) p.2.values))) ∧
      ∀ (i : Nat) (t : Tuple recStmt.attributes.length),
        (indexColumns method recStmt.attributes).zip
            ((familyOf recStmt method).cellRow recStmt ratings recStmt.attributes (clock i)
              t.values) =
          specIndexEntries method recStmt.relname recStmt.attributes (clock i)
            (numRatings ratings ((familyOf recStmt method).populate (clock i) recStmt.attributes
              t.values)) t.values ∧
        ∃ call, (familyOf recStmt method).populate (clock i) recStmt.attributes t.values = some call ∧
          call.context = recStmt.attributes.zip t.values := by
  obtain ⟨method, valid, rfl, wf'⟩ := createRStmt_realize wf recStmt clock cursor ratings built
  refine ⟨method, valid, ?_, fun p cell => ?_, fun i t =>
    ⟨cellRow_aligned recStmt method ratings _ _ _, populate_context recStmt method _ _ _⟩⟩
  · have found := (wf'.owned [] (by simpa using wf'.nodup)).table?_indexKey
    rw [List.append_nil] at found
    rw [show ident (recIndexName recStmt.relname) =
      (⟨recStmt, method, (familyOf recStmt method).cellRecs ratings recStmt.attributes clock 0
        (contextCells _ cursor)⟩ : Recommender).indexKey from rfl, found]
    simp [Recommender.indexTable, Family.cellRecs_eq_enumFrom, List.enum, Function.comp_def]
    exact fun _ _ _ => rfl
  · have values : ∀ v ∈ p.2.values, NoQuote v := by
      rcases contextCells_cases (List.snd_mem_of_mem_enum cell) with row | empty
      · exact plainValues _ row
      · simp [empty]
    exact indexInsert_read_back plainName method _ _ values

/-- A request with one context attribute, `city`. -/
def cityStmt : CreateRStmt := { sampleStmt "foo" with attributes := ["city"] }

/-- A cursor of two cities. -/
def cityCursor : List (Tuple 1) := [⟨["paris"], rfl⟩, ⟨["rome"], rfl⟩]

theorem city_index_rows :
    ∃ db', createRStmt cityStmt sampleClock cityCursor (fun _ => 3) ⟨[]⟩ = .ok db' ∧
      db'.table? "fooindex" = some ⟨(Table.empty (indexColumns .itemCosCF ["city"])).columns,
        [indexRow ["fooModel10"] "fooView10" 3 ["paris"],
          indexRow ["fooModel20"] "fooView20" 3 ["rome"]]⟩ := by
  obtain ⟨method, valid, found, -⟩ := index_rows_follow_cursor (WF.empty ⟨[]⟩ rfl rfl) cityStmt
    sampleClock cityCursor (fun _ => 3) (by decide) (by decide) rfl
  cases valid
  refine ⟨_, rfl, ?_⟩
  rw [show "fooindex" = ident (recIndexName cityStmt.relname) by decide]
  exact found.trans (by decide)

/-- A cursor value with a doubled quote, `a''b`: the engine model stores it as written,
but the INSERT the code formats for its row reads back `a'b`. -/
theorem doubled_quote_read_back :
    textsOf ((familyOf cityStmt .itemCosCF).cellRow cityStmt (fun _ => 3) ["city"] (sampleClock 0)
        ["a''b"]) = ["fooModel10", "fooView10", "a''b"] ∧
      literals .outside (render ((familyOf cityStmt .itemCosCF).indexInsert cityStmt (sampleClock 0) 3
        ["a''b"])).data = some ["fooModel10", "fooView10", "a'b"] := by
  decide

end Registry

end Recathon
