import Recathon.Text.Literal
import Recathon.Builder.Create

/-!
# Recathon.Text.Statement — the statements that carry values, as text

Three statements put values between quotes: the `RecModelsCatalogue` INSERT of a build,
the index-row INSERT of every cell of every builder, and the DELETE of a destroy. Each
is written here as the pieces its format string assembles, so that `render` prints what
`sprintf` and the `strncat` of each `addition` print.

`statements_read_back`: when no name and no value contains a quote, the engine reads
back from each statement exactly the text values the event model writes or matches
(`textsOf` of `catalogueRow` and of `indexRow`, and the index name the DELETE names).
A quote breaks it, since the code does not double quotes: with the value `O'Brien` the
index-row INSERT ends inside a literal (`quote_breaks_index_insert`).
-/

namespace Recathon

set_option autoImplicit false

/-- `"INSERT INTO RecModelsCatalogue VALUES (default,'%sIndex','%s','%s','%s','%s','%s',
'%s','%s',%d);"` -/
def catalogueInsert (recStmt : CreateRStmt) (numatts : Nat) : List Piece :=
  .text "INSERT INTO RecModelsCatalogue VALUES (default" ::
    fields "," [recIndexName recStmt.relname, recStmt.usertable, recStmt.itemtable,
      recStmt.ratingtable, recStmt.userkey, recStmt.itemkey, recStmt.ratingval, recStmt.method] ++
    [.text ("," ++ toString numatts ++ ");")]

example : render (catalogueInsert (sampleStmt "foo") 0) =
    "INSERT INTO RecModelsCatalogue VALUES (default,'fooIndex','users','items','ratings','uid','iid','rating','itemcoscf',0);" := by
  decide

/-- The index-row INSERT of a cell: `"INSERT INTO %s VALUES (default, '%s', '%sView%ld%ld',
0, %d, 0, 0.0, 0.0, localtimestamp"` (for SVD `'%s', '%s'`), one `addition` `", '%s'"` per
context value, then `");"`. -/
def indexInsert (recindexname : String) (models : List String) (relname : String) (ts : Timeval)
    (count : Int) (attvalues : List String) : List Piece :=
  .text ("INSERT INTO " ++ recindexname ++ " VALUES (default") ::
    fields ", " (models ++ [recViewName relname ts]) ++
    .text (", 0, " ++ toString count ++ ", 0, 0.0, 0.0, localtimestamp") ::
    fields ", " attvalues ++ [.text ");"]

/-- The index-row INSERT a family's cell formats. -/
def Family.indexInsert (F : Family) (recStmt : CreateRStmt) (ts : Timeval) (count : Int)
    (attvalues : List String) : List Piece :=
  Recathon.indexInsert (recIndexName recStmt.relname) ((F.models ts).map Prod.fst) recStmt.relname
    ts count attvalues

example : render ((svdFamily (sampleStmt "foo")).indexInsert (sampleStmt "foo") (sampleClock 0) 3
    ["north", "2024"]) =
    "INSERT INTO fooIndex VALUES (default, 'fooUserModel10', 'fooItemModel10', 'fooView10', 0, 3, 0, 0.0, 0.0, localtimestamp, 'north', '2024');" := by
  decide

/-- `"delete from recmodelscatalogue where recommenderindexname = '%sIndex';"` -/
def deleteCatalogue (recname : String) : List Piece :=
  .text "delete from recmodelscatalogue where recommenderindexname" ::
    fields " = " [recIndexName recname] ++ [.text ";"]

/-- The text values of a row, in column order. -/
def textsOf (row : Row) : List String :=
  row.filterMap fun
    | .text s => some s
    | _ => none

theorem textsOf_catalogueRow (recStmt : CreateRStmt) (numatts : Nat) :
    textsOf (catalogueRow recStmt numatts) =
      [recIndexName recStmt.relname, recStmt.usertable, recStmt.itemtable, recStmt.ratingtable,
        recStmt.userkey, recStmt.itemkey, recStmt.ratingval, recStmt.method] := rfl

theorem textsOf_indexRow (models : List String) (view : String) (count : Int)
    (attvalues : List String) :
    textsOf (indexRow models view count attvalues) = models ++ view :: attvalues := by
  simp [textsOf, indexRow, List.filterMap_append, List.filterMap_map, Function.comp_def]

/-- None of the names a request carries contains a quote. -/
def CreateRStmt.Quoteless (recStmt : CreateRStmt) : Prop :=
  ∀ s ∈ [recStmt.relname, recStmt.usertable, recStmt.itemtable, recStmt.ratingtable,
    recStmt.userkey, recStmt.itemkey, recStmt.ratingval, recStmt.method], NoQuote s

instance (recStmt : CreateRStmt) : Decidable recStmt.Quoteless :=
  inferInstanceAs (Decidable (∀ s ∈ _, NoQuote s))

theorem noQuote_recIndexName {relname : String} (plain : NoQuote relname) :
    NoQuote (recIndexName relname) := by
  simpa [recIndexName] using ⟨plain, by decide⟩

/-- A family's model names have a quote only if the relname has. -/
theorem noQuote_models {recStmt : CreateRStmt} (plain : NoQuote recStmt.relname)
    (method : RecMethod) (ts : Timeval) :
    ∀ m ∈ ((familyOf recStmt method).models ts).map Prod.fst, NoQuote m := by
  intro m mem
  cases method <;>
    simp only [familyOf, itemFamily, userFamily, svdFamily, List.map_cons, List.map_nil,
      List.mem_cons, List.not_mem_nil, or_false] at mem <;>
    rcases mem with rfl | rfl <;>
    exact noQuote_cellName plain (by decide) ts

section Readable

theorem catalogueInsert_readable {recStmt : CreateRStmt} (quoteless : recStmt.Quoteless)
    (numatts : Nat) : Readable (catalogueInsert recStmt numatts) := by
  have names : ∀ v ∈ [recIndexName recStmt.relname, recStmt.usertable, recStmt.itemtable,
      recStmt.ratingtable, recStmt.userkey, recStmt.itemkey, recStmt.ratingval, recStmt.method],
      NoQuote v := by
    intro v mem
    rcases List.mem_cons.1 mem with rfl | mem
    · exact noQuote_recIndexName (quoteless _ (List.mem_cons_self _ _))
    · exact quoteless v (List.mem_cons_of_mem _ mem)
  have counted : ("," ++ toString numatts ++ ");") ≠ "" := append_ne_empty _ (by decide)
  have close : Readable [.text ("," ++ toString numatts ++ ");")] :=
    Readable.text (by simpa using ⟨⟨by decide, noQuote_toString_nat numatts⟩, by decide⟩)
  have body : Readable (fields "," _ ++ [.text ("," ++ toString numatts ++ ");")]) :=
    (Readable.fields (by decide) (by decide) names).append close (startsWithText_text counted [])
  have whole := (Readable.text (by decide :
      NoQuote "INSERT INTO RecModelsCatalogue VALUES (default")).append body
    (startsWithText_fields_append (by decide) _ (startsWithText_text counted []))
  exact whole

theorem indexInsert_readable {recindexname relname : String} {models attvalues : List String}
    (indexPlain : NoQuote recindexname) (relPlain : NoQuote relname)
    (modelsPlain : ∀ m ∈ models, NoQuote m) (values : ∀ v ∈ attvalues, NoQuote v) (ts : Timeval)
    (count : Int) : Readable (indexInsert recindexname models relname ts count attvalues) := by
  have named : ∀ m ∈ models ++ [recViewName relname ts], NoQuote m := fun m mem =>
    (List.mem_append.1 mem).elim (modelsPlain m) fun last => by
      rw [List.mem_singleton.1 last]
      exact noQuote_cellName relPlain (by decide) ts
  have counted : (", 0, " ++ toString count ++ ", 0, 0.0, 0.0, localtimestamp") ≠ "" :=
    append_ne_empty _ (by decide)
  have close : Readable (fields ", " attvalues ++ [.text ");"]) :=
    (Readable.fields (by decide) (by decide) values).append (Readable.text (by decide))
      (startsWithText_text (by decide) [])
  have counters : Readable (.text (", 0, " ++ toString count ++ ", 0, 0.0, 0.0, localtimestamp") ::
      (fields ", " attvalues ++ [.text ");"])) :=
    (Readable.text (by simpa using ⟨⟨by decide, noQuote_toString_int count⟩, by decide⟩)).append
      close (startsWithText_fields_append (by decide) _ (startsWithText_text (by decide) []))
  have body : Readable (fields ", " (models ++ [recViewName relname ts]) ++
      .text (", 0, " ++ toString count ++ ", 0, 0.0, 0.0, localtimestamp") ::
      (fields ", " attvalues ++ [.text ");"])) :=
    (Readable.fields (by decide) (by decide) named).append counters (startsWithText_text counted _)
  have whole := (Readable.text (by simpa using ⟨⟨by decide, indexPlain⟩, by decide⟩ :
      NoQuote ("INSERT INTO " ++ recindexname ++ " VALUES (default"))).append body
    (startsWithText_fields_append (by decide) _ (startsWithText_text counted _))
  simpa [indexInsert] using whole

theorem deleteCatalogue_readable {recname : String} (plain : NoQuote recname) :
    Readable (deleteCatalogue recname) := by
  have named : ∀ v ∈ [recIndexName recname], NoQuote v := by
    simpa using noQuote_recIndexName plain
  have body : Readable (fields " = " [recIndexName recname] ++ [.text ";"]) :=
    (Readable.fields (by decide) (by decide) named).append (Readable.text (by decide))
      (startsWithText_text (by decide) [])
  have whole := (Readable.text (by decide :
      NoQuote "delete from recmodelscatalogue where recommenderindexname")).append body
    (startsWithText_fields_append (by decide) _ (startsWithText_text (by decide) []))
  exact whole

end Readable

/-- A cell's index-row INSERT, when the relname and the values have no quote, reads back as
the text values of the row the event model inserts. -/
theorem indexInsert_read_back {recStmt : CreateRStmt} (relPlain : NoQuote recStmt.relname)
    (method : RecMethod) (ts : Timeval) (count : Int) {attvalues : List String}
    (values : ∀ v ∈ attvalues, NoQuote v) :
    literals .outside (render ((familyOf recStmt method).indexInsert recStmt ts count attvalues)).data =
      some (textsOf (indexRow (((familyOf recStmt method).models ts).map Prod.fst)
        (recViewName recStmt.relname ts) count attvalues)) := by
  rw [Family.indexInsert, literals_render (indexInsert_readable (noQuote_recIndexName relPlain)
    relPlain (noQuote_models relPlain method ts) values ts count), textsOf_indexRow]
  simp [indexInsert, quotedValues_append, quotedValues]

theorem statements_read_back (recStmt : CreateRStmt) (quoteless : recStmt.Quoteless)
    (numatts : Nat) (method : RecMethod) (ts : Timeval) (count : Int) (attvalues : List String)
    (values : ∀ v ∈ attvalues, NoQuote v) (recname : String) (named : NoQuote recname) :
    literals .outside (render (catalogueInsert recStmt numatts)).data =
        some (textsOf (catalogueRow recStmt numatts)) ∧
      literals .outside (render ((familyOf recStmt method).indexInsert recStmt ts count attvalues)).data =
        some (textsOf (indexRow (((familyOf recStmt method).models ts).map Prod.fst)
          (recViewName recStmt.relname ts) count attvalues)) ∧
      literals .outside (render (deleteCatalogue recname)).data = some [recIndexName recname] := by
  have relPlain := quoteless _ (List.mem_cons_self _ _)
  refine ⟨?_, ?_, ?_⟩
  · rw [literals_render (catalogueInsert_readable quoteless numatts), textsOf_catalogueRow]
    simp [catalogueInsert, quotedValues_append, quotedValues]
  · exact indexInsert_read_back relPlain method ts count values
  · rw [literals_render (deleteCatalogue_readable named)]
    simp [deleteCatalogue, quotedValues_append, quotedValues]

theorem foo_statements_read_back :
    literals .outside (render (catalogueInsert (sampleStmt "foo") 0)).data =
        some (textsOf (catalogueRow (sampleStmt "foo") 0)) ∧
      literals .outside (render ((familyOf (sampleStmt "foo") .itemCosCF).indexInsert (sampleStmt "foo")
          (sampleClock 0) 3 ["north"])).data =
        some (textsOf (indexRow (((familyOf (sampleStmt "foo") .itemCosCF).models (sampleClock 0)).map
          Prod.fst) (recViewName "foo" (sampleClock 0)) 3 ["north"])) ∧
      literals .outside (render (deleteCatalogue "foo")).data = some [recIndexName "foo"] :=
  statements_read_back (sampleStmt "foo") (by decide) 0 .itemCosCF (sampleClock 0) 3 ["north"]
    (by decide) "foo" (by decide)

theorem quote_breaks_index_insert :
    literals .outside (render ((familyOf (sampleStmt "foo") .itemCosCF).indexInsert (sampleStmt "foo")
      (sampleClock 0) 3 ["O'Brien"])).data = none := by
  decide

end Recathon
