import Recathon.Text.Statement
import Recathon.Store.Build

/-!
# Recathon.Text.Buffer — the buffers a build formats into

Every statement and name the recommender code builds is written by `sprintf` or
`strncat` into a buffer of fixed size, `palloc`ed or on the stack; the write runs past
the end when the text and its terminating zero do not fit. A `Buffer` pairs a capacity
with the text the code writes there (`Buffer.Fits`).

`createBuffers` are the buffers `case T_CreateRStmt` writes before it dispatches to a
builder: the catalogue DDL (512), the catalogue INSERT (1024), the properties DDL (256)
and INSERT (64) (`catalogueBuffers`), and the index-table CREATE (1024), into which one
`addition[64]` per context attribute is appended. An `addition` holds
`", <column> VARCHAR NOT NULL"`, which fits exactly when the column name has at most 44
bytes (`indexAddition_fits_iff`), while the parser admits names of 63 (`Admitted`):
`long_attribute_overflows`. The code reaches that CREATE: from every realized state a
request that validates completes its catalogue statements first.

`createBuffers_fit_iff` says when they fit: for an admitted request whose attribute count
is a C `int`, the catalogue and properties buffers always do, and all of them do exactly
when every attribute has at most 44 bytes and the index-table CREATE, whose length
`byteLength_indexCreate` gives, stays under 1024 bytes.
-/

namespace Recathon

set_option autoImplicit false

/-- A buffer: its capacity in bytes and the text written into it. -/
structure Buffer where
  capacity : Nat
  text : String

/-- The text and its terminating zero fit. -/
def Buffer.Fits (b : Buffer) : Prop := byteLength b.text.data + 1 ≤ b.capacity

instance (b : Buffer) : Decidable b.Fits := inferInstanceAs (Decidable (_ ≤ _))

/-- A request the parser admits: every identifier at most `NAMEDATALEN - 1 = 63` bytes. -/
structure Admitted (recStmt : CreateRStmt) : Prop where
  names : ∀ s ∈ [recStmt.relname, recStmt.usertable, recStmt.itemtable, recStmt.ratingtable,
    recStmt.userkey, recStmt.itemkey, recStmt.ratingval, recStmt.method], byteLength s.data ≤ 63
  attributes : ∀ a ∈ recStmt.attributes, byteLength a.data ≤ 63

instance (recStmt : CreateRStmt) : Decidable (Admitted recStmt) :=
  decidable_of_iff (_ ∧ _) ⟨fun ⟨names, attributes⟩ => ⟨names, attributes⟩,
    fun ⟨names, attributes⟩ => ⟨names, attributes⟩⟩

/-- `sprintf(addition, ", %s VARCHAR NOT NULL", temp_attr->colname)` -/
def indexAddition (colname : String) : String := ", " ++ colname ++ " VARCHAR NOT NULL"

theorem byteLength_indexAddition (colname : String) :
    byteLength (indexAddition colname).data = byteLength colname.data + 19 := by
  simp (disch := decide) only [indexAddition, byteLength_data_append, byteLength_cons,
    byteLength_nil, utf8Size_ofNat_of_lt]
  omega

/-- The text of `CREATE TABLE %sIndex (...` before the context columns. -/
def indexCreatePrefix (method : RecMethod) (relname : String) : String :=
  if method = .SVD then
    "CREATE TABLE " ++ relname ++ "Index (systemId serial, PRIMARY KEY (systemId), recUserModelName VARCHAR NOT NULL, recItemModelName VARCHAR NOT NULL, recViewName VARCHAR NOT NULL, updateCounter INTEGER NOT NULL, ratingTotal INTEGER NOT NULL, queryCounter INTEGER NOT NULL, updateRate REAL NOT NULL, queryRate REAL NOT NULL, levelone_timestamp TIMESTAMP NOT NULL"
  else
    "CREATE TABLE " ++ relname ++ "Index (systemId serial, PRIMARY KEY (systemId), recModelName VARCHAR NOT NULL, recViewName VARCHAR NOT NULL, updateCounter INTEGER NOT NULL, ratingTotal INTEGER NOT NULL, queryCounter INTEGER NOT NULL, updateRate REAL NOT NULL, queryRate REAL NOT NULL, levelone_timestamp TIMESTAMP NOT NULL"

/-- The index-table CREATE once every `addition` and the closing `");"` are appended. -/
def indexCreate (method : RecMethod) (relname : String) (attributes : List String) : String :=
  indexCreatePrefix method relname ++ String.join (attributes.map indexAddition) ++ ");"

/-- The buffers of the catalogue and properties statements. -/
def catalogueBuffers (recStmt : CreateRStmt) : List Buffer :=
  [⟨512, "CREATE TABLE IF NOT EXISTS RecModelsCatalogue (recommenderId serial, PRIMARY KEY (recommenderId), recommenderIndexName VARCHAR NOT NULL, userTable VARCHAR NOT NULL, itemTable VARCHAR NOT NULL, ratingTable VARCHAR NOT NULL, userKey VARCHAR NOT NULL, itemKey VARCHAR NOT NULL, ratingVal VARCHAR NOT NULL, method VARCHAR NOT NULL, contextattributes INTEGER NOT NULL);"⟩,
    ⟨1024, render (catalogueInsert recStmt recStmt.attributes.length)⟩,
    ⟨256, "CREATE TABLE RecathonProperties (update_threshold REAL NOT NULL, tail_length INTEGER NOT NULL, verbose_queries BOOLEAN NOT NULL);"⟩,
    ⟨64, "INSERT INTO RecathonProperties VALUES (0.5, 0, true);"⟩]

/-- The buffers `case T_CreateRStmt` writes before the builder runs. -/
def createBuffers (recStmt : CreateRStmt) (method : RecMethod) : List Buffer :=
  catalogueBuffers recStmt ++ ⟨1024, indexCreate method recStmt.relname recStmt.attributes⟩ ::
    recStmt.attributes.map fun a => ⟨64, indexAddition a⟩

/-- An `addition[64]` of the index-table CREATE fits exactly when the column name has at
most 44 bytes. -/
theorem indexAddition_fits_iff (colname : String) :
    (⟨64, indexAddition colname⟩ : Buffer).Fits ↔ byteLength colname.data ≤ 44 := by
  simp only [Buffer.Fits, byteLength_indexAddition]
  omega

/-- A context attribute of 45 bytes or more, which the parser admits, overflows its
`addition[64]` of the index-table CREATE; and a request that validates reaches that
CREATE from every realized state, its catalogue statements completing before it. -/
theorem long_attribute_overflows (recStmt : CreateRStmt) (method : RecMethod)
    (long : ∃ a ∈ recStmt.attributes, 45 ≤ byteLength a.data) :
    (∃ b ∈ createBuffers recStmt method, ¬ b.Fits) ∧
      ∀ {base : Db} {reg : Registry}, reg.WF base → validateCreateRStmt recStmt = .ok method →
        ∀ (clock : Nat → Timeval) (cursor : List (Tuple recStmt.attributes.length))
          (ratings : BackendCall → Int),
          createRStmt recStmt clock cursor ratings (reg.realize base) =
            runEvents (.exec (.createTable (recIndexName recStmt.relname)
                (indexColumns method recStmt.attributes)) ::
              createModels recStmt recStmt.attributes recStmt.attributes.length method clock cursor
                ratings)
              (((⟨true, reg.recommenders⟩ : Registry).realize base).modify "recmodelscatalogue"
                (·.addRow (catalogueRow recStmt recStmt.attributes.length))) := by
  obtain ⟨a, mem, long⟩ := long
  refine ⟨⟨⟨64, indexAddition a⟩, ?_, fun fits => absurd ((indexAddition_fits_iff a).1 fits) (by omega)⟩,
    fun wf valid => Registry.createRStmt_at_index wf valid⟩
  exact List.mem_append_right _ (List.mem_cons_of_mem _ (List.mem_map_of_mem _ mem))

/-- A context attribute of 45 bytes. -/
def wideStmt : CreateRStmt :=
  { sampleStmt "foo" with attributes := ["customer_home_region_recorded_at_registration"] }

theorem wide_attribute_overflows :
    Admitted wideStmt ∧ (∃ b ∈ createBuffers wideStmt .itemCosCF, ¬ b.Fits) ∧
      createRStmt wideStmt sampleClock [] (fun _ => 3) ((⟨false, []⟩ : Registry).realize ⟨[]⟩) =
        runEvents (.exec (.createTable (recIndexName wideStmt.relname)
            (indexColumns .itemCosCF wideStmt.attributes)) ::
          createModels wideStmt wideStmt.attributes wideStmt.attributes.length .itemCosCF sampleClock []
            (fun _ => 3))
          (((⟨true, []⟩ : Registry).realize ⟨[]⟩).modify "recmodelscatalogue"
            (·.addRow (catalogueRow wideStmt wideStmt.attributes.length))) :=
  have overflows :=
    long_attribute_overflows wideStmt .itemCosCF ⟨_, List.mem_singleton_self _, by decide⟩
  ⟨by decide, overflows.1, overflows.2 (Registry.WF.empty ⟨[]⟩ rfl rfl) rfl sampleClock [] (fun _ => 3)⟩

/-! ## When every buffer of the request fits -/

/-- The bytes the `addition`s of `attributes` append to the index-table CREATE. -/
def additionsLength : List String → Nat
  | [] => 0
  | a :: as => byteLength a.data + 19 + additionsLength as

theorem length_le_additionsLength (attributes : List String) :
    19 * attributes.length ≤ additionsLength attributes := by
  induction attributes with
  | nil => rfl
  | cons a as ih => simp only [additionsLength, List.length_cons]; omega

theorem data_foldl_append (l : List String) (acc : String) :
    (l.foldl (fun r s => r ++ s) acc).data = acc.data ++ (l.map String.data).flatten := by
  induction l generalizing acc with
  | nil => simp
  | cons s l ih => simp [ih, String.data_append]

theorem byteLength_additions (attributes : List String) :
    byteLength (String.join (attributes.map indexAddition)).data = additionsLength attributes := by
  rw [String.join, data_foldl_append]
  show byteLength ([] ++ _) = _
  rw [List.nil_append]
  induction attributes with
  | nil => rfl
  | cons a as ih =>
      simp only [List.map_cons, List.flatten_cons, byteLength_append, byteLength_indexAddition, ih,
        additionsLength]

theorem byteLength_indexCreatePrefix (method : RecMethod) (relname : String) :
    byteLength (indexCreatePrefix method relname).data =
      byteLength relname.data + if method = .SVD then 342 else 303 := by
  unfold indexCreatePrefix
  split <;>
  · rw [String.data_append, String.data_append, byteLength_append, byteLength_append,
      Nat.add_right_comm, Nat.add_comm]
    set_option maxRecDepth 2000 in rfl

theorem byteLength_indexCreate (method : RecMethod) (relname : String) (attributes : List String) :
    byteLength (indexCreate method relname attributes).data =
      byteLength relname.data + additionsLength attributes + if method = .SVD then 344 else 305 := by
  rw [indexCreate, String.data_append, String.data_append, byteLength_append, byteLength_append,
    byteLength_indexCreatePrefix, byteLength_additions]
  split <;> simp (disch := decide) only [byteLength_cons, byteLength_nil, utf8Size_ofNat_of_lt] <;>
    omega

theorem byteLength_numeral {cs : List Char} (numeral : ∀ c ∈ cs, IsNumeral c) :
    byteLength cs = cs.length := by
  induction cs with
  | nil => rfl
  | cons c cs ih =>
      simp only [byteLength_cons, List.length_cons,
        numeral_utf8Size (numeral c (List.mem_cons_self c cs)),
        ih fun d mem => numeral d (List.mem_cons_of_mem c mem)]
      omega

/-- With eight names of at most 63 bytes and an attribute count that is a C `int`, of at
most ten digits, the catalogue INSERT fits in its 1024 bytes. -/
theorem catalogueInsert_fits {recStmt : CreateRStmt} (admitted : Admitted recStmt) {numatts : Nat}
    (few : numatts < 2 ^ 31) : (⟨1024, render (catalogueInsert recStmt numatts)⟩ : Buffer).Fits := by
  have digits : byteLength (toString numatts).data ≤ 10 := by
    rw [byteLength_numeral fun c mem => mem_toString_nat mem]
    exact Nat.repr_length numatts 10 (by decide) (few.trans (by decide))
  have names := admitted.names
  simp only [List.mem_cons, List.mem_singleton, forall_eq_or_imp, forall_eq] at names
  simp (disch := decide) only [Buffer.Fits, catalogueInsert, fields, List.flatMap_cons,
    List.flatMap_nil, List.cons_append, List.nil_append, render, Piece.render, recIndexName,
    byteLength_data_append, byteLength_cons, byteLength_nil, utf8Size_ofNat_of_lt]
  omega

/-- The catalogue and properties buffers of an admitted request fit. -/
theorem catalogueBuffers_fit {recStmt : CreateRStmt} (admitted : Admitted recStmt)
    (few : recStmt.attributes.length < 2 ^ 31) : ∀ b ∈ catalogueBuffers recStmt, b.Fits := by
  intro b mem
  simp only [catalogueBuffers, List.mem_cons, List.mem_singleton, List.not_mem_nil, or_false] at mem
  rcases mem with rfl | rfl | rfl | rfl
  · set_option maxRecDepth 2000 in decide
  · exact catalogueInsert_fits admitted few
  · set_option maxRecDepth 2000 in decide
  · decide

theorem createBuffers_fit_iff (recStmt : CreateRStmt) (method : RecMethod) (admitted : Admitted recStmt) :
    (recStmt.attributes.length < 2 ^ 31 → ∀ b ∈ catalogueBuffers recStmt, b.Fits) ∧
      ((∀ b ∈ createBuffers recStmt method, b.Fits) ↔
        (∀ a ∈ recStmt.attributes, byteLength a.data ≤ 44) ∧
          byteLength recStmt.relname.data + additionsLength recStmt.attributes ≤
            if method = .SVD then 679 else 718) := by
  have create : (⟨1024, indexCreate method recStmt.relname recStmt.attributes⟩ : Buffer).Fits ↔
      byteLength recStmt.relname.data + additionsLength recStmt.attributes ≤
        if method = .SVD then 679 else 718 := by
    simp only [Buffer.Fits, byteLength_indexCreate]
    split <;> omega
  refine ⟨catalogueBuffers_fit admitted, fun fits => ⟨fun a mem => (indexAddition_fits_iff a).1
    (fits _ (List.mem_append_right _ (List.mem_cons_of_mem _ (List.mem_map_of_mem _ mem)))),
      create.1 (fits _ (by simp [createBuffers]))⟩, ?_⟩
  rintro ⟨narrow, room⟩ b mem
  have few : recStmt.attributes.length < 2 ^ 31 := by
    have := length_le_additionsLength recStmt.attributes
    split at room <;> omega
  simp only [createBuffers, List.mem_append, List.mem_cons, List.mem_map] at mem
  rcases mem with catalogue | rfl | ⟨a, mem, rfl⟩
  · exact catalogueBuffers_fit admitted few b catalogue
  · exact create.2 room
  · exact (indexAddition_fits_iff a).2 (narrow a mem)

/-- Twelve context attributes of 44 bytes each. -/
def manyStmt : CreateRStmt :=
  { sampleStmt "foo" with
    attributes := (List.range 12).map fun i => "context_attribute_of_the_customer_profile_" ++ toString (10 + i) }

theorem twelve_attributes_overflow :
    Admitted manyStmt ∧ (∀ b ∈ catalogueBuffers manyStmt, b.Fits) ∧
      (∀ a ∈ manyStmt.attributes, byteLength a.data ≤ 44) ∧
      ¬ ∀ b ∈ createBuffers manyStmt .itemCosCF, b.Fits :=
  have fit := createBuffers_fit_iff manyStmt .itemCosCF (by decide)
  ⟨by decide, fit.1 (by decide), by decide, fun fits => absurd (fit.2.1 fits).2 (by decide)⟩

end Recathon
