import Recathon.Store.IndexTable
import Recathon.Text.Digits

/-!
# Recathon.Store.Names — two cells of one build under one name

A cell's relations are named `<relname>Model<sec><usec>` (or `UserModel`, `ItemModel`)
and `<relname>View<sec><usec>`, and the engine reads each name as `ident` of it, folded
to lower case and cut at 63 bytes. Cells of one recommender differ only in the
`%ld%ld` suffix, and two things make it fail to tell them apart:

* it is not zero-padded, so the reading `(s, 10·d + e)` and the later reading
  `(10·s + d, e)` print the same digits (`Timeval.suffix_split`);
* a relname of 59 characters or more leaves it no room in the view name
  (`ident_recViewName_of_long`).

The engine refuses to create a relation that exists, so such a build does not end with
two cells sharing a table: it fails (`build_fails_on_shared_name`). For the same reason a
build under the name of a live recommender fails (`build_fails_on_live_name`). The argument is the
store's own: a completed build leaves a well-formed registry (`createRStmt_realize`),
and in one the cells of a recommender own disjoint names (`WF.cellKeys_pairwise`).
-/

namespace Recathon

set_option autoImplicit false

/-- The suffix of `(s, 10·d + e)` is that of the later reading `(10·s + d, e)`. -/
theorem Timeval.suffix_split (s : Nat) {d e : Nat} (pos : 0 < s) (lead : 0 < d) (digit : d < 10)
    (last : e < 10) :
    (⟨(s : Int), 10 * d + e, by omega⟩ : Timeval).suffix =
      (⟨((10 * s + d : Nat) : Int), e, by omega⟩ : Timeval).suffix := by
  show Nat.repr s ++ Nat.repr (10 * d + e) = Nat.repr (10 * s + d) ++ Nat.repr e
  rw [repr_ten_mul_add lead last, repr_ten_mul_add pos digit, String.append_assoc]

theorem suffix_one_twentythree :
    (⟨1, 23, by decide⟩ : Timeval).suffix = (⟨12, 3, by decide⟩ : Timeval).suffix :=
  @Timeval.suffix_split 1 2 3 (by decide) (by decide) (by decide) (by decide)

/-- Every cell owns its view. -/
theorem Family.view_mem_cellKeys (F : Family) (recStmt : CreateRStmt) (ts : Timeval) :
    ident (recViewName recStmt.relname ts) ∈ F.cellKeys recStmt ts := by
  simp [Family.cellKeys]

/-- A relname of 59 characters or more leaves no room for the suffix in a view name. -/
theorem ident_recViewName_of_long {relname : String} (long : 59 ≤ relname.length)
    (ts : Timeval) : ident (recViewName relname ts) = ident (relname ++ "View") := by
  have fills : 63 ≤ byteLength (lower (relname ++ "View")).data := by
    refine le_trans ?_ (length_le_byteLength _)
    simp only [lower_data, List.length_map, String.data_append, List.length_append]
    simpa using Nat.add_le_add_right long 4
  simp only [ident, recViewName, lower_append (relname ++ "View"), String.data_append,
    clip_append_of_le _ fills]

namespace Registry

variable {base : Db}

/-- In a well-formed registry the cells of one recommender own disjoint names. -/
theorem WF.cellKeys_pairwise {reg : Registry} (wf : reg.WF base) {r : Recommender}
    (mem : r ∈ reg.recommenders) :
    r.cells.Pairwise fun c c' => List.Disjoint (r.family.cellKeys r.recStmt c.timestamp)
      (r.family.cellKeys r.recStmt c'.timestamp) := by
  have recs : (keysOf (reg.recommenders.flatMap Recommender.tables)).Nodup :=
    wf.nodup.sublist (by simp only [own, keysOf_append]; exact List.sublist_append_right _ _)
  rw [keysOf_flatMap] at recs
  have owned := (List.nodup_flatMap.1 recs).1 r mem
  simp only [Recommender.tables, keysOf_cons, keysOf_flatMap, Recommender.cellTables,
    Family.keysOf_cellTables, List.nodup_cons] at owned
  exact (List.nodup_flatMap.1 owned.2).2

/-- A build in which cells `i < j` would name their views alike fails. -/
theorem build_fails_on_shared_name {reg : Registry} (wf : reg.WF base) (recStmt : CreateRStmt)
    (clock : Nat → Timeval) (cursor : List (Tuple recStmt.attributes.length))
    (ratings : BackendCall → Int) {i j : Nat} (lt : i < j)
    (within : j < (contextCells _ cursor).length)
    (shared : ident (recViewName recStmt.relname (clock i)) =
      ident (recViewName recStmt.relname (clock j))) :
    ∃ err, createRStmt recStmt clock cursor ratings (reg.realize base) = .error err := by
  cases built : createRStmt recStmt clock cursor ratings (reg.realize base) with
  | error err => exact ⟨err, rfl⟩
  | ok db' =>
      obtain ⟨method, -, -, wf'⟩ := createRStmt_realize wf recStmt clock cursor ratings built
      have apart := List.pairwise_iff_getElem.1
        (wf'.cellKeys_pairwise (List.mem_append_right _ (List.mem_singleton_self _))) i j
        (by simpa [Family.cellRecs_eq_enumFrom] using lt.trans within)
        (by simpa [Family.cellRecs_eq_enumFrom] using within) lt
      simp only [Family.cellRecs_eq_enumFrom, List.getElem_map, List.getElem_enumFrom,
        Nat.zero_add, Family.cellRec] at apart
      exact (apart (Family.view_mem_cellKeys _ _ _)
        (shared ▸ Family.view_mem_cellKeys _ _ _)).elim

theorem build_fails_on_repeated_suffix {reg : Registry} (wf : reg.WF base) (recStmt : CreateRStmt)
    (clock : Nat → Timeval) (cursor : List (Tuple recStmt.attributes.length))
    (ratings : BackendCall → Int) {i j : Nat} (lt : i < j)
    (within : j < (contextCells _ cursor).length) (same : (clock i).suffix = (clock j).suffix) :
    ∃ err, createRStmt recStmt clock cursor ratings (reg.realize base) = .error err :=
  build_fails_on_shared_name wf recStmt clock cursor ratings lt within (by rw [recViewName, same]; rfl)

theorem long_relname_build_fails {reg : Registry} (wf : reg.WF base) (recStmt : CreateRStmt)
    (clock : Nat → Timeval) (cursor : List (Tuple recStmt.attributes.length))
    (ratings : BackendCall → Int) (long : 59 ≤ recStmt.relname.length)
    (two : 2 ≤ (contextCells _ cursor).length) :
    ∃ err, createRStmt recStmt clock cursor ratings (reg.realize base) = .error err :=
  build_fails_on_shared_name wf recStmt clock cursor ratings Nat.zero_lt_one two
    (by rw [ident_recViewName_of_long long, ident_recViewName_of_long long])

/-- In a well-formed registry no two recommenders share an index table. -/
theorem WF.indexKeys_nodup {reg : Registry} (wf : reg.WF base) :
    (reg.recommenders.map Recommender.indexKey).Nodup :=
  wf.nodup.sublist ((indexKeys_sublist _).trans
    (by simp only [own, keysOf_append]; exact List.sublist_append_right _ _))

/-- A build whose index table folds to the name of a live recommender's fails: the
`CREATE TABLE <relname>Index` finds the relation there. -/
theorem build_fails_on_live_name {reg : Registry} (wf : reg.WF base) (recStmt : CreateRStmt)
    (clock : Nat → Timeval) (cursor : List (Tuple recStmt.attributes.length))
    (ratings : BackendCall → Int) {r : Recommender} (live : r ∈ reg.recommenders)
    (same : ident (recIndexName recStmt.relname) = r.indexKey) :
    ∃ err, createRStmt recStmt clock cursor ratings (reg.realize base) = .error err := by
  cases built : createRStmt recStmt clock cursor ratings (reg.realize base) with
  | error err => exact ⟨err, rfl⟩
  | ok db' =>
      obtain ⟨method, -, -, wf'⟩ := createRStmt_realize wf recStmt clock cursor ratings built
      have keys := wf'.indexKeys_nodup
      simp only [List.map_append, List.map_singleton, List.nodup_append] at keys
      exact (keys.2.2 (List.mem_map_of_mem _ live) (List.mem_singleton.2 same.symm)).elim

/-- The store after the build of `foo` over an empty database. -/
def fooRegistry : Registry := ⟨true, [⟨sampleStmt "foo", .itemCosCF, [⟨sampleClock 0, [], 3⟩]⟩]⟩

theorem rebuild_as_Foo_fails :
    ∃ err, createRStmt (sampleStmt "Foo") sampleClock [] (fun _ => 3) (fooRegistry.realize ⟨[]⟩) =
      .error err :=
  build_fails_on_live_name
    (⟨fun _ => rfl, rfl, rfl, by decide, fun _ _ => rfl, by decide⟩ : fooRegistry.WF ⟨[]⟩)
    (sampleStmt "Foo") sampleClock [] (fun _ => 3) (List.mem_singleton_self _) (by decide)

/-- A 59-character recommender over two cities. -/
def longStmt : CreateRStmt :=
  { cityStmt with relname := "recommender_of_items_by_city_for_every_user_of_the_database" }

theorem long_city_recommender_fails :
    59 ≤ longStmt.relname.length ∧
      ∃ err, createRStmt longStmt sampleClock cityCursor (fun _ => 3) ⟨[]⟩ = .error err :=
  ⟨by decide, long_relname_build_fails (WF.empty ⟨[]⟩ rfl rfl) longStmt sampleClock cityCursor
    (fun _ => 3) (by decide) (by decide)⟩

/-- Two readings almost eleven seconds apart that print the same suffix. -/
def splitClock : Nat → Timeval
  | 0 => ⟨1, 23, by decide⟩
  | _ => ⟨12, 3, by decide⟩

theorem split_readings_fail :
    (splitClock 0).suffix = (splitClock 1).suffix ∧
      ∃ err, createRStmt cityStmt splitClock cityCursor (fun _ => 3) ⟨[]⟩ = .error err :=
  ⟨by decide, build_fails_on_repeated_suffix (WF.empty ⟨[]⟩ rfl rfl) cityStmt splitClock cityCursor
    (fun _ => 3) (by decide : 0 < 1) (by decide) (by decide)⟩

end Registry

end Recathon
