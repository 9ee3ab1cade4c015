import WasmHost.Proofs.Registry.Footprint
import WasmHost.Proofs.Registry.Making
import WasmHost.Proofs.Registry.Tables

/-! Loading: what becomes of the declared modules and their artifacts. -/

namespace WasmHost.Registry

/-- The declared artifacts with the names of their modules. -/
def declared (entries : List Entry) : List (String × Path) :=
  entries.filterMap fun entry => entry.artifact.map fun path => (entry.name, path)

theorem mem_declared {entries : List Entry} {name : String} :
    name ∈ (declared entries).map (·.1) ↔ ∃ entry ∈ entries, entry.name = name ∧ entry.artifact.isSome := by
  simp only [declared, List.mem_map, List.mem_filterMap, Option.map_eq_some_iff, Option.isSome_iff_exists]
  constructor
  · rintro ⟨pair, ⟨entry, member, path, supplied, rfl⟩, rfl⟩
    exact ⟨entry, member, rfl, path, supplied⟩
  · rintro ⟨entry, member, rfl, path, supplied⟩
    exact ⟨_, ⟨entry, member, path, supplied, rfl⟩, rfl⟩

/-- The path that is declared for the artifact of a name; the last declaration counts. -/
def declaredPath? (entries : List Entry) (name : String) : Option Path := (declared entries).reverse.lookup name

theorem isSome_declaredPath? {entries : List Entry} {name : String} :
    (declaredPath? entries name).isSome ↔ name ∈ (declared entries).map (·.1) :=
  isSome_lookup_reverse _ name

/-- A context that was made on a registry or later, with some artifacts in view. -/
structure Chosen (r : Registry) (view : Artifacts) (c : Context) : Prop where
  /-- It is new. -/
  fresh : r.made.length ≤ c.id
  /-- Its strategy is the one that is selected for its module. -/
  selected : (Strategy.select r.deployment (view.contains c.name) c.name c.origin c.hosted.intent).1 =
    .ok c.strategy
  /-- It has a payload if it is static. -/
  supplied : c.origin = .static → c.hosted.payload.isSome

/-- What holds of the modules that are ready while more are made ready. -/
structure Staging (r : Registry) (view : Artifacts) (files : List (String × Path)) (staged : Staged)
    (now : Registry) : Prop where
  /-- Only contexts were made. -/
  quiet : Within .quiet r now
  /-- The artifacts are still to come. -/
  pending : staged.artifacts = files
  /-- Each context stands under its name and was chosen for its module. -/
  chosen : ∀ name c, staged.catalog.get? name = some c → c.name = name ∧ c ∈ now.made ∧ Chosen r view c

/-- One more module is made ready. -/
theorem Staging.next {r now after : Registry} {view : Artifacts} {pending : List (String × Path)}
    {staged next : Staged} (staging : Staging r view pending staged now) {files : Files} {entry : Entry}
    (made : (stageEntry files view staged entry).on now = (.ok next, after)) :
    Staging r view pending next after := by
  have quiet : Within .quiet now after := (stageEntry_within files view staged entry).of_on made
  have all := trans_of (Within .quiet) staging.quiet quiet
  obtain ⟨_, _, ⟨⟩, made⟩ := Operation.on_bind_eq_ok made
  split at made
  · -- A valid module becomes a context that takes its name.
    rename_i m loaded
    obtain ⟨c, last, outcome, made⟩ := Operation.on_bind_eq_ok made
    cases made
    obtain ⟨id, rfl, new, selected⟩ := contextWith_eq_ok outcome
    obtain ⟨named, supplied⟩ := Resources.moduleOfEntry_eq_ok loaded
    refine ⟨all, staging.pending, fun name d found => ?_⟩
    rw [Catalog.get?_insert] at found
    split at found
    · rename_i same
      cases found
      refine ⟨same.symm, new, ?_, ?_, supplied⟩
      · rw [id]
        exact staging.quiet.made.length_le
      · rw [← staging.quiet.deployment]
        exact selected
    · obtain ⟨same, before, chosen⟩ := staging.chosen name d found
      exact ⟨same, quiet.made.subset before, chosen⟩
  · -- An invalid payload leaves what is ready.
    cases made
    exact ⟨all, staging.pending, staging.chosen⟩
  · cases made

/-- After the first step of loading, every context that is ready was chosen with the declared artifacts in view,
and with those that were registered before. -/
theorem stage_staging {r middle : Registry} {files : Files} {entries : List Entry} {ready : Staged}
    (staged : (stage files entries).on r = (.ok ready, middle)) :
    Staging r (r.artifacts.insertFiles (declared entries)) (declared entries) ready middle := by
  -- Nothing is ready at the start.
  have start : Staging r (r.artifacts.insertFiles (declared entries)) (declared entries)
      ⟨declared entries, .empty, ⟨[], []⟩⟩ r := by
    refine ⟨refl_of (Within .quiet) r, rfl, fun name c found => ?_⟩
    rw [Catalog.get?_empty] at found
    cases found
  simp only [stage, Operation.on_bind, Operation.on_get] at staged
  exact Operation.foldlM_invariant (Staging r _ (declared entries)) (fun staging made => staging.next made) start staged

/-- After the second step, a name has the artifact that is declared now, or else the one that it had, unless it was
declared before. -/
theorem publish_get? (files : List (String × Path)) (r : Registry) (name : String) :
    ((publish files).on r).2.artifacts.get? name =
      ((files.reverse.lookup name).map .file).or (if name ∈ r.configured then none else r.artifacts.get? name) := by
  simp only [publish, Operation.on_modify, Artifacts.get?_insertFiles, Artifacts.get?_foldl_erase]
  cases found : files.reverse.lookup name with
  | some path => rfl
  | none =>
    -- A name is only taken out if it is not declared again.
    have undeclared : name ∉ files.map (·.1) := by
      rw [← isSome_lookup_reverse, found]
      simp
    simp [undeclared]

/-- After the second step, artifacts are registered that are declared now or that were not declared before. -/
theorem publish_contains (files : List (String × Path)) (r : Registry) (name : String) :
    ((publish files).on r).2.artifacts.contains name ↔
      name ∈ files.map (·.1) ∨ name ∉ r.configured ∧ r.artifacts.contains name := by
  rw [Artifacts.contains_of_get? (publish_get? files r name), isSome_lookup_reverse]

/-- What a successful loading of declared modules leaves behind. -/
structure Loaded (r : Registry) (entries : List Entry) (after : Registry) : Prop where
  /-- Nothing was built. -/
  within : Within ⟨true, true, false⟩ r after
  /-- The declared artifacts are known as such. -/
  configured : after.configured = ((declared entries).map (·.1)).eraseDups
  /-- They are registered, and of the others those that were not declared before. -/
  supplied : ∀ name, after.artifacts.get? name =
    ((declaredPath? entries name).map .file).or (if name ∈ r.configured then none else r.artifacts.get? name)
  /-- Each context was chosen with the declared artifacts in view, and with all that were registered before. -/
  chosen : ∀ name c, after.get? name = some c →
    c.name = name ∧ c ∈ after.made ∧ Chosen r (r.artifacts.insertFiles (declared entries)) c

theorem init_loaded {r after : Registry} {files : Files} {entries : List Entry} {report : Report}
    (done : (Registry.init files entries).on r = (.ok report, after)) : Loaded r entries after := by
  have within : Within ⟨true, true, false⟩ r after := (init_within rfl rfl files entries).of_on done
  obtain ⟨ready, middle, staged, done⟩ := Operation.on_bind_eq_ok done
  obtain ⟨quiet, pending, chosen⟩ := stage_staging staged
  -- The first step left the artifacts to the second one.
  have published : ∀ name, ((publish ready.artifacts).on middle).2.artifacts.get? name =
      ((declaredPath? entries name).map .file).or (if name ∈ r.configured then none else r.artifacts.get? name) :=
    fun name => by rw [publish_get?, pending, quiet.configured rfl, quiet.artifacts rfl, declaredPath?]
  cases done
  exact ⟨within, by rw [← pending], published, chosen⟩

/-- After loading, artifacts are registered that are declared now or that were not declared before. -/
theorem Loaded.artifacts {r after : Registry} {entries : List Entry} (loaded : Loaded r entries after) (name : String) :
    after.artifacts.contains name ↔
      name ∈ (declared entries).map (·.1) ∨ name ∉ r.configured ∧ r.artifacts.contains name := by
  rw [Artifacts.contains_of_get? (loaded.supplied name), isSome_declaredPath?]

/-- A single module is made ready. -/
theorem stage_singleton {r : Registry} {files : Files} {entry : Entry} {m : HostedModule} {strategy : Strategy}
    {warnings : List Warning} (loaded : r.resources.moduleOfEntry files entry = .ok m)
    (selected : Strategy.select r.deployment ((r.artifacts.insertFiles (declared [entry])).contains m.name) m.name
      m.origin m.intent = (.ok strategy, warnings)) :
    (stage files [entry]).on r =
      (.ok ⟨declared [entry], Catalog.empty.insert ⟨r.made.length, m, strategy⟩, ⟨[entry.name], []⟩⟩,
        { r with
          made := ⟨r.made.length, m, strategy⟩ :: r.made
          warnings := warnings.reverse ++ r.warnings }) := by
  -- One entry is staged on a stage where nothing is ready.
  have single : (stageEntry files (r.artifacts.insertFiles (declared [entry]))
      ⟨declared [entry], .empty, ⟨[], []⟩⟩ entry).on r =
        (.ok ⟨declared [entry], Catalog.empty.insert ⟨r.made.length, m, strategy⟩, ⟨[entry.name], []⟩⟩,
          { r with
            made := ⟨r.made.length, m, strategy⟩ :: r.made
            warnings := warnings.reverse ++ r.warnings }) := by
    simp only [stageEntry, Operation.on_bind, Operation.on_get, loaded, contextWith_on, selected, Operation.on_pure]
    rfl
  rw [← single]
  simp only [stage, List.foldlM_cons, List.foldlM_nil, bind_pure, Operation.on_bind, Operation.on_get]
  rfl

/-- What is ready takes the place of all that was registered. -/
theorem init_on {r middle : Registry} {files : Files} {entries : List Entry} {ready : Staged}
    (staged : (stage files entries).on r = (.ok ready, middle)) :
    (Registry.init files entries).on r =
      (.ok ready.report, { ((publish ready.artifacts).on middle).2 with catalog := ready.catalog }) := by
  simp only [Registry.init, Operation.on_bind, staged, Operation.on_pure]
  rfl

/-- Loading a single module. -/
theorem init_singleton {r : Registry} {files : Files} {entry : Entry} {m : HostedModule} {strategy : Strategy}
    {warnings : List Warning} (loaded : r.resources.moduleOfEntry files entry = .ok m)
    (selected : Strategy.select r.deployment ((r.artifacts.insertFiles (declared [entry])).contains m.name) m.name
      m.origin m.intent = (.ok strategy, warnings)) :
    (Registry.init files [entry]).on r =
      (.ok ⟨[entry.name], []⟩,
        ((publish (declared [entry])).on
          { r with
            catalog := Catalog.empty.insert ⟨r.made.length, m, strategy⟩
            made := ⟨r.made.length, m, strategy⟩ :: r.made
            warnings := warnings.reverse ++ r.warnings }).2) :=
  init_on (stage_singleton loaded selected)

end WasmHost.Registry
