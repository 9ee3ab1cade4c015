import WasmHost.Proofs.Handle
import WasmHost.Proofs.Registry.Failure
import WasmHost.Proofs.Registry.Loading
import WasmHost.Proofs.Registry.Resolution
import WasmHost.Proofs.Strategy

/-! Selection: which strategies the declared modules have once their artifacts are registered. -/

namespace WasmHost.Registry

/-- Whether a request registers or removes an artifact by itself. -/
def Request.ManagesArtifacts : Request → Prop
  | .addArtifact .. | .removeArtifact _ => True
  | _ => False

/-- One registry follows another by a request of some kind. -/
def Serves (kind : Registry → Request → Prop) (r after : Registry) : Prop :=
  ∃ q, q.Known r ∧ kind r q ∧ after = (q.perform.on r).2

/-- What holds as long as artifacts only come from declarations. -/
structure Sound (r : Registry) : Prop where
  numbered : Numbered r.made
  /-- Only contexts that were made have slots. -/
  filled : ∀ id slot, r.slots.lookup id = some slot → id < r.made.length
  /-- The artifacts that were declared are registered. -/
  configured : ∀ name ∈ r.configured, r.artifacts.contains name

/-- Loading declared modules leaves their artifacts registered, also if it fails. -/
theorem Sound.init {r : Registry} (sound : Sound r) (files : Files) (entries : List Entry) :
    ∀ name ∈ ((Registry.init files entries).on r).2.configured,
      ((Registry.init files entries).on r).2.artifacts.contains name := by
  rcases outcome : (Registry.init files entries).on r with ⟨why | report, after⟩
  · -- After a failure, the tables are the ones from before.
    have same := (init_failsKeeping files entries r why after outcome).sameTables rfl rfl
    rw [same.configured, same.artifacts]
    exact sound.configured
  · have loaded := init_loaded outcome
    intro name declared
    rw [loaded.configured, List.mem_eraseDups] at declared
    exact (loaded.artifacts name).mpr (.inl declared)

/-- Every request keeps it that does not manage artifacts itself. -/
theorem Sound.perform {r : Registry} (sound : Sound r) {q : Request} (known : q.Known r)
    (other : ¬ q.ManagesArtifacts) : Sound (q.perform.on r).2 := by
  have within := Thread.perform_within q r
  have more := within.made.length_le
  refine ⟨within.numbered sound.numbered, fun id slot found => ?_, ?_⟩
  · cases q with
    | resolve files c =>
      -- The slot that is filled, if any, belongs to a context that was made.
      have slots := resolve_slots files c r
      rw [Request.perform, Operation.on_map] at found more ⊢
      rcases slots with same | filled
      · rw [same] at found
        exact Nat.lt_of_lt_of_le (sound.filled id slot found) more
      · rw [filled, lookup_cons_ite] at found
        split at found
        · rename_i same
          rw [same]
          exact Nat.lt_of_lt_of_le (sound.numbered.id_lt known) more
        · exact Nat.lt_of_lt_of_le (sound.filled id slot found) more
    | _ =>
      rw [within.slots rfl] at found
      exact Nat.lt_of_lt_of_le (sound.filled id slot found) more
  · cases q with
    | init files entries =>
      rw [Request.perform, Operation.on_map]
      exact sound.init files entries
    | addArtifact name artifact => exact absurd trivial other
    | removeArtifact name => exact absurd trivial other
    | _ =>
      rw [within.configured rfl, within.artifacts rfl]
      exact sound.configured

/-- It holds on new registries, with whatever artifacts they start, and so all along. -/
theorem sound_of_run {deployment : Deployment} {factory : Factory} {resources : Resources} {supplied : Artifacts}
    {r : Registry}
    (run : Relation.ReflTransGen (Serves fun _ q => ¬ q.ManagesArtifacts)
      { create deployment factory resources with artifacts := supplied } r) : Sound r := by
  -- Nothing is made, built or configured at the start.
  induction run with
  | refl => exact ⟨trivial, by simp [create], by simp [create]⟩
  | tail _ step ih =>
    obtain ⟨q, known, other, rfl⟩ := step
    exact ih.perform known other

/-! ### From the loading on -/

/-- What holds of a context as long as the artifacts stay as they were on a registry. -/
structure Lasting (r : Registry) (c : Context) (later : Registry) : Prop where
  numbered : Numbered later.made
  made : c ∈ later.made
  factory : later.factory = r.factory
  artifacts : later.artifacts = r.artifacts
  /-- If its slot is filled, then with what is built from these artifacts. -/
  built : later.slots.lookup c.id = none ∨ ∃ files,
    later.slots.lookup c.id = some (.ofAttempt (r.factory.build r.artifacts files c.hosted c.strategy).1)

/-- Every request keeps it that leaves the artifacts. -/
theorem Lasting.perform {r later : Registry} {c : Context} (lasting : Lasting r c later) {q : Request}
    (known : q.Known later) (same : (q.perform.on later).2.artifacts = later.artifacts) :
    Lasting r c (q.perform.on later).2 := by
  have within := Thread.perform_within q later
  refine ⟨within.numbered lasting.numbered, within.made.subset lasting.made,
    within.factory.trans lasting.factory, same.trans lasting.artifacts, ?_⟩
  cases q with
  | resolve files d =>
    have slots := resolve_slots files d later
    rw [Request.perform, Operation.on_map]
    rcases slots with same | filled
    · rw [same]
      exact lasting.built
    · rw [filled, lookup_cons_ite]
      split
      · -- The slot can only be that of the context itself.
        rename_i shared
        obtain rfl := lasting.numbered.eq_of_id_eq lasting.made known shared
        exact .inr ⟨files, by rw [lasting.factory, lasting.artifacts]⟩
      · exact lasting.built
  | _ =>
    rw [within.slots rfl]
    exact lasting.built

/-- Whoever resolves the context gets what is built from these artifacts. -/
theorem Lasting.resolve {r later : Registry} {c : Context} (lasting : Lasting r c later)
    (payload : c.hosted.payload.isSome) (files : Files) :
    ∃ files', (Slot.ofAttempt (r.factory.build r.artifacts files' c.hosted c.strategy).1).answer? c.name =
      some ((Registry.resolve files c).on later).1 := by
  cases settled : later.settled c with
  | some outcome =>
    -- The slot was filled before.
    rw [resolve_of_settled settled]
    rw [settled_of_payload payload, Registry.slot] at settled
    rcases lasting.built with empty | ⟨files', filled⟩
    · rw [empty] at settled
      cases settled
    · rw [filled] at settled
      exact ⟨files', settled⟩
  | none =>
    rw [resolve_of_unsettled settled, finishBuild_on]
    refine ⟨files, ?_⟩
    rw [← lasting.factory, ← lasting.artifacts]
    obtain ⟨answer, answers⟩ := Option.isSome_iff_exists.mp (Slot.answer?_ofAttempt c.name
      (later.factory.build later.artifacts files c.hosted c.strategy).1)
    simp only [answers, Option.getD_some]

/-- An attempt is answered with a fault of the configuration exactly if it failed with one. -/
theorem configError_of_answer? {attempt answer : Except HostError Handle} {name : String}
    (answers : (Slot.ofAttempt attempt).answer? name = some answer) :
    (∃ why, answer = .error why ∧ why.isConfigError) ↔ ∃ why, attempt = .error why ∧ why.isConfigError := by
  -- The answer is the attempt itself, or a failure that is judged by its cause.
  cases attempt with
  | ok handle =>
    cases answers
    simp
  | error cause =>
    cases answers
    simp [HostError.isConfigError]

/-- A resolution fails for its configuration exactly if the artifact that it needs is missing and nothing else is
allowed. -/
theorem Lasting.configError_iff {r later : Registry} {c : Context} (lasting : Lasting r c later)
    (payload : c.hosted.payload.isSome) (files : Files) :
    (∃ why, ((Registry.resolve files c).on later).1 = .error why ∧ why.isConfigError) ↔
      c.strategy.backend = .precompiled ∧ r.artifacts.contains c.name = false ∧
        c.hosted.intent.fallback.isAllowed = false := by
  obtain ⟨files', answers⟩ := lasting.resolve payload files
  rw [configError_of_answer? answers]
  constructor
  · rintro ⟨why, failed, config⟩
    refine Classical.byContradiction fun impossible => ?_
    -- Either the artifact is there, or it is not needed, or the interpreter steps in.
    have technical : Unconfigured (r.factory.build r.artifacts files' c.hosted c.strategy).1 := by
      refine r.factory.build_unconfigured r.artifacts files' payload fun prebuilt => ?_
      by_cases present : r.artifacts.contains c.name
      · exact .inl present
      · refine .inr (Classical.byContradiction fun strict => impossible ⟨prebuilt, ?_, ?_⟩)
        · simpa using present
        · simpa using strict
    rw [technical why failed] at config
    cases config
  · rintro ⟨prebuilt, missing, strict⟩
    exact ⟨_, r.factory.build_missing files' payload prebuilt missing strict, rfl⟩

/-- A name loses its artifact if an earlier configuration supplied it and this one does not. -/
def Retired (r : Registry) (entries : List Entry) (name : String) : Prop :=
  name ∈ r.configured ∧ ∀ entry ∈ entries, entry.name = name → entry.artifact = none

/-- Strategies are selected as if artifacts were still there that are about to be retired. -/
theorem Loaded.contains_or_retired {r after : Registry} {entries : List Entry} (loaded : Loaded r entries after)
    (sound : Sound r) (name : String) :
    ((r.artifacts.insertFiles (declared entries)).contains name ↔
      after.artifacts.contains name ∨ Retired r entries name) ∧
    ¬(after.artifacts.contains name ∧ Retired r entries name) := by
  have undeclared : (∀ entry ∈ entries, entry.name = name → entry.artifact = none) ↔
      name ∉ (declared entries).map (·.1) := by
    rw [mem_declared]
    constructor
    · rintro none ⟨entry, member, named, supplied⟩
      rw [none entry member named] at supplied
      cases supplied
    · intro none entry member named
      exact Option.not_isSome_iff_eq_none.mp fun supplied => none ⟨entry, member, named, supplied⟩
  rw [Artifacts.contains_insertFiles, loaded.artifacts, Retired, undeclared]
  -- What was declared before is in view, and stays only if it is declared again.
  have configured := sound.configured name
  by_cases here : name ∈ (declared entries).map (·.1)
  · simp [here]
  · by_cases before : name ∈ r.configured
    · simp [here, before, configured before]
    · simp [here, before]

/-- Nothing is built yet for a context that has just been loaded. -/
theorem Loaded.lasting {r after : Registry} {entries : List Entry} (loaded : Loaded r entries after)
    (sound : Sound r) {name : String} {c : Context} (registered : after.get? name = some c) :
    Lasting after c after := by
  obtain ⟨_, made, chosen⟩ := loaded.chosen name c registered
  refine ⟨loaded.within.numbered sound.numbered, made, rfl, rfl, .inl ?_⟩
  rw [loaded.within.slots rfl]
  -- The slots that are filled belong to older contexts.
  refine Option.eq_none_iff_forall_ne_some.mpr fun slot found => ?_
  have older := sound.filled _ _ found
  have newer := chosen.fresh
  omega

/-- What lasts, lasts as long as the artifacts stay. -/
theorem Lasting.path {r middle later : Registry} {c : Context} (lasting : Lasting r c middle)
    (path : Relation.ReflTransGen (Serves fun r q => (q.perform.on r).2.artifacts = r.artifacts) middle later) :
    Lasting r c later := by
  induction path with
  | refl => exact lasting
  | tail _ step ih =>
    obtain ⟨q, known, same, rfl⟩ := step
    exact ih.perform known same

/-- As long as artifacts only come from declarations, a declared module has the strategy that is selected with the
artifacts that are registered in the end, unless it was to use an artifact that is retired with this very
configuration. Then, and only then, is its artifact missing; and if nothing else is allowed, resolving it fails for
its configuration until artifacts change, which no other static module does. -/
theorem selected_unless_retired {deployment : Deployment} {factory : Factory} {resources : Resources}
    {supplied : Artifacts} {r after : Registry} {files : Files} {entries : List Entry} {report : Report}
    (run : Relation.ReflTransGen (Serves fun _ q => ¬ q.ManagesArtifacts)
      { create deployment factory resources with artifacts := supplied } r)
    (done : (Registry.init files entries).on r = (.ok report, after)) {name : String} {c : Context}
    (registered : after.get? name = some c) :
    ((Strategy.select after.deployment (after.artifacts.contains name) name c.origin c.hosted.intent).1 =
        .ok c.strategy ↔ ¬(Retired r entries name ∧ c.strategy.backend = .precompiled)) ∧
      (c.strategy.backend = .precompiled → (after.artifacts.contains name ↔ ¬ Retired r entries name)) ∧
      (c.origin = .static → ∀ later,
        Relation.ReflTransGen (Serves fun r q => (q.perform.on r).2.artifacts = r.artifacts) after later →
        ∀ files, (∃ why, ((Registry.resolve files c).on later).1 = .error why ∧ why.isConfigError) ↔
          Retired r entries name ∧ c.strategy.backend = .precompiled ∧
            c.hosted.intent.fallback.isAllowed = false) := by
  have sound := sound_of_run run
  have loaded := init_loaded done
  obtain ⟨rfl, _, chosen⟩ := loaded.chosen name c registered
  obtain ⟨seen, exclusive⟩ := loaded.contains_or_retired sound c.name
  have selected := chosen.selected
  rw [← loaded.within.deployment] at selected
  -- A strategy that uses an artifact has seen one, either for good or to be retired.
  have supplied : c.strategy.backend = .precompiled → after.artifacts.contains c.name ∨ Retired r entries c.name :=
    fun prebuilt => seen.mp ((Strategy.select_fewer selected id).mp selected prebuilt)
  refine ⟨?_, fun prebuilt => ?_, fun static later path files => ?_⟩
  · rw [Strategy.select_fewer selected fun present => seen.mpr (.inl present)]
    constructor
    · rintro present ⟨retired, prebuilt⟩
      exact exclusive ⟨present prebuilt, retired⟩
    · intro kept prebuilt
      exact (supplied prebuilt).resolve_right fun retired => kept ⟨retired, prebuilt⟩
  · exact ⟨fun present retired => exclusive ⟨present, retired⟩, (supplied prebuilt).resolve_right⟩
  · have lasting : Lasting after c later := (loaded.lasting sound registered).path path
    rw [lasting.configError_iff (chosen.supplied static) files]
    constructor
    · rintro ⟨prebuilt, missing, strict⟩
      refine ⟨(supplied prebuilt).resolve_left ?_, prebuilt, strict⟩
      simp [missing]
    · rintro ⟨retired, prebuilt, strict⟩
      refine ⟨prebuilt, ?_, strict⟩
      simpa using fun present => exclusive ⟨present, retired⟩

/-- A resource with the smallest payload. -/
def smallestResource : Resources := Resources.empty.insert "a.wasm" Payload.smallest

/-- A host that serves static modules of that resource. -/
def smallestHost : Registry := create .prodJit .standard smallestResource

/-- A declaration of the module, perhaps with an artifact. -/
def smallestEntry (fallback : Fallback) (artifact : Option Path) : Entry :=
  { Entry.ofResource "a" "a.wasm" with fallback := fallback, artifact := artifact }

/-- The artifact of the first configuration is still in view when the strategy is selected for the second one,
which retires it. -/
theorem retired_artifact_selected :
    ∃ (first second : Registry) (c : Context),
      (Registry.init .empty [smallestEntry .standard (some "a.cwasm")]).on smallestHost = (.ok ⟨["a"], []⟩, first) ∧
      (Registry.init .empty [smallestEntry .standard none]).on first = (.ok ⟨["a"], []⟩, second) ∧
      second.get? "a" = some c ∧ c.strategy = .precompiled ∧ second.artifacts.contains "a" = false ∧
      (Strategy.select second.deployment (second.artifacts.contains "a") "a" c.origin c.hosted.intent).1 =
        .ok .compileNow := by
  obtain ⟨code, parsed⟩ := Payload.exists_code_of_smallest
  have embedded : smallestResource.embedded.lookup "a.wasm" = some Payload.smallest := rfl
  have module := Resources.moduleOfEntry_resource embedded (by decide) parsed .empty "a" .standard
  exact ⟨_, _, _, init_singleton (module (some "a.cwasm")) rfl, init_singleton (module none) rfl, rfl, rfl, rfl, rfl⟩

/-- Where nothing else is allowed, a static module that has just been loaded cannot be resolved for its configuration. -/
theorem retired_artifact_missed :
    ∃ (first second : Registry) (c : Context),
      (Registry.init .empty [smallestEntry .fail (some "a.cwasm")]).on smallestHost = (.ok ⟨["a"], []⟩, first) ∧
      (Registry.init .empty [smallestEntry .fail none]).on first = (.ok ⟨["a"], []⟩, second) ∧
      second.get? "a" = some c ∧ c.origin = .static ∧
      ∃ why, ((Registry.resolve .empty c).on second).1 = .error why ∧ why.isConfigError := by
  obtain ⟨code, parsed⟩ := Payload.exists_code_of_smallest
  have embedded : smallestResource.embedded.lookup "a.wasm" = some Payload.smallest := rfl
  have module := Resources.moduleOfEntry_resource embedded (by decide) parsed .empty "a" .fail
  let m : HostedModule :=
    ⟨"a", .static, some ⟨Payload.smallest, code, parsed⟩, some (.resource "a.wasm"), ⟨none, .fail, []⟩⟩
  let first : Registry :=
    { smallestHost with
      artifacts := Artifacts.empty.insert "a" (.file "a.cwasm")
      configured := ["a"]
      catalog := Catalog.empty.insert ⟨0, m, .precompiled⟩
      made := [⟨0, m, .precompiled⟩] }
  let second : Registry :=
    { first with
      artifacts := .empty
      configured := []
      catalog := Catalog.empty.insert ⟨1, m, .precompiled⟩
      made := [⟨1, m, .precompiled⟩, ⟨0, m, .precompiled⟩] }
  -- The first loading brings an artifact, the second one does not, and yet selects for the artifact that is there.
  have start : (Registry.init .empty [smallestEntry .fail (some "a.cwasm")]).on smallestHost =
      (.ok ⟨["a"], []⟩, first) := by
    have single : (Registry.init _ [smallestEntry .fail (some "a.cwasm")]).on smallestHost = _ :=
      init_singleton (module (some "a.cwasm")) rfl
    exact single
  have again : (Registry.init .empty [smallestEntry .fail none]).on first = (.ok ⟨["a"], []⟩, second) := by
    have single : (Registry.init _ [smallestEntry .fail none]).on first = _ := init_singleton (module none) rfl
    exact single
  have run : Relation.ReflTransGen (Serves fun _ q => ¬ q.ManagesArtifacts)
      { create .prodJit .standard smallestResource with artifacts := .empty } first := by
    refine .single ⟨.init .empty [smallestEntry .fail (some "a.cwasm")], trivial, id, ?_⟩
    rw [Request.perform, Operation.on_map]
    exact congrArg Prod.snd start.symm
  have retired : Retired first [smallestEntry .fail none] "a" :=
    ⟨List.mem_cons_self, by simp [smallestEntry]⟩
  have registered : second.get? "a" = some ⟨1, m, .precompiled⟩ := rfl
  obtain ⟨_, _, resolved⟩ := selected_unless_retired run again registered
  exact ⟨first, second, _, start, again, registered, rfl, (resolved rfl second .refl .empty).mpr ⟨retired, rfl, rfl⟩⟩

end WasmHost.Registry
