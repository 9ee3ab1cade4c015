import WasmHost.Proofs.Registry.Loading
import WasmHost.Proofs.Registry.Resolution
import WasmHost.Proofs.Registry.Roster

/-! Tidy registries: what holds of every context from the moment it is made, and where contexts and handles are
kept, at every stage of every request. -/

namespace WasmHost

namespace Registry

/-- What may be said of the contexts in a deployment. -/
abbrev Trait := Deployment → Context → Prop

/-- Whatever strategy is selected for a module, its context has a trait. -/
def Fits (trait : Trait) (m : HostedModule) : Prop :=
  ∀ deployment hasArtifact id strategy,
    (Strategy.select deployment hasArtifact m.name m.origin m.intent).1 = .ok strategy →
      trait deployment ⟨id, m, strategy⟩

/-! ### New contexts -/

/-- All contexts that were made on the way have a trait. -/
structure Makes (trait : Trait) (before after : Registry) : Prop where
  deployment : after.deployment = before.deployment
  made : ∀ c ∈ after.made, c ∈ before.made ∨ trait before.deployment c

variable {trait : Trait}

theorem Makes.of_made_eq {before after : Registry} (deployment : after.deployment = before.deployment)
    (made : after.made = before.made) : Makes trait before after :=
  ⟨deployment, fun _ member => .inl (made ▸ member)⟩

instance : IsPreorder Registry (Makes trait) where
  refl _ := .of_made_eq rfl rfl
  trans r middle after first last := by
    -- The deployment, which the trait may depend on, is the same all the time.
    refine ⟨last.deployment.trans first.deployment, fun c member => ?_⟩
    rcases last.made c member with before | new
    · exact first.made c before
    · exact .inr (first.deployment ▸ new)

theorem warn_makes (warnings : List Warning) : (warn warnings).Keeps (Makes trait) :=
  fun _ => .of_made_eq rfl rfl

theorem contextOf_makes {m : HostedModule} {strategy : Strategy}
    (proper : ∀ deployment id, trait deployment ⟨id, m, strategy⟩) : (contextOf m strategy).Keeps (Makes trait) := by
  intro r
  refine ⟨rfl, fun c member => ?_⟩
  -- There is one more context than before.
  rcases List.mem_cons.mp member with rfl | before
  · exact .inr (proper _ _)
  · exact .inl before

theorem contextWith_makes (artifacts : Artifacts) {m : HostedModule} (fits : Fits trait m) :
    (contextWith artifacts m).Keeps (Makes trait) := by
  intro r
  rw [contextWith_on]
  split
  · -- A strategy was selected, for which the module fits.
    rename_i strategy warnings selected
    refine ⟨rfl, fun c member => ?_⟩
    rcases List.mem_cons.mp member with rfl | before
    · exact .inr (fits _ _ _ _ (congrArg Prod.fst selected))
    · exact .inl before
  · exact .of_made_eq rfl rfl

theorem createContext_makes {m : HostedModule} (fits : Fits trait m) : (createContext m).Keeps (Makes trait) :=
  Operation.Keeps.get.bind fun r => contextWith_makes r.artifacts fits

/-- The declared modules become contexts with a trait, if they fit. -/
theorem stage_makes {files : Files} {entries : List Entry}
    (fits : ∀ entry ∈ entries, ∀ resources m, Resources.moduleOfEntry resources files entry = .ok m → Fits trait m) :
    (stage files entries).Keeps (Makes trait) := by
  refine Operation.Keeps.get.bind fun r => Operation.Keeps.foldlM (fun entry member staged => ?_) _
  refine Operation.Keeps.get.bind fun now => ?_
  split
  · -- Only what is loaded becomes a context.
    rename_i m loaded
    exact (contextWith_makes _ (fits entry member _ m loaded)).bind fun _ => Operation.Keeps.pure _
  · exact Operation.Keeps.pure _
  · exact Operation.Keeps.throw _

theorem contextOfUpload_makes {name : String} {bytes : ByteArray} {intent : Intent}
    (fits : ∀ payload m, checkSize name bytes.size = .ok () → Payload.parse name bytes = .ok payload →
      HostedModule.ofDynamic name (some payload) intent = .ok m → Fits trait m) :
    (contextOfUpload name bytes intent).Keeps (Makes trait) := by
  -- What was checked is known of the module.
  refine Operation.Keeps.lift_bind fun _ sized => Operation.Keeps.lift_bind fun payload parsed => ?_
  exact Operation.Keeps.lift_bind fun m checked => createContext_makes (fits payload m sized parsed checked)

theorem callHandle_makes (h : Handle) (exported : String) (arguments : List Value) :
    (callHandle h exported arguments).Keeps (Makes trait) :=
  Operation.Keeps.get.bind fun _ => (warn_makes _).bind fun _ => Operation.Keeps.lift _

/-! ### Ways to make contexts -/

/-- A trait that contexts get in every way in which the requests of some kind make them. -/
structure Respected (kind : Request → Prop) (trait : Trait) : Prop where
  /-- Clients supply modules. -/
  supplied : ∀ m, kind (.make m none) → Fits trait m
  /-- They may insist on strategies. -/
  insisted : ∀ m strategy, kind (.make m (some strategy)) → ∀ deployment id, trait deployment ⟨id, m, strategy⟩
  /-- Modules are declared. -/
  declared : ∀ files entries, kind (.init files entries) → ∀ entry ∈ entries, ∀ resources m,
    Resources.moduleOfEntry resources files entry = .ok m → Fits trait m
  /-- Payloads are uploaded, and the intent may be an older one. -/
  uploaded : ∀ name bytes mode, kind (.upload name bytes mode) → ∀ intent payload m,
    checkSize name bytes.size = .ok () → Payload.parse name bytes = .ok payload →
      HostedModule.ofDynamic name (some payload) intent = .ok m → Fits trait m
  /-- Files change under registered modules. -/
  reloaded : ∀ deployment c files path bytes payload m, trait deployment c → c.hosted.source = some (.file path) →
    readModuleFile files path = .ok bytes → Payload.parse c.name bytes = .ok payload →
      HostedModule.ofStatic c.name payload c.hosted.source c.hosted.intent = .ok m → Fits trait m

/-- A trait that all contexts have is respected by all requests. -/
theorem Respected.any (kind : Request → Prop) : Respected kind fun _ _ => True := by
  have fits : ∀ m, Fits (fun _ _ => True) m := fun _ _ _ _ _ _ => trivial
  exact ⟨fun m _ => fits m, fun _ _ _ _ _ => trivial, fun _ _ _ _ _ _ m _ => fits m,
    fun _ _ _ _ _ _ m _ _ _ => fits m, fun _ _ _ _ _ _ m _ _ _ _ _ => fits m⟩

/-- An attempt to build the handle of a context, with whatever artifacts and files there were. -/
def Attempted (r : Registry) (c : Context) (attempt : Except HostError Handle) : Prop :=
  ∃ artifacts files, attempt = (r.factory.build artifacts files c.hosted c.strategy).1

/-- What holds of a registry all along. -/
structure Tidy (trait : Trait) (r : Registry) : Prop where
  /-- No two contexts share an identity. -/
  numbered : Numbered r.made
  /-- All contexts have the trait. -/
  proper : ∀ c ∈ r.made, trait r.deployment c
  /-- The names and the table of the catalog belong together. -/
  valid : r.catalog.Valid
  /-- Only contexts that were made are registered. -/
  registered : ∀ name c, r.get? name = some c → c ∈ r.made
  /-- What is in a slot came of building the handle of its context. -/
  genuine : ∀ id slot, r.slots.lookup id = some slot →
    ∃ c ∈ r.made, c.id = id ∧ ∃ attempt, Attempted r c attempt ∧ slot = .ofAttempt attempt

/-- What the next steps of a request rely on. -/
def Stage.Tidy (trait : Trait) (r : Registry) {q : Request} : Stage q → Prop
  | .staged ready | .published ready =>
    ready.catalog.Valid ∧ ∀ name c, ready.catalog.get? name = some c → c ∈ r.made
  | .prepared c | .remade c => c ∈ r.made
  | .reread m => Fits trait m
  | @Stage.finished (.resolve _ c) (.ok (.handle h)) => Attempted r c (.ok h)
  | _ => True

namespace Tidy

variable {r after : Registry}

/-- Nothing was built under the identity that the next context will have. -/
theorem lookup_next (tidy : r.Tidy trait) : r.slots.lookup r.made.length = none := by
  cases filled : r.slots.lookup r.made.length with
  | none => rfl
  | some slot =>
    obtain ⟨c, member, same, _⟩ := tidy.genuine _ _ filled
    -- All contexts that were made have smaller ones.
    exact absurd same (Nat.ne_of_lt (tidy.numbered.id_lt member))

/-- The handle in the slot of a context was built for this very context. -/
theorem attempted_of_built (tidy : r.Tidy trait) {c : Context} (known : c ∈ r.made) {h : Handle}
    (built : r.slot c = .built h) : Attempted r c (.ok h) := by
  cases found : r.slots.lookup c.id with
  | none => simp [slot, found] at built
  | some filling =>
    -- The slot was filled for a context with this identity, and there is no other one.
    obtain ⟨other, made, same, attempt, attempted, rfl⟩ := tidy.genuine _ _ found
    obtain rfl := tidy.numbered.eq_of_id_eq made known same
    -- Only a success leaves a handle.
    cases attempt with
    | error why => simp [slot, found, Slot.ofAttempt] at built
    | ok h' =>
      simp only [slot, found, Slot.ofAttempt, Option.getD_some, Slot.built.injEq] at built
      rwa [← built]

/-- A handle that is known already was built for the context that is asked for. -/
theorem attempted_of_settled (tidy : r.Tidy trait) {c : Context} (known : c ∈ r.made) {h : Handle}
    (settled : r.settled c = some (.ok h)) : Attempted r c (.ok h) := by
  rw [Registry.settled] at settled
  -- A context without a payload is settled, too, but it has no handle.
  split at settled
  · cases settled
  · rcases Slot.eq_of_answer? settled with ⟨_, built, same⟩ | ⟨_, _, failed⟩
    · cases same
      exact tidy.attempted_of_built known built
    · cases failed

/-- A change that leaves the catalog and the slots alone. -/
theorem of_same (tidy : r.Tidy trait) (grows : Grows r after) (makes : Makes trait r after)
    (catalog : after.catalog = r.catalog) (slots : after.slots = r.slots) : after.Tidy trait where
  numbered := grows.numbered tidy.numbered
  -- A context was there before, or was made properly just now.
  proper c member := by
    rw [grows.deployment]
    exact (makes.made c member).elim (tidy.proper c) id
  valid := catalog ▸ tidy.valid
  registered name c found := by
    rw [get?, catalog] at found
    exact grows.made.subset (tidy.registered name c found)
  genuine id slot found := by
    rw [slots] at found
    obtain ⟨c, known, rest⟩ := tidy.genuine id slot found
    simp only [Attempted, grows.factory]
    exact ⟨c, grows.made.subset known, rest⟩

/-- Another catalog, all of whose contexts were made. -/
theorem swap (tidy : r.Tidy trait) {catalog : Catalog} (valid : catalog.Valid)
    (known : ∀ name c, catalog.get? name = some c → c ∈ r.made) : Tidy trait { r with catalog := catalog } :=
  ⟨tidy.numbered, tidy.proper, valid, known, tidy.genuine⟩

theorem insert (tidy : r.Tidy trait) {c : Context} (known : c ∈ r.made) :
    Tidy trait { r with catalog := r.catalog.insert c } := by
  refine tidy.swap (tidy.valid.insert c) fun name d found => ?_
  -- A context that is found is the new one, or was found before.
  rw [Catalog.get?_insert] at found
  split at found
  · cases found
    exact known
  · exact tidy.registered name d found

theorem erase (tidy : r.Tidy trait) (removed : String) :
    Tidy trait { r with catalog := r.catalog.erase removed } := by
  refine tidy.swap (tidy.valid.erase removed) fun name d found => ?_
  rw [Catalog.get?_erase] at found
  split at found
  · cases found
  · exact tidy.registered name d found

/-- A slot is filled with what came of an attempt. -/
theorem fill (tidy : r.Tidy trait) {c : Context} (known : c ∈ r.made) {attempt : Except HostError Handle}
    (attempted : Attempted r c attempt) (warnings : List Warning) :
    Tidy trait { r with slots := (c.id, .ofAttempt attempt) :: r.slots, warnings := warnings } := by
  refine ⟨tidy.numbered, tidy.proper, tidy.valid, tidy.registered, fun id slot found => ?_⟩
  rw [lookup_cons_ite] at found
  split at found
  · -- This is the new filling.
    rename_i same
    cases found
    exact ⟨c, known, same.symm, attempt, attempted, rfl⟩
  · exact tidy.genuine id slot found

end Tidy

/-- Whoever builds a handle gets the one that was built. -/
theorem attempted_of_finishBuild {files : Files} {c : Context} {h : Handle} {r after : Registry}
    (built : (finishBuild files c).on r = (.ok h, after)) : Attempted after c (.ok h) := by
  rw [finishBuild_on] at built
  refine ⟨r.artifacts, files, ?_⟩
  cases attempt : (r.factory.build r.artifacts files c.hosted c.strategy).1 with
  | error why =>
    rw [attempt] at built
    cases built
  | ok handle =>
    rw [attempt] at built
    cases built
    exact attempt.symm

/-- The catalog of the declared modules is in order: each of them was put in when it was loaded. -/
theorem stage_roster {r middle : Registry} {files : Files} {entries : List Entry} {ready : Staged}
    (staged : (stage files entries).on r = (.ok ready, middle)) :
    ready.catalog.Valid ∧ ∃ contexts : List Context,
      contexts.map Context.name = ready.report.loaded ∧ ready.catalog.toList = Roster.ofList contexts := by
  simp only [stage, Operation.on_bind, Operation.on_get] at staged
  refine Operation.foldlM_invariant (fun (state : Staged) _ => state.catalog.Valid ∧ ∃ contexts : List Context,
    contexts.map Context.name = state.report.loaded ∧ state.catalog.toList = Roster.ofList contexts)
    ?_ ⟨.empty, [], rfl, rfl⟩ staged
  rintro state entry now next last ⟨valid, contexts, loaded, listed⟩ round
  obtain ⟨_, _, ⟨⟩, round⟩ := Operation.on_bind_eq_ok round
  split at round
  · -- One more module is loaded, and its context is put in.
    rename_i m made
    obtain ⟨c, _, outcome, round⟩ := Operation.on_bind_eq_ok round
    cases round
    obtain ⟨_, rfl, _, _⟩ := contextWith_eq_ok outcome
    obtain ⟨named, _⟩ := Resources.moduleOfEntry_eq_ok made
    refine ⟨valid.insert c, contexts ++ [c], ?_, ?_⟩
    · rw [List.map_append, loaded, List.map_singleton, Context.name, named]
    · rw [valid.toList_insert, listed, Roster.ofList, Roster.ofList, List.foldl_append, List.foldl_cons, List.foldl_nil]
  · -- A rejected one leaves everything as it was.
    cases round
    exact ⟨valid, contexts, loaded, listed⟩
  · cases round

/-! ### Steps -/

section Steps

variable {kind : Request → Prop} {q : Request} {r : Registry}

/-- What a step relies on is not taken back by other requests. -/
theorem Stage.Tidy.grows {stage : Stage q} {after : Registry} (ready : stage.Tidy trait r) (grows : Grows r after) :
    stage.Tidy trait after := by
  cases stage with
  | staged declared | published declared =>
    exact ⟨ready.1, fun name c found => grows.made.subset (ready.2 name c found)⟩
  | prepared c | remade c => exact grows.made.subset ready
  | reread m => exact ready
  | finished outcome =>
    -- Only resolutions that gave a handle have something to rely on.
    cases q with
    | resolve files c =>
      rcases outcome with why | answer
      · trivial
      · cases answer with
        | handle h =>
          obtain ⟨artifacts, files, same⟩ := ready
          exact ⟨artifacts, files, grows.factory ▸ same⟩
        | _ => trivial
    | _ => trivial
  | _ => trivial

/-- A step that leaves the catalog and the slots alone leaves the registry tidy if its new contexts have the trait. -/
theorem Stage.advance_quiet {stage : Stage q} (makes : stage.advance.Keeps (Makes trait))
    (catalog : stage.scope.catalog = false) (builds : stage.scope.builds = false) (tidy : r.Tidy trait) :
    (stage.advance.on r).2.Tidy trait :=
  have within := stage.advance_within r
  tidy.of_same within.toGrows (makes r) (within.catalog catalog) (within.slots builds)

/-- The first step of an allowed request leaves the registry tidy, also if it fails. -/
theorem Request.first_tidy (respected : Respected kind trait) (allowed : kind q) (known : q.Known r)
    (tidy : r.Tidy trait) : (q.first.on r).2.Tidy trait := by
  have quiet (makes : q.first.Keeps (Makes trait)) (catalog : q.firstScope.catalog = false)
      (builds : q.firstScope.builds = false) : (q.first.on r).2.Tidy trait :=
    (Stage.asked : Stage q).advance_quiet makes catalog builds tidy
  cases q with
  | make m strategy =>
    cases strategy with
    | none => exact quiet (((createContext_makes (respected.supplied m allowed)).map _).map _) rfl rfl
    | some strategy => exact quiet (((contextOf_makes (respected.insisted m strategy allowed)).map _).map _) rfl rfl
  | add c => exact tidy.insert known
  | replace c =>
    simp only [Request.first, Request.perform, Operation.on_map, replace_on]
    split
    · exact tidy
    · exact tidy.insert known
  | remove name =>
    simp only [Request.first, Request.perform, Operation.on_map, remove_on]
    exact tidy.erase name
  | init files entries => exact quiet ((stage_makes (respected.declared files entries allowed)).map _) rfl rfl
  | upload name bytes mode => exact quiet ((inheritedIntent_keeps name).map _) rfl rfl
  | reload files name =>
    refine quiet ((reread_keeps files name).bind fun found => ?_) rfl rfl
    cases found <;> exact Operation.Keeps.pure _
  | resolve files c =>
    -- Only a note is taken that building begins.
    cases settled : r.settled c with
    | none =>
      simp only [Request.first, Operation.on_bind, knownHandle_on, settled, beginBuild_on, Operation.on_pure]
      exact ⟨tidy.numbered, tidy.proper, tidy.valid, tidy.registered, tidy.genuine⟩
    | some outcome =>
      simp only [Request.first, Operation.on_bind, knownHandle_on, settled]
      cases outcome <;> exact tidy
  | call h exported arguments => exact quiet (((callHandle_makes h exported arguments).map _).map _) rfl rfl
  | addArtifact name artifact => exact quiet (fun _ => .of_made_eq rfl rfl) rfl rfl
  | removeArtifact name => exact quiet (fun _ => .of_made_eq rfl rfl) rfl rfl

/-- Every step of an allowed request leaves the registry tidy, also if it fails. -/
theorem Stage.advance_tidy (respected : Respected kind trait) (allowed : kind q) (known : q.Known r)
    (tidy : r.Tidy trait) {stage : Stage q} (ready : stage.Tidy trait r) : (stage.advance.on r).2.Tidy trait := by
  cases stage with
  | asked => exact Request.first_tidy respected allowed known tidy
  | staged declared => exact (Stage.staged declared).advance_quiet (fun _ => .of_made_eq rfl rfl) rfl rfl tidy
  | published declared => exact tidy.swap ready.1 ready.2
  | @admitted name bytes mode inherited =>
    refine Stage.advance_quiet ((contextOfUpload_makes fun payload m sized parsed checked => ?_).map _) rfl rfl tidy
    exact respected.uploaded name bytes mode allowed _ payload m sized parsed checked
  | prepared c =>
    simp only [advance, Operation.on_bind, insertUpload_on]
    by_cases refused : (r.get? c.name).any (·.origin = .static)
    · rw [if_pos refused]
      exact tidy
    · rw [if_neg refused]
      exact tidy.insert ready
  | reread m =>
    refine Stage.advance_quiet ((createContext_makes ready).bind fun c => ?_) rfl rfl tidy
    exact (warn_makes _).bind fun _ => Operation.Keeps.pure _
  | remade c => exact tidy.insert ready
  | @building files c =>
    simp only [advance, Operation.on_map, finishBuild_on]
    exact tidy.fill known ⟨r.artifacts, files, rfl⟩ _
  | finished outcome => exact tidy

/-- And so the first one leaves what the steps after it rely on. -/
theorem Request.first_leaves (respected : Respected kind trait) (known : q.Known r) (tidy : r.Tidy trait)
    {later : Stage q} {after : Registry} (run : q.first.on r = (.ok later, after)) : later.Tidy trait after := by
  cases q with
  | init files entries =>
    obtain ⟨declared, outcome, rfl⟩ := Operation.on_map_eq_ok run
    exact ⟨(stage_roster outcome).1, fun name c found => ((stage_staging outcome).chosen name c found).2.1⟩
  | upload name bytes mode =>
    obtain ⟨inherited, _, rfl⟩ := Operation.on_map_eq_ok run
    trivial
  | reload files name =>
    obtain ⟨found, _, outcome, run⟩ := Operation.on_bind_eq_ok run
    cases found with
    | none =>
      cases run
      trivial
    | some m =>
      cases run
      obtain ⟨rfl, _, c, path, bytes, payload, registered, source, read, parsed, checked⟩ := reread_eq_some outcome
      -- The module takes the place of a context that has the trait, and its name.
      obtain rfl := tidy.valid.named name c registered
      exact respected.reloaded _ c files path bytes payload m (tidy.proper c (tidy.registered _ c registered))
        source read parsed checked
  | resolve files c =>
    cases settled : r.settled c with
    | none =>
      simp only [Request.first, Operation.on_bind, knownHandle_on, settled, beginBuild_on] at run
      cases run
      trivial
    | some outcome =>
      simp only [Request.first, Operation.on_bind, knownHandle_on, settled] at run
      cases outcome with
      | error why => cases run
      | ok h =>
        cases run
        exact tidy.attempted_of_settled known settled
  | _ =>
    obtain ⟨answer, _, rfl⟩ := Operation.on_map_eq_ok run
    trivial

/-- Every step leaves what the steps after it rely on. -/
theorem Stage.Tidy.advance (respected : Respected kind trait) (known : q.Known r)
    (tidy : r.Tidy trait) {stage later : Stage q} (ready : stage.Tidy trait r) {after : Registry}
    (run : stage.advance.on r = (.ok later, after)) : later.Tidy trait after := by
  cases stage with
  | asked => exact Request.first_leaves respected known tidy run
  | staged declared =>
    cases run
    exact ready
  | admitted inherited =>
    obtain ⟨c, outcome, rfl⟩ := Operation.on_map_eq_ok run
    obtain ⟨_, _, _, _, new⟩ := contextOfUpload_eq_ok outcome
    exact new
  | prepared c =>
    obtain ⟨_, _, _, run⟩ := Operation.on_bind_eq_ok run
    cases run
    trivial
  | reread m =>
    obtain ⟨c, _, outcome, run⟩ := Operation.on_bind_eq_ok run
    rw [createContext_on] at outcome
    obtain ⟨_, _, new, _⟩ := contextWith_eq_ok outcome
    cases run
    exact new
  | @building files c =>
    obtain ⟨h, outcome, rfl⟩ := Operation.on_map_eq_ok run
    exact attempted_of_finishBuild outcome
  | finished outcome =>
    cases run
    exact ready
  | _ =>
    cases run
    trivial

/-- What a thread relies on, about the registry and about itself. -/
structure Thread.Tidy (kind : Request → Prop) (trait : Trait) (r : Registry) (t : Thread) : Prop where
  allowed : kind t.request
  known : t.request.Known r
  ready : t.stage.Tidy trait r

theorem Thread.Tidy.grows {t : Thread} {after : Registry} (ready : t.Tidy kind trait r) (grows : Grows r after) :
    t.Tidy kind trait after :=
  ⟨ready.allowed, ready.known.grows grows, ready.ready.grows grows⟩

/-- A step of a thread leaves the registry tidy, and the thread ready for its next step. -/
theorem Thread.Tidy.next (respected : Respected kind trait) (tidy : r.Tidy trait) {t : Thread}
    (ready : t.Tidy kind trait r) : (t.next r).2.Tidy trait ∧ (t.next r).1.Tidy kind trait (t.next r).2 := by
  have kept := Stage.advance_tidy respected ready.allowed ready.known tidy ready.ready
  have known := ready.known.grows (t.next_within r).toGrows
  unfold Thread.next at known ⊢
  rcases outcome : t.stage.advance.on r with ⟨why | later, after⟩
  · rw [outcome] at kept known
    -- Nothing follows a failure.
    refine ⟨kept, ready.allowed, known, ?_⟩
    obtain ⟨q, stage⟩ := t
    cases q <;> trivial
  · rw [outcome] at kept known
    exact ⟨kept, ready.allowed, known, ready.ready.advance respected ready.known tidy outcome⟩

theorem Thread.alone_tidy (respected : Respected kind trait) (count : Nat) {t : Thread} (tidy : r.Tidy trait)
    (ready : t.Tidy kind trait r) : (Thread.alone count t r).2.Tidy trait := by
  -- The induction is on the number of steps.
  induction count generalizing t r with
  | zero => exact tidy
  | succ count ih =>
    obtain ⟨kept, later⟩ := ready.next respected tidy
    exact ih kept later

/-- A whole request leaves the registry tidy, whatever comes of it. -/
theorem Request.perform_tidy (respected : Respected kind trait) (allowed : kind q) (known : q.Known r)
    (tidy : r.Tidy trait) : (q.perform.on r).2.Tidy trait := by
  -- A request takes three steps at most, and nobody comes between them here.
  have whole := Thread.alone_tidy respected 3 tidy (t := ⟨q, .asked⟩) ⟨allowed, known, by cases q <;> trivial⟩
  rwa [Thread.uninterrupted] at whole

end Steps

/-- Nothing was made and nothing is kept on a new registry. -/
theorem create_tidy (deployment : Deployment) (factory : Factory) (resources : Resources) :
    (create deployment factory resources).Tidy trait :=
  ⟨trivial, by simp [create], .empty, fun name c found => by simp [create, get?] at found, by simp [create]⟩

end Registry

end WasmHost
