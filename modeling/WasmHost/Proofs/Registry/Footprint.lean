import WasmHost.Proofs.Registry.Operation

/-! Footprints: which parts of a registry each step of an operation can change. -/

namespace WasmHost.Registry

/-- Every context is known by the number of the contexts that were made before it. -/
def Numbered : List Context → Prop
  | [] => True
  | context :: earlier => context.id = earlier.length ∧ Numbered earlier

/-- Identities are smaller than the number of contexts. -/
theorem Numbered.id_lt {made : List Context} (numbered : Numbered made) {c : Context} (member : c ∈ made) :
    c.id < made.length := by
  -- The latest context has the largest identity.
  induction made with
  | nil => simp at member
  | cons latest earlier ih =>
    obtain ⟨here, rest⟩ := numbered
    rcases List.mem_cons.mp member with rfl | before
    · simp [here]
    · exact Nat.lt_succ_of_lt (ih rest before)

/-- No two contexts share an identity. -/
theorem Numbered.eq_of_id_eq {made : List Context} (numbered : Numbered made) {c other : Context}
    (member : c ∈ made) (otherMember : other ∈ made) (same : c.id = other.id) : c = other := by
  -- The latest context has a larger identity than all earlier ones.
  induction made with
  | nil => simp at member
  | cons latest earlier ih =>
    obtain ⟨here, rest⟩ := numbered
    rcases List.mem_cons.mp member with rfl | before <;>
      rcases List.mem_cons.mp otherMember with rfl | otherBefore
    · rfl
    · have := rest.id_lt otherBefore
      omega
    · have := rest.id_lt before
      omega
    · exact ih rest before otherBefore

/-- What no operation takes back: the setup is fixed, and contexts are only ever added. -/
structure Grows (before after : Registry) : Prop where
  /-- The deployment is fixed. -/
  deployment : after.deployment = before.deployment
  /-- So is what handles are built with. -/
  factory : after.factory = before.factory
  /-- So is where payloads come from. -/
  resources : after.resources = before.resources
  /-- The contexts so far stay. -/
  made : before.made <:+ after.made
  /-- New contexts get the next numbers. -/
  numbered : Numbered before.made → Numbered after.made

/-- The parts of a registry that an operation may change. -/
structure Scope where
  /-- The registered contexts. -/
  catalog : Bool
  /-- The registered artifacts, with the names that are known as configured. -/
  artifacts : Bool
  /-- What was built. -/
  builds : Bool

namespace Scope

/-- Nothing but new contexts, which are known to their makers, and warnings. -/
def quiet : Scope := ⟨false, false, false⟩

/-- Only the registered contexts. -/
def contexts : Scope := ⟨true, false, false⟩

/-- Only the artifacts. -/
def supplies : Scope := ⟨false, true, false⟩

/-- Only what was built. -/
def handles : Scope := ⟨false, false, true⟩

end Scope

/-- Whatever lies outside of a scope is the same, and nothing is taken back. -/
structure Within (scope : Scope) (before after : Registry) : Prop extends Grows before after where
  catalog : scope.catalog = false → after.catalog = before.catalog
  artifacts : scope.artifacts = false → after.artifacts = before.artifacts
  configured : scope.artifacts = false → after.configured = before.configured
  slots : scope.builds = false → after.slots = before.slots
  tried : scope.builds = false → after.tried = before.tried

/-- The registered contexts and artifacts are the same. -/
structure SameTables (before after : Registry) : Prop where
  /-- The contexts by name, with their order. -/
  catalog : after.catalog = before.catalog
  /-- The artifacts by name. -/
  artifacts : after.artifacts = before.artifacts
  /-- The names whose artifacts are configured. -/
  configured : after.configured = before.configured

/-- A change that leaves the setup and makes no context. -/
theorem Grows.of_made_eq {before after : Registry} (deployment : after.deployment = before.deployment)
    (factory : after.factory = before.factory) (resources : after.resources = before.resources)
    (made : after.made = before.made) : Grows before after :=
  ⟨deployment, factory, resources, made ▸ List.suffix_refl _, fun numbered => made ▸ numbered⟩

theorem Grows.refl (r : Registry) : Grows r r := ⟨rfl, rfl, rfl, List.suffix_refl _, id⟩

theorem Grows.trans {r middle after : Registry} (first : Grows r middle) (last : Grows middle after) :
    Grows r after :=
  ⟨last.deployment.trans first.deployment, last.factory.trans first.factory,
    last.resources.trans first.resources, first.made.trans last.made,
    fun numbered => last.numbered (first.numbered numbered)⟩

instance : IsPreorder Registry Grows where
  refl := Grows.refl
  trans _ _ _ := Grows.trans

instance (scope : Scope) : IsPreorder Registry (Within scope) where
  refl r := ⟨.refl r, fun _ => rfl, fun _ => rfl, fun _ => rfl, fun _ => rfl, fun _ => rfl⟩
  trans _ _ _ first last :=
    ⟨first.toGrows.trans last.toGrows, fun same => (last.catalog same).trans (first.catalog same),
      fun same => (last.artifacts same).trans (first.artifacts same),
      fun same => (last.configured same).trans (first.configured same),
      fun same => (last.slots same).trans (first.slots same),
      fun same => (last.tried same).trans (first.tried same)⟩

theorem Within.sameTables {scope : Scope} {before after : Registry} (within : Within scope before after)
    (contexts : scope.catalog = false) (supplies : scope.artifacts = false) : SameTables before after :=
  ⟨within.catalog contexts, within.artifacts supplies, within.configured supplies⟩

/-- What changes little changes no more than what changes much. -/
theorem Within.widen {scope wider : Scope} {before after : Registry} (within : Within scope before after)
    (contexts : scope.catalog → wider.catalog) (supplies : scope.artifacts → wider.artifacts)
    (handles : scope.builds → wider.builds) : Within wider before after := by
  -- Whatever the wider scope leaves alone, the narrower one leaves alone.
  have narrow : ∀ {small large : Bool}, (small → large) → large = false → small = false := by decide
  exact ⟨within.toGrows, fun same => within.catalog (narrow contexts same),
    fun same => within.artifacts (narrow supplies same), fun same => within.configured (narrow supplies same),
    fun same => within.slots (narrow handles same), fun same => within.tried (narrow handles same)⟩

/-! ### Steps that only look -/

/-- The context of a name is only looked at. -/
theorem lookup_on (name : String) (r : Registry) :
    (Registry.lookup name).on r =
      match r.get? name with
      | some c => (.ok c, r)
      | none => (.error (.moduleNotFound name), r) := by
  rw [Registry.lookup, Operation.on_bind, Operation.on_get]
  cases found : r.get? name <;> simp only [found] <;> rfl

section Looking

variable {related : Registry → Registry → Prop} [IsPreorder Registry related]

theorem lookup_keeps (name : String) : (Registry.lookup name).Keeps related := by
  intro r
  rw [lookup_on]
  split <;> exact refl r

/-- The first step of an upload only looks. -/
theorem inheritedIntent_keeps (name : String) : (inheritedIntent name).Keeps related := by
  refine Operation.Keeps.get.bind fun r => ?_
  -- The name is free, or taken by a static module, or by another upload.
  split
  · exact Operation.Keeps.pure _
  · split
    · exact (Operation.Keeps.throw _).bind fun _ => Operation.Keeps.pure _
    · exact Operation.Keeps.pure _

/-- The first step of a reload only looks and reads. -/
theorem reread_keeps (files : Files) (name : String) : (reread files name).Keeps related := by
  refine Operation.Keeps.get.bind fun r => ?_
  -- Nothing is read outside of development, without a module, or without a file behind it.
  split
  · exact Operation.Keeps.pure _
  split
  · exact Operation.Keeps.pure _
  split
  · refine (Operation.Keeps.lift _).bind fun bytes => ?_
    -- A file with the same bytes is not loaded again.
    split
    · exact Operation.Keeps.pure _
    · exact (Operation.Keeps.lift _).bind fun payload => (Operation.Keeps.lift _).map some
  · exact Operation.Keeps.pure _

/-- Telling what a slot answers changes nothing. -/
theorem answer_keeps (found : Option (Except HostError Handle)) :
    Operation.Keeps related (match found with
      | some answer => some <$> lift answer
      | none => return none) := by
  cases found with
  | some answer => exact (Operation.Keeps.lift answer).map some
  | none => exact Operation.Keeps.pure none

/-- The first step of a resolution only looks. -/
theorem knownHandle_keeps (c : Context) : (knownHandle c).Keeps related := by
  have look : Operation.Keeps related _ :=
    Operation.Keeps.get.bind fun r => answer_keeps ((r.slot c).answer? c.name)
  unfold knownHandle
  -- Without a payload nobody looks.
  split
  · exact (Operation.Keeps.throw _).bind fun _ => look
  · exact look

end Looking

variable {scope : Scope}

/-! ### Steps that prepare -/

/-- Warnings leave no trace but themselves. -/
theorem warn_within (warnings : List Warning) : (warn warnings).Keeps (Within scope) :=
  fun _ => ⟨.of_made_eq rfl rfl rfl rfl, fun _ => rfl, fun _ => rfl, fun _ => rfl, fun _ => rfl, fun _ => rfl⟩

/-- A new context is known to nobody but its maker. -/
theorem contextOf_within (m : HostedModule) (strategy : Strategy) : (contextOf m strategy).Keeps (Within scope) :=
  fun _ =>
    ⟨⟨rfl, rfl, rfl, List.suffix_cons _ _, fun numbered => ⟨rfl, numbered⟩⟩, fun _ => rfl, fun _ => rfl, fun _ => rfl,
      fun _ => rfl, fun _ => rfl⟩

/-- Choosing a strategy only looks at the artifacts. -/
theorem contextWith_within (artifacts : Artifacts) (m : HostedModule) :
    (contextWith artifacts m).Keeps (Within scope) := by
  -- Without a strategy there are only the warnings, and with one there is a context besides.
  refine Operation.Keeps.get.bind fun r => (warn_within _).bind fun _ => ?_
  exact (Operation.Keeps.lift _).bind fun strategy => contextOf_within m strategy

theorem createContext_within (m : HostedModule) : (createContext m).Keeps (Within scope) :=
  Operation.Keeps.get.bind fun r => contextWith_within r.artifacts m

/-- A declared module is made ready without touching what is registered. -/
theorem stageEntry_within (files : Files) (artifacts : Artifacts) (staged : Staged) (entry : Entry) :
    (stageEntry files artifacts staged entry).Keeps (Within scope) := by
  refine Operation.Keeps.get.bind fun r => ?_
  -- A valid payload leads to a context, an invalid one to a report, and anything else to a failure.
  split
  · exact (contextWith_within artifacts _).bind fun _ => Operation.Keeps.pure _
  · exact Operation.Keeps.pure _
  · exact Operation.Keeps.throw _

/-- The first step of loading all declared modules only prepares. -/
theorem stage_within (files : Files) (entries : List Entry) : (stage files entries).Keeps (Within scope) :=
  Operation.Keeps.get.bind fun _ => Operation.Keeps.foldlM (fun _ _ _ => stageEntry_within _ _ _ _) _

/-- The context of an upload is made before anything is registered. -/
theorem contextOfUpload_within (name : String) (bytes : ByteArray) (intent : Intent) :
    (contextOfUpload name bytes intent).Keeps (Within scope) := by
  -- The size, the bytes and the functions are checked before there is a context.
  refine (Operation.Keeps.lift _).bind fun _ => (Operation.Keeps.lift _).bind fun payload => ?_
  exact (Operation.Keeps.lift _).bind fun m => createContext_within m

/-- A call leaves the registry as it is, apart from warnings. -/
theorem callHandle_within (h : Handle) (exported : String) (arguments : List Value) :
    (callHandle h exported arguments).Keeps (Within scope) :=
  Operation.Keeps.get.bind fun _ => (warn_within _).bind fun _ => Operation.Keeps.lift _

/-! ### Steps with an effect -/

/-- Beginning to build only leaves a note of it. -/
theorem beginBuild_on (c : Context) (r : Registry) :
    (beginBuild c).on r = (.ok (), { r with tried := c :: r.tried }) := rfl

/-- What was built, or why it was not, goes into the slot, and the slot answers. -/
theorem finishBuild_on (files : Files) (c : Context) (r : Registry) :
    (finishBuild files c).on r =
      (((Slot.ofAttempt (r.factory.build r.artifacts files c.hosted c.strategy).1).answer? c.name).getD
          (r.factory.build r.artifacts files c.hosted c.strategy).1,
        { r with
          slots := (c.id, Slot.ofAttempt (r.factory.build r.artifacts files c.hosted c.strategy).1) :: r.slots
          warnings := (r.factory.build r.artifacts files c.hosted c.strategy).2.reverse ++ r.warnings }) := by
  simp [finishBuild]

/-- A context only replaces another one. -/
theorem replace_on (c : Context) (r : Registry) :
    (Registry.replace c).on r =
      match r.get? c.name with
      | none => (.error (.moduleNotFound c.name), r)
      | some previous => (.ok previous, { r with catalog := r.catalog.insert c }) := by
  rw [Registry.replace, Operation.on_bind, Operation.on_get]
  cases found : r.get? c.name <;> simp only [found] <;> rfl

theorem remove_on (name : String) (r : Registry) :
    (Registry.remove name).on r = (.ok (r.get? name), { r with catalog := r.catalog.erase name }) := rfl

/-- An upload is registered unless its name belongs to a static module. -/
theorem insertUpload_on (c : Context) (r : Registry) :
    (insertUpload c).on r =
      if (r.get? c.name).any (·.origin = .static) then (.error (.invalidConfig (.staticConflict c.name)), r)
      else (.ok (), { r with catalog := r.catalog.insert c }) := by
  rw [insertUpload, Operation.on_bind, Operation.on_get]
  cases found : r.get? c.name with
  | none => simp [found, updateCatalog]
  | some existing => by_cases static : existing.origin = .static <;> simp [found, static, updateCatalog]

/-- A change of the catalog is within the scope of contexts. -/
theorem updateCatalog_within (allowed : scope.catalog) (change : Catalog → Catalog) :
    (updateCatalog change).Keeps (Within scope) :=
  fun _ => ⟨.of_made_eq rfl rfl rfl rfl, by simp [allowed], fun _ => rfl, fun _ => rfl, fun _ => rfl, fun _ => rfl⟩

theorem insertUpload_within (allowed : scope.catalog) (c : Context) : (insertUpload c).Keeps (Within scope) := by
  refine Operation.Keeps.get.bind fun r => ?_
  split
  · exact updateCatalog_within allowed _
  · split
    · exact (Operation.Keeps.throw _).bind fun _ => updateCatalog_within allowed _
    · exact updateCatalog_within allowed _

theorem replace_within (allowed : scope.catalog) (c : Context) : (Registry.replace c).Keeps (Within scope) := by
  refine Operation.Keeps.get.bind fun r => ?_
  split
  · exact Operation.Keeps.throw _
  · exact (updateCatalog_within allowed _).bind fun _ => Operation.Keeps.pure _

theorem remove_within (allowed : scope.catalog) (name : String) : (Registry.remove name).Keeps (Within scope) :=
  Operation.Keeps.get.bind fun _ => (updateCatalog_within allowed _).bind fun _ => Operation.Keeps.pure _

/-- A change of the artifacts is within their scope. -/
theorem publish_within (allowed : scope.artifacts) (declared : List (String × Path)) :
    (publish declared).Keeps (Within scope) :=
  fun _ => ⟨.of_made_eq rfl rfl rfl rfl, fun _ => rfl, by simp [allowed], by simp [allowed], fun _ => rfl, fun _ => rfl⟩

/-- Loading all declared modules changes contexts and artifacts. -/
theorem init_within (contexts : scope.catalog) (supplies : scope.artifacts) (files : Files) (entries : List Entry) :
    (Registry.init files entries).Keeps (Within scope) := by
  refine (stage_within files entries).bind fun staged => (publish_within supplies _).bind fun _ => ?_
  exact (updateCatalog_within contexts _).bind fun _ => Operation.Keeps.pure _

theorem addArtifact_within (allowed : scope.artifacts) (name : String) (artifact : Artifact) :
    (Registry.addArtifact name artifact).Keeps (Within scope) :=
  fun _ => ⟨.of_made_eq rfl rfl rfl rfl, fun _ => rfl, by simp [allowed], by simp [allowed], fun _ => rfl, fun _ => rfl⟩

theorem removeArtifact_within (allowed : scope.artifacts) (name : String) :
    (Registry.removeArtifact name).Keeps (Within scope) :=
  fun _ => ⟨.of_made_eq rfl rfl rfl rfl, fun _ => rfl, by simp [allowed], by simp [allowed], fun _ => rfl, fun _ => rfl⟩

/-- Building is within the scope of handles, from its beginning to its end. -/
theorem beginBuild_within (allowed : scope.builds) (c : Context) : (beginBuild c).Keeps (Within scope) :=
  fun _ => ⟨.of_made_eq rfl rfl rfl rfl, fun _ => rfl, fun _ => rfl, fun _ => rfl, by simp [allowed], by simp [allowed]⟩

theorem finishBuild_within (allowed : scope.builds) (files : Files) (c : Context) :
    (finishBuild files c).Keeps (Within scope) := by
  intro r
  rw [finishBuild_on]
  exact ⟨.of_made_eq rfl rfl rfl rfl, fun _ => rfl, fun _ => rfl, fun _ => rfl, by simp [allowed], by simp [allowed]⟩

theorem resolve_within (allowed : scope.builds) (files : Files) (c : Context) :
    (Registry.resolve files c).Keeps (Within scope) := by
  refine (knownHandle_keeps c).bind fun known => ?_
  split
  · exact Operation.Keeps.pure _
  · exact (beginBuild_within allowed c).bind fun _ => finishBuild_within allowed files c

end WasmHost.Registry
