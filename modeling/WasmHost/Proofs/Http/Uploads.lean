import WasmHost.Proofs.Backends
import WasmHost.Proofs.Http.Answering
import WasmHost.Proofs.Http.Serving
import WasmHost.Proofs.Registry.Ordered
import WasmHost.Proofs.Registry.StaticNames
import WasmHost.Proofs.Strategy

/-! Uploads: whoever calls a module that was uploaded runs the uploaded code, until its name is written again. -/

namespace WasmHost

/-- A module that is supplied at run time is never run from an artifact. -/
theorem Strategy.select_dynamic {deployment : Deployment} {hasArtifact : Bool} {name : String} {intent : Intent}
    {strategy : Strategy} (selected : (select deployment hasArtifact name .dynamic intent).1 = .ok strategy) :
    strategy.backend ≠ .precompiled := by
  rcases select_eq_ok selected with ⟨rfl, _⟩ | ⟨rfl, _⟩ | ⟨_, _, _, _, static, _⟩
  · decide
  · decide
  · cases static

/-- If no artifact is used, it does not matter which artifacts and files there are. -/
theorem Factory.build_unprebuilt (f : Factory) {m : HostedModule} {strategy : Strategy}
    (other : strategy.backend ≠ .precompiled) (artifacts artifacts' : Artifacts) (files files' : Files) :
    f.build artifacts files m strategy = f.build artifacts' files' m strategy := by
  simp only [build, compiled, if_neg other]

namespace Registry

/-- What a context is made of that was made for an upload. -/
def Uploaded (name : String) (bytes : ByteArray) (c : Context) : Prop :=
  ∃ payload, Payload.parse name bytes = .ok payload ∧
    c.hosted = ⟨name, .dynamic, some payload, none, c.hosted.intent⟩ ∧ c.strategy.backend ≠ .precompiled

theorem contextOfUpload_uploaded (name : String) (bytes : ByteArray) (intent : Intent) :
    (contextOfUpload name bytes intent).Yields (Uploaded name bytes) := by
  refine .bind_any fun _ => .bind (.lift fun _ => id) fun payload parsed => ?_
  refine .bind (.lift fun _ => id) fun m checked => ?_
  intro r c after made
  rw [createContext_on] at made
  obtain ⟨_, rfl, _, selected⟩ := contextWith_eq_ok made
  -- The module is the one that was checked, and the strategy was selected for a dynamic module.
  have same := HostedModule.eq_of_checkInterpreted checked
  rw [same] at selected
  refine ⟨payload, parsed, ?_, Strategy.select_dynamic selected⟩
  rw [same]

/-- What every call gets for a context of which nothing but its payload counts. -/
def freshHandle (factory : Factory) (c : Context) : Except HostError Handle :=
  let attempt := (factory.build .empty .empty c.hosted c.strategy).1
  ((Slot.ofAttempt attempt).answer? c.name).getD attempt

/-- On a tidy registry, a context that needs no artifact is resolved to what can be built of it anywhere, be it built
now or long ago. -/
theorem Tidy.resolve_unprebuilt {trait : Trait} {r : Registry} (tidy : r.Tidy trait) {c : Context} (known : c ∈ r.made)
    (payload : c.hosted.payload.isSome) (other : c.strategy.backend ≠ .precompiled) (files : Files) :
    ((Registry.resolve files c).on r).1 = freshHandle r.factory c := by
  have same : ∀ artifacts files', r.factory.build artifacts files' c.hosted c.strategy =
      r.factory.build .empty .empty c.hosted c.strategy := fun artifacts files' =>
    r.factory.build_unprebuilt other artifacts .empty files' .empty
  cases settled : r.settled c with
  | none =>
    rw [resolve_of_unsettled settled, finishBuild_on]
    simp only [same]
    rfl
  | some outcome =>
    rw [resolve_of_settled settled]
    rw [settled_of_payload payload] at settled
    cases found : r.slots.lookup c.id with
    | none =>
      rw [slot, found] at settled
      cases settled
    | some filling =>
      -- The slot was filled for this very context.
      obtain ⟨built, made, shared, attempt, ⟨artifacts, files', rfl⟩, rfl⟩ := tidy.genuine _ _ found
      obtain rfl := tidy.numbered.eq_of_id_eq made known shared
      rw [slot, found, Option.getD_some, same] at settled
      simp only [freshHandle, settled, Option.getD_some]

/-! ### What leaves a name alone -/

variable {name : String} {c : Context}

/-- A module that was not read from a file is not reloaded. -/
theorem refresh_of_sourceless {r : Registry} (found : r.get? name = some c) (sourceless : c.hosted.source = none)
    (files : Files) : (refresh files name).on r = (.ok false, r) := by
  refine refresh_of_fileless (fun other path registered => ?_) files
  cases found.symm.trans registered
  rw [sourceless]
  nofun

/-- Reloads leave it where it is, whichever module they are about. -/
theorem refresh_retains (sourceless : c.hosted.source = none) (files : Files) (other : String) :
    (refresh files other).Keeps (Retains name c) := by
  intro r found
  by_cases same : other = name
  · subst same
    rw [refresh_of_sourceless found sourceless]
    exact found
  rcases done : (refresh files other).on r with ⟨why | changed, after⟩
  · have within := refresh_failsKeeping files other r why after done
    exact within.retains rfl found
  · cases changed with
    | false =>
      rw [get?, refresh_eq_false done]
      exact found
    | true =>
      -- A context of the other name was registered.
      obtain ⟨d, named, _, changed⟩ := refresh_eq_true done
      have elsewhere : name ≠ d.name := by
        rw [named]
        exact Ne.symm same
      rw [get?, changed, Catalog.get?_insert, if_neg elsewhere]
      exact found

end Registry

namespace Http

open Handling Registry

variable {admin : Option Admin} {files : Files} {stamp : CallStamp} {request : Request} {r after : Registry}
  {name : String} {c : Context}

/-- Whatever everybody may cause leaves a module that was not read from a file. -/
theorem Does.retains (sourceless : c.hosted.source = none) (step : Does none files request r after) :
    Retains name c r after := by
  cases step with
  | warns warnings =>
    have within : Within .quiet r ((Registry.warn warnings).on r).2 := warn_within warnings r
    exact within.retains rfl
  | @performs q caused =>
    have within := Thread.perform_within q r
    cases q with
    | reload now other =>
      rw [Registry.Request.perform, Operation.on_map]
      exact refresh_retains sourceless now other r
    | resolve | call => exact within.retains rfl
    | upload | remove =>
      -- This takes an administrator.
      simp [Causes, Shown] at caused
    | _ => exact caused.elim

theorem Course.retains (sourceless : c.hosted.source = none) (course : Course none files request r after) :
    Retains name c r after := by
  induction course with
  | refl => exact refl_of (Retains name c) r
  | tail _ step ih => exact trans_of (Retains name c) ih (step.retains sourceless)

/-- Whether a request asks for a name to be written, be it by an upload or by its removal. -/
def Request.Writes (admin : Option Admin) (request : Request) (name : String) : Prop :=
  match Route.ofPath? (admin.map (·.mount)) request.path with
  | some .managedModules =>
    request.method = "POST" ∧ ∃ boundary sent, boundaryOf? request = some boundary ∧
      Upload.ofBody boundary request.body = .ok sent ∧ sent.name = name
  | some (.managedModule segment) => request.method = "DELETE" ∧ Percent.text? segment = some name
  | _ => False

/-- An upload that is answered with a success is one of the name that was sent; all others change no contexts. -/
theorem upload_on (a : Admin) (r : Registry) :
    ((upload a request).on r).2.catalog = r.catalog ∨
      ∃ boundary sent c response after, boundaryOf? request = some boundary ∧
        Upload.ofBody boundary request.body = .ok sent ∧ c.name = sent.name ∧ response.status = 200 ∧
        (upload a request).on r = (.ok response, after) ∧ after.catalog = r.catalog.insert c := by
  unfold upload
  cases marked : boundaryOf? request with
  | none => exact .inl rfl
  | some boundary =>
    by_cases shows : Shows a request
    · simp only [authorize_of_shows shows, pure_bind]
      cases accepted : Upload.ofBody boundary request.body with
      | error why => exact .inl rfl
      | ok sent =>
        simp only [Handling.on_bind, on_caught]
        rcases registration : (registerDynamic sent.name sent.bytes sent.mode).on r with ⟨why | c, after⟩
        · -- Whatever was made before the failure is not registered.
          exact .inl ((registerDynamic_failsKeeping _ _ _ r why after registration).catalog rfl)
        · obtain ⟨named, changed⟩ := registerDynamic_eq_ok registration
          exact .inr ⟨boundary, sent, c, _, after, rfl, accepted, named, rfl, rfl, changed⟩
    · obtain ⟨response, refused⟩ := authorize_of_not_shows shows
      simp only [refused]
      exact .inl rfl

/-- A removal that is answered with a success is one of a name that was there. -/
theorem removeModule_on (a : Admin) (segment : String) (r : Registry) :
    ((removeModule a request segment).on r).2.catalog = r.catalog ∨
      ∃ removed, Percent.text? segment = some removed ∧
        ((removeModule a request segment).on r).2.catalog = r.catalog.erase removed ∧
        ((r.get? removed).isSome → ∃ response, response.status = 200 ∧
          ((removeModule a request segment).on r).1 = .ok response) := by
  unfold removeModule pathName
  cases named : Percent.text? segment with
  | none => exact .inl rfl
  | some removed =>
    simp only [pure_bind]
    -- A name that cannot be decoded, or a token that is not shown, leaves the catalog alone.
    by_cases shows : Shows a request
    · simp only [authorize_of_shows shows, pure_bind, Handling.on_bind, on_host, remove_on]
      right
      refine ⟨removed, rfl, ?_, fun there => ?_⟩
      · -- The name is gone afterwards, whether it was there or not.
        cases r.get? removed <;> rfl
      · obtain ⟨c, found⟩ := Option.isSome_iff_exists.mp there
        rw [found]
        exact ⟨_, rfl, rfl⟩
    · obtain ⟨response, refused⟩ := authorize_of_not_shows shows
      simp only [refused]
      exact .inl rfl

/-- The same catalog has the same contexts. -/
theorem retains_of_catalog_eq (same : after.catalog = r.catalog) : Retains name c r after := by
  intro found
  rwa [get?, same]

/-- The response is not looked at when the registry is. -/
theorem finish_snd (work : Handling Response) (r : Registry) : ((finish work).run r).2 = (work.on r).2 := by
  rw [finish_run]
  rcases work.on r with ⟨response | response, after⟩ <;> rfl

theorem status_of_finish {work : Handling Response} {response : Response} (done : (work.on r).1 = .ok response) :
    (((finish work).run r).1.sentFor request).status = response.status := by
  rw [finish_run]
  rcases outcome : work.on r with ⟨early | last, after⟩
  · rw [outcome] at done
    cases done
  · rw [outcome] at done
    cases done
    -- Neither a body nor a header is a status.
    unfold Response.sentFor
    split <;> rfl

/-- An upload that is refused, or is one of another name, leaves a name alone. -/
theorem upload_retains (a : Admin)
    (elsewhere : (((finish (upload a request)).run r).1.sentFor request).status = 200 →
      ¬ ∃ boundary sent, boundaryOf? request = some boundary ∧ Upload.ofBody boundary request.body = .ok sent ∧
        sent.name = name) :
    Retains name c r ((upload a request).on r).2 := by
  rcases upload_on a r with same | ⟨boundary, sent, d, response, after, marked, accepted, named, status, done, changed⟩
  · exact retains_of_catalog_eq same
  · intro found
    -- A success means that another name was sent.
    have other : sent.name ≠ name := fun same =>
      elsewhere ((status_of_finish (congrArg Prod.fst done)).trans status) ⟨boundary, sent, marked, accepted, same⟩
    rw [done, get?, changed, Catalog.get?_insert, if_neg]
    · exact found
    · rw [named]
      exact Ne.symm other

/-- So does a removal. -/
theorem removeModule_retains (a : Admin) (segment : String)
    (elsewhere : (((finish (removeModule a request segment)).run r).1.sentFor request).status = 200 →
      Percent.text? segment ≠ some name) :
    Retains name c r ((removeModule a request segment).on r).2 := by
  rcases removeModule_on a segment r with same | ⟨removed, named, changed, succeeds⟩
  · exact retains_of_catalog_eq same
  · intro found
    -- What is there would have been removed successfully.
    have other : removed ≠ name := by
      rintro rfl
      obtain ⟨response, status, done⟩ := succeeds (by simp [found])
      exact elsewhere ((status_of_finish done).trans status) named
    rw [get?, changed, Catalog.get?_erase, if_neg (Ne.symm other)]
    exact found

/-- A request that does not write a name, or is refused, leaves it to a module that was not read from a file. -/
theorem respond_retains (sourceless : c.hosted.source = none)
    (elsewhere : ((respond admin files stamp request).run r).1.status = 200 → ¬ request.Writes admin name) :
    Retains name c r ((respond admin files stamp request).run r).2 := by
  rcases respond_cases admin request with ⟨response, same⟩ | ⟨route, routed, understood, wanted⟩
  · rw [same]
    exact refl_of (Retains name c) r
  rw [respond_of_route routed understood wanted] at elsewhere ⊢
  simp only [finish_snd]
  simp only [Request.Writes, routed] at elsewhere
  cases route with
  | health | ready | modules => exact refl_of (Retains name c) r
  | function module exported =>
    -- Nobody needs to be an administrator to call a function.
    have course : Course none files request r ((callFunction files stamp module exported request.body).on r).2 :=
      callFunction_course module exported request.body r
    exact course.retains sourceless
  | managedModules =>
    cases admin with
    | none => exact refl_of (Retains name c) r
    | some a =>
      simp only [handle] at elsewhere ⊢
      by_cases post : request.method = "POST"
      · rw [if_pos post] at elsewhere ⊢
        exact upload_retains a fun succeeded writes => elsewhere succeeded ⟨post, writes⟩
      · rw [if_neg post]
        exact authorize_keeps (fun _ => Keeps.get.bind fun _ => Keeps.pure _) r
  | managedModule segment =>
    cases admin with
    | none => exact refl_of (Retains name c) r
    | some a =>
      simp only [handle] at elsewhere ⊢
      by_cases delete : request.method = "DELETE"
      · rw [if_pos delete] at elsewhere ⊢
        exact removeModule_retains a segment fun succeeded named => elsewhere succeeded ⟨delete, named⟩
      · rw [if_neg delete]
        refine (pathName_keeps _ _).bind (fun other => authorize_keeps fun _ => ?_) r
        exact (Keeps.host (lookup_keeps other)).bind fun _ => Keeps.get.bind fun _ => Keeps.pure _

/-- One host follows another, and nothing is written under a name in between. -/
inductive Spares (name : String) (s : Host) : Host → Prop where
  /-- A client asks for something, or a thread takes a step that writes other names, if any. -/
  | happens {e : Event} (enabled : s.Enabled e) (elsewhere : ¬ s.Writes name e)
    (others : ∀ place t d, e = .act place → s.threads[place]? = some t → t.stage.upload? = some d → d.name ≠ name) :
    Spares name s (s.next e)
  /-- A request over the network is answered that writes other names, if any. -/
  | answers (admin : Option Admin) (files : Files) (stamp : CallStamp) (request : Request)
    (elsewhere : ((respond admin files stamp request).run s.registry).1.status = 200 → ¬ request.Writes admin name) :
    Spares name s { s with registry := ((respond admin files stamp request).run s.registry).2 }

/-- A host right after an upload was registered under a name, with its context. -/
inductive Registered (name : String) (bytes : ByteArray) (mode : Option ExecutionMode) (c : Context) (s : Host) : Host → Prop where
  /-- Nobody interrupted it. -/
  | whole {after : Registry} (done : (registerDynamic name bytes mode).on s.registry = (.ok c, after)) :
    Registered name bytes mode c s ⟨after, s.threads⟩
  /-- It was served step by step, and the last step succeeded. -/
  | last {place : Nat} {after : Registry} (found : s.threads[place]? = some ⟨.upload name bytes mode, .prepared c⟩)
    (done : (insertUpload c).on s.registry = (.ok (), after)) : Registered name bytes mode c s (s.next (.act place))

variable {s later : Host} {bytes : ByteArray} {mode : Option ExecutionMode}

/-- What leaves a name alone is something that can happen. -/
theorem Spares.step (spares : Spares name s later) : Step (fun _ => True) s later := by
  cases spares with
  | happens enabled => exact .happens enabled fun _ _ => trivial
  | answers admin files stamp request => exact .answers admin files stamp request

theorem Spares.retains (spares : Spares name s later) (sourceless : c.hosted.source = none) :
    Retains name c s.registry later.registry := by
  cases spares with
  | answers admin files stamp request elsewhere => exact respond_retains sourceless elsewhere
  | happens enabled elsewhere others => exact Host.next_retains_other elsewhere others

theorem Step.grows {kind : Registry.Request → Prop} (step : Step kind s later) : Grows s.registry later.registry := by
  cases step with
  | answers admin files stamp request => exact (respond_course admin files stamp request s.registry).grows
  | @happens e => exact s.next_grows e

/-- All that was prepared for uploads was made of their bytes. -/
theorem Served.prepares (served : Served (fun _ => True) s) : ∀ t ∈ s.threads, t.stage.Prepares Uploaded := by
  obtain ⟨deployment, factory, resources, path⟩ := served
  induction path with
  | refl => simp
  | tail _ step ih =>
    intro t member
    cases step with
    | answers => exact ih t member
    | @happens e enabled allowed =>
      cases e with
      | ask q =>
        -- Nothing is prepared for a new thread.
        rcases List.mem_append.mp member with before | new
        · exact ih t before
        · cases List.mem_singleton.mp new
          trivial
      | act place =>
        obtain ⟨acting, found, _⟩ := enabled
        rcases Host.mem_next_act found member with before | rfl
        · exact ih t before
        · exact Thread.next_yields (acting.stage.advance_prepares contextOfUpload_uploaded) (fun _ => trivial) _

namespace Registered

variable {after : Host}

/-- The context was made of the uploaded bytes. -/
theorem uploaded (registered : Registered name bytes mode c s after) (served : Served (fun _ => True) s) :
    Uploaded name bytes c := by
  -- The upload ran as a whole, or its last step registered what an earlier one had prepared.
  cases registered with
  | whole done =>
    obtain ⟨_, _, _, done⟩ := Operation.on_bind_eq_ok done
    obtain ⟨_, _, made, done⟩ := Operation.on_bind_eq_ok done
    obtain ⟨_, _, _, done⟩ := Operation.on_bind_eq_ok done
    cases done
    exact contextOfUpload_uploaded _ _ _ _ _ _ made
  | last found done => exact served.prepares _ (List.mem_of_getElem? found)

/-- It stands under its name. -/
theorem found (registered : Registered name bytes mode c s after) (uploaded : Uploaded name bytes c) :
    after.registry.get? name = some c := by
  obtain ⟨payload, _, same, _⟩ := uploaded
  have named : c.name = name := by rw [Context.name, same]
  have changed : after.registry.catalog = s.registry.catalog.insert c := by
    cases registered with
    | whole done => exact (registerDynamic_eq_ok done).2
    | @last place after found done =>
      rw [Host.registry_next_act found]
      simp only [Thread.next, Stage.advance, Operation.on_bind, done, Operation.on_pure]
      -- A step that succeeded was not refused.
      rw [insertUpload_on] at done
      split at done
      · cases done
      · cases done
        rfl
  rw [get?, changed, Catalog.get?_insert, if_pos named.symm]

/-- The setup is the one from before. -/
theorem grows (registered : Registered name bytes mode c s after) : Grows s.registry after.registry := by
  cases registered with
  | whole done =>
    have within := Thread.perform_within (.upload name bytes mode) s.registry
    rw [Registry.Request.perform, Operation.on_map, done] at within
    exact within.toGrows
  | last => exact s.next_grows _

theorem tidy (registered : Registered name bytes mode c s after) (served : Served (fun _ => True) s) :
    Tidy (fun _ => True) (fun _ _ => True) after := by
  have before := served.anyTidy
  have grows := registered.grows
  cases registered with
  | whole done =>
    have kept := Request.perform_tidy (.any fun _ => True) trivial (q := .upload name bytes mode) trivial before.registry
    rw [Registry.Request.perform, Operation.on_map, done] at kept
    exact ⟨kept, fun t member => (before.threads t member).grows grows⟩
  | @last place after found done =>
    have enabled : s.Enabled (.act place) := ⟨_, found, rfl, Host.not_blocked rfl⟩
    exact (served.step (.happens enabled fun _ _ => trivial)).anyTidy

end Registered

/-- A registry with the same setup as another one, and with a single context on it, for which nothing was built yet. -/
def fresh (r : Registry) (m : HostedModule) (strategy : Strategy) : Registry :=
  { create r.deployment r.factory r.resources with
    catalog := Catalog.empty.insert ⟨0, m, strategy⟩
    made := [⟨0, m, strategy⟩] }

theorem fresh_tidy (r : Registry) (m : HostedModule) (strategy : Strategy) :
    (fresh r m strategy).Tidy fun _ _ => True := by
  have made : Registry.Tidy (fun _ _ => True)
      { create r.deployment r.factory r.resources with made := [⟨0, m, strategy⟩] } :=
    ⟨⟨rfl, trivial⟩, fun _ _ => trivial, .empty, fun name c found => by simp [create, get?] at found, by simp [create]⟩
  exact made.insert List.mem_cons_self

/-- Wherever a context stands that needs no artifact and no file, calls of it give the same. -/
theorem callByName_eq {trait trait' : Trait} {r r' : Registry} (tidy : r.Tidy trait) (tidy' : r'.Tidy trait')
    (factory : r'.factory = r.factory) {c c' : Context} (found : r.get? name = some c) (found' : r'.get? name = some c')
    (hosted : c'.hosted = c.hosted) (strategy : c'.strategy = c.strategy) (payload : c.hosted.payload.isSome)
    (other : c.strategy.backend ≠ .precompiled) (files files' : Files) (function : String) (arguments : List Value) :
    ((callByName files name function arguments).on r).1 = ((callByName files' name function arguments).on r').1 := by
  have resolved := tidy.resolve_unprebuilt (tidy.registered name c found) payload other files
  have resolved' := tidy'.resolve_unprebuilt (tidy'.registered name c' found') (hosted ▸ payload) (strategy ▸ other) files'
  -- The handles are built of the same parts, and report failures under the same name.
  have same : freshHandle r'.factory c' = freshHandle r.factory c := by
    simp only [freshHandle, Context.name, factory, hosted, strategy]
  obtain ⟨_, outcome⟩ := callByName_of_found found files function arguments
  obtain ⟨_, outcome'⟩ := callByName_of_found found' files' function arguments
  rw [outcome, outcome', resolved, resolved', same, factory]

/-- Until its name is written again, an upload is what stands under the name, which reloads do not change, and calls run
its bytes: whatever happened before and happens meanwhile, they give what they would give on a registry without artifacts
and without a past on which a context was made of these bytes, with the same intent and the same strategy. So do the
responses to calls over the network. -/
theorem uploads_are_served {after : Host} (served : Served (fun _ => True) s)
    (registered : Registered name bytes mode c s after) :
    ∃ payload, Payload.parse name bytes = .ok payload ∧ ∀ later, Relation.ReflTransGen (Spares name) after later →
      later.registry.get? name = some c ∧
      (∀ files, (refresh files name).on later.registry = (.ok false, later.registry)) ∧
      (∀ files files' function arguments,
        ((callByName files name function arguments).on later.registry).1 =
          ((callByName files' name function arguments).on
            (fresh s.registry ⟨name, .dynamic, some payload, none, c.hosted.intent⟩ c.strategy)).1) ∧
      ∀ admin files files' stamp request function arguments,
        callOf? admin request = some (name, function, arguments) →
          ((respond admin files stamp request).run later.registry).1 =
            ((respond admin files' stamp request).run
              (fresh s.registry ⟨name, .dynamic, some payload, none, c.hosted.intent⟩ c.strategy)).1 := by
  obtain ⟨payload, parsed, same, other⟩ := registered.uploaded served
  have sourceless : c.hosted.source = none := by rw [same]
  refine ⟨payload, parsed, fun later path => ?_⟩
  -- The context stays registered, and the host stays tidy.
  have lasting : later.registry.get? name = some c ∧ Tidy (fun _ => True) (fun _ _ => True) later ∧
      Grows s.registry later.registry := by
    induction path with
    | refl => exact ⟨registered.found ⟨payload, parsed, same, other⟩, registered.tidy served, registered.grows⟩
    | tail _ spares ih =>
      obtain ⟨found, tidy, grows⟩ := ih
      exact ⟨spares.retains sourceless found, tidy.step (.any _) (fun _ _ _ _ _ _ => trivial) spares.step,
        grows.trans spares.step.grows⟩
  obtain ⟨found, tidy, grows⟩ := lasting
  let d : Context := ⟨0, ⟨name, .dynamic, some payload, none, c.hosted.intent⟩, c.strategy⟩
  have found' : (fresh s.registry d.hosted d.strategy).get? name = some d := by simp [fresh, get?, d, Context.name]
  have calls : ∀ files files' function arguments, ((callByName files name function arguments).on later.registry).1 =
      ((callByName files' name function arguments).on (fresh s.registry d.hosted d.strategy)).1 := by
    intro files files' function arguments
    exact callByName_eq tidy.registry (fresh_tidy s.registry d.hosted d.strategy) grows.factory.symm found found'
      same.symm rfl (by rw [same]; rfl) other files files' function arguments
  have still := refresh_of_sourceless found sourceless
  have still' := refresh_of_sourceless found' rfl
  refine ⟨found, still, calls, fun admin files files' stamp request function arguments asked => ?_⟩
  rw [respond_of_call asked (still files), respond_of_call asked (still' files'), calls files files' function arguments]

/-- An upload takes the place of an empty module for whose name there is an artifact. After a call it still adds five and
three. -/
theorem uploads_are_served_after_call :
    ∃ (s after later : Host) (c : Context), Served (fun _ => True) s ∧ s.registry.artifacts.contains "sum" ∧
      s.registry.catalog.names = ["sum"] ∧ Registered "sum" addition none c s after ∧
      Relation.ReflTransGen (Spares "sum") after later ∧
      ((callByName .empty "sum" "add" [.i32 5, .i32 3]).on later.registry).1.toOption.map
        (fun served => (served.1, served.2.values)) = some (.compileNow, [.i32 8]) := by
  let new : Registry := create .prodJit .standard .empty
  let supplied : Registry := ((Registry.Request.addArtifact "sum" (.refused "none")).perform.on new).2
  let occupied : Registry := ((Registry.Request.upload "sum" Payload.smallest none).perform.on supplied).2
  have start : Resting (fun _ => True) new := .create _ _ _
  have supplying : Resting (fun _ => True) supplied := start.perform trivial trivial
  obtain ⟨threads, _, served⟩ : Resting (fun _ => True) occupied := supplying.perform trivial trivial
  -- The second upload succeeds, with the default intent.
  obtain ⟨c, made, parts⟩ := Option.map_eq_some_iff.mp (by decide +kernel :
    ((registerDynamic "sum" addition none).on occupied).1.toOption.map (fun c => (c.hosted.intent, c.strategy)) =
      some (Intent.standard, Strategy.compileNow))
  let updated : Registry := ((registerDynamic "sum" addition none).on occupied).2
  have registered : Registered "sum" addition none c ⟨occupied, threads⟩ ⟨updated, threads⟩ :=
    .whole (Prod.ext (eq_ok_of_toOption made) rfl)
  -- A call takes its handle.
  let call : Request := ⟨"POST", "/modules/sum/call/add", [], .empty⟩
  have path : call.path = "/modules/sum/call/add" := by decide +kernel
  have found : Route.ofPath? none call.path = some (.function "sum" "add") := by
    rw [path, Route.ofPath?_of_segments 30 (by decide +kernel : _ = some ["", "modules", "sum", "call", "add"])]
    rfl
  have later := Relation.ReflTransGen.single
    (Spares.answers none .empty ⟨"1", 7⟩ call (s := ⟨updated, threads⟩) fun _ writes => by
      simp [Request.Writes, found] at writes : Spares "sum" _ _)
  obtain ⟨payload, parsed, serves⟩ := uploads_are_served served registered
  -- The module adds on its own.
  have adds : ((callByName .empty "sum" "add" [.i32 5, .i32 3]).on
      (fresh occupied ⟨"sum", .dynamic, (Payload.parse "sum" addition).toOption, none, .standard⟩ .compileNow)).1.toOption.map
        (fun served => (served.1, served.2.values)) = some (.compileNow, [.i32 8]) := by decide +kernel
  rw [parsed] at adds
  obtain ⟨intent, strategy⟩ := Prod.mk.inj parts
  refine ⟨_, _, _, c, served, (by decide +kernel : occupied.artifacts.contains "sum"),
    (by decide +kernel : occupied.catalog.names = ["sum"]), registered, later, ?_⟩
  obtain ⟨_, _, calls, _⟩ := serves _ later
  rw [calls .empty .empty "add" [.i32 5, .i32 3], intent, strategy]
  exact adds

end Http

end WasmHost
