import WasmHost.Proofs.Registry.Provenance
import WasmHost.Proofs.Registry.Selection

/-! Overlap: what is left of the declared modules if they are loaded several times at once, step by step in any order. -/

namespace WasmHost

/-- What counts of a context apart from its identity. -/
def Context.body (c : Context) : HostedModule × Strategy := (c.hosted, c.strategy)

/-- Two catalogs hold the same modules with the same strategies, in the same order. -/
structure Catalog.Alike (c d : Catalog) : Prop where
  order : c.order = d.order
  contexts : ∀ name, (c.get? name).map (·.body) = (d.get? name).map (·.body)

namespace Catalog.Alike

variable {c d e : Catalog}

theorem refl (c : Catalog) : c.Alike c := ⟨rfl, fun _ => rfl⟩

theorem trans (first : c.Alike d) (last : d.Alike e) : c.Alike e :=
  ⟨first.order.trans last.order, fun name => (first.contexts name).trans (last.contexts name)⟩

theorem symm (alike : c.Alike d) : d.Alike c := ⟨alike.order.symm, fun name => (alike.contexts name).symm⟩

theorem contains (alike : c.Alike d) (name : String) : c.contains name = d.contains name := by
  have same := congrArg Option.isSome (alike.contexts name)
  rwa [Option.isSome_map, Option.isSome_map] at same

/-- Contexts that only differ in their identities may be put in. -/
theorem insert (alike : c.Alike d) {x y : Context} (same : x.body = y.body) : (c.insert x).Alike (d.insert y) := by
  have named : x.name = y.name := congrArg (·.1.name) same
  refine ⟨?_, fun name => ?_⟩
  · -- Whether the name is new decides the order, and it is new in both or in none.
    simp only [Catalog.insert, named, alike.contains, alike.order]
  · rw [get?_insert, get?_insert, named]
    split
    · rw [Option.map_some, Option.map_some, same]
    · exact alike.contexts name

end Catalog.Alike

namespace Registry

/-! ### One loading -/

/-- Two registries agree in all that loading declared modules depends on. -/
structure Agrees (r other : Registry) : Prop where
  deployment : r.deployment = other.deployment
  resources : r.resources = other.resources
  artifacts : r.artifacts = other.artifacts
  configured : r.configured = other.configured

theorem Agrees.trans {r middle other : Registry} (first : Agrees r middle) (last : Agrees middle other) :
    Agrees r other :=
  ⟨first.deployment.trans last.deployment, first.resources.trans last.resources,
    first.artifacts.trans last.artifacts, first.configured.trans last.configured⟩

theorem Agrees.symm {r other : Registry} (agrees : Agrees r other) : Agrees other r :=
  ⟨agrees.deployment.symm, agrees.resources.symm, agrees.artifacts.symm, agrees.configured.symm⟩

/-- Whatever leaves the artifacts leaves what loading depends on. -/
theorem Within.agrees {scope : Scope} {r after : Registry} (within : Within scope r after)
    (supplies : scope.artifacts = false) : Agrees r after :=
  ⟨within.deployment.symm, within.resources.symm, (within.artifacts supplies).symm, (within.configured supplies).symm⟩

/-- Publishing the same artifacts leaves two registries that agree. -/
theorem Agrees.publish {r other : Registry} (agrees : Agrees r other) (files : List (String × Path)) :
    Agrees ((publish files).on r).2 ((publish files).on other).2 := by
  obtain ⟨deployment, resources, artifacts, configured⟩ := agrees
  refine ⟨deployment, resources, ?_, rfl⟩
  simp only [Registry.publish, Operation.on_modify, artifacts, configured]

/-- Declared modules that are ready twice, from registries that agree. -/
structure Staged.Alike (ready other : Staged) : Prop where
  artifacts : ready.artifacts = other.artifacts
  report : ready.report = other.report
  catalog : ready.catalog.Alike other.catalog

/-- A module is made ready on one registry as on another one. -/
theorem contextWith_agrees {view : Artifacts} {m : HostedModule} {r after r' : Registry} {c : Context}
    (deployment : r.deployment = r'.deployment) (made : (contextWith view m).on r = (.ok c, after)) :
    ∃ c' after', (contextWith view m).on r' = (.ok c', after') ∧ c.body = c'.body := by
  -- The deployment and the view decide the strategy; only the identity comes from elsewhere.
  obtain ⟨_, same, _, selected⟩ := contextWith_eq_ok made
  rw [contextWith_on, ← deployment]
  rcases outcome : Strategy.select r.deployment (view.contains m.name) m.name m.origin m.intent with
    ⟨why | strategy, warnings⟩
  · rw [outcome] at selected
    cases selected
  · rw [outcome] at selected
    cases selected
    exact ⟨_, _, rfl, by rw [Context.body, same, Context.body]⟩

/-- A declared module is made ready on one registry as on another one. -/
theorem stageEntry_alike {files : Files} {view : Artifacts} {state next state' : Staged} {entry : Entry}
    {r after r' : Registry} (agrees : Agrees r r') (alike : state.Alike state')
    (done : (stageEntry files view state entry).on r = (.ok next, after)) :
    ∃ next' after', (stageEntry files view state' entry).on r' = (.ok next', after') ∧ next.Alike next' := by
  obtain ⟨_, _, ⟨⟩, done⟩ := Operation.on_bind_eq_ok done
  rw [agrees.resources] at done
  simp only [stageEntry, Operation.on_bind, Operation.on_get]
  split at done
  · -- The context that it becomes differs in its identity only.
    rename_i m loaded
    obtain ⟨c, _, outcome, done⟩ := Operation.on_bind_eq_ok done
    cases done
    obtain ⟨c', after', made, same⟩ := contextWith_agrees agrees.deployment outcome
    simp only [Operation.on_bind, made, Operation.on_pure]
    exact ⟨_, _, rfl, alike.artifacts, by rw [alike.report], alike.catalog.insert same⟩
  · cases done
    simp only [Operation.on_pure]
    exact ⟨_, _, rfl, alike.artifacts, by rw [alike.report], alike.catalog⟩
  · cases done

/-- Then the registries still agree. -/
theorem stageEntry_agrees {files : Files} {view : Artifacts} {state next state' : Staged} {entry : Entry}
    {r after r' : Registry} (related : Agrees r r' ∧ state.Alike state')
    (done : (stageEntry files view state entry).on r = (.ok next, after)) :
    ∃ next' after', (stageEntry files view state' entry).on r' = (.ok next', after') ∧ Agrees after after' ∧
      next.Alike next' := by
  obtain ⟨agrees, alike⟩ := related
  obtain ⟨next', after', done', still⟩ := stageEntry_alike agrees alike done
  -- Making a module ready leaves everything that they agree in.
  have within : Within .quiet r after := (stageEntry_within files view state entry).of_on done
  have within' : Within .quiet r' after' := (stageEntry_within files view state' entry).of_on done'
  exact ⟨next', after', done', (within.agrees rfl).symm.trans (agrees.trans (within'.agrees rfl)), still⟩

/-- What is made ready does not depend on anything but what the registries agree in. -/
theorem stage_alike {files : Files} {entries : List Entry} {r after r' : Registry} {ready : Staged}
    (agrees : Agrees r r') (staged : (stage files entries).on r = (.ok ready, after)) :
    ∃ ready' after', (stage files entries).on r' = (.ok ready', after') ∧ ready.Alike ready' := by
  simp only [stage, Operation.on_bind, Operation.on_get, agrees.artifacts] at staged ⊢
  obtain ⟨ready', after', staged', _, alike⟩ := Operation.foldlM_related staged
    (fun state now state' now' => Agrees now now' ∧ Staged.Alike state state') ⟨agrees, rfl, rfl, .refl _⟩
    stageEntry_agrees
  exact ⟨ready', after', staged', alike⟩

/-- What was made ready on one registry is loaded on another one that agrees. -/
theorem init_of_agrees {files : Files} {entries : List Entry} {r after r' : Registry} {ready : Staged}
    (agrees : Agrees r r') (staged : (stage files entries).on r = (.ok ready, after)) :
    ∃ last, (Registry.init files entries).on r' = (.ok ready.report, last) ∧
      Agrees ((publish (declared entries)).on r).2 last ∧ ready.catalog.Alike last.catalog := by
  obtain ⟨ready', after', staged', alike⟩ := stage_alike agrees staged
  have quiet : Within .quiet r' after' := (stage_within files entries).of_on staged'
  have pending : ready'.artifacts = declared entries := (stage_staging staged').pending
  refine ⟨{ ((publish ready'.artifacts).on after').2 with catalog := ready'.catalog }, ?_, ?_, alike.catalog⟩
  · rw [init_on staged', alike.report]
  · -- Publishing comes after making ready, which leaves the artifacts.
    have published := (agrees.trans (quiet.agrees rfl)).publish (declared entries)
    rw [pending]
    exact ⟨published.deployment, published.resources, published.artifacts, published.configured⟩

/-! ### Schedules -/

/-- The artifacts of declared modules are published, by a thread at some place. -/
structure Publication where
  place : Nat
  files : Files
  entries : List Entry
  /-- What the thread had made ready. -/
  ready : Staged
  /-- The registry that it found when it published. -/
  found : Registry

namespace Publication

/-- The request that the thread serves. -/
def request (p : Publication) : Request := .init p.files p.entries

/-- What was made ready is what would be made ready now: whatever others have published since has changed no strategy. -/
def UpToDate (p : Publication) : Prop :=
  ∃ ready after, (stage p.files p.entries).on p.found = (.ok ready, after) ∧ ready.catalog.Alike p.ready.catalog

/-- If nothing that it depends on has changed since the modules were made ready, a publication is up to date. -/
theorem upToDate_of_agrees {p : Publication} {r after : Registry}
    (staged : (stage p.files p.entries).on r = (.ok p.ready, after)) (agrees : Agrees r p.found) : p.UpToDate := by
  obtain ⟨ready', after', staged', alike⟩ := stage_alike agrees staged
  exact ⟨ready', after', staged', alike.catalog.symm⟩

end Publication

/-- The artifacts after several publications, one after the other. -/
def published (r : Registry) (trail : List Publication) : Registry :=
  trail.foldl (fun r p => ((publish (declared p.entries)).on r).2) r

/-- Clients only load declared modules, in any order of their steps. What is remembered is who has published, in order,
and whose catalog was the last to take its place. Every interleaving is such a schedule (`Schedule.exists_of_path`). -/
inductive Schedule (r : Registry) : List Publication → Option Publication → Host → Prop where
  | start : Schedule r [] none ⟨r, []⟩
  /-- A client asks. -/
  | asks {trail : List Publication} {current : Option Publication} {s : Host} (schedule : Schedule r trail current s)
      (files : Files) (entries : List Entry) : Schedule r trail current (s.next (.ask (.init files entries)))
  /-- A thread makes its modules ready, or fails. -/
  | stages {trail : List Publication} {current : Option Publication} {s : Host} (schedule : Schedule r trail current s)
      {place : Nat} {files : Files} {entries : List Entry}
      (waits : s.threads[place]? = some ⟨.init files entries, .asked⟩) : Schedule r trail current (s.next (.act place))
  /-- A thread publishes its artifacts. -/
  | publishes {trail : List Publication} {current : Option Publication} {s : Host}
      (schedule : Schedule r trail current s) {place : Nat} {files : Files} {entries : List Entry} {ready : Staged}
      (waits : s.threads[place]? = some ⟨.init files entries, .staged ready⟩) :
      Schedule r (trail ++ [⟨place, files, entries, ready, s.registry⟩]) current (s.next (.act place))
  /-- A thread that has published swaps the catalog. -/
  | swaps {trail : List Publication} {current : Option Publication} {s : Host} (schedule : Schedule r trail current s)
      {p : Publication} (known : p ∈ trail)
      (waits : s.threads[p.place]? = some ⟨.init p.files p.entries, .published p.ready⟩) :
      Schedule r trail (some p) (s.next (.act p.place))

/-- What is remembered of the thread at a place. -/
inductive Recorded (trail : List Publication) (place : Nat) : Thread → Prop where
  | asked (files : Files) (entries : List Entry) : Recorded trail place ⟨.init files entries, .asked⟩
  /-- What is ready has the declared artifacts. -/
  | staged (files : Files) {entries : List Entry} {ready : Staged} (pending : ready.artifacts = declared entries) :
      Recorded trail place ⟨.init files entries, .staged ready⟩
  /-- Whoever has published is remembered. -/
  | published {p : Publication} (known : p ∈ trail) (here : p.place = place) :
      Recorded trail place ⟨.init p.files p.entries, .published p.ready⟩
  | finished (files : Files) (entries : List Entry) (outcome : Except HostError Answer) :
      Recorded trail place ⟨.init files entries, .finished outcome⟩

theorem Recorded.later {trail : List Publication} {place : Nat} {t : Thread} (recorded : Recorded trail place t)
    (p : Publication) : Recorded (trail ++ [p]) place t := by
  cases recorded with
  | published known here => exact .published (List.mem_append_left _ known) here
  | asked => exact .asked _ _
  | staged _ pending => exact .staged _ pending
  | finished => exact .finished _ _ _

/-- A thread takes its place. -/
theorem recorded_set {trail : List Publication} {threads : List Thread}
    (recorded : ∀ place t, threads[place]? = some t → Recorded trail place t) {place : Nat} {new : Thread}
    (now : Recorded trail place new) :
    ∀ other t, (threads.set place new)[other]? = some t → Recorded trail other t := by
  intro other t found
  -- Only the thread at this place is another one.
  rw [List.getElem?_set] at found
  split at found
  · rename_i here
    split at found
    · cases found
      exact here ▸ now
    · cases found
  · exact recorded other t found

/-- Whether a request has published its artifacts. -/
def Stage.hasPublished {q : Request} : Stage q → Bool
  | .published _ | .finished (.ok _) => true
  | _ => false

/-- The requests that have published their artifacts. -/
def publishers (threads : List Thread) : List Request :=
  (threads.filter fun t => t.stage.hasPublished).map (·.request)

section Publishers

variable {threads : List Thread} {place : Nat} {q : Request} {stage later : Stage q}

/-- Only one thread changes at a time. -/
theorem exists_split (found : threads[place]? = some ⟨q, stage⟩) (later : Stage q) :
    ∃ before after, threads = before ++ ⟨q, stage⟩ :: after ∧
      threads.set place ⟨q, later⟩ = before ++ ⟨q, later⟩ :: after := by
  obtain ⟨inside, here⟩ := List.getElem?_eq_some_iff.mp found
  obtain ⟨before, after, split, _, set⟩ : ∃ before after, threads = before ++ threads[place] :: after ∧
      before.length = place ∧ threads.set place ⟨q, later⟩ = before ++ ⟨q, later⟩ :: after := List.exists_of_set inside
  exact ⟨before, after, here ▸ split, set⟩

/-- A step that does not publish leaves the requests that have. -/
theorem publishers_set_same (found : threads[place]? = some ⟨q, stage⟩) (later : Stage q)
    (same : later.hasPublished = stage.hasPublished) :
    publishers (threads.set place ⟨q, later⟩) = publishers threads := by
  obtain ⟨before, after, split, set⟩ := exists_split found later
  rw [set, split]
  cases counts : stage.hasPublished <;> simp [publishers, same, counts]

/-- A step that publishes adds one request. -/
theorem publishers_set_new (found : threads[place]? = some ⟨q, stage⟩) (waited : stage.hasPublished = false)
    (counts : later.hasPublished = true) :
    (publishers threads ++ [q]).Perm (publishers (threads.set place ⟨q, later⟩)) := by
  obtain ⟨before, after, split, set⟩ := exists_split found later
  rw [set, split]
  simp only [publishers, List.filter_append, List.filter_cons, waited, counts, List.map_append, if_true, List.map_cons,
    Bool.false_eq_true, if_false]
  exact (List.perm_append_singleton _ _).trans List.perm_middle.symm

end Publishers

namespace Host

variable {s : Host} {place : Nat} {files : Files} {entries : List Entry} {ready : Staged}

/-- Modules are made ready. -/
theorem next_staged {after : Registry} (waits : s.threads[place]? = some ⟨.init files entries, .asked⟩)
    (staged : (stage files entries).on s.registry = (.ok ready, after)) :
    s.next (.act place) = ⟨after, s.threads.set place ⟨.init files entries, .staged ready⟩⟩ := by
  refine next_act waits ?_
  simp only [Thread.next, Stage.advance, Request.first, Operation.on_map, staged]
  rfl

/-- That leaves all that is registered, and leads to the next stage or to a failure. -/
theorem next_stages (waits : s.threads[place]? = some ⟨.init files entries, .asked⟩) :
    ∃ after later, s.next (.act place) = ⟨after, s.threads.set place ⟨.init files entries, later⟩⟩ ∧
      Within .quiet s.registry after ∧
        ((∃ ready, later = .staged ready ∧ ready.artifacts = declared entries) ∨ ∃ why, later = .finished (.error why)) := by
  have quiet : Within .quiet s.registry ((stage files entries).on s.registry).2 := stage_within files entries s.registry
  -- The stage fails, or it has made the declared modules ready.
  rcases staged : (stage files entries).on s.registry with ⟨why | ready, after⟩
  · have step : Thread.next ⟨.init files entries, .asked⟩ s.registry =
        (⟨.init files entries, .finished (.error why)⟩, after) := by
      simp only [Thread.next, Stage.advance, Request.first, Operation.on_map, staged]
      rfl
    rw [staged] at quiet
    exact ⟨after, _, next_act waits step, quiet, .inr ⟨why, rfl⟩⟩
  · rw [staged] at quiet
    exact ⟨after, _, next_staged waits staged, quiet, .inl ⟨ready, rfl, (stage_staging staged).pending⟩⟩

theorem next_publishes (waits : s.threads[place]? = some ⟨.init files entries, .staged ready⟩) :
    s.next (.act place) =
      ⟨((publish ready.artifacts).on s.registry).2, s.threads.set place ⟨.init files entries, .published ready⟩⟩ :=
  next_act waits rfl

theorem next_swaps (waits : s.threads[place]? = some ⟨.init files entries, .published ready⟩) :
    s.next (.act place) = ⟨{ s.registry with catalog := ready.catalog },
      s.threads.set place ⟨.init files entries, .finished (.ok (.report ready.report))⟩⟩ :=
  next_act waits rfl

/-- Whether an event belongs to loadings of declared modules. -/
def OnlyLoads (_ : Host) : Event → Prop
  | .ask q => ∃ files entries, q = .init files entries
  | .act _ => True

end Host

namespace Schedule

variable {r : Registry} {trail : List Publication} {current : Option Publication} {s : Host}

/-- All threads are remembered. -/
theorem recorded (schedule : Schedule r trail current s) :
    ∀ place t, s.threads[place]? = some t → Recorded trail place t := by
  -- Only the thread that acts is recorded anew, and what was remembered of the others stays.
  induction schedule with
  | start => simp
  | asks _ files entries ih =>
    intro place t found
    rw [Host.next, List.getElem?_append] at found
    split at found
    · exact ih place t found
    · cases List.mem_singleton.mp (List.mem_of_getElem? found)
      exact .asked _ _
  | stages _ waits ih =>
    obtain ⟨after, later, same, _, outcome⟩ := Host.next_stages waits
    rw [same]
    rcases outcome with ⟨ready, rfl, pending⟩ | ⟨why, rfl⟩
    · exact recorded_set ih (.staged _ pending)
    · exact recorded_set ih (.finished _ _ _)
  | @publishes trail current s _ place files entries ready waits ih =>
    rw [Host.next_publishes waits]
    have known : ⟨place, files, entries, ready, s.registry⟩ ∈ trail ++ [⟨place, files, entries, ready, s.registry⟩] := by
      simp
    exact recorded_set (fun place t found => (ih place t found).later _) (.published known rfl)
  | swaps _ _ waits ih =>
    rw [Host.next_swaps waits]
    exact recorded_set ih (.finished _ _ _)

/-- What is ready has the declared artifacts. -/
theorem pending (schedule : Schedule r trail current s) {place : Nat} {files : Files} {entries : List Entry}
    {ready : Staged} (waits : s.threads[place]? = some ⟨.init files entries, .staged ready⟩) :
    ready.artifacts = declared entries := by
  cases schedule.recorded place _ waits with
  | staged _ pending => exact pending

/-- The artifacts are those of all publications, in their order. -/
theorem supplies (schedule : Schedule r trail current s) : Agrees (published r trail) s.registry := by
  -- Nothing but a publication changes them.
  induction schedule with
  | start => exact ⟨rfl, rfl, rfl, rfl⟩
  | asks _ _ _ ih => exact ih
  | stages _ waits ih =>
    obtain ⟨after, later, same, quiet, _⟩ := Host.next_stages waits
    rw [same]
    exact ih.trans (quiet.agrees rfl)
  | publishes before waits ih =>
    have pending := before.pending waits
    rw [Host.next_publishes waits, pending, published, List.foldl_append, List.foldl_cons, List.foldl_nil]
    exact ih.publish _
  | swaps _ _ waits ih =>
    rw [Host.next_swaps waits]
    exact ⟨ih.deployment, ih.resources, ih.artifacts, ih.configured⟩

/-- The catalog is the one that was swapped in last. -/
theorem catalog (schedule : Schedule r trail current s) :
    s.registry.catalog = (current.map (·.ready.catalog)).getD r.catalog := by
  -- Nothing but a swap changes it.
  induction schedule with
  | start => rfl
  | asks _ _ _ ih => exact ih
  | stages _ waits ih =>
    obtain ⟨after, later, same, quiet, _⟩ := Host.next_stages waits
    rw [same]
    exact (quiet.catalog rfl).trans ih
  | publishes _ waits ih =>
    rw [Host.next_publishes waits]
    exact ih
  | swaps _ _ waits _ => rw [Host.next_swaps waits, Option.map_some, Option.getD_some]

/-- If all publications are up to date, then they amount to loadings in the same order: the artifacts are the same, and
the catalog would be the one that was made ready for the last of them. -/
theorem in_turn (schedule : Schedule r trail current s) (upToDate : ∀ p ∈ trail, p.UpToDate) :
    Agrees s.registry (inTurn r (trail.map (·.request))) ∧
      ((trail.getLast?.map (·.ready.catalog)).getD r.catalog).Alike (inTurn r (trail.map (·.request))).catalog := by
  -- A publication is where a whole loading is taken to happen; no other step adds one.
  induction schedule with
  | start => exact ⟨⟨rfl, rfl, rfl, rfl⟩, .refl _⟩
  | asks _ _ _ ih => exact ih upToDate
  | stages _ waits ih =>
    obtain ⟨after, later, same, quiet, _⟩ := Host.next_stages waits
    obtain ⟨agrees, alike⟩ := ih upToDate
    rw [same]
    exact ⟨(quiet.agrees rfl).symm.trans agrees, alike⟩
  | @publishes trail current s before place files entries ready waits ih =>
    obtain ⟨agrees, _⟩ := ih fun p member => upToDate p (List.mem_append_left _ member)
    obtain ⟨ready', after, staged, still⟩ := upToDate ⟨place, files, entries, ready, s.registry⟩ (by simp)
    obtain ⟨last, done, agrees', alike⟩ := init_of_agrees agrees staged
    have pending := before.pending waits
    have turn : inTurn r (trail.map (·.request) ++ [.init files entries]) = last := by
      rw [inTurn_concat, Request.perform, Operation.on_map, done]
    rw [List.map_append, List.map_singleton, Publication.request, turn, Host.next_publishes waits, pending,
      List.getLast?_concat]
    exact ⟨agrees', still.symm.trans alike⟩
  | swaps _ _ waits ih =>
    obtain ⟨agrees, alike⟩ := ih upToDate
    rw [Host.next_swaps waits]
    exact ⟨⟨agrees.deployment, agrees.resources, agrees.artifacts, agrees.configured⟩, alike⟩

/-- There is one publication for every request that has published. -/
theorem counted (schedule : Schedule r trail current s) : (trail.map (·.request)).Perm (publishers s.threads) := by
  -- A publication adds its request on both sides, at the end of one and somewhere in the other.
  induction schedule with
  | start => exact .refl _
  | asks _ files entries ih =>
    have same : ∀ threads : List Thread, publishers (threads ++ [⟨.init files entries, .asked⟩]) = publishers threads := by
      intro threads
      simp [publishers, Stage.hasPublished]
    rw [Host.next, same]
    exact ih
  | stages _ waits ih =>
    obtain ⟨after, later, same, _, outcome⟩ := Host.next_stages waits
    have uncounted : later.hasPublished = false := by
      rcases outcome with ⟨ready, rfl, _⟩ | ⟨why, rfl⟩ <;> rfl
    rw [same, publishers_set_same waits later uncounted]
    exact ih
  | publishes _ waits ih =>
    rw [Host.next_publishes waits, List.map_append, List.map_singleton]
    exact (ih.append_right _).trans (publishers_set_new waits rfl rfl)
  | swaps _ _ waits ih =>
    rw [Host.next_swaps waits]
    exact ih.trans (.of_eq (publishers_set_same waits (.finished (.ok _)) rfl).symm)

/-- Once all clients have their answers, the publications are those of the requests that were successful. -/
theorem served (schedule : Schedule r trail current s) (answered : ∀ t ∈ s.threads, t.isFinished) :
    (trail.map (·.request)).Perm s.served := by
  have same : publishers s.threads = s.served := by
    refine congrArg (List.map _) (List.filter_congr fun t member => ?_)
    have finished := answered t member
    obtain ⟨q, stage⟩ := t
    -- Whoever has an answer was successful exactly if it has published.
    cases stage with
    | finished outcome => cases outcome <;> rfl
    | _ => cases finished
  rw [← same]
  exact schedule.counted

/-- A schedule is an interleaving. -/
theorem path (schedule : Schedule r trail current s) : Host.Path Host.OnlyLoads ⟨r, []⟩ s := by
  induction schedule with
  | start => exact .refl
  | asks _ files entries ih => exact ih.tail ⟨.ask (.init files entries), trivial, ⟨files, entries, rfl⟩, rfl⟩
  | stages _ waits ih => exact ih.tail ⟨.act _, ⟨_, waits, rfl, Host.not_blocked rfl⟩, trivial, rfl⟩
  | publishes _ waits ih => exact ih.tail ⟨.act _, ⟨_, waits, rfl, Host.not_blocked rfl⟩, trivial, rfl⟩
  | swaps _ _ waits ih => exact ih.tail ⟨.act _, ⟨_, waits, rfl, Host.not_blocked rfl⟩, trivial, rfl⟩

/-- Every interleaving is a schedule. -/
theorem exists_of_path (path : Host.Path Host.OnlyLoads ⟨r, []⟩ s) : ∃ trail current, Schedule r trail current s := by
  induction path with
  | refl => exact ⟨_, _, .start⟩
  | tail _ step ih =>
    obtain ⟨trail, current, schedule⟩ := ih
    obtain ⟨e, enabled, only, rfl⟩ := step
    cases e with
    | ask q =>
      obtain ⟨files, entries, rfl⟩ := only
      exact ⟨_, _, schedule.asks files entries⟩
    | act place =>
      obtain ⟨t, found, waiting, _⟩ := enabled
      -- The stage of the thread tells which step it takes.
      cases schedule.recorded place t found with
      | asked => exact ⟨_, _, schedule.stages found⟩
      | staged => exact ⟨_, _, schedule.publishes found⟩
      | published known here =>
        subst here
        exact ⟨_, _, schedule.swaps known found⟩
      | finished => cases waiting

end Schedule

/-- However several loadings of declared modules overlap, the artifacts that are left are those of an order of the
successful ones, the order in which they have published; and the catalog is the one that was swapped in last, as it was
made ready. So the entries of one loading may be left with the artifacts of another one. But if the last to publish is
also the last to swap, and if each one would still make the same modules ready when it publishes, then all three tables
are those of the loadings one after the other, in that order. -/
theorem loads_in_turn {r : Registry} {trail : List Publication} {current : Option Publication} {s : Host}
    (schedule : Schedule r trail current s) :
    ((∀ t ∈ s.threads, t.isFinished) → (trail.map (·.request)).Perm s.served) ∧
      s.registry.artifacts = (published r trail).artifacts ∧ s.registry.configured = (published r trail).configured ∧
      s.registry.catalog = (current.map (·.ready.catalog)).getD r.catalog ∧
      ((∀ p ∈ trail, p.UpToDate) → trail.getLast? = current →
        s.registry.artifacts = (inTurn r (trail.map (·.request))).artifacts ∧
          s.registry.configured = (inTurn r (trail.map (·.request))).configured ∧
          s.registry.catalog.Alike (inTurn r (trail.map (·.request))).catalog) := by
  -- Artifacts and names follow from what was published, and the catalog from what was swapped in.
  have supplies := schedule.supplies
  refine ⟨schedule.served, supplies.artifacts.symm, supplies.configured.symm, schedule.catalog, fun upToDate last => ?_⟩
  obtain ⟨agrees, alike⟩ := schedule.in_turn upToDate
  rw [last, ← schedule.catalog] at alike
  exact ⟨agrees.artifacts, agrees.configured, alike⟩

/-! ### Two loadings -/

section Two

variable {r after after' : Registry} {files files' : Files} {entries entries' : List Entry} {ready ready' : Staged}

theorem first_of_two (r : Registry) (t u : Thread) : (Host.mk r [t, u]).threads[0]? = some t := rfl

theorem second_of_two (r : Registry) (t u : Thread) : (Host.mk r [t, u]).threads[1]? = some u := rfl

namespace Schedule

variable {trail : List Publication} {current : Option Publication} {s : Host} {place : Nat}

/-- The host after modules were made ready, in full. -/
theorem to_staged (schedule : Schedule r trail current s)
    (waits : s.threads[place]? = some ⟨.init files entries, .asked⟩)
    (staged : (stage files entries).on s.registry = (.ok ready, after)) :
    Schedule r trail current ⟨after, s.threads.set place ⟨.init files entries, .staged ready⟩⟩ :=
  Host.next_staged waits staged ▸ schedule.stages waits

/-- The host after artifacts were published, in full. -/
theorem to_published (schedule : Schedule r trail current s)
    (waits : s.threads[place]? = some ⟨.init files entries, .staged ready⟩) :
    Schedule r (trail ++ [⟨place, files, entries, ready, s.registry⟩]) current
      ⟨((publish ready.artifacts).on s.registry).2, s.threads.set place ⟨.init files entries, .published ready⟩⟩ :=
  Host.next_publishes waits ▸ schedule.publishes waits

/-- The host after the catalog was swapped, in full. -/
theorem to_swapped (schedule : Schedule r trail current s) {p : Publication} (known : p ∈ trail)
    (waits : s.threads[p.place]? = some ⟨.init p.files p.entries, .published p.ready⟩) :
    Schedule r trail (some p) ⟨{ s.registry with catalog := p.ready.catalog },
      s.threads.set p.place ⟨.init p.files p.entries, .finished (.ok (.report p.ready.report))⟩⟩ :=
  Host.next_swaps waits ▸ schedule.swaps known waits

end Schedule

/-- Two loadings publish, the second one on what the first one leaves. -/
def twicePublished (after : Registry) (ready ready' : Staged) : Registry :=
  ((publish ready'.artifacts).on ((publish ready.artifacts).on after).2).2

/-- The publication of the first one. -/
def earlier (after : Registry) (files : Files) (entries : List Entry) (ready : Staged) : Publication :=
  ⟨0, files, entries, ready, after⟩

/-- The publication of the second one. -/
def later (after : Registry) (ready : Staged) (files : Files) (entries : List Entry) (ready' : Staged) : Publication :=
  ⟨1, files, entries, ready', ((publish ready.artifacts).on after).2⟩

/-- Two loadings may both be ready before the first one publishes, and both publish before any of them swaps. -/
theorem both_publish (staged : (stage files entries).on r = (.ok ready, after))
    (staged' : (stage files' entries').on after = (.ok ready', after')) :
    Schedule r [earlier after' files entries ready, later after' ready files' entries' ready'] none
      ⟨twicePublished after' ready ready',
        [⟨.init files entries, .published ready⟩, ⟨.init files' entries', .published ready'⟩]⟩ := by
  -- The steps are taken in turn by the two, and the registry that each one finds is known.
  have asked : Schedule r [] none ⟨r, [⟨.init files entries, .asked⟩, ⟨.init files' entries', .asked⟩]⟩ :=
    (Schedule.start.asks files entries).asks files' entries'
  have once : Schedule r [] none ⟨after, [⟨.init files entries, .staged ready⟩, ⟨.init files' entries', .asked⟩]⟩ :=
    asked.to_staged (first_of_two _ _ _) staged
  have twice : Schedule r [] none
      ⟨after', [⟨.init files entries, .staged ready⟩, ⟨.init files' entries', .staged ready'⟩]⟩ :=
    once.to_staged (second_of_two _ _ _) staged'
  have early : Schedule r [earlier after' files entries ready] none
      ⟨((publish ready.artifacts).on after').2,
        [⟨.init files entries, .published ready⟩, ⟨.init files' entries', .staged ready'⟩]⟩ :=
    twice.to_published (first_of_two _ _ _)
  exact early.to_published (second_of_two _ _ _)

/-- The threads after both have swapped. -/
def bothFinished (files files' : Files) (entries entries' : List Entry) (ready ready' : Staged) : List Thread :=
  [⟨.init files entries, .finished (.ok (.report ready.report))⟩,
    ⟨.init files' entries', .finished (.ok (.report ready'.report))⟩]

/-- The second one may be the last to swap. -/
theorem swap_in_order (staged : (stage files entries).on r = (.ok ready, after))
    (staged' : (stage files' entries').on after = (.ok ready', after')) :
    Schedule r [earlier after' files entries ready, later after' ready files' entries' ready']
      (some (later after' ready files' entries' ready'))
      ⟨{ twicePublished after' ready ready' with catalog := ready'.catalog },
        bothFinished files files' entries entries' ready ready'⟩ := by
  -- Both have published; now the first one swaps, and then the second one.
  have half : Schedule r [earlier after' files entries ready, later after' ready files' entries' ready']
      (some (earlier after' files entries ready))
      ⟨{ twicePublished after' ready ready' with catalog := ready.catalog },
        [⟨.init files entries, .finished (.ok (.report ready.report))⟩, ⟨.init files' entries', .published ready'⟩]⟩ :=
    (both_publish staged staged').to_swapped List.mem_cons_self (first_of_two _ _ _)
  exact half.to_swapped (List.mem_cons_of_mem _ List.mem_cons_self) (second_of_two _ _ _)

/-- Or the first one may. -/
theorem swap_out_of_order (staged : (stage files entries).on r = (.ok ready, after))
    (staged' : (stage files' entries').on after = (.ok ready', after')) :
    Schedule r [earlier after' files entries ready, later after' ready files' entries' ready']
      (some (earlier after' files entries ready))
      ⟨{ twicePublished after' ready ready' with catalog := ready.catalog },
        bothFinished files files' entries entries' ready ready'⟩ := by
  -- Both have published; now the second one swaps, and then the first one.
  have half : Schedule r [earlier after' files entries ready, later after' ready files' entries' ready']
      (some (later after' ready files' entries' ready'))
      ⟨{ twicePublished after' ready ready' with catalog := ready'.catalog },
        [⟨.init files entries, .published ready⟩, ⟨.init files' entries', .finished (.ok (.report ready'.report))⟩]⟩ :=
    (both_publish staged staged').to_swapped (List.mem_cons_of_mem _ List.mem_cons_self) (second_of_two _ _ _)
  exact half.to_swapped List.mem_cons_self (first_of_two _ _ _)

/-- The first of two publications is up to date, since nobody has published before it. -/
theorem earlier_upToDate (staged : (stage files entries).on r = (.ok ready, after))
    (staged' : (stage files' entries').on after = (.ok ready', after')) :
    (earlier after' files entries ready).UpToDate := by
  have quiet : Within .quiet r after := (stage_within files entries).of_on staged
  have still : Within .quiet after after' := (stage_within files' entries').of_on staged'
  exact Publication.upToDate_of_agrees staged ((quiet.agrees rfl).trans (still.agrees rfl))

end Two

/-- Without declarations nothing is made ready. -/
def noneReady : Staged := ⟨[], .empty, ⟨[], []⟩⟩

theorem stage_nil (files : Files) (r : Registry) : (stage files []).on r = (.ok noneReady, r) := rfl

/-- Two loadings overlap in all their steps, but the last to publish is the last to swap. -/
theorem loads_in_turn_of_two :
    ∃ (trail : List Publication) (current : Option Publication) (s : Host), Schedule emptyHost trail current s ∧
      trail.map (·.request) = [.init .empty [waitingEntry], .init .empty []] ∧ (∀ t ∈ s.threads, t.isFinished) ∧
      (∀ p ∈ trail, p.UpToDate) ∧ trail.getLast? = current ∧
      s.registry.artifacts = (inTurn emptyHost (trail.map (·.request))).artifacts ∧
      s.registry.configured = (inTurn emptyHost (trail.map (·.request))).configured ∧
      s.registry.catalog.Alike (inTurn emptyHost (trail.map (·.request))).catalog := by
  let m : HostedModule := ⟨"a", .dynamic, none, none, .standard⟩
  let c : Context := ⟨0, m, .compileNow⟩
  let ready : Staged := ⟨declared [waitingEntry], Catalog.empty.insert c, ⟨["a"], []⟩⟩
  let after : Registry := { emptyHost with made := [c] }
  have selected : Strategy.select emptyHost.deployment
      ((emptyHost.artifacts.insertFiles (declared [waitingEntry])).contains m.name) m.name m.origin m.intent =
        (.ok .compileNow, []) := rfl
  have staged : (stage .empty [waitingEntry]).on emptyHost = (.ok ready, after) := stage_singleton rfl selected
  have schedule := swap_in_order staged (stage_nil .empty after)
  have upToDate : ∀ p ∈ [earlier after .empty [waitingEntry] ready, later after ready .empty [] noneReady], p.UpToDate := by
    intro p member
    rcases List.mem_cons.mp member with rfl | last
    · exact earlier_upToDate staged (stage_nil .empty after)
    · -- An empty configuration is the same at all times.
      rw [List.mem_singleton.mp last]
      exact ⟨noneReady, _, stage_nil _ _, .refl _⟩
  obtain ⟨_, _, _, _, serial⟩ := loads_in_turn schedule
  obtain ⟨artifacts, configured, catalog⟩ := serial upToDate rfl
  exact ⟨_, _, _, schedule, rfl, by simp [bothFinished, Thread.isFinished], upToDate, rfl, artifacts, configured, catalog⟩

/-- An empty configuration empties the catalog, whatever was there. -/
theorem inTurn_concat_nil (r : Registry) (requests : List Request) (files : Files) :
    (inTurn r (requests ++ [.init files []])).catalog = .empty := by
  rw [inTurn_concat, Request.perform, Operation.on_map, init_on (stage_nil files _)]
  rfl

/-- On every registry with the resource, a module that is declared with its artifact is made ready with it. -/
theorem stage_smallest {r : Registry} (grows : Grows smallestHost r) :
    ∃ c middle, c.name = "a" ∧ c.origin = .static ∧ c.strategy = .precompiled ∧
      (stage .empty [smallestEntry .fail (some "a.cwasm")]).on r =
        (.ok ⟨[("a", "a.cwasm")], Catalog.empty.insert c, ⟨["a"], []⟩⟩, middle) := by
  obtain ⟨code, parsed⟩ := Payload.exists_code_of_smallest
  -- Resources and deployment are never changed, so whatever grew from the host still has them.
  have embedded : r.resources.embedded.lookup "a.wasm" = some Payload.smallest := by
    rw [grows.resources]
    rfl
  have module := Resources.moduleOfEntry_resource embedded (by decide) parsed .empty "a" .fail (some "a.cwasm")
  have supplied : (r.artifacts.insertFiles (declared [smallestEntry .fail (some "a.cwasm")])).contains "a" := by
    rw [Artifacts.contains_insertFiles]
    exact .inl List.mem_cons_self
  have selected : Strategy.select r.deployment
      ((r.artifacts.insertFiles (declared [smallestEntry .fail (some "a.cwasm")])).contains "a") "a" .static
      ⟨none, .fail, []⟩ = (.ok .precompiled, []) := by
    rw [supplied, grows.deployment]
    rfl
  exact ⟨_, _, rfl, rfl, rfl, stage_singleton module selected⟩

/-- So it is loaded with its artifact, whatever was done before. -/
theorem inTurn_concat_smallest (requests : List Request) :
    (inTurn smallestHost (requests ++ [.init .empty [smallestEntry .fail (some "a.cwasm")]])).artifacts.contains "a" := by
  obtain ⟨c, middle, _, _, _, staged⟩ := stage_smallest (inTurn_grows smallestHost requests)
  rw [inTurn_concat, Request.perform, Operation.on_map, init_on staged]
  exact (publish_contains _ _ "a").mpr (.inl List.mem_cons_self)

/-- If the last to publish swaps first, then the entries of the other loading stay without their artifacts: here a static
module waits for an artifact that is not there. No order of the two would have left it so. -/
theorem loads_mixed_up :
    ∃ s : Host, Host.Path Host.OnlyLoads ⟨smallestHost, []⟩ s ∧
      s.served = [.init .empty [smallestEntry .fail (some "a.cwasm")], .init .empty []] ∧ (∀ t ∈ s.threads, t.isFinished) ∧
      (∃ c, s.registry.get? "a" = some c ∧ c.origin = .static ∧ c.strategy = .precompiled) ∧
      s.registry.artifacts.contains "a" = false ∧
      ∀ order : List Request, order.Perm s.served →
        ¬ (s.registry.artifacts = (inTurn smallestHost order).artifacts ∧
          s.registry.catalog.Alike (inTurn smallestHost order).catalog) := by
  obtain ⟨c, middle, named, static, prebuilt, staged⟩ := stage_smallest (.refl smallestHost)
  have schedule := swap_out_of_order staged (stage_nil .empty middle)
  have quiet : Within .quiet smallestHost middle := (stage_within _ _).of_on staged
  let ready : Staged := ⟨[("a", "a.cwasm")], Catalog.empty.insert c, ⟨["a"], []⟩⟩
  have registered : (Catalog.empty.insert c).get? "a" = some c := by rw [Catalog.get?_insert, if_pos named.symm]
  have retired : (twicePublished middle ready noneReady).artifacts.contains "a" = false := by
    have gone : ¬ ((publish noneReady.artifacts).on ((publish ready.artifacts).on middle).2).2.artifacts.contains "a" := by
      rw [publish_contains]
      rintro (declared | ⟨unconfigured, _⟩)
      · cases declared
      · exact unconfigured List.mem_cons_self
    exact (Bool.not_eq_true _).mp gone
  refine ⟨_, schedule.path, rfl, by simp [bothFinished, Thread.isFinished], ⟨c, registered, static, prebuilt⟩, retired, ?_⟩
  rintro order permuted ⟨artifacts, alike⟩
  -- The last loading of an order decides whether there is a module, and then there is its artifact.
  rcases List.eq_nil_or_concat order with rfl | ⟨earlier, q, split⟩
  · cases permuted.length_eq
  · rw [List.concat_eq_append] at split
    subst split
    rcases List.mem_cons.mp (permuted.subset (List.mem_append_right _ List.mem_cons_self)) with rfl | last
    · -- The module would have been loaded last, and its artifact would be there.
      have present := inTurn_concat_smallest earlier
      rw [← artifacts] at present
      exact absurd present (by rw [retired]; decide)
    · -- The empty configuration would have been loaded last, and there would be no module.
      rw [List.mem_singleton.mp last, inTurn_concat_nil] at alike
      have present := alike.contains "a"
      rw [Catalog.contains, registered] at present
      cases present

end Registry

end WasmHost
