import Mathlib.Logic.Relation
import WasmHost.Proofs.Registry.Request

/-! Interleavings: clients whose requests are served step by step, in any order of their steps. -/

namespace WasmHost.Registry

/-- Where a request stands. Every step up to the next stage holds at most one lock at a time. -/
inductive Stage : Request → Type where
  /-- Nothing was done yet. -/
  | asked {q : Request} : Stage q
  /-- The declared modules are ready, and their artifacts come next. -/
  | staged {files : Files} {entries : List Entry} (ready : Staged) : Stage (.init files entries)
  /-- Their artifacts are registered, and the contexts come next. -/
  | published {files : Files} {entries : List Entry} (ready : Staged) : Stage (.init files entries)
  /-- An upload is allowed so far, and has an intent. -/
  | admitted {name : String} {bytes : ByteArray} {mode : Option ExecutionMode} (inherited : Intent) :
    Stage (.upload name bytes mode)
  /-- The context of an upload is made. -/
  | prepared {name : String} {bytes : ByteArray} {mode : Option ExecutionMode} (c : Context) :
    Stage (.upload name bytes mode)
  /-- The file of a module holds something new. -/
  | reread {files : Files} {name : String} (m : HostedModule) : Stage (.reload files name)
  /-- The context of a reloaded module is made. -/
  | remade {files : Files} {name : String} (c : Context) : Stage (.reload files name)
  /-- A handle is being built. -/
  | building {files : Files} {c : Context} : Stage (.resolve files c)
  /-- The client has its answer. -/
  | finished {q : Request} (outcome : Except HostError Answer) : Stage q

/-- The first step of a request. Most requests are over after it. -/
def Request.first : (q : Request) → Operation (Stage q)
  | .init files entries => .staged <$> stage files entries
  | .upload name _ _ => .admitted <$> inheritedIntent name
  | .reload files name => do
    match ← Registry.reread files name with
    | none => return .finished (.ok (.changed false))
    | some m => return .reread m
  | .resolve _ c => do
    match ← knownHandle c with
    | some handle => return .finished (.ok (.handle handle))
    | none =>
      beginBuild c
      return .building
  -- All other requests are a single step.
  | q => (fun answer => .finished (.ok answer)) <$> q.perform

/-- What the first step of a request may change. -/
def Request.firstScope : Request → Scope
  | .add _ | .replace _ | .remove _ => .contexts
  | .addArtifact .. | .removeArtifact _ => .supplies
  | .resolve .. => .handles
  | .make .. | .init .. | .upload .. | .reload .. | .call .. => .quiet

/-- The next step of a request, which nothing can interrupt. -/
def Stage.advance {q : Request} : Stage q → Operation (Stage q)
  | .asked => q.first
  | .staged ready => do
    publish ready.artifacts
    return .published ready
  | .published ready => do
    updateCatalog fun _ => ready.catalog
    return .finished (.ok (.report ready.report))
  | @Stage.admitted name bytes mode inherited =>
    .prepared <$> contextOfUpload name bytes { inherited with mode := mode.or inherited.mode }
  | .prepared c => do
    insertUpload c
    return .finished (.ok (.context c))
  | .reread m => do
    let context ← createContext m
    warn [.reloading]
    return .remade context
  | .remade c => do
    add c
    return .finished (.ok (.changed true))
  | @Stage.building files c => (fun handle => .finished (.ok (.handle handle))) <$> finishBuild files c
  | .finished outcome => return .finished outcome

/-- What remains to be done if nobody interrupts. -/
def Stage.rest {q : Request} : Stage q → Operation Answer
  | .asked => q.perform
  | .staged ready => do
    publish ready.artifacts
    updateCatalog fun _ => ready.catalog
    return .report ready.report
  | .published ready => do
    updateCatalog fun _ => ready.catalog
    return .report ready.report
  | @Stage.admitted name bytes mode inherited => do
    let context ← contextOfUpload name bytes { inherited with mode := mode.or inherited.mode }
    insertUpload context
    return .context context
  | .prepared c => do
    insertUpload c
    return .context c
  | .reread m => do
    let context ← createContext m
    warn [.reloading]
    add context
    return .changed true
  | .remade c => do
    add c
    return .changed true
  | @Stage.building files c => .handle <$> finishBuild files c
  | .finished outcome => lift outcome

/-- The number of steps that remain at most. -/
def Stage.remaining {q : Request} : Stage q → Nat
  | .asked => 3
  | .staged _ | .admitted _ | .reread _ => 2
  | .published _ | .prepared _ | .remade _ | .building => 1
  | .finished _ => 0

/-- The next step is the first part of what remains. -/
theorem Stage.advance_rest {q : Request} (stage : Stage q) : stage.advance >>= Stage.rest = stage.rest := by
  cases stage with
  | asked =>
    -- Requests of several steps are split where the operation is, and the others are done by the first step.
    cases q with
    | init files entries => simp [advance, rest, Request.first, Request.perform, Registry.init]
    | upload name bytes mode => simp [advance, rest, Request.first, Request.perform, registerDynamic]
    | reload files name =>
      simp only [advance, rest, Request.first, Request.perform, refresh, bind_assoc, map_bind]
      congr 1
      funext found
      cases found <;> simp [rest, lift]
    | resolve files c =>
      simp only [advance, rest, Request.first, Request.perform, Registry.resolve, bind_assoc, map_bind]
      congr 1
      funext found
      cases found <;> simp [rest, lift]
    | make m strategy | add c | replace c | remove name | call h exported arguments | addArtifact name artifact
    | removeArtifact name => simp [advance, rest, Request.first, lift]
  | finished outcome => simp [advance, rest]
  | building => simp [advance, rest, lift]
  | prepared c => simp [advance, rest, lift]
  | _ => simp [advance, rest, lift]

/-- Every step leaves fewer of them. -/
theorem Stage.advance_remaining {q : Request} (stage : Stage q) :
    stage.advance.Yields fun later => later.remaining ≤ stage.remaining - 1 := by
  cases stage with
  | asked =>
    -- Resolutions and reloads may be done at once, and then leave no steps at all.
    cases q with
    | resolve files c =>
      refine .bind_any fun found => ?_
      cases found with
      | none => exact .bind_any fun _ => .pure (by simp [remaining])
      | some handle => exact .pure (by simp [remaining])
    | reload files name =>
      refine .bind_any fun found => ?_
      cases found with
      | none => exact .pure (by simp [remaining])
      | some m => exact .pure (by simp [remaining])
    | _ => exact .map fun _ => by simp [remaining]
  | staged ready => exact .bind_any fun _ => .pure (by simp [remaining])
  | published ready => exact .bind_any fun _ => .pure (by simp [remaining])
  | admitted inherited => exact .map fun _ => by simp [remaining]
  | prepared c => exact .bind_any fun _ => .pure (by simp [remaining])
  | reread m => exact .bind_any fun _ => .bind_any fun _ => .pure (by simp [remaining])
  | remade c => exact .bind_any fun _ => .pure (by simp [remaining])
  | building => exact .map fun _ => by simp [remaining]
  | finished outcome => exact .pure (by simp [remaining])

/-- What the next step may change. -/
def Stage.scope {q : Request} : Stage q → Scope
  | .asked => q.firstScope
  | .staged _ => .supplies
  | .published _ | .prepared _ | .remade _ => .contexts
  | .building => .handles
  | .admitted _ | .reread _ | .finished _ => .quiet

/-- Every step stays within its scope. -/
theorem Stage.advance_within {q : Request} (stage : Stage q) : stage.advance.Keeps (Within stage.scope) := by
  -- A step is an operation whose scope is known, with its result in the form of a stage.
  cases stage with
  | asked =>
    cases q with
    | make m strategy =>
      cases strategy with
      | none => exact ((createContext_within m).map _).map _
      | some strategy => exact ((contextOf_within m strategy).map _).map _
    | add c => exact ((updateCatalog_within rfl _).map _).map _
    | replace c => exact ((replace_within rfl c).map _).map _
    | remove name => exact ((remove_within rfl name).map _).map _
    | init files entries => exact (stage_within files entries).map _
    | upload name bytes mode => exact (inheritedIntent_keeps name).map _
    | reload files name =>
      refine (reread_keeps files name).bind fun found => ?_
      cases found <;> exact Operation.Keeps.pure _
    | resolve files c =>
      refine (knownHandle_keeps c).bind fun found => ?_
      cases found with
      | none => exact (beginBuild_within rfl c).bind fun _ => Operation.Keeps.pure _
      | some handle => exact Operation.Keeps.pure _
    | call h exported arguments => exact ((callHandle_within h exported arguments).map _).map _
    | addArtifact name artifact => exact ((addArtifact_within rfl name artifact).map _).map _
    | removeArtifact name => exact ((removeArtifact_within rfl name).map _).map _
  | staged ready => exact (publish_within rfl _).bind fun _ => Operation.Keeps.pure _
  | published ready => exact (updateCatalog_within rfl _).bind fun _ => Operation.Keeps.pure _
  | admitted inherited => exact (contextOfUpload_within _ _ _).map _
  | prepared c => exact (insertUpload_within rfl c).bind fun _ => Operation.Keeps.pure _
  | reread m => exact (createContext_within m).bind fun c => (warn_within _).bind fun _ => Operation.Keeps.pure _
  | remade c => exact (updateCatalog_within rfl _).bind fun _ => Operation.Keeps.pure _
  | building => exact (finishBuild_within rfl _ _).map _
  | finished outcome => exact Operation.Keeps.pure _

/-- What a request may change by all its steps. -/
def Request.scope : Request → Scope
  | .init _ _ => ⟨true, true, false⟩
  | .upload .. | .reload .. => .contexts
  | q => q.firstScope

/-- What a step may change, its request may change. -/
theorem Stage.scope_le {q : Request} (stage : Stage q) :
    (stage.scope.catalog → q.scope.catalog) ∧ (stage.scope.artifacts → q.scope.artifacts) ∧
      (stage.scope.builds → q.scope.builds) := by
  cases stage with
  | asked => cases q <;> simp [scope, Request.scope, Request.firstScope, Scope.quiet]
  | _ => simp [scope, Request.scope, Scope.quiet, Scope.supplies, Scope.contexts, Scope.handles, Request.firstScope]

/-- No step leaves the scope of its request. -/
theorem Stage.advance_within_request {q : Request} (stage : Stage q) :
    stage.advance.Keeps (Within q.scope) := by
  obtain ⟨contexts, supplies, handles⟩ := stage.scope_le
  exact stage.advance_within.weaken fun _ _ within => within.widen contexts supplies handles

/-- A request with its stage. -/
structure Thread where
  /-- What the client asked. -/
  request : Request
  /-- What was done about it. -/
  stage : Stage request

namespace Thread

/-- A thread after its next step, with the registry after it. A step that fails is the last one. -/
def next (t : Thread) (r : Registry) : Thread × Registry :=
  match t.stage.advance.on r with
  | (.ok stage, after) => (⟨t.request, stage⟩, after)
  | (.error why, after) => (⟨t.request, .finished (.error why)⟩, after)

/-- A thread after a number of steps that nobody interrupts, with the registry after them. -/
def alone : Nat → Thread → Registry → Thread × Registry
  | 0, t, r => (t, r)
  | count + 1, t, r => alone count (t.next r).1 (t.next r).2

/-- Whether the client has its answer. -/
def isFinished (t : Thread) : Bool := t.stage matches .finished _

/-- The context whose handle the thread is building. -/
def builds : Thread → Option Context
  | ⟨.resolve _ c, .building⟩ => some c
  | _ => none

/-- Only a resolution builds. -/
theorem eq_of_builds {t : Thread} {c : Context} (builds : t.builds = some c) :
    ∃ files, t = ⟨.resolve files c, .building⟩ := by
  obtain ⟨q, stage⟩ := t
  -- In all other stages the thread builds nothing.
  cases stage with
  | building =>
    cases builds
    exact ⟨_, rfl⟩
  | asked => cases q <;> cases builds
  | finished outcome => cases q <;> cases builds
  | _ => cases builds

/-- The context whose handle the thread is about to look for. -/
def seeks : Thread → Option Context
  | ⟨.resolve _ c, .asked⟩ => some c
  | _ => none

theorem request_next (t : Thread) (r : Registry) : (t.next r).1.request = t.request := by
  unfold next
  split <;> rfl

/-- A relation that the step of a stage keeps holds between the registries around it. -/
theorem next_keeps {related : Registry → Registry → Prop} {t : Thread}
    (keeps : t.stage.advance.Keeps related) (r : Registry) : related r (t.next r).2 := by
  unfold next
  split <;> rename_i outcome <;> exact keeps.of_on outcome

theorem next_within (t : Thread) (r : Registry) : Within t.request.scope r (t.next r).2 :=
  next_keeps t.stage.advance_within_request r

/-- What a step yields holds of the stage after it, if it holds of an answer. -/
theorem next_yields {holds : ∀ {q : Request}, Stage q → Prop} {t : Thread} (yields : t.stage.advance.Yields holds)
    (answered : ∀ outcome, holds (.finished outcome : Stage t.request)) (r : Registry) : holds (t.next r).1.stage := by
  unfold next
  split
  · rename_i stage after outcome
    exact yields r stage after outcome
  · -- A step that fails is answered with the failure.
    exact answered _

/-- What remains of a request gives the same after a step, on the registry that the step leaves. -/
theorem rest_next (t : Thread) (r : Registry) :
    (t.next r).1.stage.rest.on (t.next r).2 = t.stage.rest.on r := by
  have opened : t.stage.rest.on r = (t.stage.advance >>= Stage.rest).on r := by rw [Stage.advance_rest]
  rw [opened, Operation.on_bind]
  unfold next
  split <;> rename_i outcome <;> simp only [outcome]
  -- After a failure there is only the failure left to report.
  simp only [Stage.rest, Operation.on_lift]

theorem remaining_next (t : Thread) (r : Registry) :
    (t.next r).1.stage.remaining ≤ t.stage.remaining - 1 := by
  unfold next
  split
  · rename_i later after outcome
    exact t.stage.advance_remaining _ _ _ outcome
  · -- A step that fails is the last one.
    exact Nat.zero_le _

/-- What was promised at the start still holds after any number of steps in a row. -/
theorem rest_alone (count : Nat) (t : Thread) (r : Registry) :
    (alone count t r).1.request = t.request ∧
      (alone count t r).1.stage.remaining ≤ t.stage.remaining - count ∧
      (alone count t r).1.stage.rest.on (alone count t r).2 = t.stage.rest.on r := by
  -- The first step leaves a thread with one step less.
  induction count generalizing t r with
  | zero => exact ⟨rfl, Nat.le_refl _, rfl⟩
  | succ count ih =>
    obtain ⟨same, fewer, rest⟩ := ih (t.next r).1 (t.next r).2
    have step := t.remaining_next r
    refine ⟨same.trans (t.request_next r), ?_, rest.trans (t.rest_next r)⟩
    calc
      _ ≤ (t.next r).1.stage.remaining - count := fewer
      _ ≤ t.stage.remaining - (count + 1) := by omega

/-- If nobody interrupts them, the steps of a request amount to its operation; there are at most three. -/
theorem uninterrupted (q : Request) (r : Registry) :
    alone 3 ⟨q, .asked⟩ r = (⟨q, .finished (q.perform.on r).1⟩, (q.perform.on r).2) := by
  have whole := rest_alone 3 ⟨q, .asked⟩ r
  generalize alone 3 ⟨q, .asked⟩ r = last at whole
  obtain ⟨⟨request, stage⟩, after⟩ := last
  obtain ⟨same, none, rest⟩ := whole
  obtain rfl : request = q := same
  -- No stage but the last one has no steps left.
  cases stage with
  | finished outcome =>
    simp only [Stage.rest, Operation.on_lift] at rest
    rw [← rest]
  | _ => simp [Stage.remaining] at none

/-- A whole request stays within its scope. -/
theorem perform_within (q : Request) : q.perform.Keeps (Within q.scope) := by
  -- The request is served by steps in a row, each of which stays within it.
  have along : ∀ count (t : Thread), t.request = q → ∀ r, Within q.scope r (alone count t r).2 := by
    intro count
    induction count with
    | zero => exact fun _ _ r => refl_of (Within q.scope) r
    | succ count ih =>
      rintro t rfl r
      exact trans_of (Within t.request.scope) (t.next_within r) (ih _ (t.request_next r) _)
  intro r
  have whole := along 3 ⟨q, .asked⟩ rfl r
  rwa [uninterrupted] at whole

end Thread

/-- What requests leave behind that are served one after the other, be they successful or not. -/
def inTurn (r : Registry) (requests : List Request) : Registry := requests.foldl (fun r q => (q.perform.on r).2) r

theorem inTurn_concat (r : Registry) (requests : List Request) (q : Request) :
    inTurn r (requests ++ [q]) = (q.perform.on (inTurn r requests)).2 := by
  rw [inTurn, List.foldl_append, List.foldl_cons, List.foldl_nil, inTurn]

/-- Whatever is done in turn, nothing is taken back. -/
theorem inTurn_grows (r : Registry) (requests : List Request) : Grows r (inTurn r requests) := by
  unfold inTurn
  induction requests generalizing r with
  | nil => exact .refl r
  | cons q requests ih => exact (Thread.perform_within q r).toGrows.trans (ih _)

/-- A registry with everything that was asked of it. -/
structure Host where
  /-- The registry. -/
  registry : Registry
  /-- The threads, the oldest first; they stay when they are over. -/
  threads : List Thread

/-- What can happen on a host. -/
inductive Event where
  /-- A client asks for something. -/
  | ask (q : Request)
  /-- A thread, given by its place, takes its next step. -/
  | act (place : Nat)

namespace Host

/-- A thread waits while another one builds the handle that it is about to look for. -/
def Blocked (s : Host) (t : Thread) : Prop :=
  ∃ c, t.seeks = some c ∧ ∃ other ∈ s.threads, ∃ built, other.builds = some built ∧ built.id = c.id

/-- A thread that looks for no handle never waits. -/
theorem not_blocked {s : Host} {t : Thread} (idle : t.seeks = none) : ¬ s.Blocked t := by
  rintro ⟨c, seeks, _⟩
  rw [idle] at seeks
  cases seeks

/-- The requests that were successful. -/
def served (s : Host) : List Request :=
  (s.threads.filter fun t => t.stage matches .finished (.ok _)).map (·.request)

theorem mem_served {s : Host} {q : Request} :
    q ∈ s.served ↔ ∃ answer, ⟨q, .finished (.ok answer)⟩ ∈ s.threads := by
  simp only [served, List.mem_map, List.mem_filter]
  constructor
  · rintro ⟨⟨request, stage⟩, ⟨member, done⟩, rfl⟩
    -- No other stage is a success.
    split at done
    · rename_i answer same
      exact ⟨answer, by rw [← same]; exact member⟩
    · cases done
  · rintro ⟨answer, member⟩
    exact ⟨_, ⟨member, rfl⟩, rfl⟩

/-- Whether an event can happen now. -/
def Enabled (s : Host) : Event → Prop
  | .ask q => q.Known s.registry
  | .act place => ∃ t, s.threads[place]? = some t ∧ t.isFinished = false ∧ ¬ s.Blocked t

/-- The host after an event. -/
def next (s : Host) : Event → Host
  | .ask q => { s with threads := s.threads ++ [⟨q, .asked⟩] }
  | .act place =>
    match s.threads[place]? with
    | none => s
    | some t => ⟨(t.next s.registry).2, s.threads.set place (t.next s.registry).1⟩

/-- One host follows another by an event of some kind. -/
def Step (kind : Host → Event → Prop) (s after : Host) : Prop :=
  ∃ e, s.Enabled e ∧ kind s e ∧ after = s.next e

/-- One host follows another by any number of events of some kind. -/
abbrev Path (kind : Host → Event → Prop) : Host → Host → Prop := Relation.ReflTransGen (Step kind)

/-- The hosts that a new one can turn into. -/
def Reachable (s : Host) : Prop :=
  ∃ deployment factory resources, Path (fun _ _ => True) ⟨create deployment factory resources, []⟩ s

/-- An event of some kind is an event. -/
theorem Path.anyKind {kind : Host → Event → Prop} {s after : Host} (path : Path kind s after) :
    Path (fun _ _ => True) s after :=
  Relation.ReflTransGen.mono (fun _ _ ⟨e, enabled, _, next⟩ => ⟨e, enabled, trivial, next⟩) _ _ path

theorem Reachable.path {kind : Host → Event → Prop} {s after : Host} (reached : s.Reachable)
    (path : Path kind s after) : after.Reachable := by
  obtain ⟨deployment, factory, resources, before⟩ := reached
  exact ⟨deployment, factory, resources, before.trans path.anyKind⟩

/-- What holds on new hosts and is kept by every event holds on all reachable hosts. -/
theorem Reachable.invariant (holds : Host → Prop)
    (fresh : ∀ deployment factory resources, holds ⟨create deployment factory resources, []⟩)
    (kept : ∀ s e, s.Reachable → s.Enabled e → holds s → holds (s.next e)) {s : Host}
    (reached : s.Reachable) : holds s := by
  obtain ⟨deployment, factory, resources, path⟩ := reached
  -- The path grows at its end.
  induction path with
  | refl => exact fresh deployment factory resources
  | tail before step ih =>
    obtain ⟨e, enabled, _, rfl⟩ := step
    exact kept _ e ⟨deployment, factory, resources, before⟩ enabled ih

theorem next_act {s : Host} {place : Nat} {t later : Thread} {after : Registry}
    (found : s.threads[place]? = some t) (step : t.next s.registry = (later, after)) :
    s.next (.act place) = ⟨after, s.threads.set place later⟩ := by
  simp only [next, found, step]

/-- A step of a thread that waits for nobody leads from one host to another. -/
theorem step_act {kind : Host → Event → Prop} {s : Host} (place : Nat) {t later : Thread} {after : Registry}
    (found : s.threads[place]? = some t) (waiting : t.isFinished = false) (idle : t.seeks = none)
    (allowed : kind s (.act place)) (step : t.next s.registry = (later, after)) :
    Step kind s ⟨after, s.threads.set place later⟩ :=
  ⟨.act place, ⟨t, found, waiting, not_blocked idle⟩, allowed, (next_act found step).symm⟩

/-- The thread that acts decides what becomes of the registry. -/
theorem registry_next_act {s : Host} {place : Nat} {t : Thread} (found : s.threads[place]? = some t) :
    (s.next (.act place)).registry = (t.next s.registry).2 := by
  simp only [next, found]

/-- Every event leaves a thread where it is, unless it is the one that acts. -/
theorem thread_next {s : Host} {place : Nat} {t : Thread} (found : s.threads[place]? = some t) (e : Event) :
    (s.next e).threads[place]? = some t ∨
      e = .act place ∧ (s.next e).threads[place]? = some (t.next s.registry).1 := by
  obtain ⟨inside, _⟩ := List.getElem?_eq_some_iff.mp found
  cases e with
  | ask q =>
    -- A new thread comes last.
    exact .inl ((List.getElem?_append_left inside).trans found)
  | act acting =>
    by_cases same : acting = place
    · subst same
      refine .inr ⟨rfl, ?_⟩
      simp only [next, found]
      exact List.getElem?_set_self inside
    · cases there : s.threads[acting]? with
      | none => exact .inl (by simpa only [next, there] using found)
      | some other =>
        simp only [next, there]
        exact .inl ((List.getElem?_set_ne same).trans found)

/-- A thread after a step of any thread was there before, or it took the step. -/
theorem mem_next_act {s : Host} {place : Nat} {t other : Thread} (found : s.threads[place]? = some t)
    (member : other ∈ (s.next (.act place)).threads) :
    other ∈ s.threads ∨ other = (t.next s.registry).1 := by
  simp only [next, found] at member
  exact List.mem_or_eq_of_mem_set member

/-- A success stays one. -/
theorem served_next {s : Host} {q : Request} (served : q ∈ s.served) (e : Event) : q ∈ (s.next e).served := by
  obtain ⟨answer, member⟩ := mem_served.mp served
  obtain ⟨place, found⟩ := List.getElem?_of_mem member
  refine mem_served.mpr ⟨answer, ?_⟩
  -- A thread that has answered has nothing more to do.
  rcases thread_next found e with same | ⟨_, acted⟩
  · exact List.mem_of_getElem? same
  · exact List.mem_of_getElem? acted

/-- The thread that acts is there after its step. -/
theorem mem_of_next_act {s : Host} {place : Nat} {t : Thread} (found : s.threads[place]? = some t) :
    (t.next s.registry).1 ∈ (s.next (.act place)).threads := by
  obtain ⟨inside, _⟩ := List.getElem?_eq_some_iff.mp found
  simp only [next, found]
  exact List.mem_of_getElem? (List.getElem?_set_self inside)

/-- A success was one before, or it is the one of the thread that acts. -/
theorem served_of_next_act {s : Host} {place : Nat} {t : Thread} (found : s.threads[place]? = some t) {q : Request}
    (served : q ∈ (s.next (.act place)).served) :
    q ∈ s.served ∨ ∃ answer, (t.next s.registry).1 = ⟨q, .finished (.ok answer)⟩ := by
  obtain ⟨answer, member⟩ := mem_served.mp served
  rcases mem_next_act found member with before | same
  · exact .inl (mem_served.mpr ⟨answer, before⟩)
  · exact .inr ⟨answer, same.symm⟩

/-- A question is no success. -/
theorem served_next_ask (s : Host) (q : Request) : (s.next (.ask q)).served = s.served := by
  simp [next, served]

/-- What the steps of a thread keep is kept, whatever the other threads do. -/
theorem Path.thread {kind : Host → Event → Prop} {s later : Host} (path : Path kind s later) {place : Nat}
    (holds : Thread → Prop) (kept : ∀ t r, holds t → holds (t.next r).1)
    (start : ∃ t, s.threads[place]? = some t ∧ holds t) : ∃ t, later.threads[place]? = some t ∧ holds t := by
  -- Every event either leaves the thread or is one of its steps.
  induction path with
  | refl => exact start
  | tail _ step ih =>
    obtain ⟨e, _, _, rfl⟩ := step
    obtain ⟨t, found, holds⟩ := ih
    rcases thread_next found e with same | ⟨_, acted⟩
    · exact ⟨t, same, holds⟩
    · exact ⟨_, acted, kept t _ holds⟩

/-- No event takes back what was made. -/
theorem next_grows (s : Host) (e : Event) : Grows s.registry (s.next e).registry := by
  -- A question makes nothing, and a step makes what its operation makes.
  cases e with
  | ask q => exact refl_of Grows _
  | act place =>
    cases found : s.threads[place]? with
    | none =>
      simp only [next, found]
      exact refl_of Grows _
    | some t =>
      rw [registry_next_act found]
      exact (t.next_within s.registry).toGrows

/-- Contexts are numbered, and clients only speak of contexts that were made. -/
structure Rooted (s : Host) : Prop where
  /-- No two contexts share an identity. -/
  numbered : Numbered s.registry.made
  /-- Every context in a request was made. -/
  known : ∀ t ∈ s.threads, t.request.Known s.registry

theorem Reachable.rooted {s : Host} (reached : s.Reachable) : s.Rooted := by
  refine reached.invariant Rooted (fun _ _ _ => ⟨trivial, by simp⟩) fun s e _ enabled rooted => ?_
  have grows := s.next_grows e
  refine ⟨grows.numbered rooted.numbered, fun t member => ?_⟩
  cases e with
  | ask q =>
    -- A client only asks about contexts that it knows.
    rcases List.mem_append.mp member with before | new
    · exact rooted.known t before
    · rw [List.mem_singleton.mp new]
      exact enabled
  | act place =>
    -- The thread that acts has the same request as before.
    obtain ⟨acting, found, _⟩ := enabled
    rcases mem_next_act found member with before | rfl
    · exact (rooted.known t before).grows grows
    · rw [acting.request_next]
      exact (rooted.known acting (List.mem_of_getElem? found)).grows grows

end Host

end WasmHost.Registry
