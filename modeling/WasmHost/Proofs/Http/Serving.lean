import WasmHost.Proofs.Http.Exchange
import WasmHost.Proofs.Registry.Tidy

/-! Serving: hosts that are asked directly and over the network, and what holds of them all along. -/

namespace WasmHost

open Registry (Host Event Thread Stage Trait Respected Grows create)

namespace Http

/-- One host follows another. Of what clients ask directly, only requests of some kind are let in; what is asked over
the network is not restricted. An exchange does not wait for the threads, so that even more can happen here than on
a host where it does. -/
inductive Step (kind : Registry.Request → Prop) (s : Host) : Host → Prop where
  /-- A client asks for something, or a thread takes its next step. -/
  | happens {e : Event} (enabled : s.Enabled e) (allowed : ∀ q, e = .ask q → kind q) : Step kind s (s.next e)
  /-- A request over the network is answered. -/
  | answers (admin : Option Admin) (files : Files) (stamp : CallStamp) (request : Request) :
    Step kind s { s with registry := ((respond admin files stamp request).run s.registry).2 }

/-- The hosts that a new one can turn into. -/
def Served (kind : Registry.Request → Prop) (s : Host) : Prop :=
  ∃ deployment factory resources, Relation.ReflTransGen (Step kind) ⟨create deployment factory resources, []⟩ s

variable {kind : Registry.Request → Prop} {trait : Trait} {s : Host} {q : Registry.Request}

theorem Served.step (served : Served kind s) {after : Host} (step : Step kind s after) : Served kind after := by
  obtain ⟨deployment, factory, resources, path⟩ := served
  exact ⟨deployment, factory, resources, path.tail step⟩

/-! ### Requests that nobody interrupts -/

/-- Either the client has its answer, or there is a step left. -/
theorem finished_or_waiting (stage : Stage q) :
    (∃ outcome, stage = .finished outcome) ∨ 0 < stage.remaining ∧ (⟨q, stage⟩ : Thread).isFinished = false := by
  cases stage with
  | finished outcome => exact .inl ⟨outcome, rfl⟩
  | _ => exact .inr ⟨by simp [Stage.remaining], rfl⟩

/-- The steps of the latest thread in a row amount to what remained of its request, if no other thread builds. -/
theorem Served.rest {threads : List Thread} (idle : ∀ t ∈ threads, t.builds = none) {stage : Stage q} {r : Registry}
    (served : Served kind ⟨r, threads ++ [⟨q, stage⟩]⟩) :
    Served kind ⟨(stage.rest.on r).2, threads ++ [⟨q, .finished (stage.rest.on r).1⟩]⟩ := by
  -- The induction is on the steps that remain.
  generalize steps : stage.remaining = count
  induction count using Nat.strongRecOn generalizing stage r with
  | ind count ih =>
  rcases finished_or_waiting stage with ⟨outcome, rfl⟩ | ⟨more, waiting⟩
  · -- Nothing remains of a finished request.
    rwa [Stage.rest, Operation.on_lift]
  have found : (threads ++ [⟨q, stage⟩])[threads.length]? = some ⟨q, stage⟩ := by simp
  have free : ¬ (⟨r, threads ++ [⟨q, stage⟩]⟩ : Host).Blocked ⟨q, stage⟩ := by
    rintro ⟨c, seeks, other, member, built, builds, _⟩
    rcases List.mem_append.mp member with before | last
    · rw [idle other before] at builds
      cases builds
    · -- A thread that is about to look does not build.
      rw [List.mem_singleton.mp last] at builds
      obtain ⟨files, same⟩ := Thread.eq_of_builds builds
      rw [same] at seeks
      cases seeks
  have acted : Served kind (Host.next ⟨r, threads ++ [⟨q, stage⟩]⟩ (.act threads.length)) :=
    served.step (.happens ⟨_, found, waiting, free⟩ (by rintro _ ⟨⟩))
  have remaining := Thread.remaining_next ⟨q, stage⟩ r
  have rest := Thread.rest_next ⟨q, stage⟩ r
  -- After its step, the same request is at a later stage.
  rcases outcome : Thread.next ⟨q, stage⟩ r with ⟨⟨request, later⟩, after⟩
  obtain rfl : request = q := by simpa [outcome] using Thread.request_next ⟨q, stage⟩ r
  rw [Host.next_act found outcome, List.set_append_right _ _ (Nat.le_refl _), Nat.sub_self, List.set_cons_zero] at acted
  rw [outcome] at remaining rest
  change later.remaining ≤ stage.remaining - 1 at remaining
  -- What remains then leads to the same end.
  rw [← rest]
  exact ih later.remaining (by omega) acted rfl

/-- A registry of a host on which nobody builds anything. -/
def Resting (kind : Registry.Request → Prop) (r : Registry) : Prop :=
  ∃ threads : List Thread, (∀ t ∈ threads, t.builds = none) ∧ Served kind ⟨r, threads⟩

namespace Resting

variable {r : Registry}

theorem create (deployment : Deployment) (factory : Factory) (resources : Resources) :
    Resting kind (create deployment factory resources) :=
  ⟨[], by simp, deployment, factory, resources, .refl⟩

/-- Requests can be served one after the other. -/
theorem perform (resting : Resting kind r) (allowed : kind q) (known : q.Known r) : Resting kind (q.perform.on r).2 := by
  obtain ⟨threads, idle, served⟩ := resting
  have asked : Served kind (Host.next ⟨r, threads⟩ (.ask q)) :=
    served.step (.happens known (by rintro _ ⟨⟩; exact allowed))
  refine ⟨_, fun t member => ?_, asked.rest idle⟩
  -- The finished request does not build any more.
  rcases List.mem_append.mp member with before | last
  · exact idle t before
  · rw [List.mem_singleton.mp last]
    cases q <;> rfl

end Resting

/-! ### What holds all along -/

/-- The registry is tidy, and every thread is ready for its next step. -/
structure Tidy (kind : Registry.Request → Prop) (trait : Trait) (s : Host) : Prop where
  registry : s.registry.Tidy trait
  threads : ∀ t ∈ s.threads, t.Tidy kind trait s.registry

/-- Nothing that happens during an exchange takes back what was made. -/
theorem Course.grows {admin : Option Admin} {files : Files} {request : Request} {r after : Registry}
    (course : Course admin files request r after) : Grows r after := by
  induction course with
  | refl => exact .refl r
  | @tail middle _ _ step ih =>
    refine ih.trans ?_
    -- A step logs something, or performs a request that may make something new.
    cases step with
    | warns warnings => exact .of_made_eq rfl rfl rfl rfl
    | @performs q caused => exact (Thread.perform_within q middle).toGrows

/-- An exchange leaves a registry tidy if the requests that it causes are of a kind that does. -/
theorem Course.tidy {admin : Option Admin} {files : Files} {request : Request} {r after : Registry}
    (respected : Respected kind trait) (permitted : ∀ r q, Causes admin files request r q → kind q)
    (course : Course admin files request r after) (tidy : r.Tidy trait) : after.Tidy trait := by
  induction course with
  | refl => exact tidy
  | @tail middle _ before step ih =>
    -- Warnings are no part of what is in order, and requests leave it so.
    cases step with
    | warns warnings =>
      have grows : Grows middle ((Registry.warn warnings).on middle).2 := .of_made_eq rfl rfl rfl rfl
      exact ih.of_same grows (Registry.warn_makes warnings middle) rfl rfl
    | performs caused =>
      exact Registry.Request.perform_tidy respected (permitted _ _ caused) (caused.known ih.registered) ih

/-- Whatever happens next leaves a host tidy. -/
theorem Tidy.step (tidy : Tidy kind trait s) (respected : Respected kind trait)
    (permitted : ∀ admin files request r q, Causes admin files request r q → kind q) {after : Host}
    (step : Step kind s after) : Tidy kind trait after := by
  cases step with
  | answers admin files stamp request =>
    -- The threads see more contexts than before, and none of them goes away.
    have course := respond_course admin files stamp request s.registry
    exact ⟨course.tidy respected (permitted admin files request) tidy.registry,
      fun t member => (tidy.threads t member).grows course.grows⟩
  | @happens e enabled allowed =>
    cases e with
    | ask q =>
      -- A new thread relies on nothing yet.
      refine ⟨tidy.registry, fun t member => ?_⟩
      rcases List.mem_append.mp member with before | new
      · exact tidy.threads t before
      · rw [List.mem_singleton.mp new]
        exact ⟨allowed q rfl, enabled, by cases q <;> trivial⟩
    | act place =>
      obtain ⟨acting, found, _⟩ := enabled
      obtain ⟨kept, ready⟩ := (tidy.threads acting (List.mem_of_getElem? found)).next respected tidy.registry
      have grows := (acting.next_within s.registry).toGrows
      -- One thread takes its step, and all others keep what they rely on.
      refine ⟨by rwa [Host.registry_next_act found], fun t member => ?_⟩
      rw [Host.registry_next_act found]
      rcases Host.mem_next_act found member with before | rfl
      · exact (tidy.threads t before).grows grows
      · exact ready

/-- On every host that serves requests of some kind, all contexts have the traits that these requests respect. -/
theorem Served.tidy (served : Served kind s) (respected : Respected kind trait)
    (permitted : ∀ admin files request r q, Causes admin files request r q → kind q) : Tidy kind trait s := by
  obtain ⟨deployment, factory, resources, path⟩ := served
  -- There is nothing on a new host.
  induction path with
  | refl => exact ⟨Registry.create_tidy _ _ _, by simp⟩
  | tail _ step ih => exact ih.step respected permitted step

/-- Without any trait in particular, every host is tidy. -/
theorem Served.anyTidy (served : Served (fun _ => True) s) : Tidy (fun _ => True) (fun _ _ => True) s :=
  served.tidy (.any _) fun _ _ _ _ _ _ => trivial

end Http

end WasmHost
