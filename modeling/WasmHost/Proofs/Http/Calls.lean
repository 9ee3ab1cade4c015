import WasmHost.Proofs.Http.Serving
import WasmHost.Proofs.Policy

/-! Calls: what stands behind a successful response to a call, and which backends may have served it. -/

namespace WasmHost

open Registry (Host Within create)

namespace Http

variable {admin : Option Admin} {files : Files} {stamp : CallStamp} {request : Request} {r after : Registry}

/-! ### Failures -/

namespace Handling

variable {α β : Type}

/-- Work that only ends early with the status of a failure. -/
def Alarms (work : Handling α) : Prop := ∀ r response after, work.on r = (.error response, after) → response.status ≠ 200

namespace Alarms

theorem pure (value : α) : Alarms (pure value : Handling α) := by
  intro r response after failed
  rw [on_pure] at failed
  cases failed

theorem throw {response : Response} (alarm : response.status ≠ 200) : Alarms (throw response : Handling α) := by
  intro r other after failed
  rw [on_throw] at failed
  cases failed
  exact alarm

theorem caught (operation : Operation α) :
    Alarms (liftM (m := StateM Registry) operation.run : Handling (Except HostError α)) := by
  intro r response after failed
  rw [on_caught] at failed
  cases failed

/-- No error of an operation has the status of a success. -/
theorem host (operation : Operation α) : Alarms (host operation) := by
  intro r response after failed
  rw [on_host] at failed
  rcases outcome : operation.on r with ⟨why | value, middle⟩
  · rw [outcome] at failed
    cases failed
    -- No error of the host is classified as a success.
    cases why <;> simp [Response.ofError, Response.document, ApiError.ofHostError, ApiError.classify]
  · rw [outcome] at failed
    cases failed

theorem bind {first : Handling α} {next : α → Handling β} (before : first.Alarms)
    (rest : ∀ value, (next value).Alarms) : (first >>= next).Alarms := by
  intro r response after failed
  rw [on_bind] at failed
  -- A refusal is one of the first part, or of what follows.
  rcases outcome : first.on r with ⟨early | value, middle⟩
  · rw [outcome] at failed
    cases failed
    exact before r _ _ outcome
  · rw [outcome] at failed
    exact rest value middle response after failed

end Alarms

theorem guard_alarms {condition : Prop} [Decidable condition] {response : Response} {rest : Handling β}
    (alarm : response.status ≠ 200) (alarms : rest.Alarms) :
    Alarms (if condition then throw response >>= fun _ : PUnit => rest else rest) := by
  split
  · exact (Alarms.throw alarm).bind fun _ => alarms
  · exact alarms

theorem fail_alarms (e : ApiError) (alarm : e.status ≠ 200) : (fail e : Handling α).Alarms := Alarms.throw alarm

theorem pathName_alarms (parameter segment : String) : (pathName parameter segment).Alarms := by
  unfold pathName
  split
  · exact Alarms.pure _
  · exact Alarms.throw (by simp [Response.text])

end Handling

open Handling

theorem reload_alarms (files : Files) (name : String) : (reload files name).Alarms := by
  refine (Alarms.caught _).bind fun outcome => ?_
  cases outcome with
  | ok changed => exact Alarms.pure _
  | error why => exact Alarms.host _

theorem callFunction_alarms (name exported : String) (body : ByteArray) :
    (callFunction files stamp name exported body).Alarms := by
  -- Every part that may end the work does so with the status of a failure.
  refine (pathName_alarms _ _).bind fun name => (pathName_alarms _ _).bind fun exported => ?_
  refine guard_alarms (by simp [Response.text]) ?_
  split
  · exact (Alarms.host _).bind fun _ => fail_alarms _ (by simp [ApiError.badRequest])
  · refine (reload_alarms _ _).bind fun _ => (Alarms.host _).bind fun _ => ?_
    exact (Alarms.host _).bind fun _ => (Alarms.host _).bind fun _ => Alarms.pure _

/-! ### Successes -/

/-- What stands behind a successful response to a call. -/
structure ServedCall (r : Registry) (stamp : CallStamp) (name exported : String) (body : ByteArray)
    (response : Response) where
  /-- The name of the module that the path stands for. -/
  module : String
  /-- The name of its function. -/
  function : String
  /-- The arguments in the body. -/
  arguments : List Value
  /-- The context that served the call. -/
  context : Context
  /-- Its handle. -/
  handle : Handle
  /-- What the call gave. -/
  outcome : Outcome
  named : Percent.text? name = some module
  asked : Percent.text? exported = some function
  given : argumentsOfBody body.toList = .ok arguments
  registered : r.get? module = some context
  built : r.slot context = .built handle
  ran : (handle.call r.factory.execution function arguments).1 = .ok outcome
  told : response.status = 200 ∧ response.body = .document (callDocument stamp module function handle.strategy outcome)

/-- A call on a handle gives what the handle gives, and only leaves warnings. -/
theorem callHandle_eq_ok {h : Handle} {exported : String} {arguments : List Value} {outcome : Outcome}
    (called : (Registry.callHandle h exported arguments).on r = (.ok outcome, after)) :
    (h.call r.factory.execution exported arguments).1 = .ok outcome := by
  simp only [Registry.callHandle, Operation.on_bind, Operation.on_get, Registry.warn, Operation.on_modify,
    Operation.on_lift] at called
  exact congrArg Prod.fst called

/-- The module that is registered at the moment of the call serves it. What is found then is found afterwards, too. -/
theorem serve_eq_ok {module function : String} {arguments : List Value} {next : Handle → Outcome → Response}
    {response : Response}
    (served : (do
      let context ← host (Registry.lookup module)
      let handle ← host (Registry.resolve files context)
      let outcome ← host (Registry.callHandle handle function arguments)
      return next handle outcome : Handling Response).on r = (.ok response, after)) :
    ∃ c h outcome, after.get? module = some c ∧ after.slot c = .built h ∧
      (h.call after.factory.execution function arguments).1 = .ok outcome ∧ response = next h outcome := by
  rw [on_bind, on_host, Registry.lookup_on] at served
  cases found : r.get? module with
  | none =>
    -- Nobody could have served the call.
    rw [found] at served
    cases served
  | some c =>
    rw [found] at served
    obtain ⟨h, resolved, resolution, served⟩ := on_bind_eq_ok served
    obtain ⟨outcome, last, ran, done⟩ := on_bind_eq_ok served
    cases done
    have resolution := on_host_eq_ok resolution
    have ran := on_host_eq_ok ran
    -- Resolving leaves the catalog, and calling leaves the slots, too.
    have building : Within .handles r resolved := (Registry.resolve_within rfl files c).of_on resolution
    have calling : Within .quiet resolved after := (Registry.callHandle_within h function arguments).of_on ran
    refine ⟨c, h, outcome, ?_, ?_, ?_, rfl⟩
    · rw [Registry.get?, calling.catalog rfl, building.catalog rfl]
      exact found
    · rw [Registry.slot, calling.slots rfl]
      exact Registry.slot_of_resolve resolution
    · rw [calling.factory]
      exact callHandle_eq_ok ran

/-- Behind every response of a call that did not end early there is a call of a handle. -/
theorem callFunction_eq_ok {name exported : String} {body : ByteArray} {response : Response}
    (called : (callFunction files stamp name exported body).on r = (.ok response, after)) :
    Nonempty (ServedCall after stamp name exported body response) := by
  -- The parts of the work are opened one after the other.
  obtain ⟨module, named, called⟩ := pathName_bind_eq_ok called
  obtain ⟨function, asked, called⟩ := pathName_bind_eq_ok called
  have called := on_guard_eq_ok called
  split at called
  · -- Bad arguments end the work.
    obtain ⟨_, _, _, refused⟩ := on_bind_eq_ok called
    cases refused
  · rename_i arguments given
    obtain ⟨_, reloaded, _, called⟩ := on_bind_eq_ok called
    obtain ⟨c, h, outcome, registered, built, ran, rfl⟩ := serve_eq_ok called
    exact ⟨⟨module, function, arguments, c, h, outcome, named, asked, given, registered, built, ran, rfl, rfl⟩⟩

/-- So there is behind every successful response to a call. -/
theorem respond_call {name exported : String}
    (found : Route.ofPath? (admin.map (·.mount)) request.path = some (.function name exported))
    (call : request.method = "POST") (succeeded : ((respond admin files stamp request).run r).1.status = 200) :
    Nonempty (ServedCall ((respond admin files stamp request).run r).2 stamp name exported request.body
      ((respond admin files stamp request).run r).1) := by
  have whole : request.method ≠ "HEAD" := by simp [call]
  rw [respond_of_function found call, finish_run] at succeeded ⊢
  simp only [Response.sentFor, if_neg whole] at succeeded ⊢
  rcases outcome : (callFunction files stamp name exported request.body).on r with ⟨response | response, after⟩
  · -- Work that ends early has no success to tell.
    rw [outcome] at succeeded
    exact (callFunction_alarms name exported request.body r response after outcome succeeded).elim
  · -- A header more changes neither the status nor the body.
    obtain ⟨call⟩ := callFunction_eq_ok outcome
    exact ⟨{ call with told := call.told }⟩

/-! ### The policy -/

/-- A context is run by a handle that follows the policy, and its summary tells about this handle. -/
structure RunBy (r : Registry) (c : Context) (h : Handle) : Prop where
  follows : Follows r.deployment c h
  runs : Runs r.factory c h
  active : (r.info c).activeBackend = some h.strategy.backend
  fellBack : (r.info c).fellBack = h.fellBack

theorem runBy_of_built (tidy : r.Tidy Governed) {c : Context} (known : c ∈ r.made) {h : Handle}
    (built : r.slot c = .built h) : RunBy r c h := by
  have attempted := tidy.attempted_of_built known built
  -- The summary is about the handle in the slot.
  refine ⟨follows_of_attempted (tidy.proper c known) attempted, runs_of_attempted attempted, ?_, ?_⟩ <;>
    simp [Registry.info, Context.info, built, Slot.handle?]

/-- Nobody insists on a strategy: it is always the one that is selected. -/
def Selects : Registry.Request → Prop
  | .make _ (some _) => False
  | _ => True

theorem selects_respects : Registry.Respected Selects Governed where
  supplied m _ := fits_governed m
  insisted _ _ insists := insists.elim
  declared _ _ _ _ _ _ m _ := fits_governed m
  uploaded _ _ _ _ _ _ m _ _ _ := fits_governed m
  reloaded _ _ _ _ _ _ m _ _ _ _ _ := fits_governed m

theorem Served.governed {s : Host} (served : Served Selects s) : Tidy Selects Governed s := by
  refine served.tidy selects_respects fun admin files request r q caused => ?_
  -- Over the network, nobody can supply a module with a strategy of its own.
  cases q with
  | make => exact caused.elim
  | _ => trivial

/-- On a host where strategies are always selected, the policy is followed by every handle in a slot, by every handle
that a client was given, and by the handle behind every successful response to a call; the summary of the context and
the response tell about this handle. -/
theorem served_by_policy {s : Host} (served : Served Selects s) :
    (∀ c ∈ s.registry.made, ∀ h, s.registry.slot c = .built h → RunBy s.registry c h) ∧
    (∀ files c h, ⟨.resolve files c, .finished (.ok (.handle h))⟩ ∈ s.threads →
      Follows s.registry.deployment c h ∧ Runs s.registry.factory c h) ∧
    ∀ admin files stamp request name exported,
      Route.ofPath? (Option.map Admin.mount admin) request.path = some (.function name exported) →
      request.method = "POST" → ((respond admin files stamp request).run s.registry).1.status = 200 →
      ∃ call : ServedCall ((respond admin files stamp request).run s.registry).2 stamp name exported request.body
          ((respond admin files stamp request).run s.registry).1,
        RunBy ((respond admin files stamp request).run s.registry).2 call.context call.handle := by
  have tidy := served.governed
  refine ⟨fun c known h built => runBy_of_built tidy.registry known built, fun files c h member => ?_, ?_⟩
  · -- A finished resolution gave the handle that was built for its context.
    obtain ⟨_, known, attempted⟩ := tidy.threads _ member
    exact ⟨follows_of_attempted (tidy.registry.proper c known) attempted, runs_of_attempted attempted⟩
  · intro admin files stamp request name exported found post succeeded
    obtain ⟨call⟩ := respond_call found post succeeded
    -- The host goes on after the response.
    have after := (served.step (.answers admin files stamp request)).governed
    exact ⟨call, runBy_of_built after.registry (after.registry.registered _ _ call.registered) call.built⟩

/-- A module that a client supplies to a native deployment is interpreted, although its client wants it compiled. -/
theorem served_by_policy_interpreted :
    ∃ (s : Host) (c : Context) (h : Handle), Served Selects s ∧ c ∈ s.registry.made ∧
      c.hosted.intent.mode = some .compiler ∧ s.registry.slot c = .built h ∧ h.strategy = .interpret ∧
      RunBy s.registry c h := by
  obtain ⟨code, parsed⟩ := Payload.exists_code_of_smallest
  obtain ⟨prepared, linked⟩ := exists_prepared_of_smallest parsed
  let m : HostedModule :=
    ⟨"a", .dynamic, some ⟨Payload.smallest, code, parsed⟩, none, ⟨some .compiler, .fail, []⟩⟩
  let c : Context := ⟨0, m, .interpret⟩
  let h : Handle := ⟨"a", .interpret, false, prepared⟩
  let fresh : Registry := create .prodNative .standard .empty
  let made : Registry := { fresh with made := [c], warnings := [.nativeDynamic] }
  -- The context is made, which selects its strategy, and then resolved, which builds its handle.
  have start : Resting Selects fresh := .create _ _ _
  have first : Resting Selects made := start.perform (q := .make m none) trivial trivial
  have second := first.perform (q := .resolve .empty c) trivial List.mem_cons_self
  have resolved : (Registry.resolve .empty c).on made =
      (.ok h, { made with tried := [c], slots := [(0, .built h)] }) := by
    have built : made.factory.build made.artifacts .empty c.hosted c.strategy = (.ok h, []) := by
      change ((Engine.standard.interpret code).map
        (fun prepared => (⟨"a", .interpret, false, prepared⟩ : Handle)), _) = _
      rw [linked]
      rfl
    rw [Registry.resolve_of_unsettled rfl, Registry.finishBuild_on]
    simp only [built]
    rfl
  rw [Registry.Request.perform, Operation.on_map, resolved] at second
  obtain ⟨threads, _, served⟩ := second
  obtain ⟨slots, _⟩ := served_by_policy served
  exact ⟨_, c, h, served, List.mem_cons_self, rfl, rfl, rfl, slots c List.mem_cons_self h rfl⟩

end Http

end WasmHost
