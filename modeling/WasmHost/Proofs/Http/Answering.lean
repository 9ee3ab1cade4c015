import WasmHost.Proofs.Http.Handling
import WasmHost.Proofs.Registry.Making
import WasmHost.Proofs.Registry.Resolution

/-! Answering calls: the response to a call depends on the registered module and on what building it gives, and on
nothing else in the registry. -/

namespace WasmHost

namespace Registry

variable {name : String} {r : Registry} {c : Context}

/-- A call leaves nothing but warnings. -/
theorem callHandle_on (h : Handle) (function : String) (arguments : List Value) (r : Registry) :
    (callHandle h function arguments).on r =
      ((h.call r.factory.execution function arguments).1,
        { r with warnings := (h.call r.factory.execution function arguments).2.reverse ++ r.warnings }) := by
  simp only [callHandle, warn, Operation.on_bind, Operation.on_get, Operation.on_modify, Operation.on_lift]

/-- Calls a function of the module that is registered under a name, and tells which strategy served the call. -/
def callByName (files : Files) (name function : String) (arguments : List Value) : Operation (Strategy × Outcome) := do
  let context ← Registry.lookup name
  let handle ← Registry.resolve files context
  let outcome ← callHandle handle function arguments
  return (handle.strategy, outcome)

/-- What a call gives on a handle, if there is one. -/
def callOn (settings : ExecutionSettings) (function : String) (arguments : List Value)
    (resolved : Except HostError Handle) : Except HostError (Strategy × Outcome) :=
  resolved.bind fun h => (h.call settings function arguments).1.map fun outcome => (h.strategy, outcome)

theorem callByName_of_missing (missing : r.get? name = none) (files : Files) (function : String)
    (arguments : List Value) :
    (callByName files name function arguments).on r = (.error (.moduleNotFound name), r) := by
  simp only [callByName, Operation.on_bind, lookup_on, missing]

/-- Apart from warnings, only the resolution leaves traces. -/
theorem callByName_of_found (found : r.get? name = some c) (files : Files) (function : String)
    (arguments : List Value) :
    ∃ warnings, (callByName files name function arguments).on r =
      (callOn r.factory.execution function arguments ((Registry.resolve files c).on r).1,
        { ((Registry.resolve files c).on r).2 with warnings := warnings }) := by
  simp only [callByName, Operation.on_bind, lookup_on, found]
  rcases resolved : (Registry.resolve files c).on r with ⟨why | h, middle⟩
  · exact ⟨middle.warnings, rfl⟩
  · -- The settings of the call are the ones from before.
    have within : Within .handles r middle := (resolve_within rfl files c).of_on resolved
    simp only [callHandle_on, Operation.on_pure, within.factory, callOn, Except.bind]
    cases (h.call r.factory.execution function arguments).1 with
    | error why => exact ⟨_, rfl⟩
    | ok outcome => exact ⟨_, rfl⟩

end Registry

namespace Http

open Handling Registry

variable {admin : Option Admin} {files : Files} {stamp : CallStamp} {request : Request} {r : Registry}

/-- The module, the function and the arguments that a call is about, if all of them can be read. -/
def readCall? (name exported : String) (body : ByteArray) : Option (String × String × List Value) :=
  if maxCallBody < body.size then none
  else
    match Percent.text? name, Percent.text? exported, argumentsOfBody body.toList with
    | some module, some function, .ok arguments => some (module, function, arguments)
    | _, _, _ => none

/-- What is told about a call. -/
def told (stamp : CallStamp) (module function : String) : Except HostError (Strategy × Outcome) → Response
  | .ok (strategy, outcome) => .document 200 (callDocument stamp module function strategy outcome)
  | .error why => .ofError (.ofHostError why)

/-- A call that cannot be read is refused, with nothing but a warning. -/
theorem callFunction_of_unread {name exported : String} {body : ByteArray} (unread : readCall? name exported body = none) :
    ∃ response, ∀ files stamp r, ∃ warnings,
      (callFunction files stamp name exported body).on r = (.error response, { r with warnings := warnings }) := by
  unfold readCall? at unread
  -- The parts are read in order, and the first one that cannot be read is reported.
  cases named : Percent.text? name with
  | none => exact ⟨_, fun files stamp r => ⟨r.warnings, by simp [callFunction, pathName, named]; rfl⟩⟩
  | some module =>
  cases asked : Percent.text? exported with
  | none => exact ⟨_, fun files stamp r => ⟨r.warnings, by simp [callFunction, pathName, named, asked]; rfl⟩⟩
  | some function =>
  by_cases large : maxCallBody < body.size
  · exact ⟨_, fun files stamp r => ⟨r.warnings, by simp [callFunction, pathName, named, asked, large]; rfl⟩⟩
  cases given : argumentsOfBody body.toList with
  | ok arguments => simp [large, named, asked, given] at unread
  | error why =>
    exact ⟨_, fun files stamp r => ⟨_, by simp [callFunction, pathName, named, asked, large, given, Handling.warn, fail]; rfl⟩⟩

/-- A call that can be read is served by the registry, after the module was looked at anew. -/
theorem callFunction_of_read {name exported module function : String} {body : ByteArray} {arguments : List Value}
    (read : readCall? name exported body = some (module, function, arguments)) :
    callFunction files stamp name exported body = (do
      reload files module
      let served ← host (callByName files module function arguments)
      return .document 200 (callDocument stamp module function served.1 served.2)) := by
  unfold readCall? at read
  split at read
  · cases read
  rename_i sized
  split at read
  · rename_i named asked given
    cases read
    -- The registry does all three parts of the call in a row.
    have parts : host (callByName files module function arguments) = (do
        let context ← host (Registry.lookup module)
        let handle ← host (Registry.resolve files context)
        let outcome ← host (callHandle handle function arguments)
        return (handle.strategy, outcome)) := by
      simp only [callByName, host_bind]
      rfl
    simp [callFunction, pathName, named, asked, given, sized, parts]
  · cases read

/-- A module whose file did not change is left as it is. -/
theorem reload_of_unchanged {name : String} (still : (Registry.refresh files name).on r = (.ok false, r)) :
    (reload files name).on r = (.ok (), r) := by
  simp only [reload, Handling.on_bind, on_caught, still]
  rfl

/-- A call is answered with what the registry gives after the module was looked at anew. -/
theorem finish_callFunction {name exported module function : String} {body : ByteArray} {arguments : List Value}
    (read : readCall? name exported body = some (module, function, arguments)) {middle : Registry}
    (reloaded : (reload files module).on r = (.ok (), middle)) :
    (finish (callFunction files stamp name exported body)).run r =
      (told stamp module function ((callByName files module function arguments).on middle).1,
        ((callByName files module function arguments).on middle).2) := by
  rw [finish_run, callFunction_of_read read]
  simp only [Handling.on_bind, reloaded, on_host]
  rcases (callByName files module function arguments).on middle with ⟨why | served, after⟩ <;> rfl

/-! ### Requests -/

namespace Route

/-- The segments of a path from a place on, if no more characters than given are left. -/
def segmentsFrom? : Nat → String → String.Pos.Raw → String.Pos.Raw → List String → Option (List String)
  | 0, _, _, _, _ => none
  | count + 1, path, start, place, before =>
    if place.atEnd path then some (start.extract path place :: before).reverse
    else if place.get path = '/' then
      segmentsFrom? count path (place.next path) (place.next path)
        (start.extract path ((place.next path).unoffsetBy (String.Pos.Raw.next "/" 0)) :: before)
    else segmentsFrom? count path start ((place.unoffsetBy 0).next path) before

/-- Paths are split in this way, which can be computed for any given path. -/
theorem splitOnAux_of_segmentsFrom? {count : Nat} {path : String} {start place : String.Pos.Raw}
    {before segments : List String} (split : segmentsFrom? count path start place before = some segments) :
    path.splitOnAux "/" start place 0 before = segments := by
  have slash : String.Pos.Raw.get "/" 0 = '/' := by decide +kernel
  have single : String.Pos.Raw.atEnd "/" (String.Pos.Raw.next "/" 0) := by decide +kernel
  -- The induction is on the characters that are left at most.
  induction count generalizing start place before with
  | zero => cases split
  | succ count ih =>
    rw [String.splitOnAux]
    simp only [segmentsFrom?] at split
    by_cases done : place.atEnd path
    · rw [if_pos done] at split ⊢
      exact Option.some.inj split
    rw [if_neg done] at split ⊢
    by_cases here : place.get path = '/'
    · rw [if_pos here] at split
      rw [if_pos (by simp [here, slash])]
      simp only [single, if_true]
      exact ih split
    · rw [if_neg here] at split
      rw [if_neg (by simpa [slash] using here)]
      exact ih split

/-- Without administration, the segments of a path tell the resource. -/
theorem ofPath?_of_segments (count : Nat) {path : String} {segments : List String}
    (split : segmentsFrom? count path 0 0 [] = some segments) : ofPath? none path = open? segments := by
  have whole : path.splitOn "/" = segments := splitOnAux_of_segmentsFrom? split
  simp [ofPath?, whole]

end Route

/-- A request that is meant for a function. -/
def AsksFunction (admin : Option Admin) (request : Request) : Prop :=
  ∃ name exported, Route.ofPath? (admin.map (·.mount)) request.path = some (.function name exported)

/-- The call that a request is, if it is one and can be read. -/
def callOf? (admin : Option Admin) (request : Request) : Option (String × String × List Value) :=
  match Route.ofPath? (admin.map (·.mount)) request.path with
  | some (.function name exported) => if request.method = "POST" then readCall? name exported request.body else none
  | _ => none

/-- A function that is asked for in a way that is no call answers the same at all times, whatever is registered. -/
theorem respond_of_no_call (asks : AsksFunction admin request) (none : callOf? admin request = none) :
    ∃ response, ∀ files stamp r, ∃ warnings,
      (respond admin files stamp request).run r = (response, { r with warnings := warnings }) := by
  obtain ⟨name, exported, found⟩ := asks
  rcases respond_cases admin request with ⟨response, same⟩ | ⟨route, found', understood, _⟩
  · exact ⟨response, fun files stamp r => ⟨r.warnings, same files stamp r⟩⟩
  · -- Functions understand calls only, so that this one could not be read.
    cases found.symm.trans found'
    have post : request.method = "POST" := by simpa [Route.methods] using understood
    simp only [callOf?, found, if_pos post] at none
    obtain ⟨response, refused⟩ := callFunction_of_unread none
    refine ⟨response.sentFor request, fun files stamp r => ?_⟩
    obtain ⟨warnings, outcome⟩ := refused files stamp r
    refine ⟨warnings, ?_⟩
    rw [respond_of_function found post, finish_run, outcome]

/-- Calls are made with one method only. -/
theorem post_of_callOf? {call : String × String × List Value} (asked : callOf? admin request = some call) :
    request.method = "POST" := by
  unfold callOf? at asked
  split at asked
  · split at asked
    · assumption
    · cases asked
  · cases asked

/-- A call is answered with what the registry gives after its module was looked at anew. -/
theorem respond_of_reloaded {module function : String} {arguments : List Value}
    (asked : callOf? admin request = some (module, function, arguments)) {middle : Registry}
    (reloaded : (reload files module).on r = (.ok (), middle)) :
    (respond admin files stamp request).run r =
      ((told stamp module function ((callByName files module function arguments).on middle).1).sentFor request,
        ((callByName files module function arguments).on middle).2) := by
  unfold callOf? at asked
  -- A request is a call if its route is a function and its method posts.
  split at asked
  · rename_i name exported found
    split at asked
    · rename_i post
      rw [respond_of_function found post, finish_callFunction asked reloaded]
    · cases asked
  · cases asked

/-- A call is answered with what the registry gives, if its module was not reloaded. -/
theorem respond_of_call {module function : String} {arguments : List Value}
    (asked : callOf? admin request = some (module, function, arguments))
    (still : (Registry.refresh files module).on r = (.ok false, r)) :
    (respond admin files stamp request).run r =
      ((told stamp module function ((callByName files module function arguments).on r).1).sentFor request,
        ((callByName files module function arguments).on r).2) :=
  respond_of_reloaded asked (reload_of_unchanged still)

end Http

end WasmHost
