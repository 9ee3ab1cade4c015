import Mathlib.Logic.Relation
import WasmHost.Proofs.Http.Handling
import WasmHost.Proofs.Registry.Request

/-! Exchanges: what a request over the network asks of the registry until it is answered. -/

namespace WasmHost.Http

variable {admin : Option Admin} {files : Files} {stamp : CallStamp} {request : Request} {r after : Registry}

/-- Whoever asks is an administrator, and shows it. -/
def Shown (admin : Option Admin) (request : Request) : Prop := ∃ a, admin = some a ∧ Shows a request

/-- What a request over the network can ask of a registry. Everybody can have registered modules reloaded, resolved
and called, and only administrators can have them changed. -/
def Causes (admin : Option Admin) (files : Files) (request : Request) (r : Registry) : Registry.Request → Prop
  | .reload now _ => now = files
  | .resolve now c => now = files ∧ ∃ name, r.get? name = some c
  | .call .. => True
  | .upload name bytes mode =>
    Shown admin request ∧ ∃ boundary, Upload.ofBody boundary request.body = .ok ⟨name, bytes, mode⟩
  | .remove _ => Shown admin request
  | .make .. | .add _ | .replace _ | .init .. | .addArtifact .. | .removeArtifact _ => False

/-- One thing that happens to a registry during an exchange. -/
inductive Does (admin : Option Admin) (files : Files) (request : Request) (r : Registry) : Registry → Prop where
  /-- A warning is reported. -/
  | warns (warnings : List Warning) : Does admin files request r ((Registry.warn warnings).on r).2
  /-- The registry serves a request of its own. -/
  | performs {q : Registry.Request} (caused : Causes admin files request r q) : Does admin files request r (q.perform.on r).2

/-- All that happens to a registry during an exchange. -/
abbrev Course (admin : Option Admin) (files : Files) (request : Request) : Registry → Registry → Prop :=
  Relation.ReflTransGen (Does admin files request)

/-- A registry on which only contexts that were made are registered knows whatever it is asked for. -/
theorem Causes.known {q : Registry.Request} (caused : Causes admin files request r q)
    (registered : ∀ name c, r.get? name = some c → c ∈ r.made) : q.Known r := by
  cases q with
  | resolve now c =>
    -- Only what is registered is resolved.
    obtain ⟨_, name, found⟩ := caused
    exact registered name c found
  | add | replace => exact caused.elim
  | _ => trivial

namespace Handling

theorem warn_course (warning : Warning) : (warn warning).Keeps (Course admin files request) :=
  Keeps.host fun _ => .single (.warns _)

theorem fail_course {α : Type} (e : ApiError) : (fail e : Handling α).Keeps (Course admin files request) :=
  Keeps.throw _

end Handling

open Handling

/-- An operation that serves a request, apart from the form of what it gives. -/
theorem course_of_perform {α : Type} {operation : Operation α} {form : α → Registry.Answer} {q : Registry.Request}
    (same : q.perform = form <$> operation) (caused : Causes admin files request r q) :
    Course admin files request r (operation.on r).2 := by
  -- The form has no part in the registry that is left.
  have done : Does admin files request r (q.perform.on r).2 := .performs caused
  rw [same, Operation.on_map] at done
  exact .single done

theorem reload_course (name : String) : (reload files name).Keeps (Course admin files request) := by
  have refreshed : (Registry.refresh files name).Keeps (Course admin files request) := fun r =>
    course_of_perform (q := .reload files name) rfl rfl
  refine (Keeps.caught refreshed).bind fun outcome => ?_
  cases outcome with
  | ok changed => exact Keeps.pure _
  | error why =>
    -- If the file cannot be loaded, there is only a warning more.
    exact warn_course _

/-- A registered module serves a call. -/
theorem serve_course {c : Context} {name exported : String} {arguments : List Value} (found : r.get? name = some c)
    {next : Handle → Outcome → Response} :
    Course admin files request r
      ((do
        let handle ← host (Registry.resolve files c)
        let outcome ← host (Registry.callHandle handle exported arguments)
        return next handle outcome : Handling Response).on r).2 := by
  have resolved : Course admin files request r ((host (Registry.resolve files c)).on r).2 :=
    course_of_perform (q := .resolve files c) rfl ⟨rfl, name, found⟩
  refine related_bind resolved fun h => ?_
  -- Its handle is called, whichever it is.
  have called : (Registry.callHandle h exported arguments).Keeps (Course admin files request) := fun r =>
    course_of_perform (q := .call h exported arguments) rfl trivial
  exact (Keeps.host called).bind fun _ => Keeps.pure _

theorem callFunction_course (name exported : String) (body : ByteArray) :
    (callFunction files stamp name exported body).Keeps (Course admin files request) := by
  -- The path is read first, then the size of the body is looked at.
  refine (pathName_keeps _ _).bind fun name => (pathName_keeps _ _).bind fun exported => ?_
  refine guard_keeps ?_
  -- The arguments are read before anything is loaded.
  split
  · exact (warn_course _).bind fun _ => fail_course _
  · refine (reload_course name).bind fun _ => fun r => ?_
    -- Whatever serves the call is registered at this moment.
    rw [on_bind, on_host, Registry.lookup_on]
    cases found : r.get? name with
    | none => exact .refl
    | some c => exact serve_course found

/-- An accepted upload is registered, if at all, in the name of an administrator. -/
theorem upload_course (a : Admin) : (upload a request).Keeps (Course (some a) files request) := by
  unfold upload
  split
  · -- The request has no form.
    exact Keeps.throw _
  rename_i boundary _
  refine authorize_keeps fun shows => ?_
  split
  · -- The form is refused.
    exact (warn_course _).bind fun _ => fail_course _
  · rename_i sent accepted
    have registered : (Registry.registerDynamic sent.name sent.bytes sent.mode).Keeps (Course (some a) files request) :=
      fun r => course_of_perform (q := .upload sent.name sent.bytes sent.mode) rfl ⟨⟨a, rfl, shows⟩, boundary, accepted⟩
    refine (Keeps.caught registered).bind fun outcome => ?_
    cases outcome with
    | error why => exact (warn_course _).bind fun _ => fail_course _
    | ok c => exact Keeps.get.bind fun _ => Keeps.pure _

theorem removeModule_course (a : Admin) (name : String) :
    (removeModule a request name).Keeps (Course (some a) files request) := by
  refine (pathName_keeps _ _).bind fun name => authorize_keeps fun shows => ?_
  have removed : (Registry.remove name).Keeps (Course (some a) files request) := fun r =>
    course_of_perform (q := .remove name) rfl ⟨a, rfl, shows⟩
  refine (Keeps.host removed).bind fun found => ?_
  -- Whether the module was there only makes a difference to the answer.
  cases found with
  | none => exact fail_course _
  | some c => exact Keeps.pure _

theorem managedModule_course (a : Admin) (name : String) :
    (managedModule a request name).Keeps (Course (some a) files request) := by
  refine (pathName_keeps _ _).bind fun name => authorize_keeps fun _ => ?_
  exact (Keeps.host (Registry.lookup_keeps name)).bind fun _ => Keeps.get.bind fun _ => Keeps.pure _

theorem handle_course (route : Route) : (handle admin files stamp request route).Keeps (Course admin files request) := by
  cases route with
  | health => exact Keeps.pure _
  | ready | modules => exact Keeps.get.bind fun _ => Keeps.pure _
  | function name exported => exact callFunction_course _ _ _
  | managedModules =>
    cases admin with
    | none => exact Keeps.pure _
    | some a =>
      -- The collection takes uploads, and lists what there is.
      rw [handle]
      split
      · exact upload_course _
      · exact authorize_keeps fun _ => Keeps.get.bind fun _ => Keeps.pure _
  | managedModule name =>
    cases admin with
    | none => exact Keeps.pure _
    | some a =>
      -- A single module is removed, or looked at.
      rw [handle]
      split
      · exact removeModule_course _ _
      · exact managedModule_course _ _

/-- During an exchange, only such things happen to the registry as the request can cause. -/
theorem respond_course (admin : Option Admin) (files : Files) (stamp : CallStamp) (request : Request) (r : Registry) :
    Course admin files request r ((respond admin files stamp request).run r).2 := by
  rcases respond_cases admin request with ⟨response, same⟩ | ⟨route, found, understood, wanted⟩
  · rw [same]
  · rw [respond_of_route found understood wanted, finish_run]
    -- The form in which a response is sent has no part in it.
    have done : Course admin files request r ((handle admin files stamp request route).on r).2 := handle_course route r
    rcases outcome : (handle admin files stamp request route).on r with ⟨response | response, after⟩ <;>
      rwa [outcome] at done

end WasmHost.Http
