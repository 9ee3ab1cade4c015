import WasmHost.Proofs.Http.Exchange
import WasmHost.Proofs.Registry.Interleaving
import WasmHost.Proofs.Registry.Making

/-! The token: whoever does not show it neither learns from the managed resources nor changes what is registered. -/

namespace WasmHost

open Registry (Within SameTables Thread)

namespace Http

/-- Whether a resource is only for administrators. -/
def Route.IsManaged : Route → Prop
  | .managedModules | .managedModule _ => True
  | .health | .ready | .modules | .function .. => False

variable {admin : Option Admin} {files : Files} {stamp : CallStamp} {request : Request} {r after : Registry}

/-! ### Responses -/

namespace Handling

/-- Work that ends with the same response on all registries, and changes none of them. -/
def Refuses (work : Handling Response) (response : Response) : Prop := ∀ r, (finish work).run r = (response, r)

theorem throw_refuses (response : Response) : (throw response : Handling Response).Refuses response := fun _ => rfl

theorem pure_refuses (response : Response) : (pure response : Handling Response).Refuses response := fun _ => rfl

/-- What ends early ends, whatever would come next. -/
theorem throw_bind_refuses {α : Type} (response : Response) (next : α → Handling Response) :
    (throw response >>= next).Refuses response := by
  intro r
  rw [finish_run, on_bind, on_throw]

end Handling

open Handling

theorem authorize_refuses {a : Admin} (hidden : ¬ Shows a request) :
    ∃ response, ∀ rest : Handling Response, (authorize a request >>= fun _ => rest).Refuses response := by
  obtain ⟨response, refused⟩ := authorize_of_not_shows hidden
  exact ⟨response, fun rest => refused ▸ throw_bind_refuses response _⟩

/-- The name in a path may be refused even before the token. -/
theorem pathName_refuses {rest : String → Handling Response} (parameter segment : String) {response : Response}
    (refused : ∀ name, (rest name).Refuses response) : ∃ response, (pathName parameter segment >>= rest).Refuses response := by
  unfold pathName
  split
  · rename_i name _
    exact ⟨response, by rw [pure_bind]; exact refused name⟩
  · -- A name that is not text is refused for its own sake.
    exact ⟨_, throw_bind_refuses _ _⟩

/-- The form of an upload may be refused before the token, too. -/
theorem upload_refuses {a : Admin} {response : Response}
    (refused : ∀ rest : Handling Response, (authorize a request >>= fun _ => rest).Refuses response) :
    ∃ response, (upload a request).Refuses response := by
  unfold upload
  split
  · exact ⟨_, throw_refuses _⟩
  · exact ⟨response, refused _⟩

/-- Without the token, a managed resource has one response for all registries. -/
theorem handle_refuses (hidden : ¬ Shown admin request) {route : Route} (managed : route.IsManaged) :
    ∃ response, ∀ files stamp, (handle admin files stamp request route).Refuses response := by
  cases admin with
  | none =>
    -- Without an administration there is nothing to manage.
    cases route with
    | managedModules | managedModule name => exact ⟨_, fun _ _ => pure_refuses _⟩
    | _ => exact managed.elim
  | some a =>
    -- Whatever is wanted of the resource, the token comes before all that looks at the registry.
    obtain ⟨response, refused⟩ := authorize_refuses fun shows => hidden ⟨a, rfl, shows⟩
    cases route with
    | managedModules =>
      by_cases upload : request.method = "POST"
      · obtain ⟨response, refused⟩ := upload_refuses refused
        exact ⟨response, fun _ _ => by rwa [handle, if_pos upload]⟩
      · exact ⟨response, fun _ _ => by rw [handle, if_neg upload]; exact refused _⟩
    | managedModule name =>
      by_cases removal : request.method = "DELETE"
      · obtain ⟨response, refused⟩ := pathName_refuses "name" name fun _ => refused _
        exact ⟨response, fun _ _ => by rw [handle, if_pos removal]; exact refused⟩
      · obtain ⟨response, refused⟩ := pathName_refuses "name" name fun _ => refused _
        exact ⟨response, fun _ _ => by rw [handle, if_neg removal]; exact refused⟩
    | _ => exact managed.elim

/-! ### Effects -/

/-- Outside of development, an exchange without the token only builds handles. -/
theorem Does.within (hidden : ¬ Shown admin request) (built : r.deployment ≠ .dev)
    (does : Does admin files request r after) : Within .handles r after := by
  cases does with
  | warns warnings => exact Registry.warn_within warnings r
  | @performs q caused =>
    cases q with
    | reload now name =>
      -- Only a deployment for development looks at the files again.
      rw [Registry.Request.perform, Operation.on_map, Registry.refresh_of_built built]
      exact refl_of (Within .handles) r
    | resolve now c => exact Thread.perform_within (.resolve now c) r
    | call h exported arguments =>
      rw [Registry.Request.perform, Operation.on_map]
      exact Registry.callHandle_within h exported arguments r
    | upload name bytes mode => exact (hidden caused.1).elim
    | remove name => exact (hidden caused).elim
    | _ => exact caused.elim

theorem Course.within (hidden : ¬ Shown admin request) (built : r.deployment ≠ .dev)
    (course : Course admin files request r after) : Within .handles r after := by
  induction course with
  | refl => exact refl_of (Within .handles) r
  | tail _ step ih =>
    -- The deployment stays as it is.
    have still := ih.deployment ▸ built
    exact trans_of (Within .handles) ih (step.within hidden still)

/-- To a request that does not show the token, managed resources respond the same on all registries and change none
of them; and outside of development no resource changes which contexts and artifacts are registered. -/
theorem without_token (hidden : ¬ Shown admin request) :
    ((∀ route, Route.ofPath? (admin.map (·.mount)) request.path = some route → route.IsManaged) →
      ∀ files files' stamp stamp' r r',
        ((respond admin files stamp request).run r).1 = ((respond admin files' stamp' request).run r').1 ∧
          ((respond admin files stamp request).run r).2 = r) ∧
    ∀ files stamp r, r.deployment ≠ .dev → SameTables r ((respond admin files stamp request).run r).2 := by
  constructor
  · -- On managed resources the response is fixed before anybody looks at the registry.
    intro managed files files' stamp stamp' r r'
    rcases respond_cases admin request with ⟨response, same⟩ | ⟨route, found, understood, wanted⟩
    · rw [same, same]
      exact ⟨rfl, rfl⟩
    · obtain ⟨response, refused⟩ := handle_refuses hidden (managed route found)
      rw [respond_of_route found understood wanted, respond_of_route found understood wanted,
        refused files stamp r, refused files' stamp' r']
      exact ⟨rfl, rfl⟩
  · -- Elsewhere an exchange only does what everybody may cause.
    intro files stamp r built
    exact (Course.within hidden built (respond_course admin files stamp request r)).sameTables rfl rfl

/-- The managed modules are below the path of the administration. -/
theorem ofPath?_managedModules (mount : String) :
    Route.ofPath? (some mount) ((if mount.endsWith "/" then mount else mount ++ "/") ++ "modules") = some .managedModules := by
  simp [Route.ofPath?, Route.managed?, Route.managedSegments]

/-- Somebody who guesses the token cannot find out by an upload whether there are any modules. -/
theorem upload_without_token :
    ∃ (request : Request) (r r' : Registry), request.method = "POST" ∧
      Route.ofPath? (some "/admin") request.path = some .managedModules ∧
      request.header? "x-admin-token" = some (HeaderValue.ofText "guess") ∧ r.catalog.names = ["kept"] ∧ r'.catalog.names = [] ∧
      ∀ files stamp,
        ((respond (some ⟨"/admin", "secret"⟩) files stamp request).run r).1 =
          ((respond (some ⟨"/admin", "secret"⟩) files stamp request).run r').1 ∧
        ((respond (some ⟨"/admin", "secret"⟩) files stamp request).run r).2 = r ∧
        SameTables r ((respond (some ⟨"/admin", "secret"⟩) files stamp request).run r).2 := by
  let request : Request := ⟨"POST", "/admin/modules", [("X-Admin-Token", "guess")], .empty⟩
  let kept : Context := ⟨0, ⟨"kept", .dynamic, none, none, .standard⟩, .compileNow⟩
  let r' : Registry := .create .prodJit .standard .empty
  let r : Registry := { r' with catalog := Catalog.empty.insert kept, made := [kept] }
  have found : Route.ofPath? (some "/admin") request.path = some .managedModules := by
    have path : request.path = (if "/admin".endsWith "/" then "/admin" else "/admin" ++ "/") ++ "modules" := by
      decide +kernel
    rw [path]
    exact ofPath?_managedModules "/admin"
  have shown : request.header? "x-admin-token" = some (HeaderValue.ofText "guess") := by decide +kernel
  -- The token that is shown is a wrong one, which is as good as none.
  have hidden : ¬ Shown (some ⟨"/admin", "secret"⟩) request := by
    rintro ⟨a, ⟨⟩, shows⟩
    rw [Shows, shown] at shows
    exact absurd shows (by decide)
  obtain ⟨same, built⟩ := without_token hidden
  -- The path leads to the management, whatever is registered.
  have managed : ∀ route, Route.ofPath? (some "/admin") request.path = some route → route.IsManaged := by
    intro route other
    rw [found] at other
    cases other
    trivial
  refine ⟨request, r, r', rfl, found, shown, rfl, rfl, fun files stamp => ?_⟩
  obtain ⟨equal, still⟩ := same managed files files stamp stamp r r'
  exact ⟨equal, still, built files stamp r (by decide)⟩

end Http

end WasmHost
