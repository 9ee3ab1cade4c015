import WasmHost.Http.Server
import WasmHost.Proofs.Registry.Operation

/-! Handling requests: what the work on a request does to the registry follows from what it asks of it. -/

namespace WasmHost.Http

namespace Handling

variable {α β : Type}

/-- What the work gives, or how it ends early, and the registry that it leaves behind. -/
def on (work : Handling α) (r : Registry) : Except Response α × Registry := work.run.run r

@[simp] theorem on_pure (value : α) (r : Registry) : (pure value : Handling α).on r = (.ok value, r) := rfl

@[simp] theorem on_throw (response : Response) (r : Registry) :
    (throw response : Handling α).on r = (.error response, r) := rfl

@[simp] theorem on_get (r : Registry) : (get : Handling Registry).on r = (.ok r, r) := rfl

/-- An operation leaves the same registry behind, and its error becomes a response. -/
@[simp] theorem on_host (operation : Operation α) (r : Registry) :
    (host operation).on r =
      ((operation.on r).1.mapError fun why => .ofError (.ofHostError why), (operation.on r).2) := rfl

/-- An operation whose error is looked at does not end the work. -/
@[simp] theorem on_caught (operation : Operation α) (r : Registry) :
    (liftM (m := StateM Registry) operation.run : Handling (Except HostError α)).on r =
      (.ok (operation.on r).1, (operation.on r).2) := rfl

@[simp] theorem on_bind (first : Handling α) (next : α → Handling β) (r : Registry) :
    (first >>= next).on r =
      match first.on r with
      | (.ok value, middle) => (next value).on middle
      | (.error response, middle) => (.error response, middle) := by
  unfold on
  rw [run_bind]
  rcases first.run.run r with ⟨response | value, middle⟩ <;> rfl

/-- Two operations in a row are one after the other for the work, too. -/
theorem host_bind (first : Operation α) (next : α → Operation β) :
    host (first >>= next) = host first >>= fun value => host (next value) := by
  have same : ∀ r, (host (first >>= next)).on r = (host first >>= fun value => host (next value)).on r := by
    intro r
    rw [on_bind, on_host, on_host, Operation.on_bind]
    rcases first.on r with ⟨why | value, middle⟩ <;> rfl
  exact funext same

/-- If two parts do not end the work, then neither of them does. -/
theorem on_bind_eq_ok {first : Handling α} {next : α → Handling β} {r after : Registry} {result : β}
    (done : (first >>= next).on r = (.ok result, after)) :
    ∃ value middle, first.on r = (.ok value, middle) ∧ (next value).on middle = (.ok result, after) :=
  run_bind_eq_ok done

theorem on_host_eq_ok {operation : Operation α} {r after : Registry} {value : α}
    (done : (host operation).on r = (.ok value, after)) : operation.on r = (.ok value, after) := by
  rw [on_host] at done
  rcases outcome : operation.on r with ⟨why | result, middle⟩
  · -- A failed operation would have ended the work.
    rw [outcome] at done
    cases done
  · rw [outcome] at done
    cases done
    rfl

theorem on_guard_eq_ok {condition : Prop} [Decidable condition] {response : Response} {rest : Handling β}
    {r after : Registry} {result : β}
    (done : (if condition then throw response >>= fun _ : PUnit => rest else rest).on r = (.ok result, after)) :
    rest.on r = (.ok result, after) := by
  split at done
  · -- A refusal would have ended the work.
    rw [on_bind, on_throw] at done
    cases done
  · exact done

/-- What comes after a name starts where the name was read. -/
theorem pathName_bind_eq_ok {parameter segment : String} {next : String → Handling β} {r after : Registry} {result : β}
    (done : (pathName parameter segment >>= next).on r = (.ok result, after)) :
    ∃ name, Percent.text? segment = some name ∧ (next name).on r = (.ok result, after) := by
  unfold pathName at done
  split at done
  · rename_i name found
    rw [pure_bind] at done
    exact ⟨name, found, done⟩
  · -- Work on a path that is not text ends at once.
    rw [on_bind, on_throw] at done
    cases done

/-- Whatever comes of the work, the registry that it leaves is related to the one that it found. -/
def Keeps (related : Registry → Registry → Prop) (work : Handling α) : Prop := ∀ r, related r (work.on r).2

section Keeps

variable {related : Registry → Registry → Prop}

theorem Keeps.host {operation : Operation α} (keeps : operation.Keeps related) : Keeps related (host operation) :=
  keeps

theorem Keeps.caught {operation : Operation α} (keeps : operation.Keeps related) :
    Keeps related (liftM (m := StateM Registry) operation.run : Handling (Except HostError α)) :=
  keeps

variable [IsPreorder Registry related]

theorem Keeps.pure (value : α) : Keeps related (pure value : Handling α) := fun r => refl r

theorem Keeps.throw (response : Response) : Keeps related (throw response : Handling α) := fun r => refl r

theorem Keeps.get : Keeps related (get : Handling Registry) := fun r => refl r

theorem related_bind {first : Handling α} {next : α → Handling β} {r : Registry} (before : related r (first.on r).2)
    (after : ∀ value, (next value).Keeps related) : related r ((first >>= next).on r).2 :=
  run_bind_related before after

theorem Keeps.bind {first : Handling α} {next : α → Handling β} (before : first.Keeps related)
    (after : ∀ value, (next value).Keeps related) : (first >>= next).Keeps related :=
  fun r => related_bind (before r) after

/-- What is refused in advance leaves no traces. -/
theorem guard_keeps {condition : Prop} [Decidable condition] {response : Response} {rest : Handling β}
    (keeps : rest.Keeps related) : Keeps related (if condition then throw response >>= fun _ : PUnit => rest else rest) := by
  split
  · exact (Keeps.throw response).bind fun _ => keeps
  · exact keeps

theorem pathName_keeps (parameter segment : String) : (pathName parameter segment).Keeps related := by
  unfold Handling.pathName
  split
  · exact Keeps.pure _
  · exact Keeps.throw _

end Keeps

/-- The response is the last thing that the work decides on. -/
theorem finish_run (work : Handling Response) (r : Registry) :
    (finish work).run r =
      match work.on r with
      | (.ok response, after) => (response, after)
      | (.error response, after) => (response, after) := by
  -- Whether the work ended early is not told any more.
  simp only [finish, StateT.run_bind, on]
  rcases work.run.run r with ⟨response | response, after⟩ <;> rfl

end Handling

open Handling

/-! ### Tokens -/

/-- Whether a request shows the token. Only the first of its headers counts. -/
def Shows (admin : Admin) (request : Request) : Prop :=
  request.header? "x-admin-token" = some (HeaderValue.ofText admin.token)

theorem authorize_of_shows {admin : Admin} {request : Request} (shows : Shows admin request) :
    authorize admin request = pure () := by
  -- The header that is found is the token.
  rw [authorize, shows]
  simp

/-- Without the token the work ends, and nobody looked at the registry. -/
theorem authorize_of_not_shows {admin : Admin} {request : Request} (hidden : ¬ Shows admin request) :
    ∃ response, authorize admin request = throw response := by
  unfold authorize
  split
  · -- There is no such header.
    exact ⟨_, rfl⟩
  · -- There is one, but it is not the token.
    rename_i token found
    refine ⟨_, if_neg fun same => hidden ?_⟩
    rw [Shows, found, same]

/-- Only administrators get to what comes after the token. -/
theorem authorize_keeps {related : Registry → Registry → Prop} [IsPreorder Registry related] {β : Type}
    {admin : Admin} {request : Request} {rest : Handling β} (keeps : Shows admin request → rest.Keeps related) :
    (authorize admin request >>= fun _ => rest).Keeps related := by
  by_cases shows : Shows admin request
  · rw [authorize_of_shows shows, pure_bind]
    exact keeps shows
  · obtain ⟨response, refused⟩ := authorize_of_not_shows shows
    -- Nothing comes after a refusal.
    intro r
    rw [refused, on_bind, on_throw]
    exact refl r

/-! ### Responses -/

/-- A response as it is sent. -/
def Response.sentFor (response : Response) (request : Request) : Response :=
  (if request.method = "HEAD" then response.withoutBody else response).withHeader "access-control-allow-origin" "*"

variable {admin : Option Admin} {request : Request}

/-- What is answered offhand stays as it is, apart from a header. -/
theorem respond_offhand {response : Response} (answered : ∀ files stamp, answer admin files stamp request = pure response) :
    ∃ response, ∀ files stamp r, (respond admin files stamp request).run r = (response, r) := by
  refine ⟨response.withHeader "access-control-allow-origin" "*", fun files stamp r => ?_⟩
  rw [respond, answered]
  rfl

/-- A resource does its work if it understands what is wanted. -/
theorem respond_of_route {route : Route} (found : Route.ofPath? (admin.map (·.mount)) request.path = some route)
    (understood : request.method ∈ route.methods) (wanted : request.method ≠ "OPTIONS") (files : Files)
    (stamp : CallStamp) (r : Registry) :
    (respond admin files stamp request).run r =
      (((finish (handle admin files stamp request route)).run r).1.sentFor request,
        ((finish (handle admin files stamp request route)).run r).2) := by
  have known : ¬ (!route.methods.contains request.method) := by simpa using understood
  -- All earlier answers are for other requests.
  have worked : answer admin files stamp request = (do
      let response ← finish (handle admin files stamp request route)
      return if request.method = "HEAD" then response.withoutBody else response) := by
    rw [answer, found, if_neg wanted]
    exact if_neg known
  rw [respond, worked]
  rfl

/-- A request for a function is a call of it if it has the right method. -/
theorem respond_of_function {name exported : String}
    (found : Route.ofPath? (admin.map (·.mount)) request.path = some (.function name exported))
    (post : request.method = "POST") (files : Files) (stamp : CallStamp) (r : Registry) :
    (respond admin files stamp request).run r =
      (((finish (callFunction files stamp name exported request.body)).run r).1.sentFor request,
        ((finish (callFunction files stamp name exported request.body)).run r).2) := by
  have understood : request.method ∈ (Route.function name exported).methods := by simp [Route.methods, post]
  exact respond_of_route found understood (by simp [post]) files stamp r

/-- Either nothing is asked of a resource, and the registry has no part in the response, or a resource does its
work. -/
theorem respond_cases (admin : Option Admin) (request : Request) :
    (∃ response, ∀ files stamp r, (respond admin files stamp request).run r = (response, r)) ∨
      ∃ route, Route.ofPath? (admin.map (·.mount)) request.path = some route ∧ request.method ∈ route.methods ∧
        request.method ≠ "OPTIONS" := by
  by_cases options : request.method = "OPTIONS"
  · -- What pages may ask is answered offhand, whether there is a resource or not.
    left
    cases found : Route.ofPath? (admin.map (·.mount)) request.path with
    | none => exact respond_offhand fun files stamp => by rw [answer, found, if_pos options]
    | some route => exact respond_offhand fun files stamp => by rw [answer, found, if_pos options]
  cases found : Route.ofPath? (admin.map (·.mount)) request.path with
  | none => exact .inl (respond_offhand fun files stamp => by rw [answer, found, if_neg options])
  | some route =>
    by_cases understood : request.method ∈ route.methods
    · exact .inr ⟨route, rfl, understood, options⟩
    · -- A resource refuses the methods that it does not have.
      have unknown : !route.methods.contains request.method := by simpa using understood
      have refused : ∀ files stamp, answer admin files stamp request =
          pure ((Response.empty 405).withHeader "allow" route.allow) := by
        intro files stamp
        rw [answer, found, if_neg options]
        exact if_pos unknown
      exact .inl (respond_offhand refused)

end WasmHost.Http
