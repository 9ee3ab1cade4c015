import WasmHost.Proofs.Backends
import WasmHost.Proofs.Http.Answering
import WasmHost.Proofs.Http.Serving

/-! Isolation: calls do not see each other, neither in what they are answered nor in what they leave behind. -/

namespace WasmHost

namespace Registry

variable {files : Files} {r now : Registry} {needed : Context → Prop} {c d : Context}

/-- What a resolution leaves in the slot of its context. -/
def slotAfter (files : Files) (r : Registry) (c : Context) : Slot := ((Registry.resolve files c).on r).2.slot c

theorem slotAfter_of_settled {outcome : Except HostError Handle} (settled : r.settled c = some outcome) :
    slotAfter files r c = r.slot c := by
  rw [slotAfter, resolve_of_settled settled]

theorem slotAfter_of_unsettled (unsettled : r.settled c = none) :
    slotAfter files r c = .ofAttempt (r.factory.build r.artifacts files c.hosted c.strategy).1 := by
  rw [slotAfter, resolve_of_unsettled unsettled, finishBuild_on]
  simp [slot]

/-- A resolution leaves the slots of all other contexts as they are. -/
theorem slot_resolve_other (other : d.id ≠ c.id) : ((Registry.resolve files c).on r).2.slot d = r.slot d := by
  rcases resolve_slots files c r with same | filled
  · rw [slot, same, slot]
  · rw [slot, filled, lookup_cons_ite, if_neg other, slot]

theorem settled_congr (same : now.slot c = r.slot c) : now.settled c = r.settled c := by
  rw [settled, settled, same]

/-- What calls make of a registry: all is the same, but the slots of the contexts that are needed are filled in the way
in which a resolution would have filled them at the start. -/
structure Filled (files : Files) (r : Registry) (needed : Context → Prop) (now : Registry) : Prop where
  within : Within .handles r now
  taken : ∀ c ∈ r.made, needed c → now.slot c = slotAfter files r c
  left : ∀ c ∈ r.made, ¬ needed c → now.slot c = r.slot c

namespace Filled

theorem refl (files : Files) (r : Registry) : Filled files r (fun _ => False) r :=
  ⟨refl_of (Within .handles) r, fun _ _ => False.elim, fun _ _ _ => rfl⟩

/-- A resolution of a context whose slot is as it was does what it would have done at the start. -/
theorem resolve_of_left (filled : Filled files r needed now) (left : now.slot c = r.slot c) :
    slotAfter files now c = slotAfter files r c ∧
      ((Registry.resolve files c).on now).1 = ((Registry.resolve files c).on r).1 := by
  have same := settled_congr left
  cases known : r.settled c with
  | some outcome =>
    rw [known] at same
    rw [slotAfter_of_settled same, slotAfter_of_settled known, resolve_of_settled same, resolve_of_settled known]
    exact ⟨left, rfl⟩
  | none =>
    -- Both build the handle of the same parts.
    rw [known] at same
    rw [slotAfter_of_unsettled same, slotAfter_of_unsettled known, resolve_of_unsettled same,
      resolve_of_unsettled known, finishBuild_on, finishBuild_on, filled.within.factory, filled.within.artifacts rfl]
    exact ⟨rfl, rfl⟩

/-- Whether a context was needed or not, a resolution gives what it would have given at the start, and leaves what it
would have left. -/
theorem resolve_eq (filled : Filled files r needed now) (known : c ∈ r.made) :
    slotAfter files now c = slotAfter files r c ∧
      ((Registry.resolve files c).on now).1 = ((Registry.resolve files c).on r).1 := by
  by_cases needs : needed c
  · have taken := filled.taken c known needs
    cases before : r.settled c with
    | some outcome =>
      rw [slotAfter_of_settled before] at taken
      exact filled.resolve_of_left taken
    | none =>
      -- An earlier call had it built, and now its slot answers.
      rw [slotAfter_of_unsettled before] at taken ⊢
      obtain ⟨answer, answers⟩ := Option.isSome_iff_exists.mp
        (Slot.answer?_ofAttempt c.name (r.factory.build r.artifacts files c.hosted c.strategy).1)
      have after : now.settled c = some answer := by
        rw [settled_of_payload (payload_of_unsettled before), taken, answers]
      rw [slotAfter_of_settled after, resolve_of_settled after, resolve_of_unsettled before, finishBuild_on]
      exact ⟨taken, by simp [answers]⟩
  · exact filled.resolve_of_left (filled.left c known needs)

/-- So one more resolution takes one more context. -/
theorem resolve (filled : Filled files r needed now) (numbered : Numbered r.made) (known : c ∈ r.made) :
    Filled files r (fun d => needed d ∨ d = c) ((Registry.resolve files c).on now).2 := by
  have within : Within .handles now ((Registry.resolve files c).on now).2 := resolve_within rfl files c now
  refine ⟨trans_of (Within .handles) filled.within within, fun d made needs => ?_, fun d made spared => ?_⟩
  · by_cases same : d.id = c.id
    · obtain rfl := numbered.eq_of_id_eq made known same
      exact (filled.resolve_eq known).1
    · -- The slot of another context was taken before.
      rw [slot_resolve_other same]
      refine filled.taken d made (needs.resolve_right fun equal => same ?_)
      rw [equal]
  · have other : d.id ≠ c.id := fun same => spared (.inr (numbered.eq_of_id_eq made known same))
    rw [slot_resolve_other other]
    exact filled.left d made fun needs => spared (.inl needs)

/-- Warnings do not matter. -/
theorem warned (filled : Filled files r needed now) (warnings : List Warning) :
    Filled files r needed { now with warnings := warnings } := by
  have within : Within .handles now { now with warnings := warnings } :=
    ⟨.of_made_eq rfl rfl rfl rfl, fun _ => rfl, fun _ => rfl, fun _ => rfl, fun _ => rfl, fun _ => rfl⟩
  exact ⟨trans_of (Within .handles) filled.within within, filled.taken, filled.left⟩

/-- It does not matter either how it is said which contexts are needed. -/
theorem of_iff {needed' : Context → Prop} (filled : Filled files r needed now) (same : ∀ c, needed' c ↔ needed c) :
    Filled files r needed' now :=
  ⟨filled.within, fun c known needs => filled.taken c known ((same c).mp needs),
    fun c known spared => filled.left c known fun needs => spared ((same c).mpr needs)⟩

end Filled

end Registry

namespace Http

open Registry (Host Numbered Filled Within create)

variable {admin : Option Admin} {files : Files} {request : Request} {r now : Registry} {needed : Context → Prop}

/-- The context that serves a call. -/
def Needs (admin : Option Admin) (r : Registry) (request : Request) (c : Context) : Prop :=
  ∃ module function arguments, callOf? admin request = some (module, function, arguments) ∧ r.get? module = some c

/-- Outside of development, a call on a registry on which there were other calls is answered as it would have been
without them, and takes the context that it needs. -/
theorem respond_filled (numbered : Numbered r.made) (registered : ∀ name c, r.get? name = some c → c ∈ r.made)
    (built : r.deployment ≠ .dev) (asks : AsksFunction admin request) (filled : Filled files r needed now)
    (stamp : CallStamp) :
    ((respond admin files stamp request).run now).1 = ((respond admin files stamp request).run r).1 ∧
      Filled files r (fun c => needed c ∨ Needs admin r request c) ((respond admin files stamp request).run now).2 := by
  cases asked : callOf? admin request with
  | none =>
    obtain ⟨response, same⟩ := respond_of_no_call asks asked
    obtain ⟨warnings, before⟩ := same files stamp r
    obtain ⟨warnings', after⟩ := same files stamp now
    rw [before, after]
    -- Nothing is needed to refuse it.
    refine ⟨rfl, (filled.warned warnings').of_iff fun c => ?_⟩
    simp [Needs, asked]
  | some call =>
    obtain ⟨module, function, arguments⟩ := call
    have built' : now.deployment ≠ .dev := by rwa [filled.within.deployment]
    rw [respond_of_call asked (Registry.refresh_of_built built files module),
      respond_of_call asked (Registry.refresh_of_built built' files module)]
    have catalog : now.get? module = r.get? module := by rw [Registry.get?, filled.within.catalog rfl, Registry.get?]
    cases found : r.get? module with
    | none =>
      rw [found] at catalog
      rw [Registry.callByName_of_missing found, Registry.callByName_of_missing catalog]
      refine ⟨rfl, filled.of_iff fun c => ?_⟩
      simp [Needs, asked, found]
    | some c =>
      rw [found] at catalog
      have known := registered module c found
      obtain ⟨warnings, before⟩ := Registry.callByName_of_found found files function arguments
      obtain ⟨warnings', after⟩ := Registry.callByName_of_found catalog files function arguments
      rw [before, after]
      refine ⟨?_, ((filled.resolve numbered known).warned warnings').of_iff fun d => ?_⟩
      · simp only [(filled.resolve_eq known).2, filled.within.factory]
      · simp [Needs, asked, found, eq_comm]

/-- Answers requests one after the other, each with a stamp of its own. -/
def respondAll (admin : Option Admin) (files : Files) (calls : List (CallStamp × Request)) :
    StateM Registry (List Response) :=
  calls.mapM fun call => respond admin files call.1 call.2

/-- The response to a request that comes alone. -/
def respondAlone (admin : Option Admin) (files : Files) (r : Registry) (call : CallStamp × Request) : Response :=
  ((respond admin files call.1 call.2).run r).1

/-- All of them are answered as they would have been alone, and take the contexts that they need. -/
theorem respondAll_filled (numbered : Numbered r.made) (registered : ∀ name c, r.get? name = some c → c ∈ r.made)
    (built : r.deployment ≠ .dev) {calls : List (CallStamp × Request)}
    (asks : ∀ call ∈ calls, AsksFunction admin call.2) (filled : Filled files r needed now) :
    ((respondAll admin files calls).run now).1 = calls.map (respondAlone admin files r) ∧
      Filled files r (fun c => needed c ∨ ∃ call ∈ calls, Needs admin r call.2 c)
        ((respondAll admin files calls).run now).2 := by
  -- Each call leaves to the next one what it fills.
  induction calls generalizing now needed with
  | nil => exact ⟨rfl, filled.of_iff fun c => by simp⟩
  | cons call calls ih =>
    obtain ⟨first, more⟩ := respond_filled numbered registered built (asks call List.mem_cons_self) filled call.1
    obtain ⟨rest, last⟩ := ih (fun other member => asks other (List.mem_cons_of_mem call member)) more
    have opened : (respondAll admin files (call :: calls)).run now =
        (((respond admin files call.1 call.2).run now).1 ::
          ((respondAll admin files calls).run ((respond admin files call.1 call.2).run now).2).1,
          ((respondAll admin files calls).run ((respond admin files call.1 call.2).run now).2).2) := by
      rw [respondAll, List.mapM_cons]
      rfl
    rw [opened]
    refine ⟨?_, last.of_iff fun c => ?_⟩
    · rw [List.map_cons, first, rest, respondAlone]
    · simp only [List.exists_mem_cons_iff, or_assoc]

/-- The same response to the same request, apart from what tells one call from another. -/
inductive Retold (stamp stamp' : CallStamp) : Response → Response → Prop where
  /-- Responses without a stamp. -/
  | same (response : Response) : Retold stamp stamp' response response
  /-- Two successful calls. -/
  | called (headers : List (String × String)) (module function : String) (strategy : Strategy) (outcome : Outcome) :
    Retold stamp stamp' ⟨200, headers, .document (callDocument stamp module function strategy outcome)⟩
      ⟨200, headers, .document (callDocument stamp' module function strategy outcome)⟩

/-- Another stamp only changes itself. -/
theorem respond_retold (built : r.deployment ≠ .dev) (asks : AsksFunction admin request) (files : Files)
    (stamp stamp' : CallStamp) :
    Retold stamp stamp' ((respond admin files stamp request).run r).1 ((respond admin files stamp' request).run r).1 := by
  -- A request that calls nothing does not tell its stamp.
  cases asked : callOf? admin request with
  | none =>
    obtain ⟨response, same⟩ := respond_of_no_call asks asked
    obtain ⟨_, first⟩ := same files stamp r
    obtain ⟨_, second⟩ := same files stamp' r
    rw [first, second]
    exact .same response
  | some call =>
    obtain ⟨module, function, arguments⟩ := call
    -- Outside development nothing is refreshed before the call.
    have still := Registry.refresh_of_built built files module
    rw [respond_of_call asked still, respond_of_call asked still]
    have post := post_of_callOf? asked
    simp only [Response.sentFor, post]
    cases ((Registry.callByName files module function arguments).on r).1 with
    | error why => exact .same _
    | ok served => exact .called _ module function served.1 served.2

/-- Outside of development, calls do not see each other. In any order, each request for a function is answered as if it
came alone, and its stamp only shows where the response tells it. Afterwards the same contexts have handles and the same
ones have failed, and nothing but handles was added. -/
theorem calls_in_any_order {s : Host} (served : Served (fun _ => True) s) (built : s.registry.deployment ≠ .dev)
    {calls order : List (CallStamp × Request)} (same : (calls.map (·.2)).Perm (order.map (·.2)))
    (asks : ∀ call ∈ calls, AsksFunction admin call.2) (files : Files) :
    ((respondAll admin files calls).run s.registry).1 = calls.map (respondAlone admin files s.registry) ∧
      ((respondAll admin files order).run s.registry).1 = order.map (respondAlone admin files s.registry) ∧
      (∀ call ∈ calls, ∀ stamp, Retold call.1 stamp (respondAlone admin files s.registry call)
        (respondAlone admin files s.registry (stamp, call.2))) ∧
      (∀ c ∈ s.registry.made, ((respondAll admin files calls).run s.registry).2.slot c =
        ((respondAll admin files order).run s.registry).2.slot c) ∧
      Within .handles s.registry ((respondAll admin files calls).run s.registry).2 ∧
      Within .handles s.registry ((respondAll admin files order).run s.registry).2 := by
  have tidy := served.anyTidy.registry
  -- The other order consists of the same requests.
  have member : ∀ request, (∃ call ∈ calls, call.2 = request) ↔ ∃ call ∈ order, call.2 = request := by
    intro request
    rw [← List.mem_map, ← List.mem_map]
    exact same.mem_iff
  have asks' : ∀ call ∈ order, AsksFunction admin call.2 := by
    intro call ordered
    obtain ⟨other, called, equal⟩ := (member call.2).mpr ⟨call, ordered, rfl⟩
    exact equal ▸ asks other called
  obtain ⟨responses, filled⟩ := respondAll_filled tidy.numbered tidy.registered built asks (.refl files s.registry)
  obtain ⟨responses', filled'⟩ := respondAll_filled tidy.numbered tidy.registered built asks' (.refl files s.registry)
  refine ⟨responses, responses', fun call called stamp => ?_, fun c known => ?_, filled.within, filled'.within⟩
  · exact respond_retold built (asks call called) files call.1 stamp
  · -- A context is needed by one of the calls, or by none of them, in either order.
    have needs : (∃ call ∈ calls, Needs admin s.registry call.2 c) ↔ ∃ call ∈ order, Needs admin s.registry call.2 c := by
      constructor
      · rintro ⟨call, called, needs⟩
        obtain ⟨other, ordered, equal⟩ := (member call.2).mp ⟨call, called, rfl⟩
        exact ⟨other, ordered, equal ▸ needs⟩
      · rintro ⟨call, ordered, needs⟩
        obtain ⟨other, called, equal⟩ := (member call.2).mpr ⟨call, ordered, rfl⟩
        exact ⟨other, called, equal ▸ needs⟩
    by_cases needed : ∃ call ∈ calls, Needs admin s.registry call.2 c
    · rw [filled.taken c known (.inr needed), filled'.taken c known (.inr (needs.mp needed))]
    · rw [filled.left c known (by simpa using needed), filled'.left c known (by simpa using mt needs.mpr needed)]

/-- A call of a function that exists and a call of one that does not, in both orders. -/
theorem calls_in_any_order_of_two :
    ∃ (s : Host) (first second : CallStamp × Request), Served (fun _ => True) s ∧ s.registry.catalog.names = ["sum"] ∧
      Route.ofPath? none first.2.path = some (.function "sum" "add") ∧
      Route.ofPath? none second.2.path = some (.function "sum" "get") ∧
      ((respondAll none .empty [first, second]).run s.registry).1 =
        [respondAlone none .empty s.registry first, respondAlone none .empty s.registry second] ∧
      ((respondAll none .empty [second, first]).run s.registry).1 =
        [respondAlone none .empty s.registry second, respondAlone none .empty s.registry first] := by
  let c : Context := ⟨0, summing, .compileNow⟩
  let fresh : Registry := create .prodJit .standard .empty
  -- The module is made and registered by two requests of the program.
  have start : Resting (fun _ => True) fresh := .create _ _ _
  have made := start.perform (q := .make summing none) trivial trivial
  have registered : Resting (fun _ => True) { fresh with made := [c], catalog := Catalog.empty.insert c } :=
    made.perform (q := .add c) trivial List.mem_cons_self
  obtain ⟨threads, _, served⟩ := registered
  let first : CallStamp × Request := (⟨"1", 7⟩, ⟨"POST", "/modules/sum/call/add", [], .empty⟩)
  let second : CallStamp × Request := (⟨"2", 9⟩, ⟨"POST", "/modules/sum/call/get", [], .empty⟩)
  have path : first.2.path = "/modules/sum/call/add" := by decide +kernel
  have path' : second.2.path = "/modules/sum/call/get" := by decide +kernel
  have found : Route.ofPath? none first.2.path = some (.function "sum" "add") := by
    rw [path, Route.ofPath?_of_segments 30 (by decide +kernel : _ = some ["", "modules", "sum", "call", "add"])]
    rfl
  have found' : Route.ofPath? none second.2.path = some (.function "sum" "get") := by
    rw [path', Route.ofPath?_of_segments 30 (by decide +kernel : _ = some ["", "modules", "sum", "call", "get"])]
    rfl
  -- Both requests ask for a function, of the same module.
  have asks : ∀ call ∈ [first, second], AsksFunction none call.2 := by
    intro call called
    rcases List.mem_cons.mp called with rfl | rest
    · exact ⟨_, _, found⟩
    · rw [List.mem_singleton.mp rest]
      exact ⟨_, _, found'⟩
  have swapped : ([first, second].map (·.2)).Perm ([second, first].map (·.2)) := List.Perm.swap _ _ _
  obtain ⟨responses, responses', _⟩ := calls_in_any_order served (by rintro ⟨⟩) swapped asks .empty
  exact ⟨_, first, second, served, rfl, found, found', responses, responses'⟩

end Http

end WasmHost
