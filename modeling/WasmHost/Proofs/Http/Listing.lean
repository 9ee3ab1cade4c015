import WasmHost.Proofs.Http.Serving
import WasmHost.Proofs.Registry.Ordered

/-! Listings: what a served registry tells about its contexts, and in which order. -/

namespace WasmHost.Http

open Registry (Host Lists create)

/-- What is told over the network about the number of contexts, and about all of them in order. -/
structure Announces (r : Registry) (l : Roster) : Prop where
  ready : ready r = .record
    [("status", .text "ready"), ("deployment", .text r.deployment.name), ("modules_loaded", .nat l.length)]
  modules : modules r = .record
    [("count", .nat l.length), ("modules", .list (l.map fun c => .ofInfo (r.info c)))]
  managed : managedModules r = .record
    [("deployment", .text r.deployment.name), ("count", .nat l.length),
      ("modules", .list (l.map fun c => .ofInfo (r.info c)))]

theorem announces_of_lists {r : Registry} {l : Roster} (lists : Lists r l) : Announces r l := by
  have size := lists.size
  have contexts := lists.contexts
  exact ⟨by rw [ready, size], by rw [modules, summaries, size, contexts],
    by rw [managedModules, summaries, size, contexts]⟩

/-- Every registry of a host behaves as a map that keeps the order of its names: it shows a roster in all ways in
which it can be asked, and requests do to the roster what they promise. -/
theorem served_in_order {s : Host} (served : Served (fun _ => True) s) :
    ∃ l, Lists s.registry l ∧ Announces s.registry l ∧
      ∀ q : Registry.Request, q.Known s.registry →
        ∃ later, Lists (q.perform.on s.registry).2 later ∧ Announces (q.perform.on s.registry).2 later ∧
          q.Effect l (q.perform.on s.registry).1 later := by
  have fits : ∀ m, Registry.Fits (fun _ _ => True) m := fun _ _ _ _ _ _ => trivial
  have respected : Registry.Respected (fun _ => True) fun _ _ => True :=
    ⟨fun m _ => fits m, fun _ _ _ _ _ => trivial, fun _ _ _ _ _ _ m _ => fits m, fun _ _ _ _ _ _ m _ _ _ => fits m,
      fun _ _ _ _ _ _ m _ _ _ _ _ => fits m⟩
  have tidy := served.tidy respected fun _ _ _ _ _ _ => trivial
  have lists := Registry.lists_of_valid tidy.registry.valid
  refine ⟨_, lists, announces_of_lists lists, fun q known => ?_⟩
  -- The registry is as tidy after the request as it was before.
  have after := Registry.Request.perform_tidy respected (q := q) trivial known tidy.registry
  have later := Registry.lists_of_valid after.valid
  exact ⟨_, later, announces_of_lists later, q.perform_effect tidy.registry.valid⟩

/-- A name that comes back after it was removed comes last. -/
theorem served_in_order_again :
    ∃ (s : Host) (c : Context), Served (fun _ => True) s ∧ s.registry.catalog.names = ["second"] ∧ c.name = "first" ∧
      ((Registry.Request.add c).perform.on s.registry).2.catalog.names = ["second", "first"] ∧
      ∃ l, Lists s.registry l ∧ Announces s.registry l ∧ l.length = 1 := by
  let first : HostedModule := ⟨"first", .dynamic, none, none, .standard⟩
  let second : HostedModule := ⟨"second", .dynamic, none, none, .standard⟩
  let a : Context := ⟨0, first, .compileNow⟩
  let b : Context := ⟨1, second, .compileNow⟩
  let fresh := create .prodJit .standard .empty
  let both : Registry := { fresh with made := [b, a], catalog := (Catalog.empty.insert a).insert b }
  have start : Resting (fun _ => True) fresh := .create _ _ _
  have made : Resting (fun _ => True) { fresh with made := [b, a] } :=
    (start.perform (q := .make first none) trivial trivial).perform (q := .make second none) trivial trivial
  have known : a ∈ [b, a] := List.mem_cons_of_mem b List.mem_cons_self
  have registered : Resting (fun _ => True) both :=
    (made.perform (q := .add a) trivial known).perform (q := .add b) trivial List.mem_cons_self
  -- The first one is removed, and comes back.
  obtain ⟨threads, _, served⟩ := registered.perform (q := .remove "first") trivial trivial
  obtain ⟨l, lists, announces, _⟩ := served_in_order served
  refine ⟨_, a, served, rfl, rfl, rfl, l, lists, announces, ?_⟩
  exact lists.size.symm

end WasmHost.Http
