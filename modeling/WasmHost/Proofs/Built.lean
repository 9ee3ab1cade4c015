import WasmHost.Proofs.Building
import WasmHost.Proofs.Target

/-! What handles are built from: a module that an engine accepts, linked to what the host offers. -/

namespace WasmHost

namespace Engine

variable {e : Engine} {m : Wasm.Module} {l : Prepared}

/-- A module is valid for some features and linked to what the engine offers, with tables of limited sizes. -/
structure LinkedFrom (e : Engine) (f : Wasm.Features) (code : Wasm.Module) (l : Prepared) : Prop where
  valid : code.check f = .ok ()
  linked : ∃ capacity : Wasm.Capacity, capacity.tableElements ≤ maxTableElements ∧
    Wasm.Linked.link e.offered capacity code = .ok l

theorem tableElements_le (e : Engine) : e.compiledCapacity.tableElements ≤ maxTableElements := by
  have pool : poolTableElements ≤ maxTableElements := by decide
  unfold compiledCapacity capacityOf
  split
  · exact pool
  · exact Nat.le_refl _

theorem linkedFrom_of_compile (compiled : e.compile m = .ok l) : e.LinkedFrom compiledFeatures m l :=
  ⟨(compile_eq_ok_iff.mp compiled).1, _, e.tableElements_le, compile_eq_ok compiled⟩

theorem linkedFrom_of_interpret (interpreted : e.interpret m = .ok l) : e.LinkedFrom interpretedFeatures m l :=
  ⟨(interpret_eq_ok_iff.mp interpreted).1, _, Nat.le_refl _, interpret_eq_ok interpreted⟩

end Engine

namespace Factory

variable {f : Factory} {artifacts : Artifacts} {files : Files}

/-- What is compiled comes from the payload, unless there should be an artifact. -/
theorem exists_linkedFrom_of_compiled {name : String} {p : Payload} {backend : Backend} {l : Prepared}
    (made : f.compiled artifacts files name p backend = .ok l) :
    ∃ code, f.engine.LinkedFrom Engine.compiledFeatures code l ∧ (backend ≠ .precompiled → code = p.code) := by
  unfold compiled at made
  split at made
  · rename_i precompiled
    split at made
    · obtain ⟨code, _, compiled⟩ := bind_eq_ok made
      exact ⟨code, Engine.linkedFrom_of_compile compiled, fun other => absurd precompiled other⟩
    · cases made
  · exact ⟨p.code, Engine.linkedFrom_of_compile made, fun _ => rfl⟩

/-- A handle that was built is linked from a module that one of the engines accepts. This is the one of the payload,
unless there was an artifact. -/
theorem exists_linkedFrom_of_build {m : HostedModule} {strategy : Strategy} {h : Handle}
    (built : (f.build artifacts files m strategy).1 = .ok h) :
    ∃ p features code, m.payload = some p ∧ (features = Engine.compiledFeatures ∨ features = Engine.interpretedFeatures) ∧
      f.engine.LinkedFrom features code h.prepared ∧ (h.strategy.backend ≠ .precompiled → code = p.code) := by
  obtain ⟨p, payload, _, course⟩ := build_eq_ok built
  -- The handle was interpreted at once, or compiled, or interpreted because it could not be compiled.
  rcases course with ⟨_, _, _, interpreted⟩ | ⟨_, chosen, _, compiled⟩ | ⟨_, _, _, _, interpreted⟩
  · exact ⟨p, _, _, payload, .inr rfl, Engine.linkedFrom_of_interpret interpreted, fun _ => rfl⟩
  · obtain ⟨code, linked, same⟩ := exists_linkedFrom_of_compiled compiled
    exact ⟨p, _, code, payload, .inl rfl, linked, chosen ▸ same⟩
  · exact ⟨p, _, _, payload, .inr rfl, Engine.linkedFrom_of_interpret interpreted, fun _ => rfl⟩

end Factory

namespace Wasm.Linked

variable {ε : Type} {host : List (HostFunction ε)} {capacity : Capacity} {m : Module} {l : Linked ε}

/-- Only functions are imported. -/
theorem exists_func_of_resolve {types : TypeTable} {i : Import} {f : Function ε} (resolved : resolve host types i = .ok f) :
    ∃ index, i.type = .func index := by
  unfold resolve at resolved
  cases wanted : i.type with
  | func index => exact ⟨index, rfl⟩
  | table _ | memory _ | global _ | tag _ =>
    rw [wanted] at resolved
    cases resolved

/-- An instance has the functions that are imported and those that are defined. -/
theorem size_functions_of_link (linked : link host capacity m = .ok l) (bodies : m.functions.length = m.code.length) :
    l.program.functions.size = m.importedFunctions.length + m.functions.length := by
  obtain ⟨imported, resolved, done⟩ := bind_eq_ok linked
  cases done
  have both := forall₂_of_mapM resolved
  -- Every import that is resolved is one of a function.
  have functions : m.importedFunctions.length = m.imports.length := by
    refine List.filterMap_length_eq_length.2 fun i member => ?_
    obtain ⟨place, inside, rfl⟩ := List.getElem_of_mem member
    obtain ⟨index, wanted⟩ := exists_func_of_resolve (both.get inside (both.length_eq ▸ inside))
    rw [List.get_eq_getElem] at wanted
    rw [wanted]
    rfl
  rw [List.size_toArray, List.length_append, List.length_map, List.length_zip, ← bodies, Nat.min_self, functions,
    both.length_eq]

end Wasm.Linked

namespace Handle

/-- An instance can be made, and its start function returns. -/
def Instantiates (h : Handle) (budget : Option Nat) : Prop :=
  ∃ progress after, h.fresh = .ok progress ∧ h.start budget progress = (.ok (), after)

variable {h : Handle} {settings : ExecutionSettings}

/-- What a call gives is what its last part gives. -/
theorem values_of_call {progress : Wasm.Linked.Progress GuestEvent} (made : h.fresh = .ok progress) (exported : String)
    (arguments : List Value) : (h.call settings exported arguments).1.map (·.values) =
      (h.finish settings.budget exported arguments (h.start settings.budget progress)).1 := by
  have seen := congrArg (Except.map Prod.fst) (h.call_seen progress exported arguments settings made)
  cases called : (h.call settings exported arguments).1 <;>
    cases ended : (h.finish settings.budget exported arguments (h.start settings.budget progress)).1 <;>
    simp only [called, seenOf, ended, Except.map, Outcome.seen] at seen ⊢ <;> exact seen

/-- Once there is an instance, a call gives what the exported function gives. -/
theorem call_of_instantiates (instantiates : h.Instantiates settings.budget) :
    ∃ progress, ∀ exported arguments, (h.call settings exported arguments).1.map (·.values) =
      (h.target exported arguments).bind fun found => (h.run settings.budget found.1 found.2 arguments progress).1 := by
  obtain ⟨progress, after, made, started⟩ := instantiates
  refine ⟨after, fun exported arguments => ?_⟩
  rw [values_of_call made, started, finish]
  cases h.target exported arguments <;> rfl

/-- A function that is run and does not return traps or is stopped. -/
theorem error_of_run {budget : Option Nat} {f : Wasm.Function GuestEvent} {types : List NumberType}
    {arguments : List Value} {progress : Wasm.Linked.Progress GuestEvent} {why : HostError}
    (failed : (h.run budget f types arguments progress).1 = .error why) :
    (∃ cause, why = .trap cause) ∨ why = .fuelExhausted := by
  unfold run at failed
  split at failed
  · split at failed
    · cases failed
    · -- Results that are no numbers count as a trap.
      cases failed
      exact .inl ⟨_, rfl⟩
  · cases failed
    exact .inl ⟨_, rfl⟩
  · cases failed
    exact .inr rfl

end Handle

end WasmHost
