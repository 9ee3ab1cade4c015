import WasmHost.Engine
import WasmHost.Proofs.Except

/-! Engines: exactly which modules they compile and interpret. -/

namespace WasmHost.Engine

variable {e : Engine} {m : Wasm.Module} {l : Prepared}

/-- No limit of its own keeps the compiler from a module, and no limit of the pool, where there is one. -/
structure CompilerAdmits (e : Engine) (m : Wasm.Module) : Prop where
  translated : e.limits.compiler m = .ok ()
  pooled : e.settings.pooling → e.limits.pool m = .ok ()

/-- No limit of its own keeps the interpreter from a module. -/
def InterpreterAdmits (e : Engine) (m : Wasm.Module) : Prop := e.limits.interpreter m = .ok ()

/-- What is compiled has extensions that the compiler knows, is within all limits, and is linked with the bounds of
compiled instances. -/
theorem compile_eq_ok_iff : e.compile m = .ok l ↔ m.check compiledFeatures = .ok () ∧ e.CompilerAdmits m ∧
    Wasm.Linked.link e.offered e.compiledCapacity m = .ok l := by
  -- The pool is asked after the compiler, and only where there is one.
  simp only [compile, checkCompiled, check_bind_eq_ok_iff, when_bind_eq_ok_iff, mapError_eq_ok_iff]
  constructor
  · rintro ⟨known, translated, pooled, linked⟩
    exact ⟨known, ⟨translated, pooled⟩, linked⟩
  · rintro ⟨known, admits, linked⟩
    exact ⟨known, admits.translated, admits.pooled, linked⟩

/-- What is interpreted has extensions that the interpreter knows, is within its limits, and is linked with the bounds
of interpreted instances, one of which can be filled. -/
theorem interpret_eq_ok_iff : e.interpret m = .ok l ↔ m.check interpretedFeatures = .ok () ∧ e.InterpreterAdmits m ∧
    Wasm.Linked.link e.offered interpretedCapacity m = .ok l ∧ ∃ store, l.freshStore = .ok store := by
  rw [interpret, check_bind_eq_ok_iff, check_bind_eq_ok_iff, bind_eq_ok_iff, mapError_eq_ok_iff, mapError_eq_ok_iff]
  simp only [bind_eq_ok_iff, mapError_eq_ok_iff]
  constructor
  · -- What is filled is thrown away again, and what was linked is left.
    rintro ⟨known, admits, linked, made, store, filled, done⟩
    cases done
    exact ⟨known, admits, made, store, filled⟩
  · rintro ⟨known, admits, made, store, filled⟩
    exact ⟨known, admits, l, made, store, filled, rfl⟩

/-- A module that was compiled is linked with the bounds of compiled instances. -/
theorem compile_eq_ok (compiled : e.compile m = .ok l) : Wasm.Linked.link e.offered e.compiledCapacity m = .ok l :=
  (compile_eq_ok_iff.mp compiled).2.2

/-- A module that was interpreted is linked with the bounds of the interpreter. -/
theorem interpret_eq_ok (interpreted : e.interpret m = .ok l) :
    Wasm.Linked.link e.offered interpretedCapacity m = .ok l :=
  (interpret_eq_ok_iff.mp interpreted).2.2.1

end WasmHost.Engine
