import WasmHost.Proofs.Logging

/-! What is said about a payload, against what runs: its exports and the number of its functions. -/

namespace WasmHost

namespace Engine.LinkedFrom

variable {e : Engine} {f : Wasm.Features} {code : Wasm.Module} {l : Prepared}

/-- The functions of an instance are those that the module has. -/
theorem size_functions (made : e.LinkedFrom f code l) :
    l.program.functions.size = code.importedFunctions.length + code.functions.length := by
  obtain ⟨types, checked⟩ := Wasm.Module.check_eq_ok_iff.1 made.valid
  obtain ⟨_, _, linked⟩ := made.linked
  exact Wasm.Linked.size_functions_of_link linked checked.bodies

/-- A function can be called by a name exactly if the module exports it by this name. -/
theorem exported?_eq_none_iff (made : e.LinkedFrom f code l) (exported : String) :
    l.exported? exported = none ↔ exported ∉ (code.exports.filter (·.kind = .func)).map (·.name) := by
  obtain ⟨types, checked⟩ := Wasm.Module.check_eq_ok_iff.1 made.valid
  obtain ⟨_, _, linked⟩ := made.linked
  rw [Wasm.Linked.exported?, Wasm.Linked.module_of_link linked]
  cases found : code.exports.find? fun x => x.name = exported ∧ x.kind = .func with
  | none =>
    have others := List.find?_eq_none.1 found
    refine iff_of_true rfl fun named => ?_
    obtain ⟨x, member, same⟩ := List.mem_map.1 named
    obtain ⟨listed, kind⟩ := List.mem_filter.1 member
    exact others x listed (by simpa using ⟨same, of_decide_eq_true kind⟩)
  | some x =>
    have member := List.mem_of_find?_eq_some found
    have here : x.name = exported ∧ x.kind = .func := by simpa using List.find?_some found
    -- The check has seen to it that there is a function of the index.
    have inside : x.index < l.program.functions.size := by
      have index := Wasm.index_lt_of_checkExport (checked.exports x member)
      rw [here.2] at index
      rw [made.size_functions, ← List.length_append]
      exact index
    rw [Option.bind_some, Array.getElem?_eq_getElem inside]
    refine iff_of_false nofun (not_not_intro ?_)
    exact List.mem_map.2 ⟨x, List.mem_filter.2 ⟨member, decide_eq_true here.2⟩, here.1⟩

end Engine.LinkedFrom

namespace HostedModule

variable {m : HostedModule} {p : Payload}

/-- A module is accepted exactly if the functions that must be interpreted are among those that are counted. -/
theorem checkInterpreted_eq_ok_iff (payload : m.payload = some p) :
    m.checkInterpreted = .ok m ↔ ∀ index ∈ m.intent.interpreted, index < p.functionCount := by
  simp only [checkInterpreted, payload]
  -- The search finds a function that is beyond the others, if there is one.
  cases found : m.intent.interpreted.find? (p.functionCount ≤ ·) with
  | some index =>
    have beyond : p.functionCount ≤ index := by simpa using List.find?_some found
    exact iff_of_false nofun fun inside => Nat.not_lt.2 beyond (inside index (List.mem_of_find?_eq_some found))
  | none =>
    refine iff_of_true rfl ?_
    simpa using List.find?_eq_none.1 found

/-- The report names one that is not. -/
theorem error_of_checkInterpreted (payload : m.payload = some p) {why : HostError} (refused : m.checkInterpreted = .error why) :
    ∃ index ∈ m.intent.interpreted, p.functionCount ≤ index ∧
      why = .invalidConfig (.noSuchFunction m.name index p.functionCount) := by
  simp only [checkInterpreted, payload] at refused
  split at refused
  · rename_i index found
    cases refused
    exact ⟨index, List.mem_of_find?_eq_some found, by simpa using List.find?_some found, rfl⟩
  · cases refused

end HostedModule

/-- That a name is not exported is said of exactly the names for which there is nothing to run. -/
theorem Handle.call_missing_iff {h : Handle} {settings : ExecutionSettings} (instantiates : h.Instantiates settings.budget)
    (exported : String) (arguments : List Value) (owner name : String) :
    (h.call settings exported arguments).1 = .error (.exportNotFound owner name) ↔
      owner = h.moduleName ∧ name = exported ∧ h.prepared.exported? exported = none := by
  obtain ⟨progress, values⟩ := h.call_of_instantiates instantiates
  have failed (why : HostError) : (h.call settings exported arguments).1 = .error why ↔
      (h.target exported arguments).bind (fun found => (h.run settings.budget found.1 found.2 arguments progress).1) =
        .error why := by
    rw [← values]
    cases (h.call settings exported arguments).1 <;> simp [Except.map]
  rw [failed]
  cases found : h.prepared.exported? exported with
  | none =>
    rw [target_of_missing found]
    simp [Except.bind, eq_comm]
  | some f =>
    refine iff_of_false (fun missing => ?_) (by simp)
    -- What is refused then is refused for another reason, and what runs is there.
    cases answered arguments found with
    | other _ answer | count _ _ _ _ _ answer | type _ _ _ _ _ _ _ _ _ _ _ _ answer =>
      rw [answer] at missing
      cases missing
    | fits _ _ _ granted =>
      rw [granted] at missing
      rcases error_of_run missing with ⟨_, other⟩ | other <;> cases other

/-- The exports of a payload are those of its module, in its order, by distinct names, and its functions are counted
without an overflow. This agrees with what runs, for every handle that is compiled or interpreted from the payload: the
functions are counted as the instance has them, so that a module is refused for functions that must be interpreted exactly
if one of them does not exist. And whoever calls a name of an instance hears that it is not exported exactly if it is
none of the exported functions. -/
theorem metadata_agrees {name : String} {bytes : ByteArray} {p : Payload} (parsed : Payload.parse name bytes = .ok p) :
    (Wasm.Module.parse .all bytes = .ok p.code ∧ p.exports = p.code.exports ∧ (p.exports.map (·.name)).Nodup ∧
      p.functionCount = p.code.importedFunctions.length + p.code.functions.length ∧ p.functionCount < 2 ^ 32) ∧
    ∀ (f : Factory) (artifacts : Artifacts) (files : Files) (m : HostedModule) (strategy : Strategy) (h : Handle),
      m.payload = some p → (f.build artifacts files m strategy).1 = .ok h → h.strategy.backend ≠ .precompiled →
      h.prepared.module = p.code ∧ p.functionCount = h.prepared.program.functions.size ∧
      (∀ declared : HostedModule, declared.payload = some p →
        (declared.checkInterpreted = .ok declared ↔
          ∀ index ∈ declared.intent.interpreted, ∃ g, h.prepared.program.functions[index]? = some g) ∧
        ∀ why, declared.checkInterpreted = .error why → ∃ index ∈ declared.intent.interpreted,
          h.prepared.program.functions[index]? = none ∧
            why = .invalidConfig (.noSuchFunction declared.name index p.functionCount)) ∧
      ∀ settings, h.Instantiates settings.budget → ∀ exported arguments,
        ((∃ owner missing, (h.call settings exported arguments).1 = .error (.exportNotFound owner missing)) ↔
          exported ∉ p.exportedFunctions) := by
  obtain ⟨total, small⟩ := p.functionCount_eq
  have valid : Wasm.Module.parse .all bytes = .ok p.code := Payload.bytes_of_parse parsed ▸ p.parsed
  obtain ⟨_, _, checks⟩ := Wasm.Module.parse_eq_ok_iff.1 valid
  -- What the payload tells was scanned; the module was read and checked, and the scan agrees with it.
  obtain ⟨_, checked⟩ := Wasm.Module.check_eq_ok_iff.1 checks
  refine ⟨⟨valid, p.exports_eq, p.exports_eq ▸ checked.distinct, total, small⟩, ?_⟩
  intro f artifacts files m strategy h payload built fromBytes
  obtain ⟨_, _, code, payload', _, made, same⟩ := Factory.exists_linkedFrom_of_build built
  cases Option.some.inj (payload.symm.trans payload')
  -- Without an artifact, the handle is linked from this very module.
  cases same fromBytes
  have counted : p.functionCount = h.prepared.program.functions.size := total.trans made.size_functions.symm
  obtain ⟨_, _, linked⟩ := made.linked
  refine ⟨Wasm.Linked.module_of_link linked, counted, fun declared offered => ⟨?_, ?_⟩, ?_⟩
  · rw [declared.checkInterpreted_eq_ok_iff offered, counted]
    simp [Array.getElem?_eq_some_iff]
  · intro why refused
    obtain ⟨index, member, beyond, report⟩ := declared.error_of_checkInterpreted offered refused
    exact ⟨index, member, Array.getElem?_eq_none (counted ▸ beyond), report⟩
  · -- Once an instance has started, a name is missing exactly if no function is exported by it.
    intro settings instantiates exported arguments
    rw [Payload.exportedFunctions, p.exports_eq, ← made.exported?_eq_none_iff]
    simp only [Handle.call_missing_iff instantiates]
    exact ⟨fun ⟨_, _, _, _, missing⟩ => missing, fun missing => ⟨_, _, rfl, rfl, missing⟩⟩

/-- The greeter has two functions, and offers both of them; its memory is no function. -/
theorem metadata_agrees_greeting :
    ∃ (p : Payload) (h : Handle), Payload.parse "m" greeting = .ok p ∧
      (Factory.logging.build .empty .empty (Factory.hosting greeting) .compileNow).1 = .ok h ∧
      h.Instantiates (ExecutionSettings.budget .standard) ∧
      p.exportedFunctions = ["f", "log"] ∧ h.prepared.program.functions.size = 2 ∧
      ∃ owner missing, (h.call .standard "memory" []).1 = .error (.exportNotFound owner missing) := by
  -- The instance, its start and its functions are computed at once.
  have starts : (greeter?.bind fun l =>
      let h : Handle := ⟨"m", .compileNow, false, l⟩
      h.fresh.toOption.map fun progress => ((h.start (ExecutionSettings.budget .standard) progress).1.toOption,
        (l.module.exports.filter (·.kind = .func)).map (·.name), l.program.functions.size)) =
          some (some (), ["f", "log"], 2) := by
    decide +kernel
  obtain ⟨l, greets, starts⟩ := Option.bind_eq_some_iff.1 starts
  obtain ⟨progress, fresh, started⟩ := Option.map_eq_some_iff.1 starts
  simp only [Prod.mk.injEq] at started
  have built := build_greeting greets
  have instantiates : (Handle.mk "m" .compileNow false l).Instantiates (ExecutionSettings.budget .standard) :=
    ⟨progress, _, eq_ok_of_toOption fresh, Prod.ext (eq_ok_of_toOption started.1) rfl⟩
  obtain ⟨p, _, _, payload, _⟩ := Factory.exists_linkedFrom_of_build built
  have parsed : Payload.parse "m" greeting = .ok p := eq_ok_of_toOption payload
  obtain ⟨⟨_, exports, _⟩, agrees⟩ := metadata_agrees parsed
  obtain ⟨same, _, _, missing⟩ := agrees _ _ _ _ _ _ payload built nofun
  have offered : p.exportedFunctions = ["f", "log"] := by
    rw [Payload.exportedFunctions, exports, ← same]
    exact started.2.1
  exact ⟨p, _, parsed, built, instantiates, offered, started.2.2,
    (missing .standard instantiates "memory" []).2 (by rw [offered]; decide)⟩

end WasmHost
