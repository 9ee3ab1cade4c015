import WasmHost.Proofs.Backends
import WasmHost.Proofs.Fallback
import WasmHost.Proofs.Wasm.Checked
import WasmHost.Proofs.Wasm.Segments

/-! Building: what the two backends ask of a module before they build it. -/

namespace WasmHost

namespace Wasm.Linked

variable {ε : Type}

/-- The host offers what an import asks for: a function of this name and type. -/
def Offers (host : List (HostFunction ε)) (m : Module) : Prop :=
  let types := (TypeTable.ofGroups .all m.types).toOption.getD .empty
  ∀ i ∈ m.imports, ∃ index type, i.type = .func index ∧ types.func? index = some type ∧
    ∃ f ∈ host, f.moduleName = i.moduleName ∧ f.name = i.name ∧ f.type = type

theorem exists_resolve_iff {host : List (HostFunction ε)} {types : TypeTable} {i : Import} :
    (∃ f, resolve host types i = .ok f) ↔ ∃ index type, i.type = .func index ∧ types.func? index = some type ∧
      ∃ f ∈ host, f.moduleName = i.moduleName ∧ f.name = i.name ∧ f.type = type := by
  unfold resolve
  cases wanted : i.type with
  -- An import of a function is found if one with its names and its type is offered.
  | func index =>
    cases type : types.func? index with
    | none => simp [type]
    | some t =>
      simp only [type, Option.map_some]
      cases found : host.find? fun f => f.moduleName = i.moduleName ∧ f.name = i.name ∧ f.type = t with
      | none =>
        have none := List.find?_eq_none.mp found
        simp only [decide_eq_true_iff] at none
        constructor
        · rintro ⟨f, failed⟩
          cases failed
        · rintro ⟨_, _, same, same', f, member, offered⟩
          cases same
          cases type.symm.trans same'
          exact absurd offered (none f member)
      | some f =>
        have offered := List.find?_some found
        rw [decide_eq_true_iff] at offered
        exact ⟨fun _ => ⟨index, t, rfl, type, f, List.mem_of_find?_eq_some found, offered⟩, fun _ => ⟨_, rfl⟩⟩
  -- Nothing else is offered.
  | _ => simp

/-- Exactly those modules can be linked whose imports are offered. -/
theorem exists_link_iff {host : List (HostFunction ε)} {m : Module} (capacity : Capacity) :
    (∃ l, link host capacity m = .ok l) ↔ Offers host m := by
  rw [link, exists_bind_iff]
  constructor
  · -- Imports are resolved one by one, and nothing else of linking can fail.
    rintro ⟨imported, mapped, _⟩ i member
    exact exists_resolve_iff.mp (exists_mapM_iff.mp ⟨imported, mapped⟩ i member)
  · intro offered
    obtain ⟨imported, mapped⟩ := exists_mapM_iff.mpr fun i member => exists_resolve_iff.mpr (offered i member)
    exact ⟨imported, mapped, _, rfl⟩

theorem module_of_link {host : List (HostFunction ε)} {capacity : Capacity} {m : Module} {l : Linked ε}
    (linked : link host capacity m = .ok l) : l.module = m := by
  obtain ⟨imported, _, done⟩ := bind_eq_ok linked
  cases done
  rfl

end Wasm.Linked

namespace Engine

variable {e : Engine} {m : Wasm.Module}

/-- A module that the compiler knows is compiled exactly if it is within the limits and its imports are offered. -/
theorem exists_compile_iff (known : m.check compiledFeatures = .ok ()) :
    (∃ l, e.compile m = .ok l) ↔ e.CompilerAdmits m ∧ Wasm.Linked.Offers e.offered m := by
  simp only [compile_eq_ok_iff, known, true_and, exists_and_left]
  rw [Wasm.Linked.exists_link_iff]

/-- A module that the interpreter knows is interpreted exactly if it is within the limits, its imports are offered and
its segments fit. -/
theorem exists_interpret_iff (known : m.check interpretedFeatures = .ok ()) :
    (∃ l, e.interpret m = .ok l) ↔ e.InterpreterAdmits m ∧ Wasm.Linked.Offers e.offered m ∧ m.SegmentsFit := by
  simp only [interpret_eq_ok_iff, known, true_and, exists_and_left]
  refine and_congr_right fun _ => ?_
  rw [← Wasm.Linked.exists_link_iff interpretedCapacity]
  -- What is filled is what was linked.
  constructor
  · rintro ⟨l, linked, filled⟩
    exact ⟨⟨l, linked⟩, Wasm.Linked.module_of_link linked ▸ l.exists_freshStore_iff.mp filled⟩
  · rintro ⟨⟨l, linked⟩, fits⟩
    exact ⟨l, linked, l.exists_freshStore_iff.mpr (Wasm.Linked.module_of_link linked ▸ fits)⟩

end Engine

namespace Factory

variable {f : Factory} {m : HostedModule} {p : Payload}

/-- The calls of a handle get their instances exactly if the segments of its module fit. -/
theorem exists_fresh_iff {h : Handle} {capacity : Wasm.Capacity} {code : Wasm.Module}
    (linked : Wasm.Linked.link f.engine.offered capacity code = .ok h.prepared) :
    (∃ progress, h.fresh = .ok progress) ↔ code.SegmentsFit := by
  rw [← Wasm.Linked.module_of_link linked, ← h.prepared.exists_freshStore_iff, Handle.fresh]
  cases h.prepared.freshStore <;> simp

/-- Without an instance, all calls fail alike. -/
theorem call_of_unfilled {h : Handle} (unfilled : ¬ ∃ progress, h.fresh = .ok progress) :
    ∃ cause, ∀ settings exported arguments,
      h.call settings exported arguments = (.error (.instantiationFailed (.trap cause)), []) := by
  cases filled : h.prepared.freshStore with
  | ok store => exact absurd ⟨_, by rw [Handle.fresh, filled]⟩ unfilled
  | error why => exact ⟨Handle.segmentFault why, fun _ _ _ => by simp only [Handle.call, Handle.fresh, filled]⟩

/-- A module of some bytes, for which nothing may step in. -/
def hosting (bytes : ByteArray) : HostedModule :=
  ⟨"m", .dynamic, (Payload.parse "m" bytes).toOption, none, ⟨none, .fail, []⟩⟩

/-- Without a pool, a module is compiled once all of its parts pass, and its imports are there. -/
theorem build_of_checked {bytes : ByteArray} {code : Wasm.Module} {l : Prepared}
    (unpooled : f.engine.settings.pooling = false) (header : Wasm.checkHeader bytes = .ok ())
    (read : Wasm.Module.ofSections bytes = .ok code) (valid : ∃ types, code.Checked .all types)
    (compilable : ∃ types, code.Checked Engine.compiledFeatures types)
    (admits : f.engine.limits.compiler code = .ok ())
    (linked : Wasm.Linked.link f.engine.offered f.engine.compiledCapacity code = .ok l) :
    (f.build .empty .empty (hosting bytes) .compileNow).1 = .ok ⟨"m", .compileNow, false, l⟩ := by
  -- A binary that is read and passes the check is parsed, and parsed again by the compiler.
  have parsed : Wasm.Module.parse .all bytes = .ok code :=
    Wasm.Module.parse_eq_ok_iff.2 ⟨header, read, Wasm.Module.check_eq_ok_iff.2 valid⟩
  have payload : (hosting bytes).payload = some ⟨bytes, code, parsed⟩ := by
    rw [hosting, Payload.parse_of_code parsed]
    rfl
  have compiled : f.engine.compile code = .ok l :=
    Engine.compile_eq_ok_iff.mpr ⟨Wasm.Module.check_eq_ok_iff.2 compilable, ⟨admits, by simp [unpooled]⟩, linked⟩
  have built : (f.build .empty .empty ((hosting bytes).under .fail) .compileNow).1 = _ := build_of_strict payload (by decide)
  have same : f.compiled .empty .empty (hosting bytes).name ⟨bytes, code, parsed⟩ .compileNow = .ok l := compiled
  rw [show (hosting bytes).under .fail = hosting bytes from rfl] at built
  exact built.trans (congrArg _ same)

/-- A factory for guests that import nothing, with a pool of memories of one megabyte or without a pool. -/
def plain (pooling : Bool) : Factory := ⟨.metered ⟨pooling, 2, 1, true⟩ [], .standard⟩

/-- A module with a memory of a page and a byte for it. -/
def filling : ByteArray :=
  ⟨#[0x00, 0x61, 0x73, 0x6D, 1, 0, 0, 0, 0x05, 3, 1, 0, 1, 0x0B, 7, 1, 0, 0x41, 0, 0x0B, 1, 0x61]⟩

/-- A module whose memory has no room for its byte. -/
def overfilling : ByteArray :=
  ⟨#[0x00, 0x61, 0x73, 0x6D, 1, 0, 0, 0, 0x05, 3, 1, 0, 0, 0x0B, 7, 1, 0, 0x41, 0, 0x0B, 1, 0x61]⟩

/-- A module whose memory is larger than those of the pool. -/
def spacious : ByteArray := ⟨#[0x00, 0x61, 0x73, 0x6D, 1, 0, 0, 0, 0x05, 3, 1, 0, 17]⟩

/-- Whether bytes are a module that both engines know. -/
def known (bytes : ByteArray) : Bool :=
  (Wasm.Module.parse .all bytes).toOption.any fun code =>
    (code.check Engine.compiledFeatures).isOk && (code.check Engine.interpretedFeatures).isOk

/-- Whether there is a handle for them. -/
def Builds (f : Factory) (bytes : ByteArray) (strategy : Strategy) : Bool :=
  (f.build .empty .empty (hosting bytes) strategy).1.isOk

end Factory

end WasmHost
