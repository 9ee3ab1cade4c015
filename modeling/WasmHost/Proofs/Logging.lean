import WasmHost.Proofs.Built
import WasmHost.Proofs.Wasm.HostCalls

/-! Logs: which calls of the log function leave an entry, and that none of them does any harm. -/

namespace WasmHost

open Wasm (HostCall)

/-- A number among the arguments of a call. -/
def Wasm.HostCall.argument (c : HostCall GuestEvent) (place : Nat) : Int :=
  (int32OfBits (c.arguments.getD place 0)).toInt

/-- The level of which something is the number, or else the one for information. -/
def LogLevel.numbered (number : Int) : LogLevel :=
  ([.debug, .info, .warn, .error].find? fun level => (level.number : Int) = number).getD .info

/-- What a call asks to be logged: the text at a place in the memory that the module exports, if it lies inside. -/
def Wasm.HostCall.asked? (m : Wasm.Module) (c : HostCall GuestEvent) : Option LogEntry :=
  (m.exports.find? fun e => e.name = "memory" ∧ e.kind = .memory).bind fun offered =>
    (c.store.memories[offered.index]?).bind fun memory =>
      if 0 ≤ c.argument 1 ∧ 0 ≤ c.argument 2 ∧ c.argument 1 + c.argument 2 ≤ memory.size then
        some ⟨.numbered (c.argument 0), Utf8.lossyText (memory.bytes (c.argument 1).toNat (c.argument 2).toNat)⟩
      else none

/-- Levels have different numbers, and other numbers stand for information. -/
theorem LogLevel.ofNumber_eq (number : Int32) : ofNumber number = numbered number.toInt := by
  -- A level is found by its number as a machine integer, and named by it as an integer.
  have counted (code : Int32) (level : LogLevel) (same : code.toInt = level.number) :
      number = code ↔ (level.number : Int) = number.toInt := by
    rw [eq_comm, ← Int32.toInt_inj, same]
  have zero := counted 0 .debug rfl
  have one := counted 1 .info rfl
  have two := counted 2 .warn rfl
  have three := counted 3 .error rfl
  simp only [ofNumber, numbered, List.find?_cons, List.find?_nil, ← zero, ← one, ← two, ← three]
  by_cases debug : number = 0
  · simp [debug]
  by_cases info : number = 1
  · simp [info]
  by_cases warn : number = 2
  · simp [warn]
  · by_cases error : number = 3 <;> simp [debug, info, warn, error]

/-- An attempt to log succeeds where the text lies inside the memory. -/
theorem logged?_logFrom (memory : Option Wasm.Memory) (level place count : Int32) :
    (logFrom memory level place count).logged? = memory.bind fun memory =>
      if 0 ≤ place.toInt ∧ 0 ≤ count.toInt ∧ place.toInt + count.toInt ≤ memory.size then
        some ⟨.numbered level.toInt, Utf8.lossyText (memory.bytes place.toInt.toNat count.toInt.toNat)⟩
      else none := by
  cases memory with
  | none => rfl
  | some memory =>
    have negative (n : Int32) : n < 0 ↔ n.toInt < 0 := Int32.lt_iff_toInt_lt
    simp only [logFrom, negative, Option.bind_some, ← LogLevel.ofNumber_eq]
    -- The host function asks in turn, and together the questions are whether the text is inside.
    by_cases below : place.toInt < 0 ∨ count.toInt < 0
    · have outside : ¬ (0 ≤ place.toInt ∧ 0 ≤ count.toInt ∧ place.toInt + count.toInt ≤ memory.size) := by omega
      rw [if_pos below, if_neg outside]
      rfl
    · by_cases beyond : memory.size < place.toInt.toNat + count.toInt.toNat
      · have outside : ¬ (0 ≤ place.toInt ∧ 0 ≤ count.toInt ∧ place.toInt + count.toInt ≤ memory.size) := by omega
        rw [if_neg below, if_pos beyond, if_neg outside]
        rfl
      · have inside : 0 ≤ place.toInt ∧ 0 ≤ count.toInt ∧ place.toInt + count.toInt ≤ memory.size := by omega
        rw [if_neg below, if_neg beyond, if_pos inside]
        rfl

/-- A call of the log function leaves the entry that it asks for if a guest makes it, and none if not. -/
theorem logged?_event {capacity : Wasm.Capacity} {m : Wasm.Module} {l : Prepared}
    (linked : Wasm.Linked.link hostFunctions capacity m = .ok l) {c : HostCall GuestEvent} (known : c.Of l.program) :
    (c.event l.program).logged? = if c.fromGuest then c.asked? l.module else none := by
  obtain ⟨type, index, member⟩ := known
  obtain ⟨g, offered, _, same⟩ := Wasm.Linked.exists_offered_of_link linked member
  -- Nothing else is offered, so the call is one of the log function.
  cases List.mem_singleton.1 offered
  rw [HostCall.event, ← same, Wasm.Linked.hostMemory_of_link linked]
  show GuestEvent.logged? (logFrom _ _ _ _) = _
  rw [logged?_logFrom]
  -- A call from outside sees no memory.
  cases c.fromGuest with
  | false => rfl
  | true =>
    rw [if_pos rfl, if_pos rfl, HostCall.asked?]
    cases l.module.exports.find? fun e => e.name = "memory" ∧ e.kind = .memory <;> rfl

namespace Handle

variable (h : Handle) (budget : Option Nat) (exported : String) (arguments : List Value)

/-- The calls of host functions while the start function runs. -/
def startCalls (progress : Wasm.Linked.Progress GuestEvent) : List (HostCall GuestEvent) :=
  match h.prepared.module.start.bind (h.prepared.program.functions[·]?) with
  | none => []
  | some f => h.prepared.hostCalls budget progress f []

/-- The calls of host functions after the start function. -/
def laterCalls (started : Part Unit) : List (HostCall GuestEvent) :=
  match started.1 with
  | .error _ => []
  | .ok () =>
    match h.target exported arguments with
    | .error _ => []
    | .ok (f, _) => h.prepared.hostCalls budget started.2 f (arguments.map Value.bits)

/-- The calls of host functions while a call of a handle runs, in order. -/
def hostCalls : List (HostCall GuestEvent) :=
  match h.fresh with
  | .error _ => []
  | .ok progress => h.startCalls budget progress ++ h.laterCalls budget exported arguments (h.start budget progress)

/-- What is on record when a part of a call has made some calls of host functions. -/
def Recorded (before : List GuestEvent) (calls : List (HostCall GuestEvent)) (after : List GuestEvent) : Prop :=
  after = (calls.map (·.event h.prepared.program)).reverse ++ before

theorem recorded_start (progress : Wasm.Linked.Progress GuestEvent) :
    h.Recorded progress.events (h.startCalls budget progress) (h.start budget progress).2.events := by
  unfold startCalls
  cases declared : h.prepared.module.start.bind (h.prepared.program.functions[·]?) with
  | none =>
    simp only [start, declared]
    rfl
  | some f =>
    rw [h.start_of_some budget progress declared]
    exact h.prepared.invoke_events budget progress f []

theorem recorded_finish (started : Part Unit) :
    h.Recorded started.2.events (h.laterCalls budget exported arguments started)
      (h.finish budget exported arguments started).2.events := by
  obtain ⟨outcome, progress⟩ := started
  -- Where the start failed, or there is nothing to call, nothing is recorded after it.
  cases outcome with
  | error why => rfl
  | ok _ =>
    simp only [laterCalls, finish]
    cases h.target exported arguments with
    | error why => rfl
    | ok found =>
      dsimp only
      rw [run_eq]
      exact h.prepared.invoke_events budget progress found.1 (arguments.map Value.bits)

variable {h exported arguments}

/-- A call logs what its calls of host functions log, in order. -/
theorem logs_of_call {settings : ExecutionSettings} {outcome : Outcome}
    (called : (h.call settings exported arguments).1 = .ok outcome) :
    outcome.logs = (h.hostCalls settings.budget exported arguments).filterMap
      fun c => (c.event h.prepared.program).logged? := by
  cases made : h.fresh with
  | error why =>
    rw [h.call_of_unmade exported arguments settings made] at called
    cases called
  | ok progress =>
    have seen := h.call_seen progress exported arguments settings made
    rw [called] at seen
    -- A fresh instance has no events yet.
    have empty : progress.events = [] := by
      unfold fresh at made
      split at made
      · cases made
        rfl
      · cases made
    -- The start records its calls, and the exported function records its own behind them.
    have started : h.Recorded _ _ _ := h.recorded_start settings.budget progress
    have finished : h.Recorded _ _ _ :=
      h.recorded_finish settings.budget exported arguments (h.start settings.budget progress)
    obtain ⟨values, _, same⟩ := map_eq_ok seen.symm
    have logs : outcome.logs = _ := congrArg Prod.snd same.symm
    rw [logs, finished, started, empty, hostCalls, made]
    simp [List.filterMap_append]

end Handle

namespace Handle

variable {h : Handle} {budget : Option Nat} {exported : String} {arguments : List Value}

/-- The function that a call runs is one of the program. -/
theorem mem_of_target {f : Wasm.Function GuestEvent} {types : List NumberType}
    (found : h.target exported arguments = .ok (f, types)) : f ∈ h.prepared.program.functions := by
  obtain ⟨_, _, known⟩ := Option.bind_eq_some_iff.1 (exported_of_target found)
  exact Array.mem_of_getElem? known

/-- A call of a handle calls host functions of its program. -/
theorem of_mem_hostCalls {c : HostCall GuestEvent} (member : c ∈ h.hostCalls budget exported arguments) :
    c.Of h.prepared.program := by
  unfold hostCalls at member
  split at member
  · cases member
  · -- The call is made by the start function or by the exported one, and both are functions of the program.
    rcases List.mem_append.1 member with starting | later
    · unfold startCalls at starting
      split at starting
      · cases starting
      · rename_i f declared
        obtain ⟨index, _, found⟩ := Option.bind_eq_some_iff.1 declared
        exact h.prepared.of_mem_hostCalls budget _ (Array.mem_of_getElem? found) starting
    · unfold laterCalls at later
      split at later
      · cases later
      · split at later
        · cases later
        · exact h.prepared.of_mem_hostCalls budget _ (mem_of_target ‹_›) later

end Handle

/-- What a successful call of a built handle logs: an entry for each call of the log function that guest code makes,
while the instance starts and afterwards, and that asks for a text inside the memory that the module exports under the
name. No other call leaves an entry, those from outside among them. And no call of the log function does any harm,
whatever its arguments: the guest goes on or returns, with the same store, and so does a call from outside. -/
theorem logs_asked {f : Factory} (offered : f.engine.offered = hostFunctions) {artifacts : Artifacts} {files : Files}
    {m : HostedModule} {strategy : Strategy} {h : Handle} (built : (f.build artifacts files m strategy).1 = .ok h) :
    (∀ settings exported arguments outcome, (h.call settings exported arguments).1 = .ok outcome →
      outcome.logs = ((h.hostCalls settings.budget exported arguments).filter (·.fromGuest)).filterMap
        (·.asked? h.prepared.module)) ∧
    (∀ budget machine c, machine.hostCall? h.prepared.program = some c →
      ∃ next, (Wasm.Machine.step h.prepared.program budget machine = .next next ∨
          ∃ results, Wasm.Machine.step h.prepared.program budget machine = .done (.returned results) next) ∧
        next.store = machine.store) ∧
    ∀ budget progress type index respond arguments,
      (h.prepared.invoke budget progress (.host type index respond) arguments).1 = .returned [] ∧
        (h.prepared.invoke budget progress (.host type index respond) arguments).2.store = progress.store := by
  -- The program of a built handle is linked with the functions that the engine offers.
  obtain ⟨_, _, code, _, _, ⟨_, capacity, _, linked⟩, _⟩ := Factory.exists_linkedFrom_of_build built
  rw [offered] at linked
  refine ⟨fun settings exported arguments outcome called => ?_, fun budget machine c calls => ?_,
    fun budget progress type index respond arguments => h.prepared.invoke_host budget progress type index respond arguments⟩
  · -- Each host call of the run leaves what a call of the log function leaves.
    rw [Handle.logs_of_call called, List.filterMap_filter]
    exact List.filterMap_congr fun c member => logged?_event linked (Handle.of_mem_hostCalls member)
  · -- Every step that calls a host function goes on with the same store.
    have follows := Wasm.Machine.step_follows h.prepared.program budget machine
    rw [calls] at follows
    obtain ⟨_, store, goesOn⟩ := follows
    rcases goesOn with ⟨next, outcome⟩ | ⟨results, last, outcome⟩
    · exact ⟨next, .inl outcome, by rwa [outcome] at store⟩
    · exact ⟨last, .inr ⟨results, outcome⟩, by rwa [outcome] at store⟩

/-- The bytes of a module that logs three bytes of its memory, and once more from a place below the memory. It does so
at the start and in the function `f`; it also exports the log function itself. -/
def greeting : ByteArray :=
  ⟨#[0x00, 0x61, 0x73, 0x6D, 1, 0, 0, 0,
    -- The log function takes three numbers, and the other one nothing.
    0x01, 10, 2, 0x60, 3, 0x7F, 0x7F, 0x7F, 0, 0x60, 0, 0, 0x02, 11, 1, 3, 0x65, 0x6E, 0x76, 3, 0x6C, 0x6F, 0x67, 0, 0,
    0x03, 2, 1, 1, 0x05, 3, 1, 0, 1,
    -- Memory, function and log function are exported.
    0x07, 20, 3, 6, 0x6D, 0x65, 0x6D, 0x6F, 0x72, 0x79, 2, 0, 1, 0x66, 0, 1, 3, 0x6C, 0x6F, 0x67, 0, 0, 0x08, 1, 1,
    0x0A, 20, 1, 18, 0, 0x41, 2, 0x41, 0, 0x41, 3, 0x10, 0, 0x41, 0, 0x41, 0x7F, 0x41, 1, 0x10, 0, 0x0B]⟩

/-- A factory for guests that log. -/
def Factory.logging : Factory := ⟨.metered ⟨false, 1, 1, true⟩ hostFunctions, .standard⟩

/-- The module with these bytes, linked to the log function. -/
def greeter? : Option Prepared :=
  (Wasm.Module.ofSections greeting).toOption.bind fun code =>
    (Wasm.Linked.link hostFunctions Factory.logging.engine.compiledCapacity code).toOption

/-- It is built. -/
theorem build_greeting {l : Prepared} (greets : greeter? = some l) :
    (Factory.logging.build .empty .empty (Factory.hosting greeting) .compileNow).1 = .ok ⟨"m", .compileNow, false, l⟩ := by
  obtain ⟨code, read, linked⟩ := Option.bind_eq_some_iff.1 greets
  -- The module has few parts, so that all of them can be checked here.
  have checks : ((Wasm.Module.ofSections greeting).toOption.map fun code =>
      (decide (∃ types, code.Checked .all types), decide (∃ types, code.Checked Engine.compiledFeatures types))) =
        some (true, true) := by
    decide +kernel
  rw [read] at checks
  obtain ⟨valid, compilable⟩ : (∃ types, code.Checked .all types) ∧ ∃ types, code.Checked Engine.compiledFeatures types := by
    simpa using checks
  exact Factory.build_of_checked rfl (by decide +kernel) (eq_ok_of_toOption read) valid compilable rfl
    (eq_ok_of_toOption linked)

/-- The greeter logs its three bytes twice, at the start and when it is called. -/
theorem logs_asked_greeting :
    ∃ (h : Handle) (outcome : Outcome), Factory.logging.engine.offered = hostFunctions ∧
      (Factory.logging.build .empty .empty (Factory.hosting greeting) .compileNow).1 = .ok h ∧
      (h.call .standard "f" []).1 = .ok outcome ∧
      outcome.logs = [⟨.warn, "\x00\x00\x00"⟩, ⟨.warn, "\x00\x00\x00"⟩] ∧
      outcome.logs = ((h.hostCalls (ExecutionSettings.budget .standard) "f" []).filter (·.fromGuest)).filterMap
        (·.asked? h.prepared.module) := by
  -- The start function logs once, and the exported function once more.
  have logs : (greeter?.bind fun l => ((Handle.mk "m" .compileNow false l).call .standard "f" []).1.toOption.map (·.logs)) =
      some [⟨.warn, "\x00\x00\x00"⟩, ⟨.warn, "\x00\x00\x00"⟩] := by
    decide +kernel
  obtain ⟨l, greets, called⟩ := Option.bind_eq_some_iff.1 logs
  obtain ⟨outcome, called, logs⟩ := Option.map_eq_some_iff.1 called
  have built := build_greeting greets
  have called := eq_ok_of_toOption called
  exact ⟨_, outcome, rfl, built, called, logs, (logs_asked rfl built).1 _ _ _ _ called⟩

/-- Not every call that asks for a text inside the exported memory leaves an entry: the log function sees no memory if it
is called from outside, under the name that the guest exports it by. -/
theorem asked_from_outside_not_logged :
    ∃ (h : Handle) (outcome : Outcome),
      (Factory.logging.build .empty .empty (Factory.hosting greeting) .compileNow).1 = .ok h ∧
      (h.call .standard "log" [.i32 3, .i32 0, .i32 3]).1 = .ok outcome ∧
      outcome.logs ≠ (h.hostCalls (ExecutionSettings.budget .standard) "log" [.i32 3, .i32 0, .i32 3]).filterMap
        (·.asked? h.prepared.module) := by
  -- The start function logs with the memory, and the call from outside without it.
  have logs : (greeter?.bind fun l =>
      let h : Handle := ⟨"m", .compileNow, false, l⟩
      (h.call .standard "log" [.i32 3, .i32 0, .i32 3]).1.toOption.map fun outcome => (outcome.logs,
        (h.hostCalls (ExecutionSettings.budget .standard) "log" [.i32 3, .i32 0, .i32 3]).filterMap (·.asked? l.module))) =
          some ([⟨.warn, "\x00\x00\x00"⟩], [⟨.warn, "\x00\x00\x00"⟩, ⟨.error, "\x00\x00\x00"⟩]) := by
    decide +kernel
  obtain ⟨l, greets, called⟩ := Option.bind_eq_some_iff.1 logs
  obtain ⟨outcome, called, logs⟩ := Option.map_eq_some_iff.1 called
  refine ⟨_, outcome, build_greeting greets, eq_ok_of_toOption called, ?_⟩
  rw [(Prod.mk.inj logs).1, (Prod.mk.inj logs).2]
  decide

end WasmHost
