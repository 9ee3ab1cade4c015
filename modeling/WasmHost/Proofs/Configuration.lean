import Mathlib.Algebra.Group.Nat.Defs
import Mathlib.Data.List.Nodup
import WasmHost.Configuration
import WasmHost.Proofs.Except
import WasmHost.Proofs.Json.Reader

/-! Configurations survive being written as JSON: part by part, what is written is read as what it was. -/

namespace WasmHost

namespace Document

/-! ### Fields -/

/-- The fields of a record that is written. -/
def written (entries : List (String × Document)) : Fields :=
  ⟨false, entries.map fun entry => (entry.1, some entry.2)⟩

/-- Under names that differ, every entry of a record is the only one of its name. -/
theorem filter_eq_singleton {entries : List (String × Document)} (distinct : (entries.map (·.1)).Nodup)
    {entry : String × Document} (member : entry ∈ entries) : entries.filter (·.1 = entry.1) = [entry] := by
  induction entries with
  | nil => cases member
  | cons first rest ih =>
    obtain ⟨new, others⟩ := List.nodup_cons.1 distinct
    rcases List.mem_cons.1 member with rfl | later
    · -- Nothing behind the entry has its name.
      have none : rest.filter (·.1 = entry.1) = [] := by
        rw [List.filter_eq_nil_iff]
        intro other there same
        exact new (List.mem_map.2 ⟨other, there, by simpa using same⟩)
      rw [List.filter_cons_of_pos (by simp), none]
    · have other : first.1 ≠ entry.1 := fun same => new (List.mem_map.2 ⟨entry, later, same.symm⟩)
      rw [List.filter_cons_of_neg (by simpa using other), ih others later]

/-- A record that is written with exactly the declared fields has all of them. -/
theorem fields_record {dialect : Dialect} {names : List String} {entries : List (String × Document)}
    (declared : names = entries.map (·.1)) (distinct : names.Nodup) :
    fields dialect names (.record entries) = .ok (written entries) := by
  subst declared
  rw [fields, mapM_map_eq_ok, ok_bind]
  · rfl
  · intro entry member
    rw [filter_eq_singleton distinct member]

theorem fields_bind {α : Type} {dialect : Dialect} {names : List String} {entries : List (String × Document)}
    {next : Fields → Except Mismatch α} {result : Except Mismatch α} (declared : names = entries.map (·.1))
    (distinct : names.Nodup) (rest : next (written entries) = result) :
    (fields dialect names (.record entries) >>= next) = result := by
  rw [fields_record declared distinct, ok_bind, rest]

theorem find?_written (entries : List (String × Document)) (name : String) :
    (written entries).find? name = entries.lookup name := by
  -- All that is written is there, so that the lookup finds values and not what is unreadable.
  have all : (entries.map fun entry => (entry.1, some entry.2)).lookup name = (entries.lookup name).map some := by
    induction entries with
    | nil => rfl
    | cons entry entries ih =>
      rw [List.map_cons, List.lookup_cons, List.lookup_cons]
      cases name == entry.1 <;> simp [ih]
  rw [Fields.find?, written, all]
  cases entries.lookup name <;> rfl

/-! ### Codecs -/

/-- A way to write values that is kept by JSON and read as the values that were written. -/
structure Codec {α : Type} (typed : Typed α) (encode : α → Document) : Prop where
  typed (a : α) : typed (encode a) = .ok a
  kept (a : α) : Json.reread (encode a) = encode a

namespace Codec

variable {α : Type}

section

variable {item : Typed α} {encode : α → Document} {entries : List (String × Document)} {name : String} {a : α}
  {β : Type} {result : Except Mismatch β}

/-- A field that is written is read, whatever its default is. -/
theorem withDefault (codec : Codec item encode) {default : α} {next : α → Except Mismatch β}
    (found : entries.lookup name = some (encode a)) (rest : next a = result) :
    ((written entries).withDefault name item default >>= next) = result := by
  rw [Fields.withDefault, find?_written, found]
  simp only [codec.typed, ok_bind, rest]

theorem required (codec : Codec item encode) {next : α → Except Mismatch β}
    (found : entries.lookup name = some (encode a)) (rest : next a = result) :
    ((written entries).required name item >>= next) = result := by
  rw [Fields.required, find?_written, found]
  simp only [codec.typed, ok_bind, rest]

theorem optional {next : Option α → Except Mismatch β} {encode : Option α → Document}
    (codec : Codec (toOption item) encode) {o : Option α} (found : entries.lookup name = some (encode o))
    (rest : next o = result) : ((written entries).optional name item >>= next) = result := by
  rw [Fields.optional, find?_written, found]
  simp only [codec.typed, ok_bind, rest]

end

theorem bool : Codec toBool .bool := ⟨fun _ => rfl, fun _ => rfl⟩

theorem text : Codec toText .text := ⟨fun _ => rfl, fun _ => rfl⟩

theorem kept_nat {n : Nat} (fits : n < 2 ^ 64) : Json.reread (nat n) = nat n := by
  have whole : Integer.modulus 64 = 2 ^ 64 := by decide
  exact Json.Written.value_ofInteger (by omega) (by omega)

theorem toNat_nat {n bound : Nat} (fits : n < bound) : toNat bound (nat n) = .ok n := by
  have inside : (0 : Int) ≤ n ∧ (n : Int) < bound := by omega
  rw [toNat, nat, toInteger, if_pos inside]
  rfl

theorem uint32 : Codec toUInt32 fun n => nat n.toNat where
  typed n := by
    have fits : n.toNat < Integer.modulus 32 := n.toNat_lt
    rw [toUInt32, toNat_nat fits]
    simp [Except.map]
  kept n := kept_nat (by have := n.toNat_lt; omega)

theorem uint64 : Codec toUInt64 fun n => nat n.toNat where
  typed n := by
    have fits : n.toNat < Integer.modulus 64 := n.toNat_lt
    rw [toUInt64, toNat_nat fits]
    simp [Except.map]
  kept n := kept_nat n.toNat_lt

/-- A value that may be absent is written as one that is there, or as no value. -/
theorem option {item : Typed α} {encode : α → Document} (codec : Codec item encode) (present : ∀ a, encode a ≠ .null) :
    Codec (toOption item) (Document.option encode) where
  typed o := by
    -- No value is written as null, so a value that is there must not be.
    cases o with
    | none => rfl
    | some a =>
      have there : toOption item (encode a) = (item (encode a)).map some := by
        cases known : encode a with
        | null => exact absurd known (present a)
        | _ => rfl
      rw [Document.option, there, codec.typed]
      rfl
  kept o := by
    cases o with
    | none => rfl
    | some a => exact codec.kept a

theorem list {item : Typed α} {encode : α → Document} (codec : Codec item encode) :
    Codec (toList item) fun items => .list (items.map encode) where
  typed items := (mapM_map_eq_ok fun a _ => codec.typed a).trans (congrArg Except.ok (List.map_id' items))
  kept items := by
    have all : Json.rereadItems (items.map encode) = items.map encode := by
      induction items with
      | nil => rfl
      | cons a items ih => rw [List.map_cons, Json.rereadItems, codec.kept, ih]
    rw [Json.reread, all]

theorem deployment : Codec (toDeployment Json.dialect) fun d => .text d.name :=
  ⟨fun d => by cases d <;> rfl, fun _ => rfl⟩

theorem mode : Codec (toMode Json.dialect) fun m => .text m.name := ⟨fun m => by cases m <;> rfl, fun _ => rfl⟩

theorem fallback : Codec (toFallback Json.dialect) fun f => .text f.name :=
  ⟨fun f => by cases f <;> rfl, fun _ => rfl⟩

theorem engine : Codec (toEngine Json.dialect) ofEngine where
  typed _ := fields_bind rfl (by decide) <| bool.withDefault rfl <| uint32.withDefault rfl <|
    uint32.withDefault rfl <| bool.withDefault rfl rfl
  kept s := by simp only [ofEngine, Json.reread, Json.rereadFields, uint32.kept]

theorem execution : Codec (toExecution Json.dialect) ofExecution where
  typed _ := fields_bind rfl (by decide) <| uint64.withDefault rfl <| bool.withDefault rfl rfl
  kept s := by simp only [ofExecution, Json.reread, Json.rereadFields, uint64.kept]

theorem runtime : Codec (toRuntime Json.dialect) ofRuntime where
  typed _ := fields_bind rfl (by decide) <| deployment.withDefault rfl <| engine.withDefault rfl <|
    execution.withDefault rfl rfl
  kept s := by simp only [ofRuntime, Json.reread, Json.rereadFields, engine.kept, execution.kept]

theorem server : Codec (toServer Json.dialect) ofServer where
  typed _ := fields_bind rfl (by decide) <| text.withDefault rfl <| uint64.withDefault rfl <| bool.withDefault rfl rfl
  kept s := by simp only [ofServer, Json.reread, Json.rereadFields, uint64.kept]

theorem admin : Codec (toAdmin Json.dialect) ofAdmin where
  typed _ := fields_bind rfl (by decide) <| bool.withDefault rfl <| (text.option nofun).optional rfl <|
    text.withDefault rfl rfl
  kept s := by simp only [ofAdmin, Json.reread, Json.rereadFields, (text.option nofun).kept]

theorem entry : Codec (toEntry Json.dialect) ofEntry where
  typed _ := fields_bind rfl (by decide) <| text.required rfl <| (text.option nofun).withDefault rfl <|
    (text.option nofun).withDefault rfl <| bool.withDefault rfl <| (mode.option nofun).withDefault rfl <|
    fallback.withDefault rfl <| uint32.list.withDefault rfl <| (text.option nofun).withDefault rfl rfl
  kept e := by
    have paths := (text.option nofun).kept
    have modes := (mode.option nofun).kept
    have indices := uint32.list.kept e.interpreted
    simp only [Json.reread] at indices
    simp only [ofEntry, Json.reread, Json.rereadFields, paths, modes, indices]

theorem configuration : Codec (toConfiguration Json.dialect) ofConfiguration where
  typed _ := fields_bind rfl (by decide) <| runtime.withDefault rfl <| server.withDefault rfl <|
    admin.withDefault rfl <| (text.option nofun).withDefault rfl <| entry.list.withDefault rfl rfl
  kept c := by
    have directory := (text.option nofun).kept c.resourceDirectory
    have entries := entry.list.kept c.entries
    simp only [Json.reread] at entries
    simp only [ofConfiguration, Json.reread, Json.rereadFields, runtime.kept, server.kept, admin.kept, directory, entries]

end Codec

end Document

namespace Configuration

/-- The JSON text of a configuration, as bytes. -/
def json (c : Configuration) : List UInt8 := (Json.render (.ofConfiguration c)).toUTF8.toList

/-- The configuration that a JSON text denotes. -/
def ofJson (bytes : List UInt8) : Except Json.TypedFault Configuration :=
  Json.readAs (Document.toConfiguration Json.dialect) bytes

/-- A configuration is read back from its JSON text; so whatever text a configuration was read from, its own text
denotes the same one. -/
theorem ofJson_json : (∀ c : Configuration, ofJson c.json = .ok c) ∧
    ∀ bytes c, ofJson bytes = .ok c → ofJson c.json = ofJson bytes := by
  have back (c : Configuration) : ofJson c.json = .ok c := by
    have codec := Document.Codec.configuration
    rw [ofJson, json, Json.readAs, Json.read_render, codec.kept, mapError_ok, ok_bind, codec.typed, mapError_ok]
  exact ⟨back, fun bytes c denoted => (back c).trans denoted.symm⟩

/-- A text with an older name, a list for a record, a field without a value, and fields that are missing. -/
def looseText : String :=
  "\x7b\"runtime\":\x7b\"execution\":\x7b\"max_fuel\":18446744073709551615\x7d\x7d,\"server\":[\"[::1]:80\",5]," ++
    "\"modules\":[\x7b\"name\":\"\\u00e9\",\"execution_mode\":\"RuntimeCompiler\",\"path\":null\x7d]\x7d"

/-- The configuration that it denotes. -/
def loose : Configuration :=
  { Configuration.standard with
    runtime := { RuntimeSettings.standard with execution := ⟨18446744073709551615, true⟩ }
    server := ⟨"[::1]:80", 5, true⟩
    entries := [{ Entry.named "é" with mode := some .compiler }] }

theorem ofJson_looseText : ofJson looseText.toUTF8.toList = .ok loose ∧ ofJson loose.json = .ok loose := by
  have denoted : ofJson looseText.toUTF8.toList = .ok loose := by
    rw [Utf8.toList_toUTF8]
    exact eq_ok_of_toOption (by decide +kernel)
  exact ⟨denoted, (ofJson_json.2 _ _ denoted).trans denoted⟩

end Configuration

end WasmHost
