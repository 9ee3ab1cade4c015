import WasmHost.Http.Call
import WasmHost.Proofs.Configuration
import WasmHost.Proofs.Json.Singles

/-! The values that a call has returned may be sent as the arguments of another one, as long as they are finite. -/

namespace WasmHost

namespace Value

open FloatFormat

/-- Integers and the patterns that denote numbers. -/
def Finite : Value → Prop
  | .i32 _ | .i64 _ => True
  | .f32 bits => ∃ negative significand exponent, single.decode bits.toNat = .finite negative significand exponent
  | .f64 bits => ∃ negative significand exponent, double.decode bits.toNat = .finite negative significand exponent

/-- What comes back for a 64-bit number: it has the same sign and is at most two numbers away, and it is the same one if
its shortest digits, with a zero behind the point of whole numbers, and their power of ten are exact. -/
structure Alike (sent back : UInt64) : Prop where
  sign : double.isNegative back.toNat = double.isNegative sent.toNat
  le : double.magnitude back.toNat ≤ double.magnitude sent.toNat + 2
  ge : double.magnitude sent.toNat ≤ double.magnitude back.toNat + 2
  exact : double.magnitude sent.toNat = 0 ∨ Json.Plain (Json.printed double 16 (double.magnitude sent.toNat)) →
    back = sent

/-- What comes back for a value that is sent. -/
inductive Returns : Value → Value → Prop
  | i32 (value : Int32) : Returns (.i32 value) (.i32 value)
  | i64 (value : Int64) : Returns (.i64 value) (.i64 value)
  | f32 (bits : UInt32) : Returns (.f32 bits) (.f32 bits)
  | f64 {sent back : UInt64} (alike : Alike sent back) : Returns (.f64 sent) (.f64 back)

/-! ### Numbers of 32 and 64 bits -/

/-- What is no finite number is written as no value. -/
theorem floatValue_of_not_finite {f : FloatFormat} {bits : Nat}
    (other : ¬ ∃ negative significand exponent, f.decode bits = .finite negative significand exponent) :
    Json.floatValue f bits = .null := by
  unfold Json.floatValue
  dsimp only
  cases decoded : f.decode bits with
  | nan => rfl
  | infinite => rfl
  | finite negative significand exponent => exact absurd ⟨_, _, _, decoded⟩ other

theorem toSingle_floatValue {bits : UInt32}
    (finite : ∃ negative significand exponent, single.decode bits.toNat = .finite negative significand exponent) :
    Document.toSingle (Json.floatValue .single bits.toNat) = .ok bits := by
  have fits : bits.toNat < 2 ^ single.width := bits.toNat_lt
  -- What is written for the number is read with 64 bits, and rounds back to it.
  obtain ⟨near, value, back⟩ := Json.exists_floatValue_single ((single.decode_finite_iff _).1 finite)
    (single.isNegative bits.toNat)
  rw [withSign_magnitude fits] at value back
  rw [value, Document.toSingle, back]
  simp

theorem toDouble_floatValue {bits : UInt64}
    (finite : ∃ negative significand exponent, double.decode bits.toNat = .finite negative significand exponent) :
    ∃ back, Document.toDouble (Json.floatValue .double bits.toNat) = .ok back ∧ Alike bits back := by
  have fits : bits.toNat < 2 ^ double.width := bits.toNat_lt
  obtain ⟨near, value, finite', comes⟩ := Json.exists_floatValue_double ((double.decode_finite_iff _).1 finite)
    (double.isNegative bits.toNat)
  rw [withSign_magnitude fits] at value
  have small := lt_signBit finite'
  -- The pattern that comes back fits into 64 bits, and has the same sign.
  have pattern : (double.withSign (double.isNegative bits.toNat) near).toUInt64.toNat =
      double.withSign (double.isNegative bits.toNat) near := by
    rw [Nat.toUInt64_eq]
    exact UInt64.toNat_ofNat_of_lt' (withSign_lt small _)
  have magnitude : double.magnitude (double.withSign (double.isNegative bits.toNat) near).toUInt64.toNat = near := by
    rw [pattern, magnitude_withSign small]
  refine ⟨_, by rw [value, Document.toDouble], ?_, by rw [magnitude]; exact comes.le, by rw [magnitude]; exact comes.ge, ?_⟩
  · rw [pattern, isNegative_withSign small]
  · intro plain
    rw [comes.exact plain, withSign_magnitude fits]
    simp

/-! ### Values -/

/-- What is read for a value that is written. -/
def reread (value : Value) : Except Mismatch Value := Document.toValue (Json.reread (.ofValue value))

/-- Integers are read as they were, if their type has them. -/
theorem toInteger_reread {low high value : Int} (least : low ≤ value) (less : value < high)
    (narrow : -(Integer.modulus 63 : Int) ≤ low) (narrow' : high ≤ (Integer.modulus 64 : Int)) :
    Document.toInteger low high (Json.reread (.integer value)) = .ok value := by
  have read : Json.reread (.integer value) = .integer value :=
    Json.Written.value_ofInteger (narrow.trans least) (less.trans_le narrow')
  rw [read, Document.toInteger, if_pos ⟨least, less⟩]

/-- Finite values are read, and as values that come back for them. -/
theorem exists_reread {value : Value} (finite : value.Finite) : ∃ back, value.reread = .ok back ∧ value.Returns back := by
  have quarter : Integer.modulus 31 = 2 ^ 31 := by decide
  have half : Integer.modulus 63 = 2 ^ 63 := by decide
  have whole : Integer.modulus 64 = 2 ^ 64 := by decide
  -- Each type of number is read by its own reader, within its own bounds.
  cases value with
  | i32 value =>
    have low := value.le_toInt
    have high := value.toInt_lt
    refine ⟨_, ?_, .i32 value⟩
    show (Document.toInt32 (Json.reread (.integer value.toInt))).map Value.i32 = _
    rw [Document.toInt32, toInteger_reread (by omega) (by omega) (by omega) (by omega)]
    simp [Except.map]
  | i64 value =>
    have low := value.le_toInt
    have high := value.toInt_lt
    refine ⟨_, ?_, .i64 value⟩
    show (Document.toInt64 (Json.reread (.integer value.toInt))).map Value.i64 = _
    rw [Document.toInt64, toInteger_reread (by omega) (by omega) (by omega) (by omega)]
    simp [Except.map]
  | f32 bits =>
    refine ⟨_, ?_, .f32 bits⟩
    show (Document.toSingle (Json.floatValue .single bits.toNat)).map Value.f32 = _
    rw [toSingle_floatValue finite]
    rfl
  | f64 bits =>
    obtain ⟨back, read, alike⟩ := toDouble_floatValue finite
    refine ⟨_, ?_, .f64 alike⟩
    show (Document.toDouble (Json.floatValue .double bits.toNat)).map Value.f64 = _
    rw [read]
    rfl

/-- Only finite values are read. -/
theorem finite_of_reread {value back : Value} (read : value.reread = .ok back) : value.Finite := by
  cases value with
  | i32 value => trivial
  | i64 value => trivial
  | f32 bits =>
    -- What is not finite is written as null, and null is no number.
    by_contra other
    have value : (Document.toSingle (Json.floatValue .single bits.toNat)).map Value.f32 = .ok back := read
    rw [floatValue_of_not_finite other] at value
    cases value
  | f64 bits =>
    by_contra other
    have value : (Document.toDouble (Json.floatValue .double bits.toNat)).map Value.f64 = .ok back := read
    rw [floatValue_of_not_finite other] at value
    cases value

theorem returns_of_reread {value back : Value} (read : value.reread = .ok back) : value.Returns back := by
  obtain ⟨other, same, returns⟩ := exists_reread (finite_of_reread read)
  obtain rfl := Except.ok.inj (read.symm.trans same)
  exact returns

end Value

namespace Http

/-! ### Bodies -/

/-- The body that sends some values as arguments. -/
def argumentsText (sent : Document) : String := "\x7b\"args\":" ++ Json.render sent ++ "\x7d"

theorem argumentsText_eq (sent : Document) : argumentsText sent = Json.render (.record [("args", sent)]) := by
  have start : "\x7b" ++ (Json.quote "args" ++ ":") = "\x7b\"args\":" := by decide
  rw [argumentsText, ← start, Json.render, Json.renderFields, Json.renderFields, String.intercalate_singleton]
  simp only [String.append_assoc]

theorem rereadItems_eq_map (items : List Document) : Json.rereadItems items = items.map Json.reread := by
  induction items with
  | nil => rfl
  | cons item items ih => rw [Json.rereadItems, ih, List.map_cons]

/-- A body that starts with a brace is not blank. -/
theorem not_blank (sent : Document) : (argumentsText sent).toUTF8.toList.all argumentsOfBody.isBlank = false := by
  rw [Utf8.toList_toUTF8, argumentsText, String.append_assoc, String.toList_append]
  rfl

/-- What is taken as the arguments of a call. -/
theorem argumentsOfBody_argumentsText (values : List Value) :
    argumentsOfBody (argumentsText (.list (values.map .ofValue))).toUTF8.toList =
      (values.mapM Value.reread).mapError .mismatch := by
  have read := Json.read_render (.record [("args", .list (values.map .ofValue))])
  rw [argumentsOfBody, not_blank, if_neg Bool.false_ne_true, argumentsText_eq, Json.readAs, read, mapError_ok, ok_bind]
  congr 1
  -- Reading again changes the values and leaves the record around them.
  have kept : Json.reread (.record [("args", .list (values.map .ofValue))]) =
      .record [("args", .list (values.map fun value => Json.reread (.ofValue value)))] := by
    simp [Json.reread, Json.rereadFields, rereadItems_eq_map]
  rw [kept, Document.toArguments]
  refine Document.fields_bind rfl (by decide) ?_
  rw [Document.Fields.withDefault, Document.find?_written]
  show (values.map fun value => Json.reread (.ofValue value)).mapM Document.toValue = _
  rw [List.mapM_map]
  rfl

/-- The values of a call's response may be sent as arguments if all of them are finite, and then each comes back: integers
and 32-bit numbers as they were, 64-bit numbers with their sign and at most two numbers away. -/
theorem arguments_of_response (stamp : CallStamp) (name exported : String) (strategy : Strategy) (outcome : Outcome) :
    ∃ sent, (callDocument stamp name exported strategy outcome).field? "values" = some sent ∧
      ((∃ arguments, argumentsOfBody (argumentsText sent).toUTF8.toList = .ok arguments) ↔
        ∀ value ∈ outcome.values, value.Finite) ∧
      ∀ arguments, argumentsOfBody (argumentsText sent).toUTF8.toList = .ok arguments →
        List.Forall₂ Value.Returns outcome.values arguments := by
  refine ⟨.list (outcome.values.map .ofValue), rfl, ?_, fun arguments taken => ?_⟩
  · -- The list is read if each of its values is.
    rw [argumentsOfBody_argumentsText, exists_mapError_iff, exists_mapM_iff]
    refine forall₂_congr fun value _ => ⟨?_, fun finite => ?_⟩
    · rintro ⟨back, read⟩
      exact Value.finite_of_reread read
    · obtain ⟨back, read, -⟩ := Value.exists_reread finite
      exact ⟨back, read⟩
  · rw [argumentsOfBody_argumentsText] at taken
    exact (forall₂_of_mapM (mapError_eq_ok taken)).imp fun _ _ => Value.returns_of_reread

/-- The outcome of a call with the least integer, a tenth as a number of 32 bits and a tenth as one of 64 bits. -/
def mixedOutcome : Outcome := ⟨[.i64 (-9223372036854775808), .f32 0x3DCCCCCD, .f64 0x3FB999999999999A], [], 0⟩

/-- Its values are taken as arguments. -/
theorem arguments_of_mixedOutcome :
    ∃ sent, (callDocument ⟨"r", 0⟩ "m" "f" .interpret mixedOutcome).field? "values" = some sent ∧
      ∃ arguments, argumentsOfBody (argumentsText sent).toUTF8.toList = .ok arguments ∧
        List.Forall₂ Value.Returns mixedOutcome.values arguments := by
  obtain ⟨sent, found, taken, returned⟩ := arguments_of_response ⟨"r", 0⟩ "m" "f" .interpret mixedOutcome
  -- Both fractions are finite, and integers always are.
  have finite : ∀ value ∈ mixedOutcome.values, value.Finite := by
    have small : FloatFormat.single.magnitude 0x3DCCCCCD < FloatFormat.single.topField * 2 ^ 23 := by decide
    have small' : FloatFormat.double.magnitude 0x3FB999999999999A < FloatFormat.double.topField * 2 ^ 52 := by decide
    simp only [mixedOutcome, List.forall_mem_cons, List.not_mem_nil, false_implies, implies_true, and_true]
    exact ⟨trivial, (FloatFormat.single.decode_finite_iff _).2 small, (FloatFormat.double.decode_finite_iff _).2 small'⟩
  obtain ⟨arguments, given⟩ := taken.2 finite
  exact ⟨sent, found, arguments, given, returned arguments given⟩

/-- A whole number of sixteen digits comes back as its neighbour, and an infinity is not taken at all. -/
theorem neighbour_of_whole_number :
    argumentsOfBody (argumentsText (.list ([Value.f64 0x433C6BF526340001].map .ofValue))).toUTF8.toList =
        .ok [.f64 0x433C6BF526340002] ∧
      argumentsOfBody (argumentsText (.list ([Value.f64 0x7FF0000000000000].map .ofValue))).toUTF8.toList =
        .error (.mismatch (.expected "a number")) := by
  have neighbour : [Value.f64 0x433C6BF526340001].mapM Value.reread = .ok [.f64 0x433C6BF526340002] := by decide +kernel
  have infinity : [Value.f64 0x7FF0000000000000].mapM Value.reread = .error (.expected "a number") := by decide +kernel
  rw [argumentsOfBody_argumentsText, argumentsOfBody_argumentsText, neighbour, infinity]
  exact ⟨rfl, rfl⟩

end Http

end WasmHost
