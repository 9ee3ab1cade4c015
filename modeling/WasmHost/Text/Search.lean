/-! Patterns in bytes: where a pattern stands for the first time. -/

namespace WasmHost

namespace Search

/-- Whether a pattern, from one of its places on, stands at a place of some bytes. -/
def standsFrom (bytes pattern : ByteArray) (place offset : Nat) : Bool :=
  if h : offset < pattern.size then
    bytes[place + offset]? == some pattern[offset] && standsFrom bytes pattern place (offset + 1)
  else true
termination_by pattern.size - offset

/-- Whether a pattern stands at a place of some bytes. -/
def standsAt (bytes pattern : ByteArray) (place : Nat) : Bool := standsFrom bytes pattern place 0

/-- The first place of a pattern, from a place on. -/
def find? (bytes pattern : ByteArray) (start : Nat) : Option Nat :=
  if start + pattern.size ≤ bytes.size then
    if standsAt bytes pattern start then some start else find? bytes pattern (start + 1)
  else none
termination_by bytes.size + 1 - start

/-- A pattern is found at or behind the place from which it is looked for, and it fits there. -/
theorem bounds_of_find? {bytes pattern : ByteArray} {start place : Nat}
    (found : find? bytes pattern start = some place) :
    start ≤ place ∧ place + pattern.size ≤ bytes.size := by
  fun_induction find? bytes pattern start with
  | case1 start fits stands => simp at found; omega
  | case2 start fits stands rest => have := rest found; omega
  | case3 start fits => simp at found

end Search

end WasmHost
