/-! The keyed hash SipHash with one round per block and three final rounds, at the zero key. -/

namespace WasmHost

/-- The four words that hashing mixes. -/
structure SipState where
  /-- The first word. -/
  v0 : UInt64
  /-- The second word. -/
  v1 : UInt64
  /-- The third word. -/
  v2 : UInt64
  /-- The fourth word. -/
  v3 : UInt64
deriving DecidableEq, Repr, Inhabited

namespace SipState

/-- The words that the zero key starts from. -/
def start : SipState where
  v0 := 0x736F6D6570736575
  v1 := 0x646F72616E646F6D
  v2 := 0x6C7967656E657261
  v3 := 0x7465646279746573

/-- A rotation of a word to the left. -/
@[inline] def rotl (x : UInt64) (amount : UInt64) : UInt64 := x <<< amount ||| x >>> (64 - amount)

/-- One round of mixing. -/
def round (s : SipState) : SipState :=
  let v0 := s.v0 + s.v1
  let v1 := rotl s.v1 13 ^^^ v0
  let v0 := rotl v0 32
  let v2 := s.v2 + s.v3
  let v3 := rotl s.v3 16 ^^^ v2
  let v0 := v0 + v3
  let v3 := rotl v3 21 ^^^ v0
  let v2 := v2 + v1
  let v1 := rotl v1 17 ^^^ v2
  let v2 := rotl v2 32
  ⟨v0, v1, v2, v3⟩

/-- Takes in a block of eight bytes. -/
def absorb (s : SipState) (block : UInt64) : SipState :=
  let mixed := round { s with v3 := s.v3 ^^^ block }
  { mixed with v0 := mixed.v0 ^^^ block }

/-- The hash after the last block. -/
def finish (s : SipState) : UInt64 :=
  let s := { s with v2 := s.v2 ^^^ 0xFF }
  let s := s.round.round.round
  s.v0 ^^^ s.v1 ^^^ s.v2 ^^^ s.v3

end SipState

/-- Eight bytes from a place on, lowest first; bytes after the end count as zero. -/
def blockAt (bytes : ByteArray) (place : Nat) : UInt64 :=
  go 8 0
where
  /-- Higher bytes are taken first. -/
  go : Nat → UInt64 → UInt64
    | 0, word => word
    | more + 1, word =>
      let next := if h : place + more < bytes.size then bytes[place + more].toUInt64 else 0
      go more (word <<< 8 ||| next)

/-- The hash of a length, written as eight bytes, and of as many bytes. -/
def sipHash (bytes : ByteArray) : UInt64 :=
  let length := bytes.size
  let start := SipState.start.absorb length.toUInt64
  let whole := length / 8
  let state := blocks whole start
  -- The last block holds what is left and the number of all bytes in its top byte.
  let last := blockAt bytes (8 * whole) ||| ((length + 8) % 256).toUInt64 <<< 56
  (state.absorb last).finish
where
  /-- Takes in a number of blocks, the first one first. -/
  blocks (count : Nat) (start : SipState) : SipState :=
    count.fold (fun place _ state => state.absorb (blockAt bytes (8 * place))) start

end WasmHost
