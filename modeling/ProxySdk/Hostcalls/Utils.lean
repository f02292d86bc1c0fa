/-
ProxySdk/Hostcalls/Utils.lean

The byte encodings of `hostcalls::utils`: `serialize_property_path`, the header
map encoding `serialize_map`, and its decoder `deserialize_map_bytes`, which
`get_map` applies to whatever bytes the host returns.

A map of `n` pairs is encoded as the pair count (a little-endian `u32`), a table
of `n` length pairs (name length, value length; `u32` each), and then every
name and value in order, each followed by a `0` byte:

    count | len(k₀) len(v₀) ... | k₀ 0 v₀ 0 ...

Design.  Rust strings are their UTF-8 bytes together with the proof that the
bytes are UTF-8 (`RustString`), and `String::from_utf8` is the check
`utf8Valid`, so a decoded name can only be built from valid bytes.  The decoder
runs on `ExceptT Status (Except Panic)`: its `?` on a missing slice is an inner
`Err(ParseFailure)`, while `usize` overflow and `.unwrap()` are panics.
-/
import ProxySdk.Basic

namespace ProxySdk

/-! ### UTF-8 and Rust strings -/

/-- A continuation byte `10xxxxxx`. -/
def isCont (c : UInt8) : Bool := 0x80 ≤ c && c ≤ 0xBF

/-- The range the second byte of a three- or four-byte sequence must lie in
after lead byte `b`: no overlong forms, no surrogates, nothing past U+10FFFF. -/
def secondOk (b c : UInt8) : Bool :=
  if b = 0xE0 then 0xA0 ≤ c && c ≤ 0xBF
  else if b = 0xED then 0x80 ≤ c && c ≤ 0x9F
  else if b = 0xF0 then 0x90 ≤ c && c ≤ 0xBF
  else if b = 0xF4 then 0x80 ≤ c && c ≤ 0x8F
  else isCont c

/-- The bytes `String::from_utf8` accepts: well-formed UTF-8. -/
def utf8Valid : Bytes → Bool
  | [] => true
  | b :: rest =>
    if b < 0x80 then utf8Valid rest
    else if 0xC2 ≤ b && b ≤ 0xDF then
      match rest with
      | c :: rest => isCont c && utf8Valid rest
      | [] => false
    else if 0xE0 ≤ b && b ≤ 0xEF then
      match rest with
      | c₁ :: c₂ :: rest => secondOk b c₁ && isCont c₂ && utf8Valid rest
      | _ => false
    else if 0xF0 ≤ b && b ≤ 0xF4 then
      match rest with
      | c₁ :: c₂ :: c₃ :: rest => secondOk b c₁ && isCont c₂ && isCont c₃ && utf8Valid rest
      | _ => false
    else false

/-! #### The equations of `utf8Valid`, one per shape of the input -/

section Equations

variable {b c₁ c₂ c₃ : UInt8} {rest : Bytes}

theorem utf8Valid_nil : utf8Valid [] = true := rfl

theorem utf8Valid_ascii (hb : b < 0x80) : utf8Valid (b :: rest) = utf8Valid rest := by
  delta utf8Valid; dsimp only; rw [if_pos hb]

theorem utf8Valid_two (hb : ¬b < 0x80) (h2 : (0xC2 ≤ b && b ≤ 0xDF) = true) :
    utf8Valid (b :: c₁ :: rest) = (isCont c₁ && utf8Valid rest) := by
  delta utf8Valid; dsimp only; rw [if_neg hb, if_pos h2]

theorem utf8Valid_two_short (hb : ¬b < 0x80) (h2 : (0xC2 ≤ b && b ≤ 0xDF) = true) :
    utf8Valid [b] = false := by
  delta utf8Valid; dsimp only; rw [if_neg hb, if_pos h2]

theorem utf8Valid_three (hb : ¬b < 0x80) (h2 : ¬(0xC2 ≤ b && b ≤ 0xDF) = true)
    (h3 : (0xE0 ≤ b && b ≤ 0xEF) = true) :
    utf8Valid (b :: c₁ :: c₂ :: rest) = (secondOk b c₁ && isCont c₂ && utf8Valid rest) := by
  delta utf8Valid; dsimp only; rw [if_neg hb, if_neg h2, if_pos h3]

theorem utf8Valid_three_short (hb : ¬b < 0x80) (h2 : ¬(0xC2 ≤ b && b ≤ 0xDF) = true)
    (h3 : (0xE0 ≤ b && b ≤ 0xEF) = true) (hr : ∀ c₁ c₂ r, rest = c₁ :: c₂ :: r → False) :
    utf8Valid (b :: rest) = false := by
  delta utf8Valid; dsimp only; rw [if_neg hb, if_neg h2, if_pos h3]
  split
  · exact (hr _ _ _ rfl).elim
  · rfl

theorem utf8Valid_four (hb : ¬b < 0x80) (h2 : ¬(0xC2 ≤ b && b ≤ 0xDF) = true)
    (h3 : ¬(0xE0 ≤ b && b ≤ 0xEF) = true) (h4 : (0xF0 ≤ b && b ≤ 0xF4) = true) :
    utf8Valid (b :: c₁ :: c₂ :: c₃ :: rest) =
      (secondOk b c₁ && isCont c₂ && isCont c₃ && utf8Valid rest) := by
  delta utf8Valid; dsimp only; rw [if_neg hb, if_neg h2, if_neg h3, if_pos h4]

theorem utf8Valid_four_short (hb : ¬b < 0x80) (h2 : ¬(0xC2 ≤ b && b ≤ 0xDF) = true)
    (h3 : ¬(0xE0 ≤ b && b ≤ 0xEF) = true) (h4 : (0xF0 ≤ b && b ≤ 0xF4) = true)
    (hr : ∀ c₁ c₂ c₃ r, rest = c₁ :: c₂ :: c₃ :: r → False) :
    utf8Valid (b :: rest) = false := by
  delta utf8Valid; dsimp only; rw [if_neg hb, if_neg h2, if_neg h3, if_pos h4]
  split
  · exact (hr _ _ _ _ rfl).elim
  · rfl

theorem utf8Valid_other (hb : ¬b < 0x80) (h2 : ¬(0xC2 ≤ b && b ≤ 0xDF) = true)
    (h3 : ¬(0xE0 ≤ b && b ≤ 0xEF) = true) (h4 : ¬(0xF0 ≤ b && b ≤ 0xF4) = true) :
    utf8Valid (b :: rest) = false := by
  delta utf8Valid; dsimp only; rw [if_neg hb, if_neg h2, if_neg h3, if_neg h4]

end Equations

/-- A Rust `String` or `&str`: UTF-8 bytes. -/
@[ext] structure RustString where
  bytes : Bytes
  valid : utf8Valid bytes = true

/-- `String::from_utf8`; `none` is the `FromUtf8Error`. -/
def RustString.fromUtf8 (v : Bytes) : Option RustString :=
  if h : utf8Valid v = true then some ⟨v, h⟩ else none

@[simp] theorem RustString.fromUtf8_bytes (s : RustString) :
    RustString.fromUtf8 s.bytes = some s := by
  simp [fromUtf8, s.valid]

/-! ### Little-endian `u32` -/

/-- `(n as u32).to_le_bytes()`. -/
def u32ToLeBytes (n : Nat) : Bytes :=
  [UInt8.ofNat n, UInt8.ofNat (n / 2 ^ 8), UInt8.ofNat (n / 2 ^ 16), UInt8.ofNat (n / 2 ^ 24)]

/-- `u32::from_le_bytes(slice.try_into().unwrap()) as usize`.  Every slice the
decoder passes here is four bytes long, so the `unwrap` cannot fail. -/
def u32FromLeBytes : Bytes → Nat
  | [b₀, b₁, b₂, b₃] => b₀.toNat + 2 ^ 8 * b₁.toNat + 2 ^ 16 * b₂.toNat + 2 ^ 24 * b₃.toNat
  | _ => 0

@[simp] theorem length_u32ToLeBytes (n : Nat) : (u32ToLeBytes n).length = 4 := rfl

theorem u32FromLeBytes_u32ToLeBytes (n : Nat) :
    u32FromLeBytes (u32ToLeBytes n) = n % 2 ^ 32 := by
  have h : ∀ k, (UInt8.ofNat k).toNat = k % 256 := fun k => BitVec.toNat_ofNat k 8
  simp only [u32ToLeBytes, u32FromLeBytes, h]
  omega

/-! ### The encoders -/

/-- `serialize_property_path`: each segment followed by `0`, the last `0`
popped again. -/
def serializePropertyPath (path : List RustString) : Bytes :=
  let out := path.foldl (fun out part => out ++ part.bytes ++ [0]) []
  if out.isEmpty then out else out.dropLast

/-- The capacity `serialize_map` reserves: `4` plus `len(name) + len(value) + 10`
per pair, which is exactly the length of the encoding. -/
def encodedSize (map : List (RustString × Bytes)) : Nat :=
  4 + (map.map fun e => e.1.bytes.length + e.2.length + 10).sum

/-- The length table of the encoding. -/
def lengthTable (map : List (RustString × Bytes)) : Bytes :=
  map.flatMap fun e => u32ToLeBytes e.1.bytes.length ++ u32ToLeBytes e.2.length

/-- The data section of the encoding. -/
def dataSection (map : List (RustString × Bytes)) : Bytes :=
  map.flatMap fun e => e.1.bytes ++ 0 :: e.2 ++ [0]

/-- `serialize_map` on a `usize` of width `bits`: the capacity is summed with
overflow checks and reserved by `Vec::with_capacity`, then count, length table
and data are written. -/
def serializeMap (bits : Nat) (map : List (RustString × Bytes)) : Except Panic Bytes := do
  let size ← map.foldlM (fun size e => do
    addUsize bits size (← addUsize bits (← addUsize bits e.1.bytes.length e.2.length) 10)) 4
  withCapacity bits size
  pure (u32ToLeBytes map.length ++ lengthTable map ++ dataSection map)

/-! ### The decoder -/

/-- The closure `get` of `deserialize_map_bytes`:
`bytes.get(start..stop).ok_or(Status::ParseFailure)`. -/
def sliceGet (bytes : Bytes) (start stop : Nat) : ExceptT Status (Except Panic) Bytes :=
  if start ≤ stop ∧ stop ≤ bytes.length then pure ((bytes.drop start).take (stop - start))
  else throw .parseFailure

/-- The loop `for n in 0..size` of `deserialize_map_bytes`, with `remaining`
iterations left, entry index `n`, data cursor `p`, and the pairs read so far. -/
def deserializeEntries (bits : Nat) (bytes : Bytes) :
    Nat → Nat → Nat → List (RustString × Bytes) →
      ExceptT Status (Except Panic) (List (RustString × Bytes))
  | 0, _, _, map => pure map
  | remaining + 1, n, p, map => do
    let s ← addUsize bits 4 (← mulUsize bits n 8)
    let size := u32FromLeBytes (← sliceGet bytes s (← addUsize bits s 4))
    let key ← sliceGet bytes p (← addUsize bits p size)
    let p ← addUsize bits p (← addUsize bits size 1)
    let size := u32FromLeBytes (← sliceGet bytes (← addUsize bits s 4) (← addUsize bits s 8))
    let value ← sliceGet bytes p (← addUsize bits p size)
    let p ← addUsize bits p (← addUsize bits size 1)
    match RustString.fromUtf8 key with
    | some key => deserializeEntries bits bytes remaining (n + 1) p (map ++ [(key, value)])
    | none => ExceptT.lift (.error .unwrapFromUtf8)

/-- `deserialize_map_bytes` on a `usize` of width `bits`. -/
def deserializeMapBytes (bits : Nat) (bytes : Bytes) :
    ExceptT Status (Except Panic) (List (RustString × Bytes)) := do
  if bytes.isEmpty then return []
  let size := u32FromLeBytes (← sliceGet bytes 0 4)
  let p ← addUsize bits 4 (← mulUsize bits size 8)
  deserializeEntries bits bytes size 0 p []

end ProxySdk
