/-
ProxySdk/Attributes.lean

The typed property getters of `property/mod.rs` (`get_property_string`,
`get_property_int`, `get_property_bool`, `get_property_decode`) and the
attribute accessors of `property/envoy.rs` built on them.

Each accessor is one of the getters on a fixed property name, followed for the
integer ones by an `as` cast, so the accessors are `stringAttribute` and
`intAttribute` applied to their own name and cast width.  One member differs:
`RequestAttributes::method` reads `request.scheme`, so it makes the host call
`scheme` makes and returns what `scheme` returns, whatever the host answers,
and never asks for `request.method` (`method_reads_scheme`).

Every getter runs in `Logged`: `get_property` logs a failed call, and
`get_property_decode` and `RequestAttributes::duration` log a failed decode and
a negative duration.  The decoding of protobuf messages is a parameter, its
error given as the text its `Debug` prints.  A duration whose fields fit is
returned whole, with nothing logged (`duration_total`).
-/
import ProxySdk.Utf8Lossy
import ProxySdk.Time
import Mathlib.Algebra.Order.Ring.Int

namespace ProxySdk

/-! ### Names and little-endian integers -/

/-- Bytes below `0x80` are UTF-8. -/
theorem utf8Valid_of_lt {bytes : Bytes} (h : ∀ c ∈ bytes, c < 0x80) : utf8Valid bytes = true := by
  induction bytes with
  | nil => rfl
  | cons c bytes ih =>
    rw [utf8Valid_ascii (h c (List.mem_cons_self _ _))]
    exact ih fun d hd => h d (List.mem_cons_of_mem _ hd)

/-- A property name of `property/envoy.rs`: ASCII text, one byte per character. -/
def RustString.ascii (s : String) (h : s.toList.all (·.toNat < 0x80) = true) : RustString :=
  ⟨s.toList.map (fun c => UInt8.ofNat c.toNat), utf8Valid_of_lt fun c hc => by
    obtain ⟨d, hd, rfl⟩ := List.mem_map.mp hc
    have hd' : d.toNat < 0x80 := by simpa using List.all_eq_true.mp h d hd
    simp only [UInt8.lt_def, UInt8.toBitVec_ofNat, BitVec.lt_def, BitVec.toNat_ofNat]
    show d.toNat % 256 < 128
    omega⟩

/-- The value of little-endian bytes. -/
def leValue : Bytes → Nat
  | [] => 0
  | b :: bytes => b.toNat + 256 * leValue bytes

/-- `i64::from_le_bytes`, on the eight bytes: two's complement. -/
def i64FromLeBytes (bytes : Bytes) : Int :=
  if leValue bytes < 2 ^ 63 then leValue bytes else (leValue bytes : Int) - 2 ^ 64

/-- `x as uN` for an `i64` `x`: its value modulo `2 ^ bits`. -/
def castUnsigned (bits : Nat) (x : Int) : Nat := (x % 2 ^ bits).toNat

/-! ### The getters of `property/mod.rs` -/

/-- `property::get_property_string`: the bytes decoded by `from_utf8_lossy`. -/
def getPropertyString (name : RustString) (status : Status) (returned : Option Bytes) :
    PropertyCall × Logged (Option RustString) :=
  let (call, raw) := Property.getProperty name status returned
  (call, Option.map RustString.fromUtf8Lossy <$> raw)

/-- `property::get_property_int`: exactly eight bytes, as a little-endian `i64`. -/
def getPropertyInt (name : RustString) (status : Status) (returned : Option Bytes) :
    PropertyCall × Logged (Option Int) :=
  let (call, raw) := Property.getProperty name status returned
  (call, (·.bind fun raw => if raw.length ≠ 8 then none else some (i64FromLeBytes raw)) <$> raw)

/-- `property::get_property_bool`: exactly one byte, true when it is not `0`. -/
def getPropertyBool (name : RustString) (status : Status) (returned : Option Bytes) :
    PropertyCall × Logged (Option Bool) :=
  let (call, raw) := Property.getProperty name status returned
  (call, (·.bind fun raw => if raw.isEmpty || raw.length ≠ 1 then none else some (raw.getD 0 0 != 0))
    <$> raw)

/-- The characters of UTF-8 bytes, one per sequence: what `Display` writes of a
`&str` into a message. -/
def utf8Chars : Bytes → List Char
  | [] => []
  | b₀ :: rest =>
    if b₀ < 0x80 then Char.ofNat b₀.toNat :: utf8Chars rest
    else match rest with
      | [] => []
      | b₁ :: rest =>
        if b₀ < 0xE0 then Char.ofNat (b₀.toNat % 0x20 * 0x40 + b₁.toNat % 0x40) :: utf8Chars rest
        else match rest with
          | [] => []
          | b₂ :: rest =>
            if b₀ < 0xF0 then
              Char.ofNat ((b₀.toNat % 0x10 * 0x40 + b₁.toNat % 0x40) * 0x40 + b₂.toNat % 0x40) ::
                utf8Chars rest
            else match rest with
              | [] => []
              | b₃ :: rest =>
                Char.ofNat (((b₀.toNat % 0x08 * 0x40 + b₁.toNat % 0x40) * 0x40 + b₂.toNat % 0x40) *
                  0x40 + b₃.toNat % 0x40) :: utf8Chars rest

/-- A Rust string as message text. -/
def RustString.text (s : RustString) : String := ⟨utf8Chars s.bytes⟩

/-- `property::get_property_decode`, with the protobuf decoder `decode`, whose
error is given as the text its `Debug` prints; a failed decode is logged as
`failed to decode property '{name}': {e:?}` and gives `None`. -/
def getPropertyDecode {P : Type} (decode : Bytes → Except String P) (name : RustString)
    (status : Status) (returned : Option Bytes) : PropertyCall × Logged (Option P) :=
  let (call, raw) := Property.getProperty name status returned
  (call, do
    match ← raw with
    | none => pure none
    | some raw =>
      match decode raw with
      | .ok x => pure (some x)
      | .error e => do
        Logged.log .warn ("failed to decode property '" ++ name.text ++ "': " ++ e)
        pure none)

/-! ### The accessors of `property/envoy.rs` -/

/-- The accessors that read a string property. -/
def stringAttribute (name : RustString) :
    Status → Option Bytes → PropertyCall × Logged (Option RustString) :=
  getPropertyString name

/-- The accessors that read an integer property and cast it to `bits` bits. -/
def intAttribute (name : RustString) (bits : Nat) (status : Status) (returned : Option Bytes) :
    PropertyCall × Logged (Option Nat) :=
  let (call, x) := getPropertyInt name status returned
  (call, Option.map (castUnsigned bits) <$> x)

namespace RequestAttributes

/-- `RequestAttributes::path`. -/
def path := stringAttribute (.ascii "request.path" (by decide))
/-- `RequestAttributes::url_path`. -/
def urlPath := stringAttribute (.ascii "request.url_path" (by decide))
/-- `RequestAttributes::host`. -/
def host := stringAttribute (.ascii "request.host" (by decide))
/-- `RequestAttributes::scheme`. -/
def scheme := stringAttribute (.ascii "request.scheme" (by decide))
/-- `RequestAttributes::method`: it reads `request.scheme`. -/
def method := stringAttribute (.ascii "request.scheme" (by decide))
/-- `RequestAttributes::referer`. -/
def referer := stringAttribute (.ascii "request.referer" (by decide))
/-- `RequestAttributes::useragent`. -/
def useragent := stringAttribute (.ascii "request.useragent" (by decide))
/-- `RequestAttributes::id`. -/
def id := stringAttribute (.ascii "request.id" (by decide))
/-- `RequestAttributes::protocol`. -/
def protocol := stringAttribute (.ascii "request.protocol" (by decide))
/-- `RequestAttributes::query`. -/
def query := stringAttribute (.ascii "request.query" (by decide))
/-- `RequestAttributes::size`, cast to a `usize` of width `bits`. -/
def size (bits : Nat) := intAttribute (.ascii "request.size" (by decide)) bits
/-- `RequestAttributes::total_size`. -/
def totalSize (bits : Nat) := intAttribute (.ascii "request.total_size" (by decide)) bits

/-- `RequestAttributes::duration`, from what `decode` makes of the bytes: the
`seconds` (`i64`) and `nanos` (`i32`) of a `google.protobuf.Duration`; a
negative field is logged and gives `None`. -/
def duration (decode : Bytes → Except String (Int × Int)) (status : Status)
    (returned : Option Bytes) : PropertyCall × Logged (Option Duration) :=
  let (call, raw) := getPropertyDecode decode (.ascii "request.duration" (by decide)) status returned
  (call, do
    match ← raw with
    | none => pure none
    | some (seconds, nanos) =>
      if seconds < 0 || nanos < 0 then do
        Logged.log .warn "request.duration returned a negative duration, skipped"
        pure none
      else some <$> StateT.lift (Duration.new (UInt64.ofNat seconds.toNat) (UInt32.ofNat nanos.toNat)))

end RequestAttributes

namespace ResponseAttributes

/-- `ResponseAttributes::code`. -/
def code := intAttribute (.ascii "response.code" (by decide)) 32
/-- `ResponseAttributes::code_details`. -/
def codeDetails := stringAttribute (.ascii "response.code_details" (by decide))
/-- `ResponseAttributes::flags`. -/
def flags := intAttribute (.ascii "response.flags" (by decide)) 64
/-- `ResponseAttributes::grpc_status`. -/
def grpcStatus := intAttribute (.ascii "response.grpc_status" (by decide)) 32
/-- `ResponseAttributes::size`. -/
def size (bits : Nat) := intAttribute (.ascii "response.size" (by decide)) bits
/-- `ResponseAttributes::total_size`. -/
def totalSize (bits : Nat) := intAttribute (.ascii "response.total_size" (by decide)) bits

end ResponseAttributes

namespace ConnectionAttributes

/-- `ConnectionAttributes::source_port`. -/
def sourcePort := intAttribute (.ascii "source.port" (by decide)) 16
/-- `ConnectionAttributes::destination_port`. -/
def destinationPort := intAttribute (.ascii "destination.port" (by decide)) 16
/-- `ConnectionAttributes::id`. -/
def id := intAttribute (.ascii "connection.id" (by decide)) 64
/-- `ConnectionAttributes::mtls`. -/
def mtls := getPropertyBool (.ascii "connection.mtls" (by decide))

end ConnectionAttributes

/-- **`RequestAttributes::method` reads the scheme**: for every host answer it
makes the host call `scheme` makes, for the path `request\0scheme`, returns what
`scheme` returns, and never asks for `request.method`. -/
theorem method_reads_scheme (status : Status) (returned : Option Bytes) :
    RequestAttributes.method status returned = RequestAttributes.scheme status returned ∧
      (RequestAttributes.method status returned).1 =
        .get ((RustString.ascii "request.scheme" (by decide)).bytes.map
          fun b => if b = 0x2E then 0 else b) ∧
      (RequestAttributes.method status returned).1 ≠
        .get ((RustString.ascii "request.method" (by decide)).bytes.map
          fun b => if b = 0x2E then 0 else b) := by
  refine ⟨rfl, ?_, ?_⟩ <;>
    simp only [RequestAttributes.method, stringAttribute, getPropertyString, Property.getProperty,
      Hostcalls.getProperty, serializePropertyPath_split]
  decide

/-- **`RequestAttributes::duration` never panics**: `Duration::new` carries at
most two seconds out of an `i32` of nanoseconds, which an `i64` of seconds
leaves room for; the duration is the decoded one, and nothing is logged. -/
theorem duration_total {decode : Bytes → Except String (Int × Int)} {status : Status}
    {returned : Option Bytes} {seconds nanos : Int} {h : LogHost}
    (hdecode : (getPropertyDecode decode (.ascii "request.duration" (by decide)) status returned).2 h =
      .ok (some (seconds, nanos), h))
    (hs : 0 ≤ seconds ∧ seconds < 2 ^ 63) (hn : 0 ≤ nanos ∧ nanos < 2 ^ 31) :
    ∃ d, (RequestAttributes.duration decode status returned).2 h = .ok (some d, h) ∧
      (d.asNanos : Int) = seconds * 1000000000 + nanos := by
  have hs' : seconds.toNat < UInt64.size := by unfold UInt64.size; omega
  have hn' : nanos.toNat < UInt32.size := by unfold UInt32.size; omega
  rcases Duration.new_spec (UInt64.ofNat seconds.toNat) (UInt32.ofNat nanos.toNat) with
    ⟨d, hd, hnanos⟩ | ⟨-, hover⟩
  · refine ⟨d, ?_, ?_⟩
    · show ((getPropertyDecode decode _ status returned).2 >>= _) h = _
      simp only [bind, StateT.bind, hdecode, Except.bind]
      simp [show ¬(seconds < 0) by omega, show ¬(nanos < 0) by omega, hd, StateT.lift]
      rfl
    · rw [hnanos, UInt64.toNat_ofNat_of_lt hs', UInt32.toNat_ofNat_of_lt hn']
      omega
  · rw [UInt64.toNat_ofNat_of_lt hs', UInt32.toNat_ofNat_of_lt hn'] at hover
    omega

/-- A host whose `request.duration` decodes to five seconds and seven nanoseconds. -/
theorem duration_total_five :
    (getPropertyDecode (fun _ => .ok ((5 : Int), (7 : Int))) (.ascii "request.duration" (by decide))
        .ok (some [])).2 ⟨.init, [], []⟩ = .ok (some (5, 7), ⟨.init, [], []⟩) ∧
      (0 ≤ (5 : Int) ∧ (5 : Int) < 2 ^ 63) ∧ (0 ≤ (7 : Int) ∧ (7 : Int) < 2 ^ 31) ∧
      ∃ d, (RequestAttributes.duration (fun _ => .ok (5, 7)) .ok (some [])).2 ⟨.init, [], []⟩ =
          .ok (some d, ⟨.init, [], []⟩) ∧
        (d.asNanos : Int) = 5 * 1000000000 + 7 :=
  ⟨rfl, by decide, by decide, duration_total rfl (by decide) (by decide)⟩

end ProxySdk
