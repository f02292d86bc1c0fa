/-
ProxySdk/Calls.lean

The outbound calls: `HttpCall::dispatch` (`http_call.rs`), `GrpcCall::dispatch`
and `GrpcCancelHandle` (`grpc_call.rs`), `GrpcStream::open` and
`GrpcStreamHandle` (`grpc_stream.rs`), `HttpControl::send_http_response`
(`http.rs`), the host calls behind them (`hostcalls.rs`), the upstream
constructors of `envoy.rs`, and the gRPC status codes `GrpcCode`.

What happens to the token after a successful dispatch, the registration of the
callbacks, is the dispatcher's (`Code.httpCallDispatch` and its siblings); this
module says what the host is asked for.  Headers, trailers and metadata are
serialized first, so a dispatch panics exactly when the encoding of one of its
maps does not fit an `isize` (`outbound_panics`), and the timeout is sent as whole
milliseconds in a `u32`, ten seconds when none is given.  `call_foreign_function`
reads its answer as the buffer reads do, but for `NotFound`
(`callForeignFunction_notFound`).

`grpc_upstream` sends TLS credentials unless the target starts with `http://`,
and strips the scheme; `insecure_grpc_upstream`, documented as the same without
TLS, strips nothing (`grpcUpstream_scheme`).

`GrpcCode::from` keeps every status code: the code it gives back names the
number it was given (`grpcCode_ofU32`), which is why the dispatcher's model
keeps gRPC status codes as their `u32`.  A code built as `Other(x)` with
`x ≤ 16` is never produced by `from`, and so compares unequal to every `u32`,
`x` included.
-/
import ProxySdk.Accessors
import ProxySdk.Time

namespace ProxySdk

/-- The outbound-call host calls, with the arguments they pass. -/
inductive OutboundCall where
  /-- `proxy_http_call`, with the serialized headers and trailers and the timeout in ms. -/
  | httpCall (upstream headers : Bytes) (body : Option Bytes) (trailers : Bytes) (timeout : Nat)
  /-- `proxy_grpc_call`. -/
  | grpcCall (upstream service method initialMetadata : Bytes) (message : Option Bytes) (timeout : Nat)
  /-- `proxy_grpc_stream`. -/
  | grpcStream (upstream service method initialMetadata : Bytes)
  /-- `proxy_grpc_send`. -/
  | grpcSend (token : UInt32) (message : Option Bytes) (endStream : Bool)
  /-- `proxy_grpc_cancel`. -/
  | grpcCancel (token : UInt32)
  /-- `proxy_grpc_close`. -/
  | grpcClose (token : UInt32)
  /-- `proxy_send_local_response`, with no status details. -/
  | sendLocalResponse (statusCode : UInt32) (body : Option Bytes) (headers : Bytes) (grpcStatus : Int)
  /-- `proxy_call_foreign_function`. -/
  | callForeignFunction (functionName : Bytes) (arguments : Option Bytes)
  deriving DecidableEq, Repr

/-! ### The host calls -/

namespace Hostcalls

/-- `hostcalls::dispatch_http_call`. -/
def dispatchHttpCall (bits : Nat) (upstream : Bytes) (headers : List (RustString × Bytes))
    (body : Option Bytes) (trailers : List (RustString × Bytes)) (timeout : Duration)
    (status : Status) (returnToken : UInt32) : Except Panic (OutboundCall × Except Status UInt32) := do
  let serializedHeaders ← serializeMap bits headers
  let serializedTrailers ← serializeMap bits trailers
  pure (.httpCall upstream serializedHeaders body serializedTrailers timeout.millisU32,
    valueResult status returnToken)

/-- `hostcalls::dispatch_grpc_call`. -/
def dispatchGrpcCall (bits : Nat) (upstreamName : Bytes) (serviceName methodName : RustString)
    (initialMetadata : List (RustString × Bytes)) (message : Option Bytes) (timeout : Duration)
    (status : Status) (returnCalloutId : UInt32) :
    Except Panic (OutboundCall × Except Status UInt32) := do
  let serializedInitialMetadata ← serializeMap bits initialMetadata
  pure (.grpcCall upstreamName serviceName.bytes methodName.bytes serializedInitialMetadata message
      timeout.millisU32,
    valueResult status returnCalloutId)

/-- `hostcalls::open_grpc_stream`. -/
def openGrpcStream (bits : Nat) (upstreamName : Bytes) (serviceName methodName : RustString)
    (initialMetadata : List (RustString × Bytes)) (status : Status) (returnStreamId : UInt32) :
    Except Panic (OutboundCall × Except Status UInt32) := do
  let serializedInitialMetadata ← serializeMap bits initialMetadata
  pure (.grpcStream upstreamName serviceName.bytes methodName.bytes serializedInitialMetadata,
    valueResult status returnStreamId)

/-- `hostcalls::send_grpc_stream_message`. -/
def sendGrpcStreamMessage (token : UInt32) (message : Option Bytes) (endStream : Bool)
    (status : Status) : OutboundCall × Except Status Unit :=
  (.grpcSend token message endStream, statusResult status)

/-- `hostcalls::cancel_grpc_call`. -/
def cancelGrpcCall (tokenId : UInt32) (status : Status) : OutboundCall × Except Status Unit :=
  (.grpcCancel tokenId, statusResult status)

/-- `hostcalls::cancel_grpc_stream`: the same host call as `cancel_grpc_call`. -/
def cancelGrpcStream (tokenId : UInt32) (status : Status) : OutboundCall × Except Status Unit :=
  (.grpcCancel tokenId, statusResult status)

/-- `hostcalls::close_grpc_stream`. -/
def closeGrpcStream (tokenId : UInt32) (status : Status) : OutboundCall × Except Status Unit :=
  (.grpcClose tokenId, statusResult status)

/-- `hostcalls::send_http_response`: no status details, and gRPC status `-1`. -/
def sendHttpResponse (bits : Nat) (statusCode : UInt32) (headers : List (RustString × Bytes))
    (body : Option Bytes) (status : Status) : Except Panic (OutboundCall × Except Status Unit) := do
  let serializedHeaders ← serializeMap bits headers
  pure (.sendLocalResponse statusCode body serializedHeaders (-1), statusResult status)

/-- `hostcalls::call_foreign_function`: unlike the buffer reads, it passes a
`NotFound` on as an error. -/
def callForeignFunction (functionName : RustString) (arguments : Option Bytes) (status : Status)
    (returned : Option Bytes) : OutboundCall × Except Status (Option Bytes) :=
  (.callForeignFunction functionName.bytes arguments, valueResult status returned)

end Hostcalls

/-- **`call_foreign_function` and `NotFound`**: its answer is what a buffer read
(`get_buffer`, `get_map_value`, `get_property`) makes of the same host answer,
except on `NotFound`, which the buffer reads turn into `Ok(None)` and
`call_foreign_function` returns as `Err(NotFound)`. -/
theorem callForeignFunction_notFound (functionName : RustString) (arguments : Option Bytes)
    (status : Status) (returned : Option Bytes) :
    (Hostcalls.callForeignFunction functionName arguments status returned).2 =
        bufferResult status returned ↔ status ≠ .notFound := by
  cases status <;> simp [Hostcalls.callForeignFunction, valueResult, bufferResult]

/-! ### The builders' `dispatch` and `open` -/

/-- `HttpCall`, without its callback. -/
structure HttpCall where
  upstream : Bytes
  headers : List (RustString × Bytes)
  trailers : List (RustString × Bytes)
  body : Option Bytes
  timeout : Option Duration

/-- `HttpCall::DEFAULT_TIMEOUT`. -/
def HttpCall.defaultTimeout : Duration := Duration.fromSecs 10

/-- `HttpCall::dispatch`, up to the registration of the callback under the token. -/
def HttpCall.dispatch (bits : Nat) (call : HttpCall) (status : Status) (returnToken : UInt32) :
    Except Panic (OutboundCall × Except Status UInt32) :=
  Hostcalls.dispatchHttpCall bits call.upstream call.headers call.body call.trailers
    (call.timeout.getD HttpCall.defaultTimeout) status returnToken

/-- `GrpcCall`, without its callback. -/
structure GrpcCall where
  upstream : Bytes
  service : RustString
  method : RustString
  initialMetadata : List (RustString × Bytes)
  message : Option Bytes
  timeout : Option Duration

/-- `GrpcCall::DEFAULT_TIMEOUT`. -/
def GrpcCall.defaultTimeout : Duration := Duration.fromSecs 10

/-- `GrpcCall::dispatch`: the `GrpcCancelHandle` it returns holds the token. -/
def GrpcCall.dispatch (bits : Nat) (call : GrpcCall) (status : Status) (returnCalloutId : UInt32) :
    Except Panic (OutboundCall × Except Status UInt32) :=
  Hostcalls.dispatchGrpcCall bits call.upstream call.service call.method call.initialMetadata
    call.message (call.timeout.getD GrpcCall.defaultTimeout) status returnCalloutId

/-- `GrpcStream`, without its callbacks. -/
structure GrpcStream where
  cluster : Bytes
  service : RustString
  method : RustString
  initialMetadata : List (RustString × Bytes)

/-- `GrpcStream::open`: the `GrpcStreamHandle` it returns holds the token. -/
def GrpcStream.«open» (bits : Nat) (stream : GrpcStream) (status : Status) (returnStreamId : UInt32) :
    Except Panic (OutboundCall × Except Status UInt32) :=
  Hostcalls.openGrpcStream bits stream.cluster stream.service stream.method stream.initialMetadata
    status returnStreamId

/-- `GrpcCancelHandle::cancel`: the result is dropped. -/
def GrpcCancelHandle.cancel (token : UInt32) (status : Status) : OutboundCall :=
  (Hostcalls.cancelGrpcCall token status).1

/-- `GrpcStreamHandle::cancel`: the result is dropped. -/
def GrpcStreamHandle.cancel (token : UInt32) (status : Status) : OutboundCall :=
  (Hostcalls.cancelGrpcStream token status).1

/-- `GrpcStreamHandle::close`: the result is dropped. -/
def GrpcStreamHandle.close (token : UInt32) (status : Status) : OutboundCall :=
  (Hostcalls.closeGrpcStream token status).1

/-- `GrpcStreamHandle::send`. -/
def GrpcStreamHandle.send (token : UInt32) (message : Option Bytes) (endStream : Bool)
    (status : Status) : OutboundCall × Except Status Unit :=
  Hostcalls.sendGrpcStreamMessage token message endStream status

/-! ### When an outbound call panics -/

/-- The panic of an outbound call that serializes `first` and then `second`. -/
theorem serializeMap_bind_panics {bits : Nat} {β : Type} (first second : List (RustString × Bytes))
    (k : Bytes → Bytes → β) :
    (∃ p, (do let a ← serializeMap bits first; let b ← serializeMap bits second; pure (k a b) :
        Except Panic β) = .error p) ↔
      2 ^ (bits - 1) ≤ encodedSize first ∨ 2 ^ (bits - 1) ≤ encodedSize second := by
  rw [← serializeMap_panics_iff, ← serializeMap_panics_iff]
  cases serializeMap bits first <;> cases serializeMap bits second <;> simp

/-- The target of the `GrpcService` message that the upstream constructors of
`envoy.rs` fill in, before `encode_to_vec`: an Envoy cluster, or a Google gRPC
target with or without TLS credentials, and its stat prefix. -/
inductive GrpcTarget where
  | envoyGrpc (authority clusterName : Bytes)
  | googleGrpc (targetUri : Bytes) (sslCredentials : Bool) (statPrefix : Bytes)
  deriving DecidableEq, Repr

/-- `"http://"`. -/
def httpPrefix : Bytes := [0x68, 0x74, 0x74, 0x70, 0x3A, 0x2F, 0x2F]

/-- `"https://"`. -/
def httpsPrefix : Bytes := [0x68, 0x74, 0x74, 0x70, 0x73, 0x3A, 0x2F, 0x2F]

/-- `"leaksignal_command"`, the stat prefix of the Google gRPC targets. -/
def commandStatPrefix : Bytes :=
  [0x6C, 0x65, 0x61, 0x6B, 0x73, 0x69, 0x67, 0x6E, 0x61, 0x6C, 0x5F, 0x63, 0x6F, 0x6D, 0x6D, 0x61,
    0x6E, 0x64]

/-- `s.strip_prefix(prefix).unwrap_or(s)`. -/
def stripPrefix (pre s : Bytes) : Bytes := if pre.isPrefixOf s then s.drop pre.length else s

/-- `Upstream::envoy_upstream`. -/
def Upstream.envoyUpstream (clusterName authority : Bytes) : GrpcTarget :=
  .envoyGrpc authority clusterName

/-- `Upstream::insecure_grpc_upstream`: no credentials, the target as given. -/
def Upstream.insecureGrpcUpstream (targetUri : Bytes) : GrpcTarget :=
  .googleGrpc targetUri false commandStatPrefix

/-- `Upstream::grpc_upstream`: plaintext exactly for an `http://` target; the
scheme is stripped, and every other target gets TLS credentials. -/
def Upstream.grpcUpstream (targetUri : Bytes) : GrpcTarget :=
  let isPlaintext := httpPrefix.isPrefixOf targetUri
  .googleGrpc (stripPrefix (if isPlaintext then httpPrefix else httpsPrefix) targetUri) (!isPlaintext)
    commandStatPrefix

/-- **`grpc_upstream` and the scheme**: an `http://` target is sent without TLS
and an `https://` one with it, both without the scheme; a target with neither
scheme gets TLS, as given.  `insecure_grpc_upstream`, documented as
`grpc_upstream` without TLS, strips nothing, so on an `http://` target the two
send different targets. -/
theorem grpcUpstream_scheme (rest : Bytes) :
    Upstream.grpcUpstream (httpPrefix ++ rest) = .googleGrpc rest false commandStatPrefix ∧
      Upstream.grpcUpstream (httpsPrefix ++ rest) = .googleGrpc rest true commandStatPrefix ∧
      (httpPrefix.isPrefixOf rest = false → httpsPrefix.isPrefixOf rest = false →
        Upstream.grpcUpstream rest = .googleGrpc rest true commandStatPrefix) ∧
      Upstream.insecureGrpcUpstream (httpPrefix ++ rest) ≠ Upstream.grpcUpstream (httpPrefix ++ rest) := by
  have plain : Upstream.grpcUpstream (httpPrefix ++ rest) = .googleGrpc rest false commandStatPrefix := by
    simp only [Upstream.grpcUpstream, stripPrefix,
      List.isPrefixOf_iff_prefix.mpr (List.prefix_append httpPrefix rest), if_true, List.drop_left]
    rfl
  have secure : Upstream.grpcUpstream (httpsPrefix ++ rest) = .googleGrpc rest true commandStatPrefix := by
    have http_https : httpPrefix.isPrefixOf (httpsPrefix ++ rest) = false := rfl
    simp only [Upstream.grpcUpstream, stripPrefix, http_https, Bool.false_eq_true, if_false,
      List.isPrefixOf_iff_prefix.mpr (List.prefix_append httpsPrefix rest), if_true, List.drop_left]
    rfl
  refine ⟨plain, secure, fun hhttp hhttps => ?_, fun h => ?_⟩
  · simp [Upstream.grpcUpstream, stripPrefix, hhttp, hhttps]
  · rw [plain, Upstream.insecureGrpcUpstream, GrpcTarget.googleGrpc.injEq] at h
    have hlen := congrArg List.length h.1
    simp only [httpPrefix, List.cons_append, List.nil_append, List.length_cons] at hlen
    omega

/-! ### `GrpcCode` -/

/-- `GrpcCode` (`grpc_call.rs`, copied from `tonic`). -/
inductive GrpcCode where
  | ok
  | cancelled
  | unknown
  | invalidArgument
  | deadlineExceeded
  | notFound
  | alreadyExists
  | permissionDenied
  | resourceExhausted
  | failedPrecondition
  | aborted
  | outOfRange
  | unimplemented
  | internal
  | unavailable
  | dataLoss
  | unauthenticated
  | other (code : UInt32)
  deriving DecidableEq, Repr

namespace GrpcCode

/-- `From<u32> for GrpcCode`. -/
def ofU32 (value : UInt32) : GrpcCode :=
  match value.toNat with
  | 0 => .ok
  | 1 => .cancelled
  | 2 => .unknown
  | 3 => .invalidArgument
  | 4 => .deadlineExceeded
  | 5 => .notFound
  | 6 => .alreadyExists
  | 7 => .permissionDenied
  | 8 => .resourceExhausted
  | 9 => .failedPrecondition
  | 10 => .aborted
  | 11 => .outOfRange
  | 12 => .unimplemented
  | 13 => .internal
  | 14 => .unavailable
  | 15 => .dataLoss
  | 16 => .unauthenticated
  | _ => .other value

/-- `PartialEq<u32> for GrpcCode` (and its mirror `PartialEq<GrpcCode> for u32`):
the code against `GrpcCode::from(other)`. -/
def eqU32 (code : GrpcCode) (other : UInt32) : Bool := code == ofU32 other

/-- The number a code stands for: its discriminant, or the number an `Other` holds. -/
def number : GrpcCode → UInt32
  | .ok => 0 | .cancelled => 1 | .unknown => 2 | .invalidArgument => 3
  | .deadlineExceeded => 4 | .notFound => 5 | .alreadyExists => 6 | .permissionDenied => 7
  | .resourceExhausted => 8 | .failedPrecondition => 9 | .aborted => 10 | .outOfRange => 11
  | .unimplemented => 12 | .internal => 13 | .unavailable => 14 | .dataLoss => 15
  | .unauthenticated => 16 | .other code => code

end GrpcCode

/-- **`GrpcCode::from`**: the code names the number it came from, so no two
numbers give the same code; it is `Other` only past `16`; and an `Other(x)` with
`x ≤ 16`, which `from` never gives, equals no `u32`. -/
theorem grpcCode_ofU32 :
    (∀ n : UInt32, (GrpcCode.ofU32 n).number = n) ∧
      (∀ n x : UInt32, GrpcCode.ofU32 n = .other x → x = n ∧ 16 < n.toNat) ∧
      (∀ x n : UInt32, x.toNat ≤ 16 → (GrpcCode.other x).eqU32 n = false) := by
  have ofU32_spec (n : UInt32) : (GrpcCode.ofU32 n).number = n ∧
      ∀ x, GrpcCode.ofU32 n = .other x → x = n ∧ 16 < n.toNat := by
    unfold GrpcCode.ofU32
    split <;> first
      | exact ⟨UInt32.toNat.inj (Eq.symm ‹_›), fun _ h => nomatch h⟩
      | exact ⟨rfl, fun _ h => by cases h; exact ⟨rfl, by simp only [imp_false] at *; omega⟩⟩
  have other_of (n x : UInt32) := (ofU32_spec n).2 x
  refine ⟨fun n => (ofU32_spec n).1, other_of, fun x n hx => ?_⟩
  unfold GrpcCode.eqU32
  cases h : GrpcCode.ofU32 n with
  | other y =>
    obtain ⟨rfl, hy⟩ := other_of n y h
    exact beq_false_of_ne fun hxy => by cases hxy; omega
  | _ => rfl

end ProxySdk
