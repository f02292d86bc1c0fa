/-
ProxySdk/Accessors.lean

The header-map host calls of `hostcalls.rs` (`get_map`, `set_map`,
`get_map_value`, `set_map_value`, `add_map_value`) and the accessors that
plugin code reads maps with: `HttpHeaderControl` (`http.rs`) over the four
`HeaderType`s, and the response accessors of `HttpCallResponse`
(`http_call.rs`) and `GrpcCallResponse` (`grpc_call.rs`); and the flow controls
of `HttpControl` (`http.rs`) and `StreamControl` (`stream.rs`).

Every accessor is `log_concern(context, ..)` around one host call on one map,
so they are two definitions with the context label and the map as parameters,
`mapAll` and `mapValue`, and each accessor is one of them applied to its own
label and map.  `get_map` hands what the host returns to
`deserialize_map_bytes`; `mapAll` is the decoded map, or the empty one, logged,
when the host fails or the bytes do not decode, and it panics only where the
decoder panics (`mapAll_answer`).

Every accessor of a `HeaderType` reads and writes that type's map, and their 24
warning labels differ, so a warning names the operation and the block it failed
on (`headerType_labels`).  The `GrpcCallResponse` accessors read the maps of an
HTTP call response, the very calls `HttpCallResponse` makes
(`grpcCallResponse_maps`).  `serialize_map`, which `set_all` runs first, panics
exactly when the map's encoding does not fit an `isize` (`serializeMap_panics_iff`).

Each flow control is one host call whose failure is logged under its own label
(`control_concern`).  The nine of them make nine different calls under nine
different labels, and resetting an HTTP request or response is closing its
stream (`controls_distinct`).
-/
import ProxySdk.Range
import ProxySdk.Hostcalls.MapCodec

namespace ProxySdk

/-- `MapType` (`hostcalls.rs`). -/
inductive MapType where
  | httpRequestHeaders
  | httpRequestTrailers
  | httpResponseHeaders
  | httpResponseTrailers
  | grpcReceiveInitialMetadata
  | grpcReceiveTrailingMetadata
  | httpCallResponseHeaders
  | httpCallResponseTrailers
  deriving DecidableEq, Repr

/-- The header-map host calls, with the arguments they pass. -/
inductive MapCall where
  /-- `proxy_get_header_map_pairs(map)`. -/
  | getPairs (map : MapType)
  /-- `proxy_set_header_map_pairs(map, serialized)`. -/
  | setPairs (map : MapType) (serialized : Bytes)
  /-- `proxy_get_header_map_value(map, key)`. -/
  | getValue (map : MapType) (key : Bytes)
  /-- `proxy_replace_header_map_value(map, key, value)`. -/
  | replaceValue (map : MapType) (key value : Bytes)
  /-- `proxy_remove_header_map_value(map, key)`. -/
  | removeValue (map : MapType) (key : Bytes)
  /-- `proxy_add_header_map_value(map, key, value)`. -/
  | addValue (map : MapType) (key value : Bytes)
  deriving DecidableEq, Repr

/-- The map a call addresses. -/
def MapCall.map : MapCall → MapType
  | .getPairs map | .setPairs map _ | .getValue map _ | .replaceValue map _ _
  | .removeValue map _ | .addValue map _ _ => map

/-! ### The host calls -/

/-- `hostcalls::get_map` on a `usize` of width `bits`: the bytes the host
returns (`none` for a null pointer) go to `deserialize_map_bytes`, and the
`Option<Result<..>>` is transposed. -/
def Hostcalls.getMap (bits : Nat) (map : MapType) (status : Status) (returned : Option Bytes) :
    MapCall × ExceptT Status (Except Panic) (Option (List (RustString × Bytes))) :=
  (.getPairs map,
    match status with
    | .ok =>
      match returned with
      | some serialized => some <$> deserializeMapBytes bits serialized
      | none => pure none
    | .notFound => pure none
    | e => throw e)

/-- `hostcalls::set_map`: the pairs are serialized first, which can overflow. -/
def Hostcalls.setMap (bits : Nat) (map : MapType) (pairs : List (RustString × Bytes))
    (status : Status) : Except Panic (MapCall × Except Status Unit) := do
  pure (.setPairs map (← serializeMap bits pairs), statusResult status)

/-- `hostcalls::get_map_value`. -/
def Hostcalls.getMapValue (map : MapType) (key : RustString) (status : Status)
    (returned : Option Bytes) : MapCall × Except Status (Option Bytes) :=
  (.getValue map key.bytes, bufferResult status returned)

/-- `hostcalls::set_map_value`: a value replaces, `None` removes. -/
def Hostcalls.setMapValue (map : MapType) (key : RustString) (value : Option Bytes)
    (status : Status) : MapCall × Except Status Unit :=
  (match value with
    | some value => .replaceValue map key.bytes value
    | none => .removeValue map key.bytes,
    statusResult status)

/-- `hostcalls::add_map_value`. -/
def Hostcalls.addMapValue (map : MapType) (key : RustString) (value : Bytes) (status : Status) :
    MapCall × Except Status Unit :=
  (.addValue map key.bytes value, statusResult status)

/-- The capacity loop of `serialize_map` overflows once the pairs still to be
summed, if there are any, take the running size past a `usize`. -/
theorem foldlM_capacity_overflow {bits : Nat} :
    ∀ (m : List (RustString × Bytes)) (size : Nat), m ≠ [] →
      2 ^ bits ≤ size + (m.map fun e => e.1.bytes.length + e.2.length + 10).sum →
      m.foldlM (fun size e => do
          addUsize bits size (← addUsize bits (← addUsize bits e.1.bytes.length e.2.length) 10))
        size = .error .overflow
  | [], _, h, _ => absurd rfl h
  | e :: m, size, _, h => by
    simp only [List.map_cons, List.sum_cons] at h
    simp only [List.foldlM_cons]
    by_cases h₁ : e.1.bytes.length + e.2.length < 2 ^ bits
    · rw [addUsize_eq_ok h₁, ok_bind]
      by_cases h₂ : e.1.bytes.length + e.2.length + 10 < 2 ^ bits
      · rw [addUsize_eq_ok h₂, ok_bind]
        by_cases h₃ : size + (e.1.bytes.length + e.2.length + 10) < 2 ^ bits
        · rw [addUsize_eq_ok h₃, ok_bind]
          cases m with
          | nil => simp at h; omega
          | cons e' m => exact foldlM_capacity_overflow _ _ (List.cons_ne_nil _ _) (by omega)
        · rw [addUsize_eq_error (by omega), error_bind]
      · rw [addUsize_eq_error (by omega), error_bind, error_bind]
    · rw [addUsize_eq_error (by omega), error_bind, error_bind]

/-- What `Vec::with_capacity` leaves of `serialize_map`: the encoding or the
capacity panic, never an arithmetic overflow. -/
theorem withCapacity_then_ne_overflow (bits n : Nat) (bytes : Bytes) :
    (do withCapacity bits n; pure bytes : Except Panic Bytes) ≠ .error .overflow := by
  unfold withCapacity
  split <;> simp

/-- `serialize_map` overflows its `usize` sum exactly when there are pairs and
their encoding does not fit a `usize`. -/
theorem serializeMap_overflow_iff {bits : Nat} (m : List (RustString × Bytes)) :
    serializeMap bits m = .error .overflow ↔ m ≠ [] ∧ 2 ^ bits ≤ encodedSize m := by
  constructor
  · intro h
    refine ⟨fun hm => ?_, Nat.le_of_not_lt fun hfit => ?_⟩
    · subst hm
      exact withCapacity_then_ne_overflow bits 4 _ h
    · rw [serializeMap_of_lt hfit] at h
      exact withCapacity_then_ne_overflow bits _ _ h
  · rintro ⟨hm, hfit⟩
    rw [serializeMap, foldlM_capacity_overflow m 4 hm hfit]
    rfl

/-- **When `serialize_map` panics**: exactly when the encoding does not fit an
`isize`.  The `usize` sum overflows when there are pairs and the encoding does
not fit a `usize`; otherwise `Vec::with_capacity` refuses it.  `set_map`,
`send_http_response` and the outbound calls serialize their maps first, so this
is when they panic. -/
theorem serializeMap_panics_iff {bits : Nat} (m : List (RustString × Bytes)) :
    (∃ p, serializeMap bits m = .error p) ↔ 2 ^ (bits - 1) ≤ encodedSize m := by
  constructor
  · rintro ⟨p, h⟩
    exact Nat.le_of_not_lt fun hfit => by rw [serializeMap_eq hfit] at h; cases h
  · intro hbig
    by_cases hfit : encodedSize m < 2 ^ bits
    · exact ⟨_, serializeMap_capacityOverflow hfit hbig⟩
    by_cases hm : m = []
    · subst hm
      exact ⟨_, show (do withCapacity bits 4; pure _) = _ by
        rw [withCapacity_eq_error (show 2 ^ (bits - 1) ≤ 4 from hbig)]; rfl⟩
    · exact ⟨_, (serializeMap_overflow_iff m).mpr ⟨hm, Nat.le_of_not_lt hfit⟩⟩

/-! ### The two accessor bodies -/

/-- The accessors that read a whole map:
`log_concern(context, get_map(map)).unwrap_or_default()`. -/
def mapAll (bits : Nat) (context : String) (map : MapType) (status : Status)
    (returned : Option Bytes) : MapCall × Except Panic (List (RustString × Bytes) × Option Concern) :=
  let (call, result) := Hostcalls.getMap bits map status returned
  (call, do
    let (pairs, concern) := logConcernAt context (← result.run)
    pure (pairs.getD [], concern))

/-- The accessors that read one value: `log_concern(context, get_map_value(map, name))`. -/
def mapValue (context : String) (map : MapType) (name : RustString) (status : Status)
    (returned : Option Bytes) : MapCall × Option Bytes × Option Concern :=
  let (call, result) := Hostcalls.getMapValue map name status returned
  (call, logConcernAt context result)

/-- **Every host answer to `get_map`**: the decoded pairs when the host returns
bytes that decode; the empty map when it finds nothing; the empty map with a
warning when it fails or the bytes do not decode; a panic only where the
decoder panics. -/
theorem mapAll_answer (bits : Nat) (context : String) (map : MapType) (status : Status)
    (returned : Option Bytes) :
    (mapAll bits context map status returned).1 = .getPairs map ∧
      (mapAll bits context map status returned).2 =
        match status, returned with
        | .ok, some serialized =>
          match (deserializeMapBytes bits serialized).run with
          | .ok (.ok pairs) => .ok (pairs, none)
          | .ok (.error e) => .ok ([], some ⟨context, e⟩)
          | .error p => .error p
        | .ok, none => .ok ([], none)
        | .notFound, _ => .ok ([], none)
        | e, _ => .ok ([], some ⟨context, e⟩) := by
  refine ⟨rfl, ?_⟩
  cases status <;> cases returned <;> try rfl
  all_goals
    simp only [mapAll, Hostcalls.getMap]
    rcases h : (deserializeMapBytes bits _).run with p | (e | pairs) <;>
      change deserializeMapBytes bits _ = _ at h <;>
      simp [ExceptT.run, h, Functor.map, ExceptT.map, ExceptT.mk, logConcernAt, default]

/-! ### `HttpHeaderControl` -/

/-- `HeaderType` (`http.rs`). -/
inductive HeaderType where
  | requestHeaders
  | requestTrailers
  | responseHeaders
  | responseTrailers
  deriving DecidableEq, Repr

namespace HeaderType

/-- `HeaderType::all`, the label of `all`'s warning. -/
def all : HeaderType → String
  | .requestHeaders => "get-all-request-header"
  | .requestTrailers => "get-all-request-trailer"
  | .responseHeaders => "get-all-response-header"
  | .responseTrailers => "get-all-response-trailer"

/-- `HeaderType::get`. -/
def get : HeaderType → String
  | .requestHeaders => "get-request-header"
  | .requestTrailers => "get-request-trailer"
  | .responseHeaders => "get-response-header"
  | .responseTrailers => "get-response-trailer"

/-- `HeaderType::set`. -/
def set : HeaderType → String
  | .requestHeaders => "set-request-header"
  | .requestTrailers => "set-request-trailer"
  | .responseHeaders => "set-response-header"
  | .responseTrailers => "set-response-trailer"

/-- `HeaderType::set_all`. -/
def setAll : HeaderType → String
  | .requestHeaders => "set-all-request-headers"
  | .requestTrailers => "set-all-request-trailers"
  | .responseHeaders => "set-all-response-headers"
  | .responseTrailers => "set-all-response-trailers"

/-- `HeaderType::add`. -/
def add : HeaderType → String
  | .requestHeaders => "add-request-headers"
  | .requestTrailers => "add-request-trailers"
  | .responseHeaders => "add-response-headers"
  | .responseTrailers => "add-response-trailers"

/-- `HeaderType::remove`. -/
def remove : HeaderType → String
  | .requestHeaders => "remove-request-headers"
  | .requestTrailers => "remove-request-trailers"
  | .responseHeaders => "remove-response-headers"
  | .responseTrailers => "remove-response-trailers"

/-- `HeaderType::map`. -/
def map : HeaderType → MapType
  | .requestHeaders => .httpRequestHeaders
  | .requestTrailers => .httpRequestTrailers
  | .responseHeaders => .httpResponseHeaders
  | .responseTrailers => .httpResponseTrailers

/-- The four header types, in `http.rs`'s order. -/
def values : List HeaderType := [.requestHeaders, .requestTrailers, .responseHeaders, .responseTrailers]

/-- The labels of one header type's six accessors. -/
def labels (headerType : HeaderType) : List String :=
  [headerType.all, headerType.get, headerType.set, headerType.setAll, headerType.add,
    headerType.remove]

end HeaderType

/-- The labels tell the accessors apart, and each header type has its own
map: the 24 labels are pairwise different, and no two header types share a map. -/
theorem headerType_labels :
    (HeaderType.values.flatMap HeaderType.labels).Nodup ∧ Function.Injective HeaderType.map := by
  refine ⟨by decide, fun a b h => ?_⟩
  cases a <;> cases b <;> first | rfl | cases h

namespace HttpHeaderControl

variable (headerType : HeaderType)

/-- `HttpHeaderControl::all`. -/
def all (bits : Nat) : Status → Option Bytes →
    MapCall × Except Panic (List (RustString × Bytes) × Option Concern) :=
  mapAll bits headerType.all headerType.map

/-- `HttpHeaderControl::get`. -/
def get : RustString → Status → Option Bytes → MapCall × Option Bytes × Option Concern :=
  mapValue headerType.get headerType.map

/-- `HttpHeaderControl::set`. -/
def set (name : RustString) (value : Bytes) (status : Status) : MapCall × Option Concern :=
  let (call, result) := Hostcalls.setMapValue headerType.map name (some value) status
  (call, (logConcernAt headerType.set result).2)

/-- `HttpHeaderControl::set_all`. -/
def setAll (bits : Nat) (values : List (RustString × Bytes)) (status : Status) :
    Except Panic (MapCall × Option Concern) := do
  let (call, result) ← Hostcalls.setMap bits headerType.map values status
  pure (call, (logConcernAt headerType.setAll result).2)

/-- `HttpHeaderControl::add`. -/
def add (name : RustString) (value : Bytes) (status : Status) : MapCall × Option Concern :=
  let (call, result) := Hostcalls.addMapValue headerType.map name value status
  (call, (logConcernAt headerType.add result).2)

/-- `HttpHeaderControl::remove`. -/
def remove (name : RustString) (status : Status) : MapCall × Option Concern :=
  let (call, result) := Hostcalls.setMapValue headerType.map name none status
  (call, (logConcernAt headerType.remove result).2)

end HttpHeaderControl

/-! ### Flow control: `HttpControl` and `StreamControl` -/

/-- `StreamType` of `hostcalls.rs`, the stream a flow-control host call acts on. -/
inductive Hostcalls.StreamType where
  | httpRequest
  | httpResponse
  | downstream
  | upstream
  deriving DecidableEq, Repr

/-- The flow-control host calls. -/
inductive ControlCall where
  /-- `proxy_continue_stream(stream)`. -/
  | continueStream (stream : Hostcalls.StreamType)
  /-- `proxy_close_stream(stream)`. -/
  | closeStream (stream : Hostcalls.StreamType)
  /-- `proxy_done()`. -/
  | done
  deriving DecidableEq, Repr

/-- A flow control: `log_concern(context, ..)` around one host call. -/
def control (context : String) (call : ControlCall) (status : Status) : ControlCall × Option Concern :=
  (call, (logConcernAt context (statusResult status)).2)

/-- A failed flow control is logged under its own label, with the host's status. -/
theorem control_concern (context : String) (call : ControlCall) (status : Status) :
    (control context call status).2 = if status = .ok then none else some ⟨context, status⟩ := by
  cases status <;> rfl

/-- `HttpType` (`http.rs`). -/
inductive HttpType where
  | request
  | response
  deriving DecidableEq, Repr

namespace HttpType

/-- `HttpType::resume`. -/
def resume : HttpType → String
  | .request => "resume-http-request"
  | .response => "resume-http-response"

/-- `HttpType::call_resume`: `resume_http_request` / `resume_http_response`. -/
def callResume : HttpType → ControlCall
  | .request => .continueStream .httpRequest
  | .response => .continueStream .httpResponse

/-- `HttpType::reset`. -/
def reset : HttpType → String
  | .request => "reset-http-request"
  | .response => "reset-http-response"

/-- `HttpType::call_reset`: `reset_http_request` / `reset_http_response`. -/
def callReset : HttpType → ControlCall
  | .request => .closeStream .httpRequest
  | .response => .closeStream .httpResponse

end HttpType

/-- `HttpControl::resume`. -/
def HttpControl.resume (httpType : HttpType) : Status → ControlCall × Option Concern :=
  control httpType.resume httpType.callResume

/-- `HttpControl::reset`. -/
def HttpControl.reset (httpType : HttpType) : Status → ControlCall × Option Concern :=
  control httpType.reset httpType.callReset

/-- `HttpControl::done`. -/
def HttpControl.done : Status → ControlCall × Option Concern := control "trigger-done" .done

/-- `StreamControl::resume_downstream`. -/
def StreamControl.resumeDownstream : Status → ControlCall × Option Concern :=
  control "resume-downstream" (.continueStream .downstream)

/-- `StreamControl::close_downstream`. -/
def StreamControl.closeDownstream : Status → ControlCall × Option Concern :=
  control "close-downstream" (.closeStream .downstream)

/-- `StreamControl::resume_upstream`. -/
def StreamControl.resumeUpstream : Status → ControlCall × Option Concern :=
  control "resume-upstream" (.continueStream .upstream)

/-- `StreamControl::close_upstream`. -/
def StreamControl.closeUpstream : Status → ControlCall × Option Concern :=
  control "close-upstream" (.closeStream .upstream)

/-- The nine flow controls. -/
def controls : List (Status → ControlCall × Option Concern) :=
  [HttpControl.resume .request, HttpControl.resume .response, HttpControl.reset .request,
    HttpControl.reset .response, HttpControl.done, StreamControl.resumeDownstream,
    StreamControl.closeDownstream, StreamControl.resumeUpstream, StreamControl.closeUpstream]

/-- The nine flow controls make nine different host calls and log under nine
different labels, whatever the host answers: resetting an HTTP request or
response is closing its stream. -/
theorem controls_distinct (status : Status) (h : status ≠ .ok) :
    (controls.map fun c => (c status).1).Nodup ∧ (controls.map fun c => (c status).2).Nodup := by
  have contexts : (controls.map fun c => (c status).2).map (Option.map Concern.context) =
      [some "resume-http-request", some "resume-http-response", some "reset-http-request",
        some "reset-http-response", some "trigger-done", some "resume-downstream",
        some "close-downstream", some "resume-upstream", some "close-upstream"] := by
    simp only [controls, HttpControl.resume, HttpControl.reset, HttpControl.done,
      StreamControl.resumeDownstream, StreamControl.closeDownstream, StreamControl.resumeUpstream,
      StreamControl.closeUpstream, control_concern, if_neg h, List.map_cons, List.map_nil,
      Option.map_some']
    rfl
  have hcontexts : ((controls.map fun c => (c status).2).map (Option.map Concern.context)).Nodup := by
    rw [contexts]
    decide
  exact ⟨show (controls.map fun c => (c .ok).1).Nodup by decide,
    List.Pairwise.of_map _ (fun _ _ hne heq => hne (congrArg _ heq)) hcontexts⟩

/-! ### The call responses -/

/-- `HttpCallResponse::headers`. -/
def HttpCallResponse.headers (bits : Nat) :=
  mapAll bits "http-call-headers" .httpCallResponseHeaders

/-- `HttpCallResponse::header`. -/
def HttpCallResponse.header := mapValue "http-call-header" .httpCallResponseHeaders

/-- `HttpCallResponse::trailers`. -/
def HttpCallResponse.trailers (bits : Nat) :=
  mapAll bits "http-call-trailers" .httpCallResponseTrailers

/-- `HttpCallResponse::trailer`. -/
def HttpCallResponse.trailer := mapValue "http-call-trailer" .httpCallResponseTrailers

/-- `GrpcCallResponse::headers`. -/
def GrpcCallResponse.headers (bits : Nat) :=
  mapAll bits "grpc-call-headers" .httpCallResponseHeaders

/-- `GrpcCallResponse::header`. -/
def GrpcCallResponse.header := mapValue "grpc-call-header" .httpCallResponseHeaders

/-- `GrpcCallResponse::trailers`. -/
def GrpcCallResponse.trailers (bits : Nat) :=
  mapAll bits "grpc-call-trailers" .httpCallResponseTrailers

/-- `GrpcCallResponse::trailer`. -/
def GrpcCallResponse.trailer := mapValue "grpc-call-trailer" .httpCallResponseTrailers

/-- **A gRPC call response reads the HTTP call response's maps**: for every host
answer, each `GrpcCallResponse` accessor makes the host call of its
`HttpCallResponse` namesake, on `HttpCallResponseHeaders` or
`HttpCallResponseTrailers`, never on the gRPC metadata maps. -/
theorem grpcCallResponse_maps (bits : Nat) (name : RustString) (status : Status)
    (returned : Option Bytes) :
    (GrpcCallResponse.headers bits status returned).1 = (HttpCallResponse.headers bits status returned).1 ∧
      (GrpcCallResponse.trailers bits status returned).1 =
        (HttpCallResponse.trailers bits status returned).1 ∧
      (GrpcCallResponse.header name status returned).1 = (HttpCallResponse.header name status returned).1 ∧
      (GrpcCallResponse.trailer name status returned).1 =
        (HttpCallResponse.trailer name status returned).1 ∧
      ∀ call ∈ [(GrpcCallResponse.headers bits status returned).1,
          (GrpcCallResponse.trailers bits status returned).1,
          (GrpcCallResponse.header name status returned).1,
          (GrpcCallResponse.trailer name status returned).1],
        call.map ≠ .grpcReceiveInitialMetadata ∧ call.map ≠ .grpcReceiveTrailingMetadata := by
  refine ⟨rfl, rfl, rfl, rfl, ?_⟩
  simp [GrpcCallResponse.headers, GrpcCallResponse.trailers, GrpcCallResponse.header,
    GrpcCallResponse.trailer, mapAll, mapValue, Hostcalls.getMap, Hostcalls.getMapValue, MapCall.map]

end ProxySdk
