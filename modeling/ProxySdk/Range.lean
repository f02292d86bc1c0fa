/-
ProxySdk/Range.lean

`calculate_range` (`lib.rs`): the `(start, size)` window of a body buffer that a
`RangeBounds<usize>` addresses, clipped to the body's length.  The body accessors
pass the window to the host's `get_buffer` / `set_buffer`: the trait methods
`HttpBodyControl::get/set` and `StreamDataControl::get/set` call
`calculate_range`, and `HttpCallResponse::body`, `GrpcCallResponse::body` and
`GrpcStreamMessage::body` repeat its text inline with `limit = body_size`.

What a window should be is `RangeBounds::contains`: the offsets below the limit
that lie within both bounds.  The code meets it for every `Included` or
`Unbounded` start bound (`calculateRange_window`, `bodyRequest_window`), but reads an `Excluded(x)`
start as `x - 1` where the range starts at `x + 1`, and `Included(usize::MAX)`
as an end bound overflows (`calculateRange_defects`).
-/
import ProxySdk.Basic

namespace ProxySdk

/-- `std::ops::Bound<usize>`. -/
inductive Bound where
  | included (x : Nat)
  | excluded (x : Nat)
  | unbounded
  deriving DecidableEq, Repr

/-- A `RangeBounds<usize>`, given by what `start_bound()` and `end_bound()` return. -/
structure RangeBounds where
  startBound : Bound
  endBound : Bound
  deriving DecidableEq, Repr

/-- `RangeBounds::contains`: `i` lies within both bounds. -/
def RangeBounds.contains (range : RangeBounds) (i : Nat) : Bool :=
  (match range.startBound with
    | .included x => x ≤ i
    | .excluded x => x < i
    | .unbounded => true) &&
  (match range.endBound with
    | .included x => i ≤ x
    | .excluded x => i < x
    | .unbounded => true)

/-- `calculate_range`, on a `usize` of width `bits`. -/
def calculateRange (bits : Nat) (range : RangeBounds) (limit : Nat) :
    Except Panic (Nat × Nat) := do
  let start := match range.startBound with
    | .included x => x
    | .excluded x => x - 1
    | .unbounded => 0
  let size ← match range.endBound with
    | .included x => addUsize bits x 1
    | .excluded x => pure x
    | .unbounded => pure limit
  pure (start, min size limit - start)

/-- Whenever the start bound is not `Excluded` and an `Included` end bound leaves
room for `+ 1`, the window is exactly the contained offsets below the limit. -/
theorem calculateRange_window {bits limit : Nat} {range : RangeBounds}
    (hstart : ∀ x, range.startBound ≠ .excluded x)
    (hend : ∀ x, range.endBound = .included x → x + 1 < 2 ^ bits) :
    ∃ start size, calculateRange bits range limit = .ok (start, size) ∧
      ∀ i, (start ≤ i ∧ i < start + size) ↔ (i < limit ∧ range.contains i = true) := by
  obtain ⟨s, e⟩ := range
  cases s with
  | excluded x => exact absurd rfl (hstart x)
  | _ =>
    cases e <;>
      refine ⟨_, _, by simp only [calculateRange, addUsize, hend, ite_true, ok_bind]; rfl, fun i => ?_⟩ <;>
      simp only [RangeBounds.contains, Bool.and_true, Bool.true_and, Bool.and_eq_true,
        decide_eq_true_eq, eq_self_iff_true, and_true] <;>
      omega

/-! ### The body accessors -/

/-- `BufferType` (`hostcalls.rs`). -/
inductive BufferType where
  | httpRequestBody
  | httpResponseBody
  | downstreamData
  | upstreamData
  | httpCallResponseBody
  | grpcReceiveBuffer
  | vmConfiguration
  | pluginConfiguration
  | callData
  deriving DecidableEq, Repr

/-- The arguments of a `get_buffer` / `set_buffer` host call. -/
structure BufferRequest where
  buffer : BufferType
  start : Nat
  size : Nat
  deriving DecidableEq, Repr

/-- The window of `buffer` that `range` addresses in a body of `limit` bytes. -/
def bodyRequest (bits : Nat) (buffer : BufferType) (limit : Nat) (range : RangeBounds) :
    Except Panic BufferRequest := do
  let (start, size) ← calculateRange bits range limit
  pure ⟨buffer, start, size⟩

/-- `HttpBodyControl::get`: what is read of a body of `bodySize` bytes. -/
def HttpBodyControl.get (bits : Nat) (buffer : BufferType) (bodySize : Nat)
    (range : RangeBounds) : Except Panic BufferRequest :=
  bodyRequest bits buffer bodySize range

/-- `HttpBodyControl::set`: what is overwritten, with the new bytes. -/
def HttpBodyControl.set (bits : Nat) (buffer : BufferType) (bodySize : Nat)
    (range : RangeBounds) (value : Bytes) : Except Panic (BufferRequest × Bytes) := do
  pure (← bodyRequest bits buffer bodySize range, value)

/-- `StreamDataControl::get`. -/
def StreamDataControl.get (bits : Nat) (buffer : BufferType) (dataSize : Nat)
    (range : RangeBounds) : Except Panic BufferRequest :=
  bodyRequest bits buffer dataSize range

/-- `StreamDataControl::set`. -/
def StreamDataControl.set (bits : Nat) (buffer : BufferType) (dataSize : Nat)
    (range : RangeBounds) (value : Bytes) : Except Panic (BufferRequest × Bytes) := do
  pure (← bodyRequest bits buffer dataSize range, value)

/-- `HttpCallResponse` (`http_call.rs`). -/
structure HttpCallResponse where
  numHeaders : Nat
  bodySize : Nat
  numTrailers : Nat

/-- `GrpcCallResponse` (`grpc_call.rs`); the `GrpcCode` is kept as its `u32`. -/
structure GrpcCallResponse where
  handleId : UInt32
  statusCode : UInt32
  bodySize : Nat
  message : Option String

/-- `GrpcStreamMessage` (`grpc_stream.rs`). -/
structure GrpcStreamMessage where
  statusCode : UInt32
  bodySize : Nat
  message : Option String

/-- `GrpcStreamClose` (`grpc_stream.rs`). -/
structure GrpcStreamClose where
  handleId : UInt32
  statusCode : UInt32
  message : Option String

/-- `HttpCallResponse::body`: the text of `calculate_range` inline, with
`limit = body_size`, on the call's response body. -/
def HttpCallResponse.body (bits : Nat) (r : HttpCallResponse) (range : RangeBounds) :
    Except Panic BufferRequest :=
  bodyRequest bits .httpCallResponseBody r.bodySize range

/-- `GrpcCallResponse::body`, the same inline copy on the gRPC receive buffer. -/
def GrpcCallResponse.body (bits : Nat) (r : GrpcCallResponse) (range : RangeBounds) :
    Except Panic BufferRequest :=
  bodyRequest bits .grpcReceiveBuffer r.bodySize range

/-- `GrpcStreamMessage::body`, the same inline copy on the gRPC receive buffer. -/
def GrpcStreamMessage.body (bits : Nat) (r : GrpcStreamMessage) (range : RangeBounds) :
    Except Panic BufferRequest :=
  bodyRequest bits .grpcReceiveBuffer r.bodySize range

/-- Every accessor addresses the window of `calculate_range`: under the
hypotheses of `calculateRange_window`, the request is for exactly the contained
offsets below the body's length. -/
theorem bodyRequest_window {bits limit : Nat} {buffer : BufferType} {range : RangeBounds}
    (hstart : ∀ x, range.startBound ≠ .excluded x)
    (hend : ∀ x, range.endBound = .included x → x + 1 < 2 ^ bits) :
    ∃ req, bodyRequest bits buffer limit range = .ok req ∧ req.buffer = buffer ∧
      ∀ i, (req.start ≤ i ∧ i < req.start + req.size) ↔ (i < limit ∧ range.contains i = true) := by
  obtain ⟨start, size, h, hw⟩ := @calculateRange_window _ limit _ hstart hend
  exact ⟨⟨buffer, start, size⟩, by simp [bodyRequest, h], rfl, hw⟩

theorem bodyRequest_window_included :
    (∀ x, Bound.included 2 ≠ .excluded x) ∧
      (∀ x, Bound.excluded 5 = .included x → x + 1 < 2 ^ 32) ∧
      ∃ req, bodyRequest 32 .httpRequestBody 4 ⟨.included 2, .excluded 5⟩ = .ok req ∧
        req.buffer = .httpRequestBody ∧ ∀ i, (req.start ≤ i ∧ i < req.start + req.size) ↔
          (i < 4 ∧ RangeBounds.contains ⟨.included 2, .excluded 5⟩ i = true) :=
  ⟨by simp, by simp, @bodyRequest_window 32 4 .httpRequestBody ⟨.included 2, .excluded 5⟩ (by simp) (by simp)⟩

/-- The two defects: an `Excluded(2)` start yields a window from offset 1, which
the range does not contain, and an `Included(usize::MAX)` end bound overflows. -/
theorem calculateRange_defects :
    calculateRange 32 ⟨.excluded 2, .unbounded⟩ 10 = .ok (1, 9) ∧
      RangeBounds.contains ⟨.excluded 2, .unbounded⟩ 1 = false ∧
      calculateRange 32 ⟨.unbounded, .included (2 ^ 32 - 1)⟩ 10 = .error .overflow ∧
      HttpCallResponse.body 32 ⟨0, 10, 0⟩ ⟨.excluded 2, .unbounded⟩ =
        .ok ⟨.httpCallResponseBody, 1, 9⟩ :=
  ⟨rfl, rfl, rfl, rfl⟩

end ProxySdk
