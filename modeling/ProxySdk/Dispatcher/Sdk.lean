/-
ProxySdk/Dispatcher/Sdk.lean

The SDK entry points that plugin code calls and that reach the dispatcher's
state: `register_http_callback`, `register_grpc_callback`,
`register_grpc_stream_message` and `register_grpc_stream_close`,
`register_queue_callback` (behind `HttpCall::dispatch`, `GrpcCall::dispatch`,
`GrpcStream::open`, `Queue::on_enqueue`), and `Counter/Gauge/Histogram::define`
(`metrics.rs`).  `runCode` runs a `Code` program call by call.  Each
registration is also entered in the ghost record of the world.

Every registration calls `dispatch` and then borrows its map, so it panics when
a frame that encloses the plugin code still holds that map.  `define` reads
`root_id()`, which is the active root id read without `dispatch`.
-/
import ProxySdk.Dispatcher.State

namespace ProxySdk

/-! ### Registrations -/

/-- `register_http_callback`: the callback is stored under the active pair. -/
def registerHttpCallback (held : List Cell) (token : UInt32)
    (callback : RootState → HttpCallResponse → Code) (w : World) : Except Panic World := do
  let w ← dispatch held w
  borrowMut held .httpCallbacks
  pure ((w.modify fun d =>
    { d with httpCallbacks := d.httpCallbacks.insert token ⟨d.activeId, d.activeRootId, callback⟩ }).register
      (.http token))

/-- `register_grpc_callback`. -/
def registerGrpcCallback (held : List Cell) (token : UInt32)
    (callback : RootState → GrpcCallResponse → Code) (w : World) : Except Panic World := do
  let w ← dispatch held w
  borrowMut held .grpcCallbacks
  pure ((w.modify fun d =>
    { d with grpcCallbacks := d.grpcCallbacks.insert token ⟨d.activeId, d.activeRootId, callback⟩ }).register
      (.grpc token))

/-- The body shared by the `register_grpc_stream_*` functions, which differ
only in their name and the slot they fill.  An entry owned by another context
is left untouched, after an `error!`; an entry of the active context gets the
slot; a missing entry is created, owned by the active pair. -/
def registerGrpcStream (name : String) (slot : StreamSlot) (held : List Cell) (token : UInt32)
    (w : World) : Except Panic World := do
  let w ← dispatch held w
  let contextId := w.dispatcher.activeId
  let rootContextId := w.dispatcher.activeRootId
  borrowMut held .grpcStreams
  let w := w.register (.stream token ⟨contextId, rootContextId, slot⟩)
  match w.dispatcher.grpcStreams token with
  | some entry =>
    if entry.contextId ≠ contextId then
      w.log .error ("mismatch in context for " ++ name ++ "! " ++ toString entry.contextId ++ " != " ++
        toString contextId)
    else pure (w.modify fun d => { d with grpcStreams := d.grpcStreams.insert token (slot.fill entry) })
  | none =>
    pure (w.modify fun d =>
      { d with grpcStreams := d.grpcStreams.insert token (slot.fill ⟨contextId, rootContextId, none, none⟩) })

/-- `register_grpc_stream_message`. -/
def registerGrpcStreamMessage (held : List Cell) (token : UInt32)
    (callback : RootState → UInt32 → GrpcStreamMessage → Code) : World → Except Panic World :=
  registerGrpcStream "register_grpc_stream_message" (.message callback) held token

/-- `register_grpc_stream_close`. -/
def registerGrpcStreamClose (held : List Cell) (token : UInt32)
    (callback : RootState → GrpcStreamClose → Code) : World → Except Panic World :=
  registerGrpcStream "register_grpc_stream_close" (.close callback) held token

/-- `register_queue_callback`. -/
def registerQueueCallback (held : List Cell) (token : UInt32) (callback : RootState → UInt32 → Code)
    (w : World) : Except Panic World := do
  let w ← dispatch held w
  borrowMut held .queueCallbacks
  pure ((w.modify fun d => { d with queueCallbacks := d.queueCallbacks.insert token callback }).register
    (.queue token))

/-! ### Metrics -/

/-- The body shared by `Counter::define`, `Gauge::define` and
`Histogram::define`: the id cached for `name` under `root_id()`, or else the
host's answer to `define_metric` through `log_concern("define-metric", ..)` (so
`0` on an error, once it is logged), which is then cached. -/
def define (kind : MetricType) (name : String) (result : Except Status UInt32) (w : World) :
    Except Panic (World × UInt32) := do
  let rootId := w.dispatcher.activeRootId
  let info := (w.metrics rootId).getD default
  match info.get kind name with
  | some id => pure (w.observe (.metric kind name id), id)
  | none =>
    let (w, out) ← (w.observe (.host (.defineMetric kind name))).logConcern "define-metric" result
    pure ({ w with metrics := w.metrics.insert rootId (info.insert name out kind) }.observe
      (.metric kind name out), out)

/-- `Counter::define`. -/
def Counter.define : String → Except Status UInt32 → World → Except Panic (World × UInt32) :=
  ProxySdk.define .counter

/-- `Gauge::define`. -/
def Gauge.define : String → Except Status UInt32 → World → Except Panic (World × UInt32) :=
  ProxySdk.define .gauge

/-- `Histogram::define`. -/
def Histogram.define : String → Except Status UInt32 → World → Except Panic (World × UInt32) :=
  ProxySdk.define .histogram

/-! ### Running plugin code -/

/-- Run `code`, with `held` borrowed by the frames around it. -/
def runCode (held : List Cell) : Code → World → Except Panic World
  | .done, w => pure w
  | .httpCallDispatch token callback next, w => do
    let w := w.observe (.host .dispatchHttpCall)
    match token, callback with
    | .ok token, some callback => runCode held next (← registerHttpCallback held token callback w)
    | _, _ => runCode held next w
  | .grpcCallDispatch token callback next, w => do
    let w := w.observe (.host .dispatchGrpcCall)
    match token, callback with
    | .ok token, some callback => runCode held next (← registerGrpcCallback held token callback w)
    | _, _ => runCode held next w
  | .grpcStreamOpen token onMessage onClose next, w => do
    let w := w.observe (.host .openGrpcStream)
    match token with
    | .ok token =>
      let w ← match onMessage with
        | some callback => registerGrpcStreamMessage held token callback w
        | none => pure w
      let w ← match onClose with
        | some callback => registerGrpcStreamClose held token callback w
        | none => pure w
      runCode held next w
    | .error _ => runCode held next w
  | .queueOnEnqueue queue callback next, w => do
    runCode held next (← registerQueueCallback held queue callback w)
  | .metricDefine kind name result next, w => do
    runCode held next (← define kind name result w).1
  | .log level message next, w => do runCode held next (← w.log level message)

/-- Start plugin code `code` as `frame`, recording the active pair. -/
def invoke (held : List Cell) (frame : Frame) (code : Code) (w : World) : Except Panic World :=
  runCode held code (w.observe (.run frame w.dispatcher.activeId w.dispatcher.activeRootId))

end ProxySdk
