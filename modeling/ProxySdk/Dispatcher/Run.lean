/-
ProxySdk/Dispatcher/Run.lean

The host's side of the interface: the `proxy_on_*` exports, each a `dispatch`
followed by one handler, and runs of operations on a thread: host events, the
SDK's `reset()` and `set_root_context_factory`, and plugin code called outside
any event (from `_start`, say).

An event carries, besides the arguments of its export (ids after their
`as u32`), the host's answers to the calls its handler makes:
`configuration` for `get_buffer`, `entered` and `restored` for the two
`set_effective_context` calls of an `EffectiveContext` guard, and `status` for
`get_grpc_status`.  The answers to `proxy_log` are the world's `logAnswers`.
-/
import ProxySdk.Dispatcher.Completion

namespace ProxySdk

/-- A host event, named after its `proxy_on_*` export. -/
inductive Event where
  | contextCreate (contextId parentContextId : UInt32)
  | done (contextId : UInt32)
  | log (contextId : UInt32)
  | delete (contextId : UInt32)
  | vmStart (contextId : UInt32) (vmConfigurationSize : Nat)
      (configuration : Except Status (Option Bytes))
  | configure (contextId : UInt32) (pluginConfigurationSize : Nat)
      (configuration : Except Status (Option Bytes))
  | tick (contextId : UInt32)
  | queueReady (contextId queueId : UInt32)
  | newConnection (contextId : UInt32)
  | downstreamData (contextId : UInt32) (dataSize : Nat) (endOfStream : Bool)
  | downstreamConnectionClose (contextId : UInt32) (closeType : CloseType)
  | upstreamData (contextId : UInt32) (dataSize : Nat) (endOfStream : Bool)
  | upstreamConnectionClose (contextId : UInt32) (closeType : CloseType)
  | requestHeaders (contextId : UInt32) (numHeaders : Nat) (endOfStream : Bool)
  | requestBody (contextId : UInt32) (bodySize : Nat) (endOfStream : Bool)
  | requestTrailers (contextId : UInt32) (numTrailers : Nat)
  | responseHeaders (contextId : UInt32) (numHeaders : Nat) (endOfStream : Bool)
  | responseBody (contextId : UInt32) (bodySize : Nat) (endOfStream : Bool)
  | responseTrailers (contextId : UInt32) (numTrailers : Nat)
  | httpCallResponse (tokenId : UInt32) (numHeaders bodySize numTrailers : Nat)
      (entered restored : Except Status Unit)
  | grpcReceive (tokenId : UInt32) (responseSize : Nat) (entered restored : Except Status Unit)
  | grpcClose (tokenId statusCode : UInt32) (entered restored : Except Status Unit)
      (status : Except Status (UInt32 × Option String))

/-- What an export returns to the host. -/
inductive Reply where
  | unit
  | bool (b : Bool)
  | headers (status : FilterHeadersStatus)
  | data (status : FilterDataStatus)
  | trailers (status : FilterTrailersStatus)
  | stream (status : FilterStreamStatus)
  deriving DecidableEq, Repr

/-- The handler an event reaches, with its result as a `Reply`. -/
def Event.handle : Event → World → Except Panic (World × Reply)
  | .contextCreate c p, w => return (← onCreateContext c p w, .unit)
  | .done c, w => return Prod.map id .bool (← onDone c w)
  | .log c, w => return ((← onLog c w).1, .unit)
  | .delete c, w => return (← onDelete c w, .unit)
  | .vmStart c n r, w => return Prod.map id .bool (← onVmStart c n r w)
  | .configure c n r, w => return Prod.map id .bool (← onConfigure c n r w)
  | .tick c, w => return (← onTick c w, .unit)
  | .queueReady c q, w => return (← onQueueReady c q w, .unit)
  | .newConnection c, w => return Prod.map id .stream (← onNewConnection c w)
  | .downstreamData c n e, w => return Prod.map id .stream (← onDownstreamData c n e w)
  | .downstreamConnectionClose c t, w => return ((← onDownstreamClose c t w).1, .unit)
  | .upstreamData c n e, w => return Prod.map id .stream (← onUpstreamData c n e w)
  | .upstreamConnectionClose c t, w => return ((← onUpstreamClose c t w).1, .unit)
  | .requestHeaders c n e, w => return Prod.map id .headers (← onHttpRequestHeaders c n e w)
  | .requestBody c n e, w => return Prod.map id .data (← onHttpRequestBody c n e w)
  | .requestTrailers c n, w => return Prod.map id .trailers (← onHttpRequestTrailers c n w)
  | .responseHeaders c n e, w => return Prod.map id .headers (← onHttpResponseHeaders c n e w)
  | .responseBody c n e, w => return Prod.map id .data (← onHttpResponseBody c n e w)
  | .responseTrailers c n, w => return Prod.map id .trailers (← onHttpResponseTrailers c n w)
  | .httpCallResponse t h b n r s, w => return (← onHttpCallResponse t h b n r s w, .unit)
  | .grpcReceive t n r s, w => return (← onGrpcReceive t n r s w, .unit)
  | .grpcClose t c r s g, w => return (← onGrpcClose t c r s g w, .unit)

/-- `proxy_on_*`: `dispatch(|d| d.on_*(..))`. -/
def Event.run (e : Event) (w : World) : Except Panic (World × Reply) := do
  e.handle (← dispatch [] w)

/-- An operation on the thread. -/
inductive Op where
  | event (e : Event)
  /-- `proxy_sdk::reset()`. -/
  | reset
  | setRootContextFactory (factory : RootContextFactory)
  /-- `logger::set_log_level`. -/
  | setLogLevel (level : Level)
  /-- Plugin code called outside any event. -/
  | call (code : Code)

/-- `reset()`: `DISPATCHER_GEN.fetch_add(1)`, wrapping at the `usize` width
`bits`, and `ROOT_INIT` cleared. -/
def reset (bits : Nat) (w : World) : World :=
  { w with dispatcherGen := (w.dispatcherGen + 1) % 2 ^ bits, rootInit := none }

/-- `set_root_context_factory`. -/
def setRootContextFactory (factory : RootContextFactory) (w : World) : World :=
  { w with rootInit := some factory }

/-- One operation. -/
def Op.run (bits : Nat) : Op → World → Except Panic (World × Reply)
  | .event e, w => e.run w
  | .reset, w => pure (ProxySdk.reset bits w, .unit)
  | .setRootContextFactory factory, w => pure (ProxySdk.setRootContextFactory factory w, .unit)
  | .setLogLevel level, w =>
    match ProxySdk.setLogLevel level w.logger with
    | none => .error .setLogger
    | some logger => pure ({ w with logger }, .unit)
  | .call code, w => return (← runCode [] code w, .unit)

/-- A sequence of operations; the first panic ends the run. -/
def runOps (bits : Nat) : List Op → World → Except Panic (World × List Reply)
  | [], w => pure (w, [])
  | op :: ops, w => do
    let (w, reply) ← op.run bits w
    let (w, replies) ← runOps bits ops w
    pure (w, reply :: replies)

end ProxySdk
