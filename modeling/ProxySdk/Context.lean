/-
ProxySdk/Context.lean

The plugin side as the dispatcher sees it: the objects it stores (`RootContext`,
`HttpContext`, `StreamContext`, and the `Context` that `create_context`
returns, `context.rs`), the status codes their handlers return, and the code
they run.

Design.  Of all the Rust a plugin may run, what reaches the dispatcher is its
calls into the SDK: outbound calls and streams that register completion
callbacks, queue callbacks, metric definitions, and records logged through the
SDK's logger.  `Code` is a program of such calls.  A call the host answers
carries the host's answer (the token it assigns, or its error status), so
quantifying over `Code` quantifies over the host as well.  Callbacks are
functions of what they are handed: the root they run against, and the response,
the stream handle or the queue.  Each object method is a function of its
arguments, returning the code it runs and the value it returns.

A stored callback is handed `&mut roots[r].data`.  What it can read of the root
is the root's own state, `RootContext.state`; the root's methods are not handed
on, since a `Code` that took a `RootContext` would not be a strictly positive
type.
-/
import ProxySdk.Range
import ProxySdk.Logger

namespace ProxySdk

/-- `MetricType` (`hostcalls.rs`). -/
inductive MetricType where
  | counter
  | gauge
  | histogram
  deriving DecidableEq, Repr

/-- The state of a root object, which its stored callbacks are handed. -/
abbrev RootState := Bytes

/-- Plugin code, as the sequence of SDK calls it makes. -/
inductive Code : Type where
  | done
  /-- `HttpCall::dispatch`: the host answers `dispatch_http_call` with `token`;
  on success the response `callback`, if any, is registered. -/
  | httpCallDispatch (token : Except Status UInt32)
      (callback : Option (RootState → HttpCallResponse → Code)) (next : Code)
  /-- `GrpcCall::dispatch`. -/
  | grpcCallDispatch (token : Except Status UInt32)
      (callback : Option (RootState → GrpcCallResponse → Code)) (next : Code)
  /-- `GrpcStream::open`: `on_message` is registered before `on_close`. -/
  | grpcStreamOpen (token : Except Status UInt32)
      (onMessage : Option (RootState → UInt32 → GrpcStreamMessage → Code))
      (onClose : Option (RootState → GrpcStreamClose → Code)) (next : Code)
  /-- `Queue::on_enqueue` (and `Queue::on_receive`, whose dequeue loop is part of
  the callback's own code). -/
  | queueOnEnqueue (queue : UInt32) (callback : RootState → UInt32 → Code) (next : Code)
  /-- `Counter::define`, `Gauge::define`, `Histogram::define`; `result` is what
  the host answers to `define_metric` if it is asked. -/
  | metricDefine (kind : MetricType) (name : String) (result : Except Status UInt32)
      (next : Code)
  /-- A `log` macro call of the plugin (`warn!(..)` and its siblings), which goes
  through the SDK's `Logger`. -/
  | log (level : Level) (message : String) (next : Code)

/-- `FilterHeadersStatus` (`http.rs`). -/
inductive FilterHeadersStatus where
  | «continue»
  | stopIteration
  | continueAndEndStream
  | stopAllIterationAndBuffer
  | stopAllIterationAndWatermark
  deriving DecidableEq, Repr

/-- `FilterDataStatus` (`http.rs`). -/
inductive FilterDataStatus where
  | «continue»
  | stopAllIterationAndBuffer
  | stopAllIterationAndWatermark
  | stopIterationNoBuffer
  deriving DecidableEq, Repr

/-- `FilterTrailersStatus` (`http.rs`). -/
inductive FilterTrailersStatus where
  | «continue»
  | stopIteration
  deriving DecidableEq, Repr

/-- `FilterStreamStatus` (`stream.rs`). -/
inductive FilterStreamStatus where
  | «continue»
  | stopIteration
  deriving DecidableEq, Repr

/-- `CloseType` (`stream.rs`). -/
inductive CloseType where
  | unknown
  | «local»
  | remote
  deriving DecidableEq, Repr

/-- An `HttpContext`: the request-scoped handler.  Each method takes the
counts and flags of its event. -/
structure HttpContext where
  onHttpRequestHeaders : Nat → Bool → Code × FilterHeadersStatus
  onHttpRequestBody : Nat → Bool → Code × FilterDataStatus
  onHttpRequestTrailers : Nat → Code × FilterTrailersStatus
  onHttpResponseHeaders : Nat → Bool → Code × FilterHeadersStatus
  onHttpResponseBody : Nat → Bool → Code × FilterDataStatus
  onHttpResponseTrailers : Nat → Code × FilterTrailersStatus
  onDone : Code × Bool
  onLog : Code

/-- A `StreamContext`: the connection-scoped handler. -/
structure StreamContext where
  onNewConnection : Code × FilterStreamStatus
  onDownstreamData : Nat → Bool → Code × FilterStreamStatus
  onDownstreamClose : CloseType → Code
  onUpstreamData : Nat → Bool → Code × FilterStreamStatus
  onUpstreamClose : CloseType → Code
  onDone : Code × Bool
  onLog : Code

/-- `Context`: what `RootContext::create_context` returns. -/
inductive Context where
  | http (context : HttpContext)
  | stream (context : StreamContext)

/-- A `RootContext`, one per plugin configuration: its own state and its
methods. -/
structure RootContext where
  state : RootState
  onVmStart : Option Bytes → Code × Bool
  onConfigure : Option Bytes → Code × Bool
  onTick : Code
  createContext : Code × Context
  onDone : Code × Bool
  onLog : Code

/-! ### The traits' default methods -/

/-- `HttpContext`'s default methods: every filter continues, `on_done` returns
`true`, and none calls into the SDK. -/
def HttpContext.default : HttpContext where
  onHttpRequestHeaders _ _ := (.done, .continue)
  onHttpRequestBody _ _ := (.done, .continue)
  onHttpRequestTrailers _ := (.done, .continue)
  onHttpResponseHeaders _ _ := (.done, .continue)
  onHttpResponseBody _ _ := (.done, .continue)
  onHttpResponseTrailers _ := (.done, .continue)
  onDone := (.done, true)
  onLog := .done

/-- `StreamContext`'s default methods. -/
def StreamContext.default : StreamContext where
  onNewConnection := (.done, .continue)
  onDownstreamData _ _ := (.done, .continue)
  onDownstreamClose _ := .done
  onUpstreamData _ _ := (.done, .continue)
  onUpstreamClose _ := .done
  onDone := (.done, true)
  onLog := .done

/-- A `RootContext` with the default methods and the one it must give,
`create_context`. -/
def RootContext.default (createContext : Code × Context) : RootContext where
  state := []
  onVmStart _ := (.done, true)
  onConfigure _ := (.done, true)
  onTick := .done
  createContext := createContext
  onDone := (.done, true)
  onLog := .done

/-- What `set_root_context_factory(root)` registers: calling `root()` runs
`code` and yields the root context `root`. -/
structure RootContextFactory where
  code : Code
  root : RootContext

end ProxySdk
