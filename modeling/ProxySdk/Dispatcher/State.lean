/-
ProxySdk/Dispatcher/State.lean

The state `dispatcher.rs` keeps: the thread-local `Dispatcher` (three context
maps, four pending-callback maps, the active pair and a cached generation), the
global `DISPATCHER_GEN` and `ROOT_INIT`, the thread-local `METRICS` cache of
`metrics.rs`, and the logger of `logger.rs` with the host's answers to the
`proxy_log` calls still to come.  A `World` holds all of them, together with a
`trace` of what the host and the plugin observe: the host calls issued (each
`proxy_log` among them), each start of plugin code with the active pair at that
moment, and each metric id handed to the plugin.  A ghost record of the
callbacks stored, which no code reads, lets the laws of the registry speak of
what was registered along a run.

Design.  `RefCell` borrows are lexical in the source: a frame holds its
`borrow_mut()` until the end of the scope the source gives it.  The model passes
the cells that the enclosing frames still hold down as a list `held`, and
`borrowMut held c` panics exactly when `c` is among them.  `dispatch` is the
function of the same name: it compares the cached generation with
`DISPATCHER_GEN` and wipes the dispatcher on a mismatch, borrowing every map.

The `stream-metadata` feature is left out: its code does not compile
(`d.d.active_id`, a move out of `self.grpc_streams`).
-/
import ProxySdk.Context
import Mathlib.Tactic.Simps.Basic

namespace ProxySdk

/-! ### The dispatcher's records -/

/-- `HttpCallback`: a pending `HttpCall` with the pair active when it was issued. -/
structure HttpCallback where
  contextId : UInt32
  rootContextId : UInt32
  callback : RootState → HttpCallResponse → Code

/-- `GrpcCallback`. -/
structure GrpcCallback where
  contextId : UInt32
  rootContextId : UInt32
  callback : RootState → GrpcCallResponse → Code

/-- `GrpcStreamCallback`: the owner of a stream and its two callback slots. -/
structure GrpcStreamCallback where
  contextId : UInt32
  rootContextId : UInt32
  close : Option (RootState → GrpcStreamClose → Code)
  message : Option (RootState → UInt32 → GrpcStreamMessage → Code)

/-- A slot of a stream entry, with the callback a registration puts in it. -/
inductive StreamSlot where
  | message (callback : RootState → UInt32 → GrpcStreamMessage → Code)
  | close (callback : RootState → GrpcStreamClose → Code)

/-- What the slot's `register_grpc_stream_*` writes into an entry. -/
def StreamSlot.fill : StreamSlot → GrpcStreamCallback → GrpcStreamCallback
  | .message callback, entry => { entry with message := some callback }
  | .close callback, entry => { entry with close := some callback }

/-- One stream registration, made while `(contextId, rootContextId)` is the
active pair. -/
structure StreamRegistration where
  contextId : UInt32
  rootContextId : UInt32
  slot : StreamSlot

/-- The owner lock, as the registry should apply one registration to the entry
of its token: a missing entry is created, owned by the registration's pair; an
entry of the registering context gets the slot; an entry of another context
stays as it is. -/
def StreamRegistration.apply (entry : Option GrpcStreamCallback) (r : StreamRegistration) :
    Option GrpcStreamCallback :=
  match entry with
  | some entry => some (if entry.contextId ≠ r.contextId then entry else r.slot.fill entry)
  | none => some (r.slot.fill ⟨r.contextId, r.rootContextId, none, none⟩)

/-- A callback the dispatcher stored, with its token or queue. -/
inductive Registration where
  | http (token : UInt32)
  | grpc (token : UInt32)
  | stream (token : UInt32) (registration : StreamRegistration)
  | queue (queue : UInt32)

/-- The token of an HTTP registration. -/
def Registration.httpToken : Registration → Option UInt32
  | .http token => some token
  | _ => none

/-- The token of a gRPC call registration. -/
def Registration.grpcToken : Registration → Option UInt32
  | .grpc token => some token
  | _ => none

/-- A stream registration for `token`. -/
def Registration.streamFor (token : UInt32) : Registration → Option StreamRegistration
  | .stream t r => if t = token then some r else none
  | _ => none

/-- The stream registrations for `token` among `regs` (newest first), oldest
first. -/
def streamRegsFor (token : UInt32) (regs : List Registration) : List StreamRegistration :=
  (regs.filterMap (Registration.streamFor token)).reverse

theorem streamRegsFor_append (token : UInt32) (regs regs' : List Registration) :
    streamRegsFor token (regs ++ regs') = streamRegsFor token regs' ++ streamRegsFor token regs := by
  simp [streamRegsFor, List.filterMap_append]

/-- One stream registration, for `token`, seen from token `t`. -/
theorem streamRegsFor_stream (t token : UInt32) (r : StreamRegistration) :
    streamRegsFor t [.stream token r] = if token = t then [r] else [] := by
  by_cases h : token = t <;> simp [streamRegsFor, Registration.streamFor, h]

/-- `StreamInfo`. -/
structure StreamInfo where
  parentContextId : UInt32
  data : StreamContext

/-- `HttpStreamInfo`. -/
structure HttpStreamInfo where
  parentContextId : UInt32
  data : HttpContext

/-- `RootInfo`. -/
structure RootInfo where
  data : RootContext

/-- The thread-local `Dispatcher`. -/
structure Dispatcher where
  roots : Map UInt32 RootInfo
  streams : Map UInt32 StreamInfo
  httpStreams : Map UInt32 HttpStreamInfo
  httpCallbacks : Map UInt32 HttpCallback
  grpcCallbacks : Map UInt32 GrpcCallback
  grpcStreams : Map UInt32 GrpcStreamCallback
  queueCallbacks : Map UInt32 (RootState → UInt32 → Code)
  activeId : UInt32
  activeRootId : UInt32
  generation : Nat

/-- `Dispatcher::new()`, the derived `Default`. -/
def Dispatcher.new : Dispatcher :=
  ⟨.empty, .empty, .empty, .empty, .empty, .empty, .empty, 0, 0, 0⟩

/-- `Dispatcher::reset`: every map cleared and the active pair zeroed; the
generation is left as it is. -/
@[simps] def Dispatcher.reset (d : Dispatcher) : Dispatcher :=
  { Dispatcher.new with generation := d.generation }

/-- `MetricsInfo`: the metric ids cached for one root, by kind and name. -/
structure MetricsInfo where
  counters : Map String UInt32
  gauges : Map String UInt32
  histograms : Map String UInt32

instance : Inhabited MetricsInfo := ⟨⟨.empty, .empty, .empty⟩⟩

/-- The map of `kind`. -/
def MetricsInfo.get (info : MetricsInfo) : MetricType → Map String UInt32
  | .counter => info.counters
  | .gauge => info.gauges
  | .histogram => info.histograms

/-- `insert` into the map of `kind`. -/
def MetricsInfo.insert (info : MetricsInfo) (name : String) (id : UInt32) :
    MetricType → MetricsInfo
  | .counter => { info with counters := info.counters.insert name id }
  | .gauge => { info with gauges := info.gauges.insert name id }
  | .histogram => { info with histograms := info.histograms.insert name id }

/-! ### Observations -/

/-- The host calls of the modelled code, with the arguments that matter. -/
inductive HostCall where
  | dispatchHttpCall
  | dispatchGrpcCall
  | openGrpcStream
  | defineMetric (kind : MetricType) (name : String)
  | setEffectiveContext (contextId : UInt32)
  | getBuffer (request : BufferRequest)
  | getGrpcStatus
  | log (call : LogCall)
  deriving DecidableEq, Repr

/-- The plugin code the dispatcher runs, and the context it runs it for. -/
inductive Frame where
  /-- The root context factory, creating root `rootContextId`. -/
  | rootContextFactory (rootContextId : UInt32)
  /-- `RootContext::create_context` of root `rootContextId`. -/
  | createContext (rootContextId : UInt32)
  /-- Any other `RootContext` method. -/
  | rootContext (contextId : UInt32)
  | httpContext (contextId parentContextId : UInt32)
  | streamContext (contextId parentContextId : UInt32)
  /-- A queue callback, run against root `rootContextId`. -/
  | queueCallback (rootContextId queueId : UInt32)
  /-- Stored completion callbacks, with the pair captured at registration and
  the state of the root they are handed. -/
  | httpCallback (tokenId contextId rootContextId : UInt32) (root : RootState)
  | grpcCallback (tokenId contextId rootContextId : UInt32) (root : RootState)
  | grpcStreamMessage (tokenId contextId rootContextId : UInt32) (root : RootState)
  | grpcStreamClose (tokenId contextId rootContextId : UInt32) (root : RootState)
  deriving DecidableEq, Repr

/-- What the host and the plugin can observe. -/
inductive Obs where
  | host (call : HostCall)
  /-- Plugin code starts as `frame`, with this active pair. -/
  | run (frame : Frame) (activeId activeRootId : UInt32)
  /-- A metric `define` hands the plugin `id`. -/
  | metric (kind : MetricType) (name : String) (id : UInt32)
  deriving DecidableEq, Repr

/-- The plugin code an observation starts, with the active pair, if it starts any. -/
def Obs.started : Obs → Option (Frame × UInt32 × UInt32)
  | .run frame activeId activeRootId => some (frame, activeId, activeRootId)
  | _ => none

/-! ### The world -/

/-- Everything the modelled code reads or writes: the dispatcher and the
globals, the logger and the host's answers to the `proxy_log` calls still to
come (an exhausted list answers `Ok`); the observations (newest first), and the
ghost record of the callbacks stored (newest first). -/
structure World where
  dispatcher : Dispatcher
  dispatcherGen : Nat
  rootInit : Option RootContextFactory
  metrics : Map UInt32 MetricsInfo
  logger : LoggerState
  logAnswers : List Status
  registrations : List Registration
  trace : List Obs

/-- A freshly started instance, whose host accepts every log. -/
def World.init : World := ⟨.new, 0, none, .empty, .init, [], [], []⟩

/-- Update the dispatcher. -/
@[simps] def World.modify (w : World) (f : Dispatcher → Dispatcher) : World :=
  { w with dispatcher := f w.dispatcher }

/-- Record an observation. -/
@[simps] def World.observe (w : World) (o : Obs) : World :=
  { w with trace := o :: w.trace }

/-- Record a stored callback in the ghost record. -/
@[simps] def World.register (w : World) (r : Registration) : World :=
  { w with registrations := r :: w.registrations }

/-- A `log` macro call at `level` on the dispatcher's thread: a `proxy_log` when
the logger passes the record on, which panics when the host refuses it. -/
def World.log (w : World) (level : Level) (message : String) : Except Panic World :=
  match Logger.emit w.logger level message (w.logAnswers.headD .ok) with
  | .error p => .error p
  | .ok none => .ok w
  | .ok (some call) => .ok ({ w with logAnswers := w.logAnswers.tail }.observe (.host (.log call)))

/-- `log_concern(context, result)` on the dispatcher's thread. -/
def World.logConcern {α : Type} [Inhabited α] (w : World) (context : String) :
    Except Status α → Except Panic (World × α)
  | .ok x => pure (w, x)
  | .error e => return (← w.log .warn (concernMessage context e), default)

/-- `check_concern(context, result)` on the dispatcher's thread. -/
def World.checkConcern {α : Type} (w : World) (context : String) :
    Except Status α → Except Panic (World × Option α)
  | .ok x => pure (w, some x)
  | .error e => return (← w.log .warn (concernMessage context e), none)

/-- `active_id.set(id); active_root_id.set(rootId)`. -/
@[simps] def World.setActive (w : World) (id rootId : UInt32) : World :=
  { w with dispatcher := { w.dispatcher with activeId := id, activeRootId := rootId } }

/-! ### Borrows and `dispatch` -/

/-- `borrow_mut()` on `cell` while the enclosing frames hold the cells `held`. -/
def borrowMut (held : List Cell) (cell : Cell) : Except Panic Unit :=
  if cell ∈ held then .error (.alreadyBorrowed cell) else .ok ()

/-- The cells `Dispatcher::reset` borrows, in order (it takes `roots` once
more at the end, which cannot fail once the first one succeeded). -/
def resetCells : List Cell :=
  [.roots, .streams, .httpStreams, .httpCallbacks, .grpcCallbacks, .grpcStreams, .queueCallbacks]

/-- `dispatch`: on a generation mismatch, take the current generation and
`reset` the dispatcher. -/
def dispatch (held : List Cell) (w : World) : Except Panic World :=
  if w.dispatcher.generation ≠ w.dispatcherGen then do
    resetCells.forM (borrowMut held)
    pure (w.modify fun d => { d with generation := w.dispatcherGen }.reset)
  else pure w

/-- The dispatcher has caught up with `DISPATCHER_GEN`. -/
def World.Synced (w : World) : Prop := w.dispatcher.generation = w.dispatcherGen

instance (w : World) : Decidable w.Synced := inferInstanceAs (Decidable (_ = _))

theorem dispatch_of_synced {held : List Cell} {w : World} (h : w.Synced) :
    dispatch held w = .ok w :=
  if_neg (not_not_intro h)

/-- The world `dispatch` hands the handler: wiped when a reset is pending. -/
def World.sync (w : World) : World :=
  if w.dispatcher.generation ≠ w.dispatcherGen then
    w.modify fun d => { d with generation := w.dispatcherGen }.reset
  else w

/-- An export borrows nothing before its `dispatch`, so that never panics. -/
theorem dispatch_nil (w : World) : dispatch [] w = .ok w.sync := by
  unfold dispatch World.sync
  split <;> simp [resetCells, borrowMut]

theorem World.sync_synced (w : World) : w.sync.Synced := by
  unfold World.sync World.Synced
  split <;> simp_all

theorem World.sync_of_synced {w : World} (hs : w.Synced) : w.sync = w :=
  if_neg (not_not_intro hs)

theorem dispatch_eq_sync {held : List Cell} {w w' : World} (h : dispatch held w = .ok w') :
    w' = w.sync := by
  unfold dispatch at h
  unfold World.sync
  split at h
  · obtain ⟨⟨⟩, -, ⟨⟩⟩ := bind_eq_ok.mp h
    simp_all
  · cases h
    simp_all

theorem borrowMut_of_not_mem {held : List Cell} {cell : Cell} (h : cell ∉ held) :
    borrowMut held cell = .ok () :=
  if_neg h

theorem borrowMut_of_mem {held : List Cell} {cell : Cell} (h : cell ∈ held) :
    borrowMut held cell = .error (.alreadyBorrowed cell) :=
  if_pos h

end ProxySdk
