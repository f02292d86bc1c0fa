/-
ProxySdk/Dispatcher/Handlers.lean

The context and child-event handlers of `impl Dispatcher`, one definition
each under the source's name; the completion handlers are in
`Dispatcher/Completion.lean`.

Each handler passes to the plugin code it runs the cells that the source still
borrows at that point.  The scopes are those of the crate's edition 2021: the
temporaries in the scrutinee of an `if let` live to the end of the whole
`if let ... else ...`, so the `RefMut` of an `if let Some(..) =
self.x.borrow_mut()...` is held in its `else` branches too, while that of a
`let ... else` statement or of a plain `if` condition is dropped at its end.

Handlers that differ only in the method they call, the default they return and
the text they log (`on_done` and `on_log`; the stream handlers; the HTTP
handlers; `on_vm_start` and `on_configure`) are one definition with parameters,
each applied under the source's name.  Of the stream handlers only
`on_new_connection` logs an unknown id, so the text is optional there.

Every branch that finds nothing to do logs what the source logs (`warn!`), and
`check_concern` logs a failed host call; a log the logger passes on is a
`proxy_log`, and the handler panics when the host refuses it.
-/
import ProxySdk.Dispatcher.Sdk

namespace ProxySdk

/-! ### Contexts -/

/-- `Dispatcher::root`: root `rootContextId`, created through `ROOT_INIT` when
it is missing.  The factory runs inside `or_insert_with`, with `held` borrowed. -/
def root (held : List Cell) (rootContextId : UInt32) (w : World) :
    Except Panic (World × RootContext) :=
  match w.dispatcher.roots rootContextId with
  | some info => pure (w, info.data)
  | none =>
    match w.rootInit with
    | none => .error .missingRootContextFactory
    | some factory => do
      let w ← invoke held (.rootContextFactory rootContextId) factory.code w
      pure (w.modify fun d => { d with roots := d.roots.insert rootContextId ⟨factory.root⟩ },
        factory.root)

/-- The `insert` of `do_create_subcontext`: the new context filed in the map of
its variant, with whether that map had the id already (`insert(..).is_some()`). -/
def fileContext (rootContextId contextId : UInt32) (context : Context) (w : World) : Bool × World :=
  match context with
  | .http context => ((w.dispatcher.httpStreams contextId).isSome, w.modify fun d =>
      { d with httpStreams := d.httpStreams.insert contextId ⟨rootContextId, context⟩ })
  | .stream context => ((w.dispatcher.streams contextId).isSome, w.modify fun d =>
      { d with streams := d.streams.insert contextId ⟨rootContextId, context⟩ })

/-- `Dispatcher::do_create_subcontext`: `create_context` of the root, and the
new context filed by its variant; an id that was already filed there is
replaced, with a warning. -/
def doCreateSubcontext (rootContextId contextId : UInt32) (w : World) : Except Panic World := do
  let (w, root) ← root [.roots] rootContextId w
  let (code, context) := root.createContext
  let w ← invoke [.roots] (.createContext rootContextId) code w
  let (reused, w) := fileContext rootContextId contextId context w
  if reused then w.log .warn "reused context_id without proper cleanup" else pure w

/-- `Dispatcher::on_create_context`. -/
def onCreateContext (contextId parentContextId : UInt32) (w : World) : Except Panic World :=
  if parentContextId = 0 then do
    let (w, _) ← root [.roots] contextId w
    pure w
  else if (w.dispatcher.roots parentContextId).isSome then
    doCreateSubcontext parentContextId contextId w
  else
    w.log .warn ("attempted to create context " ++ toString contextId ++ " under unknown context " ++
      toString parentContextId)

/-- The body shared by `on_done` and `on_log`: the HTTP context, else the
stream context, else the root of that id, each with the pair it serves. -/
def onBaseContext {α : Type} (name : String) (httpMethod : HttpContext → Code × α)
    (streamMethod : StreamContext → Code × α) (rootMethod : RootContext → Code × α)
    (default : α) (contextId : UInt32) (w : World) : Except Panic (World × α) :=
  match w.dispatcher.httpStreams contextId with
  | some httpStream => do
    let w := w.setActive contextId httpStream.parentContextId
    let (code, result) := httpMethod httpStream.data
    pure (← invoke [.httpStreams] (.httpContext contextId httpStream.parentContextId) code w, result)
  | none =>
    match w.dispatcher.streams contextId with
    | some stream => do
      let w := w.setActive contextId stream.parentContextId
      let (code, result) := streamMethod stream.data
      pure (← invoke [.httpStreams, .streams] (.streamContext contextId stream.parentContextId)
        code w, result)
    | none =>
      if (w.dispatcher.roots contextId).isSome then do
        let w := w.setActive contextId contextId
        let (w, root) ← root [.httpStreams, .streams, .roots] contextId w
        let (code, result) := rootMethod root
        pure (← invoke [.httpStreams, .streams, .roots] (.rootContext contextId) code w, result)
      else
        return (← w.log .warn (name ++ " called on unknown context: " ++ toString contextId), default)

/-- `Dispatcher::on_done`. -/
def onDone : UInt32 → World → Except Panic (World × Bool) :=
  onBaseContext "on_done" (·.onDone) (·.onDone) (·.onDone) true

/-- `Dispatcher::on_log`. -/
def onLog : UInt32 → World → Except Panic (World × Unit) :=
  onBaseContext "on_log" (fun c => (c.onLog, ())) (fun c => (c.onLog, ())) (fun c => (c.onLog, ())) ()

/-- `Dispatcher::on_delete`: removed from the first map that has it. -/
def onDelete (contextId : UInt32) (w : World) : Except Panic World :=
  if (w.dispatcher.httpStreams contextId).isSome then
    pure (w.modify fun d => { d with httpStreams := d.httpStreams.remove contextId })
  else if (w.dispatcher.streams contextId).isSome then
    pure (w.modify fun d => { d with streams := d.streams.remove contextId })
  else if (w.dispatcher.roots contextId).isSome then
    pure (w.modify fun d => { d with roots := d.roots.remove contextId })
  else w.log .warn ("deleting unknown context_id " ++ toString contextId)

/-! ### Root events -/

/-- The body shared by `on_vm_start` and `on_configure`: fetch the
configuration from `buffer` (`configuration` is the host's answer, a failure
logged under `context`), then call the root's method. -/
def onRootConfiguration (name context : String) (buffer : BufferType)
    (method : RootContext → Option Bytes → Code × Bool) (contextId : UInt32) (size : Nat)
    (configuration : Except Status (Option Bytes)) (w : World) : Except Panic (World × Bool) :=
  if (w.dispatcher.roots contextId).isNone then
    return (← w.log .warn ("received " ++ name ++ " for non-root-context: " ++ toString contextId), true)
  else do
    let (w, configuration) ←
      (w.observe (.host (.getBuffer ⟨buffer, 0, size⟩))).checkConcern context configuration
    match configuration with
    | none => pure (w, false)
    | some configuration =>
      let w := w.setActive contextId contextId
      let (w, root) ← root [.roots] contextId w
      let (code, result) := method root configuration
      pure (← invoke [.roots] (.rootContext contextId) code w, result)

/-- `Dispatcher::on_vm_start`. -/
def onVmStart : UInt32 → Nat → Except Status (Option Bytes) → World → Except Panic (World × Bool) :=
  onRootConfiguration "on_vm_start" "vm-start-config" .vmConfiguration (·.onVmStart)

/-- `Dispatcher::on_configure`. -/
def onConfigure :
    UInt32 → Nat → Except Status (Option Bytes) → World → Except Panic (World × Bool) :=
  onRootConfiguration "on_configure" "configure-fetch" .pluginConfiguration (·.onConfigure)

/-- `Dispatcher::on_tick`. -/
def onTick (contextId : UInt32) (w : World) : Except Panic World :=
  if (w.dispatcher.roots contextId).isNone then
    w.log .warn ("received on_tick for non-root-context: " ++ toString contextId)
  else do
    let w := w.setActive contextId contextId
    let (w, root) ← root [.roots] contextId w
    invoke [.roots] (.rootContext contextId) root.onTick w

/-- `Dispatcher::on_queue_ready`: the queue callback runs against the root,
with `queue_callbacks` and `roots` borrowed; the active pair is not set. -/
def onQueueReady (contextId queueId : UInt32) (w : World) : Except Panic World :=
  match w.dispatcher.roots contextId with
  | none => w.log .warn ("received on_queue_ready for non-root-context: " ++ toString contextId)
  | some info =>
    match w.dispatcher.queueCallbacks queueId with
    | none => pure w
    | some callback =>
      invoke [.queueCallbacks, .roots] (.queueCallback contextId queueId)
        (callback info.data.state queueId) w

/-! ### Child events -/

/-- The body shared by the stream handlers: the stream context, with the pair
it serves, while `streams` is borrowed; `default` for an unknown id, after the
warning `unknown` when the handler has one. -/
def onStream {α : Type} (unknown : Option String) (method : StreamContext → Code × α) (default : α)
    (contextId : UInt32) (w : World) : Except Panic (World × α) :=
  match w.dispatcher.streams contextId with
  | none =>
    match unknown with
    | some text => return (← w.log .warn (text ++ toString contextId), default)
    | none => pure (w, default)
  | some stream => do
    let w := w.setActive contextId stream.parentContextId
    let (code, result) := method stream.data
    pure (← invoke [.streams] (.streamContext contextId stream.parentContextId) code w, result)

/-- `Dispatcher::on_new_connection`. -/
def onNewConnection (contextId : UInt32) : World → Except Panic (World × FilterStreamStatus) :=
  onStream (some "no http context found for context (and was not implicitly created): ")
    (·.onNewConnection) .continue contextId

/-- `Dispatcher::on_downstream_data`. -/
def onDownstreamData (contextId : UInt32) (dataSize : Nat) (endOfStream : Bool) :
    World → Except Panic (World × FilterStreamStatus) :=
  onStream none (·.onDownstreamData dataSize endOfStream) .continue contextId

/-- `Dispatcher::on_downstream_close`. -/
def onDownstreamClose (contextId : UInt32) (closeType : CloseType) :
    World → Except Panic (World × Unit) :=
  onStream none (fun s => (s.onDownstreamClose closeType, ())) () contextId

/-- `Dispatcher::on_upstream_data`. -/
def onUpstreamData (contextId : UInt32) (dataSize : Nat) (endOfStream : Bool) :
    World → Except Panic (World × FilterStreamStatus) :=
  onStream none (·.onUpstreamData dataSize endOfStream) .continue contextId

/-- `Dispatcher::on_upstream_close`. -/
def onUpstreamClose (contextId : UInt32) (closeType : CloseType) :
    World → Except Panic (World × Unit) :=
  onStream none (fun s => (s.onUpstreamClose closeType, ())) () contextId

/-- The body shared by the HTTP handlers: the HTTP context, with the pair it
serves, while `http_streams` is borrowed; `default` for an unknown id, after
the warning `unknown`. -/
def onHttp {α : Type} (unknown : String) (method : HttpContext → Code × α) (default : α)
    (contextId : UInt32) (w : World) : Except Panic (World × α) :=
  match w.dispatcher.httpStreams contextId with
  | none => return (← w.log .warn (unknown ++ toString contextId), default)
  | some context => do
    let w := w.setActive contextId context.parentContextId
    let (code, result) := method context.data
    pure (← invoke [.httpStreams] (.httpContext contextId context.parentContextId) code w, result)

/-- `Dispatcher::on_http_request_headers`. -/
def onHttpRequestHeaders (contextId : UInt32) (headerCount : Nat) (endOfStream : Bool) :
    World → Except Panic (World × FilterHeadersStatus) :=
  onHttp "no http context found for on_http_request_headers (and was not implicitly created): "
    (·.onHttpRequestHeaders headerCount endOfStream) .continue contextId

/-- `Dispatcher::on_http_request_body`. -/
def onHttpRequestBody (contextId : UInt32) (bodySize : Nat) (endOfStream : Bool) :
    World → Except Panic (World × FilterDataStatus) :=
  onHttp "no http context found for on_http_request_body: "
    (·.onHttpRequestBody bodySize endOfStream) .continue contextId

/-- `Dispatcher::on_http_request_trailers`. -/
def onHttpRequestTrailers (contextId : UInt32) (trailerCount : Nat) :
    World → Except Panic (World × FilterTrailersStatus) :=
  onHttp "no http context found for on_http_request_trailers: "
    (·.onHttpRequestTrailers trailerCount) .continue contextId

/-- `Dispatcher::on_http_response_headers`. -/
def onHttpResponseHeaders (contextId : UInt32) (headerCount : Nat) (endOfStream : Bool) :
    World → Except Panic (World × FilterHeadersStatus) :=
  onHttp "no http context found for on_http_response_headers: "
    (·.onHttpResponseHeaders headerCount endOfStream) .continue contextId

/-- `Dispatcher::on_http_response_body`. -/
def onHttpResponseBody (contextId : UInt32) (bodySize : Nat) (endOfStream : Bool) :
    World → Except Panic (World × FilterDataStatus) :=
  onHttp "no http context found for on_http_response_body: "
    (·.onHttpResponseBody bodySize endOfStream) .continue contextId

/-- `Dispatcher::on_http_response_trailers`. -/
def onHttpResponseTrailers (contextId : UInt32) (trailerCount : Nat) :
    World → Except Panic (World × FilterTrailersStatus) :=
  onHttp "no http context found for on_http_response_trailers: "
    (·.onHttpResponseTrailers trailerCount) .continue contextId

end ProxySdk
