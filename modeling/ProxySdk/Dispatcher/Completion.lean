/-
ProxySdk/Dispatcher/Completion.lean

The completion handlers of `impl Dispatcher` (`on_http_call_response`,
`on_grpc_receive`, `on_grpc_close`) and the `EffectiveContext` guard they open
around a stored callback.

`on_http_call_response` takes its entry out with a `let ... else`, whose
`RefMut` is dropped at once; the two gRPC handlers take theirs in the
scrutinee of an `if let`, so `grpc_callbacks` (and, in the stream branch,
`grpc_streams`) stays borrowed while the callback runs.  Each stored callback
is handed the state of the root it captured, `roots[r]`.

The two branches of `on_grpc_close` differ in one step: only the call branch
compares the fetched status with the in-band `status_code`, and warns when they
differ; `closeDelivery` takes that as a flag.
-/
import ProxySdk.Dispatcher.Handlers

namespace ProxySdk

/-- `EffectiveContext::enter(id, rootId, name)`, the guarded body, and the
guard's `drop`.  `entered` is the host's answer to `set_effective_context(id)`:
on an error nothing runs, once the failure is logged.  Otherwise the prior pair
is saved, `(id, rootId)` made active, and when the body is done the guard asks
the host to set the prior context again (`restored` is its answer, a failure
logged) and puts the prior pair back. -/
def withEffectiveContext (held : List Cell) (name : String) (id rootId : UInt32)
    (entered restored : Except Status Unit) (body : World → Except Panic World) (w : World) :
    Except Panic World :=
  let w := w.observe (.host (.setEffectiveContext id))
  match entered with
  | .error e =>
    w.log .debug ("failed to assume context " ++ toString rootId ++ "/" ++ toString id ++ " for " ++
      name ++ ": " ++ e.debug)
  | .ok () => do
    let w ← dispatch held w
    let prior := w.dispatcher.activeId
    let priorRoot := w.dispatcher.activeRootId
    let w ← body (w.setActive id rootId)
    let w := w.observe (.host (.setEffectiveContext prior))
    let w ← match restored with
      | .error e => w.log .debug ("failed to reset context for " ++ name ++ ": " ++ e.debug)
      | .ok () => pure w
    let w ← dispatch held w
    pure (w.setActive prior priorRoot)

/-- The step the completion handlers share: `roots.get_mut(root_context_id)`
for the captured root, with `roots` borrowed, then the guard around `body`, which
gets the root it found. -/
def withRoot (held : List Cell) (name : String) (id rootId : UInt32)
    (entered restored : Except Status Unit) (body : RootInfo → World → Except Panic World)
    (w : World) : Except Panic World :=
  match w.dispatcher.roots rootId with
  | none => w.log .debug "referenced non-existing root context"
  | some root => withEffectiveContext held name id rootId entered restored (body root) w

/-- `Dispatcher::on_http_call_response`: the entry is taken out, and its callback
runs against the root it captured, under the guard. -/
def onHttpCallResponse (tokenId : UInt32) (numHeaders bodySize numTrailers : Nat)
    (entered restored : Except Status Unit) (w : World) : Except Panic World :=
  match w.dispatcher.httpCallbacks tokenId with
  | none =>
    w.log .debug ("received http_call_response for token " ++ toString tokenId ++
      ", but no callback was registered")
  | some callback =>
    withRoot [.roots] "http callback" callback.contextId callback.rootContextId entered restored
      (fun root => invoke [.roots]
        (.httpCallback tokenId callback.contextId callback.rootContextId root.data.state)
        (callback.callback root.data.state ⟨numHeaders, bodySize, numTrailers⟩))
      (w.modify fun d => { d with httpCallbacks := d.httpCallbacks.remove tokenId })

/-- `Dispatcher::on_grpc_receive`: a one-shot call is consumed; a stream's
message callback runs and the entry stays. -/
def onGrpcReceive (tokenId : UInt32) (responseSize : Nat) (entered restored : Except Status Unit)
    (w : World) : Except Panic World :=
  match w.dispatcher.grpcCallbacks tokenId with
  | some callback =>
    withRoot [.grpcCallbacks, .roots] "grpc callback" callback.contextId callback.rootContextId
      entered restored
      (fun root => invoke [.grpcCallbacks, .roots]
        (.grpcCallback tokenId callback.contextId callback.rootContextId root.data.state)
        (callback.callback root.data.state ⟨tokenId, 0, responseSize, none⟩))
      (w.modify fun d => { d with grpcCallbacks := d.grpcCallbacks.remove tokenId })
  | none =>
    match w.dispatcher.grpcStreams tokenId with
    | none => w.log .debug ("received grpc message for unknown token " ++ toString tokenId)
    | some callback =>
      match callback.message with
      | none => pure w
      | some function =>
        withRoot [.grpcCallbacks, .grpcStreams, .roots] "grpc stream" callback.contextId
          callback.rootContextId entered restored
          (fun root => invoke [.grpcCallbacks, .grpcStreams, .roots]
            (.grpcStreamMessage tokenId callback.contextId callback.rootContextId root.data.state)
            (function root.data.state tokenId ⟨0, responseSize, none⟩)) w

/-- The guarded body of an `on_grpc_close` delivery: fetch the status, logged
under `context` when the host fails, and deliver it; a status that differs from
the in-band `statusCode` is warned about first where `checked`. -/
def closeDelivery (held : List Cell) (frame : Frame) (context : String) (checked : Bool)
    (statusCode : UInt32) (status : Except Status (UInt32 × Option String))
    (deliver : UInt32 → Option String → Code) (w : World) : Except Panic World := do
  let (w, status) ← (w.observe (.host .getGrpcStatus)).checkConcern context status
  match status with
  | none => pure w
  | some (status, message) =>
    let w ← if checked && status ≠ statusCode then w.log .warn "status code mismatch for on_grpc_close"
      else pure w
    invoke held frame (deliver status message) w

/-- `Dispatcher::on_grpc_close`: the entry is consumed, and its callback gets the
status fetched from the host (`status` is the host's answer to
`get_grpc_status`). -/
def onGrpcClose (tokenId statusCode : UInt32) (entered restored : Except Status Unit)
    (status : Except Status (UInt32 × Option String)) (w : World) : Except Panic World :=
  match w.dispatcher.grpcCallbacks tokenId with
  | some callback =>
    withRoot [.grpcCallbacks, .roots] "grpc callback" callback.contextId callback.rootContextId
      entered restored
      (fun root => closeDelivery [.grpcCallbacks, .roots]
        (.grpcCallback tokenId callback.contextId callback.rootContextId root.data.state)
        "grpc-call-close-status" true statusCode status fun status message =>
          callback.callback root.data.state ⟨tokenId, status, 0, message⟩)
      (w.modify fun d => { d with grpcCallbacks := d.grpcCallbacks.remove tokenId })
  | none =>
    match w.dispatcher.grpcStreams tokenId with
    | none => w.log .debug ("received grpc close for unknown token " ++ toString tokenId)
    | some callback =>
      let w := w.modify fun d => { d with grpcStreams := d.grpcStreams.remove tokenId }
      match callback.close with
      | none => pure w
      | some function =>
        withRoot [.grpcCallbacks, .grpcStreams, .roots] "grpc stream" callback.contextId
          callback.rootContextId entered restored
          (fun root => closeDelivery [.grpcCallbacks, .grpcStreams, .roots]
            (.grpcStreamClose tokenId callback.contextId callback.rootContextId root.data.state)
            "grpc-stream-close-status" false statusCode status fun status message =>
              function root.data.state ⟨tokenId, status, message⟩) w

end ProxySdk
