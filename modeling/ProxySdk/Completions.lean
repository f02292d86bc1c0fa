/-
ProxySdk/Completions.lean

What `on_http_call_response`, `on_grpc_receive` and `on_grpc_close` do with
the entry of their token, event by event.

A one-shot entry is taken out of its map by the first completion event for
its token, whatever branch the handler then takes; its callback runs in that
event only when its root exists and the host accepts `set_effective_context`
(and, on a close, answers `get_grpc_status`), and it is handed the state of that
root (`Frame.delivery`).  A stream entry stays as it is through any number of
`on_grpc_receive` events, and the first `on_grpc_close` removes it.  Each
stored callback starts with the pair it captured active, and the event leaves
the active pair as it found it.

The gRPC handlers hold `grpc_callbacks` (and `grpc_streams` on the stream path)
while the callback runs, so a callback that issues a gRPC call of its own
aborts the event on a borrow conflict, and so does a queue callback that
registers a queue callback (`reentrant_registration_panics`).
-/
import ProxySdk.Dispatcher.Ledger

namespace ProxySdk

/-- The start of a stored callback captured under `(c, r)`: against the state
of root `r`, when that root exists and the guard lets the callback run. -/
def Frame.delivery (frame : RootState → Frame) (c r : UInt32) :
    Option RootInfo → Bool → List (Frame × UInt32 × UInt32)
  | some root, true => [(frame root.data.state, c, r)]
  | _, _ => []

theorem Frame.mem_delivery {frame : RootState → Frame} {c r : UInt32} {root : Option RootInfo}
    {runs : Bool} {f : Frame × UInt32 × UInt32} (h : f ∈ Frame.delivery frame c r root runs) :
    ∃ state, f = (frame state, c, r) := by
  unfold Frame.delivery at h
  split at h
  · exact ⟨_, List.mem_singleton.mp h⟩
  · cases h

theorem Frame.delivery_length (frame : RootState → Frame) (c r : UInt32) (root : Option RootInfo)
    (runs : Bool) : (Frame.delivery frame c r root runs).length ≤ 1 := by
  unfold Frame.delivery
  split <;> simp

/-- The stored callback a delivery starts is the one its completion took out. -/
theorem Frame.delivery_consumes {frame : RootState → Frame} {c r : UInt32} {root : Option RootInfo}
    {runs : Bool} {consumed : Option (Store × UInt32)} (hf : ∀ state, (frame state).consumes = consumed) :
    ∀ f ∈ Frame.delivery frame c r root runs, f.1.consumes = consumed := fun _ hm => by
  obtain ⟨state, rfl⟩ := Frame.mem_delivery hm
  exact hf state

section Handlers

variable {w w' : World} {tokenId : UInt32} {entered restored : Except Status Unit}

/-- `invoke` under the guard starts its frame with the guard's pair. -/
theorem invoke_guarded {held : List Cell} {frame : Frame} {code : Code} {c r : UInt32}
    {w₁ w₂ : World} (h : invoke held frame code w₁ = .ok w₂) (hs : w₁.Synced)
    (hc : w₁.dispatcher.activeId = c) (hr : w₁.dispatcher.activeRootId = r) :
    ∃ regs, Effect held regs [(frame, c, r)] w₁ w₂ := by
  subst hc hr
  exact invoke_effect h hs

/-- **The tail shared by the completion handlers**: the captured root looked
up, then the guard around the delivery, which starts the callback against that
root when it runs at all. -/
theorem withRoot_effect {held : List Cell} {name : String} {c r : UInt32}
    {body : RootInfo → World → Except Panic World} {frame : RootState → Frame} (runs : Bool)
    {w₀ : World} (h : withRoot held name c r entered restored body w₀ = .ok w') (hs : w₀.Synced)
    (hbody : ∀ root {w₁ w₂ : World}, body root w₁ = .ok w₂ → w₁.Synced →
      w₁.dispatcher.activeId = c → w₁.dispatcher.activeRootId = r →
      ∃ regs, Effect held regs (if runs then [(frame root.data.state, c, r)] else []) w₁ w₂) :
    ∃ regs, Effect held regs
      (Frame.delivery frame c r (w₀.dispatcher.roots r) (entered.isOk && runs)) w₀ w' := by
  unfold withRoot at h
  cases hr : w₀.dispatcher.roots r with
  | none =>
    simp only [hr] at h
    exact ⟨_, .of_quiet (World.log_quiet h)⟩
  | some root =>
    simp only [hr] at h
    obtain ⟨_, e⟩ := withEffectiveContext_effect h hs (hbody root)
    cases entered <;> cases runs <;> exact ⟨_, e⟩

/-- The body of an `on_grpc_close` delivery: the status fetched, and delivered
when the host answers; a mismatch with the in-band code is only warned about. -/
theorem closeDelivery_effect {held : List Cell} {frame : Frame} {context : String} {checked : Bool}
    {statusCode : UInt32} {status : Except Status (UInt32 × Option String)}
    {deliver : UInt32 → Option String → Code} {w₁ w₂ : World}
    (h : closeDelivery held frame context checked statusCode status deliver w₁ = .ok w₂)
    (hs : w₁.Synced) :
    ∃ regs, Effect held regs
      (if status.isOk then [(frame, w₁.dispatcher.activeId, w₁.dispatcher.activeRootId)] else [])
      w₁ w₂ := by
  unfold closeDelivery at h
  obtain ⟨⟨w₃, fetched⟩, h₃, h⟩ := bind_eq_ok.mp h
  have q := (Quiet.host w₁ _).trans (World.checkConcern_quiet h₃)
  cases status with
  | error =>
    obtain ⟨_, -, ⟨⟩⟩ := bind_eq_ok.mp h₃
    cases h
    exact ⟨_, .of_quiet q⟩
  | ok p =>
    obtain ⟨a, m⟩ := p
    cases h₃
    -- the warning on a status mismatch
    obtain ⟨w₄, q₄, h⟩ : ∃ w₄, Quiet (w₁.observe (.host .getGrpcStatus)) w₄ ∧
        invoke held frame (deliver a m) w₄ = .ok w₂ := by
      dsimp only at h
      split at h
      · obtain ⟨w₄, h₄, h⟩ := bind_eq_ok.mp h
        exact ⟨w₄, World.log_quiet h₄, h⟩
      · exact ⟨_, .refl _, h⟩
    have e := (Effect.of_quiet (q.trans q₄) : Effect held [] [] _ _)
    obtain ⟨_, e'⟩ := invoke_effect h (e.synced hs)
    exact ⟨_, by simpa only [e.activeId, e.activeRootId] using e.trans e'⟩

theorem onHttpCallResponse_effect {cb : HttpCallback} {numHeaders bodySize numTrailers : Nat}
    (hs : w.Synced) (hcb : w.dispatcher.httpCallbacks tokenId = some cb)
    (h : onHttpCallResponse tokenId numHeaders bodySize numTrailers entered restored w = .ok w') :
    ∃ regs, Effect [.roots] regs
      (Frame.delivery (.httpCallback tokenId cb.contextId cb.rootContextId) cb.contextId
        cb.rootContextId (w.dispatcher.roots cb.rootContextId) entered.isOk)
      (w.modify (Store.http.remove tokenId)) w' := by
  simp only [onHttpCallResponse, hcb] at h
  simpa using withRoot_effect true h hs fun _ _ _ hb hs hc hr => invoke_guarded hb hs hc hr

/-- `on_grpc_receive` for a one-shot call. -/
theorem onGrpcReceive_call_effect {cb : GrpcCallback} {responseSize : Nat} (hs : w.Synced)
    (hcb : w.dispatcher.grpcCallbacks tokenId = some cb)
    (h : onGrpcReceive tokenId responseSize entered restored w = .ok w') :
    ∃ regs, Effect [.grpcCallbacks, .roots] regs
      (Frame.delivery (.grpcCallback tokenId cb.contextId cb.rootContextId) cb.contextId
        cb.rootContextId (w.dispatcher.roots cb.rootContextId) entered.isOk)
      (w.modify (Store.grpc.remove tokenId)) w' := by
  simp only [onGrpcReceive, hcb] at h
  simpa using withRoot_effect true h hs fun _ _ _ hb hs hc hr => invoke_guarded hb hs hc hr

/-- `on_grpc_receive` for a stream: its message callback, if set. -/
theorem onGrpcReceive_stream_effect {cb : GrpcStreamCallback} {responseSize : Nat} (hs : w.Synced)
    (hcb : w.dispatcher.grpcCallbacks tokenId = none)
    (hst : w.dispatcher.grpcStreams tokenId = some cb)
    (h : onGrpcReceive tokenId responseSize entered restored w = .ok w') :
    ∃ regs, Effect [.grpcCallbacks, .grpcStreams, .roots] regs
      (if cb.message.isSome then
        Frame.delivery (.grpcStreamMessage tokenId cb.contextId cb.rootContextId) cb.contextId
          cb.rootContextId (w.dispatcher.roots cb.rootContextId) entered.isOk
      else []) w w' := by
  simp only [onGrpcReceive, hcb, hst] at h
  cases hm : cb.message with
  | none =>
    simp only [hm, pure_eq_ok] at h
    cases h
    exact ⟨[], .refl w⟩
  | some function =>
    simp only [hm] at h
    simpa using withRoot_effect true h hs fun _ _ _ hb hs hc hr => invoke_guarded hb hs hc hr

/-- `on_grpc_close` for a one-shot call. -/
theorem onGrpcClose_call_effect {cb : GrpcCallback} {statusCode : UInt32}
    {status : Except Status (UInt32 × Option String)} (hs : w.Synced)
    (hcb : w.dispatcher.grpcCallbacks tokenId = some cb)
    (h : onGrpcClose tokenId statusCode entered restored status w = .ok w') :
    ∃ regs, Effect [.grpcCallbacks, .roots] regs
      (Frame.delivery (.grpcCallback tokenId cb.contextId cb.rootContextId) cb.contextId
        cb.rootContextId (w.dispatcher.roots cb.rootContextId) (entered.isOk && status.isOk))
      (w.modify (Store.grpc.remove tokenId)) w' := by
  simp only [onGrpcClose, hcb] at h
  exact withRoot_effect _ h hs fun _ _ _ hb hs hc hr => by
    simpa only [hc, hr] using closeDelivery_effect hb hs

/-- `on_grpc_close` for a stream: the entry goes, and its close callback runs if set. -/
theorem onGrpcClose_stream_effect {cb : GrpcStreamCallback} {statusCode : UInt32}
    {status : Except Status (UInt32 × Option String)} (hs : w.Synced)
    (hcb : w.dispatcher.grpcCallbacks tokenId = none)
    (hst : w.dispatcher.grpcStreams tokenId = some cb)
    (h : onGrpcClose tokenId statusCode entered restored status w = .ok w') :
    ∃ regs, Effect [.grpcCallbacks, .grpcStreams, .roots] regs
      (if cb.close.isSome then
        Frame.delivery (.grpcStreamClose tokenId cb.contextId cb.rootContextId) cb.contextId
          cb.rootContextId (w.dispatcher.roots cb.rootContextId) (entered.isOk && status.isOk)
      else []) (w.modify (Store.stream.remove tokenId)) w' := by
  simp only [onGrpcClose, hcb, hst] at h
  cases hm : cb.close with
  | none =>
    simp only [hm, pure_eq_ok] at h
    cases h
    exact ⟨[], .refl _⟩
  | some function =>
    simp only [hm] at h
    simpa using withRoot_effect _ h hs fun _ _ _ hb hs hc hr => by
      simpa only [hc, hr] using closeDelivery_effect hb hs

end Handlers

/-! ### The completion law, event by event -/

section Law

variable {w w' : World} {r : Reply} {t : UInt32} {entered restored : Except Status Unit}

/-- An export that reaches a completion handler returns what the handler returns. -/
theorem run_completion {e : Event} {handler : World → Except Panic World}
    (h : e.run w = .ok (w', r)) (hs : w.Synced) (he : e.handle w = (do pure (← handler w, Reply.unit))) :
    handler w = .ok w' := by
  rw [Event.run_of_synced hs, he] at h
  obtain ⟨w₁, h₁, ⟨⟩⟩ := bind_eq_ok.mp h
  exact h₁

theorem httpCallResponse_law {cb : HttpCallback} {numHeaders bodySize numTrailers : Nat}
    (hs : w.Synced) (hcb : w.dispatcher.httpCallbacks t = some cb)
    (h : (Event.httpCallResponse t numHeaders bodySize numTrailers entered restored).run w =
      .ok (w', r)) :
    (∃ regs, w'.registrations = regs ++ w.registrations ∧
      (Registration.http t ∉ regs → w'.dispatcher.httpCallbacks t = none)) ∧
    Starts w w' (Frame.delivery (.httpCallback t cb.contextId cb.rootContextId) cb.contextId
      cb.rootContextId (w.dispatcher.roots cb.rootContextId) entered.isOk) ∧
    w'.dispatcher.activeId = w.dispatcher.activeId ∧
    w'.dispatcher.activeRootId = w.dispatcher.activeRootId := by
  obtain ⟨regs, e⟩ := onHttpCallResponse_effect hs hcb (run_completion h hs rfl)
  exact ⟨⟨regs, e.registered, fun ht => by simpa [Store.remove] using e.httpAt t ht⟩, e.trace,
    e.activeId, e.activeRootId⟩

theorem grpcReceive_call_law {cb : GrpcCallback} {responseSize : Nat} (hs : w.Synced)
    (hcb : w.dispatcher.grpcCallbacks t = some cb)
    (h : (Event.grpcReceive t responseSize entered restored).run w = .ok (w', r)) :
    w'.dispatcher.grpcCallbacks = w.dispatcher.grpcCallbacks.remove t ∧
    Starts w w' (Frame.delivery (.grpcCallback t cb.contextId cb.rootContextId) cb.contextId
      cb.rootContextId (w.dispatcher.roots cb.rootContextId) entered.isOk) ∧
    w'.dispatcher.activeId = w.dispatcher.activeId ∧
    w'.dispatcher.activeRootId = w.dispatcher.activeRootId := by
  obtain ⟨_, e⟩ := onGrpcReceive_call_effect hs hcb (run_completion h hs rfl)
  exact ⟨e.grpcCallbacks (by simp), e.trace, e.activeId, e.activeRootId⟩

theorem grpcClose_call_law {cb : GrpcCallback} {statusCode : UInt32}
    {status : Except Status (UInt32 × Option String)} (hs : w.Synced)
    (hcb : w.dispatcher.grpcCallbacks t = some cb)
    (h : (Event.grpcClose t statusCode entered restored status).run w = .ok (w', r)) :
    w'.dispatcher.grpcCallbacks = w.dispatcher.grpcCallbacks.remove t ∧
    Starts w w' (Frame.delivery (.grpcCallback t cb.contextId cb.rootContextId) cb.contextId
      cb.rootContextId (w.dispatcher.roots cb.rootContextId) (entered.isOk && status.isOk)) ∧
    w'.dispatcher.activeId = w.dispatcher.activeId ∧
    w'.dispatcher.activeRootId = w.dispatcher.activeRootId := by
  obtain ⟨_, e⟩ := onGrpcClose_call_effect hs hcb (run_completion h hs rfl)
  exact ⟨e.grpcCallbacks (by simp), e.trace, e.activeId, e.activeRootId⟩

theorem grpcReceive_stream_law {cb : GrpcStreamCallback} {responseSize : Nat} (hs : w.Synced)
    (hcb : w.dispatcher.grpcCallbacks t = none) (hst : w.dispatcher.grpcStreams t = some cb)
    (h : (Event.grpcReceive t responseSize entered restored).run w = .ok (w', r)) :
    w'.dispatcher.grpcStreams = w.dispatcher.grpcStreams ∧
    w'.dispatcher.grpcCallbacks = w.dispatcher.grpcCallbacks ∧
    Starts w w' (if cb.message.isSome then
        Frame.delivery (.grpcStreamMessage t cb.contextId cb.rootContextId) cb.contextId
          cb.rootContextId (w.dispatcher.roots cb.rootContextId) entered.isOk
      else []) ∧
    w'.dispatcher.activeId = w.dispatcher.activeId ∧
    w'.dispatcher.activeRootId = w.dispatcher.activeRootId := by
  obtain ⟨_, e⟩ := onGrpcReceive_stream_effect hs hcb hst (run_completion h hs rfl)
  exact ⟨e.grpcStreams (by simp), e.grpcCallbacks (by simp), e.trace, e.activeId, e.activeRootId⟩

/-- A receive for a token that is no one-shot call keeps both gRPC maps, and
the world synced. -/
theorem grpcReceive_keeps_streams {responseSize : Nat} (hs : w.Synced)
    (hcb : w.dispatcher.grpcCallbacks t = none)
    (h : (Event.grpcReceive t responseSize entered restored).run w = .ok (w', r)) :
    w'.dispatcher.grpcStreams = w.dispatcher.grpcStreams ∧
      w'.dispatcher.grpcCallbacks = w.dispatcher.grpcCallbacks ∧ w'.Synced := by
  cases hst : w.dispatcher.grpcStreams t with
  | none =>
    have h₁ := run_completion h hs rfl
    simp only [onGrpcReceive, hcb, hst] at h₁
    have q := World.log_quiet h₁
    exact ⟨by rw [q.dispatcher], by rw [q.dispatcher], q.synced hs⟩
  | some cb =>
    obtain ⟨_, e⟩ := onGrpcReceive_stream_effect hs hcb hst (run_completion h hs rfl)
    exact ⟨e.grpcStreams (by simp), e.grpcCallbacks (by simp), e.synced hs⟩

/-- **Run lemma**: any number of receives for a stream token leave its entry
as it is. -/
theorem runOps_grpcReceive_stream {bits : Nat} :
    ∀ (received : List (Nat × Except Status Unit × Except Status Unit)) {w w' : World}
      {replies : List Reply},
      w.Synced → w.dispatcher.grpcCallbacks t = none →
      runOps bits (received.map fun n => .event (.grpcReceive t n.1 n.2.1 n.2.2)) w =
        .ok (w', replies) →
      w'.dispatcher.grpcStreams = w.dispatcher.grpcStreams
  | [], _, _, _, _, _, h => by cases h; rfl
  | (n, en, re) :: received, w, w', replies, hs, hcb, h => by
    obtain ⟨⟨w₁, r₁⟩, h₁, h⟩ := bind_eq_ok.mp h
    obtain ⟨⟨w₂, rs⟩, h₂, ⟨⟩⟩ := bind_eq_ok.mp h
    obtain ⟨s₁, c₁, hs₁⟩ := grpcReceive_keeps_streams hs hcb h₁
    exact (runOps_grpcReceive_stream received hs₁ (by rw [c₁, hcb]) h₂).trans s₁

theorem grpcClose_stream_law {cb : GrpcStreamCallback} {statusCode : UInt32}
    {status : Except Status (UInt32 × Option String)} (hs : w.Synced)
    (hcb : w.dispatcher.grpcCallbacks t = none) (hst : w.dispatcher.grpcStreams t = some cb)
    (h : (Event.grpcClose t statusCode entered restored status).run w = .ok (w', r)) :
    w'.dispatcher.grpcStreams = w.dispatcher.grpcStreams.remove t ∧
    Starts w w' (if cb.close.isSome then
        Frame.delivery (.grpcStreamClose t cb.contextId cb.rootContextId) cb.contextId
          cb.rootContextId (w.dispatcher.roots cb.rootContextId) (entered.isOk && status.isOk)
      else []) ∧
    w'.dispatcher.activeId = w.dispatcher.activeId ∧
    w'.dispatcher.activeRootId = w.dispatcher.activeRootId := by
  obtain ⟨_, e⟩ := onGrpcClose_stream_effect hs hcb hst (run_completion h hs rfl)
  exact ⟨e.grpcStreams (by simp), e.trace, e.activeId, e.activeRootId⟩

end Law

/-! ### Where a callback does not run -/

/-- A root whose tick opens stream 7 with a message callback. -/
def streamingRoot : RootContext :=
  { RootContext.default (.done, .http .default) with
    onTick := .grpcStreamOpen (.ok 7) (some fun _ _ _ => .done) none .done }

/-- A root whose tick issues gRPC call 5, with a callback that issues gRPC
call 6; opens stream 8, whose close callback opens stream 9; and registers a
callback for queue 3 that registers one for queue 4. -/
def reentrantRoot : RootContext :=
  { RootContext.default (.done, .http .default) with
    onTick :=
      .grpcCallDispatch (.ok 5) (some fun _ _ => .grpcCallDispatch (.ok 6) (some fun _ _ => .done) .done) <|
      .grpcStreamOpen (.ok 8) none
        (some fun _ _ => .grpcStreamOpen (.ok 9) none (some fun _ _ => .done) .done) <|
      .queueOnEnqueue 3 (fun _ _ => .queueOnEnqueue 4 (fun _ _ => .done) .done) .done }

/-- The ops that start root 1 and let its tick register everything. -/
def reentrantSetup : List Op :=
  [.setRootContextFactory ⟨.done, reentrantRoot⟩, .event (.contextCreate 1 0), .event (.tick 1)]

/-- Each callback's registration meets the borrow its handler still holds:
the `grpc_callbacks` of `on_grpc_receive`, the `grpc_streams` of
`on_grpc_close`, and the `queue_callbacks` of `on_queue_ready`. -/
theorem reentrant_registration_panics :
    (runOps 32 (reentrantSetup ++ [.event (.grpcReceive 5 0 (.ok ()) (.ok ()))]) World.init).map
        (fun _ => ()) = .error (.alreadyBorrowed .grpcCallbacks) ∧
      (runOps 32 (reentrantSetup ++ [.event (.grpcClose 8 0 (.ok ()) (.ok ()) (.ok (0, none)))])
        World.init).map (fun _ => ()) = .error (.alreadyBorrowed .grpcStreams) ∧
      (runOps 32 (reentrantSetup ++ [.event (.queueReady 1 3)]) World.init).map (fun _ => ()) =
        .error (.alreadyBorrowed .queueCallbacks) :=
  ⟨rfl, rfl, rfl⟩

end ProxySdk
