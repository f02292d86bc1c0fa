/-
ProxySdk/Events.lean

What each handler does with the context maps, the active pair and the callback
stores, one spec lemma per handler.  Every handler but `on_create_context` and
`on_delete` keeps the context maps (`handle_keeps`).  Every handler that sets
the active pair before it runs plugin code starts each frame with the pair that
frame serves (`handle_served`): the child and its root for a child handler, the
root for a root method, the captured pair for a stored callback.  Those
handlers also keep the ledger of the callback stores (`Books`): a stored
callback runs only in the completion that took its entry out.

`on_create_context` and `on_queue_ready` set no pair: the root factory,
`create_context` and queue callbacks run with whatever pair the previous
handler left, and what they register or define is filed under that pair
(`stale_active_pair`).
-/
import ProxySdk.Completions

namespace ProxySdk

/-- The pair plugin code run as `frame` should see: the context it serves and
that context's root; the root itself for root-level code. -/
def Frame.served : Frame → UInt32 × UInt32
  | .rootContextFactory r | .createContext r | .rootContext r | .queueCallback r _ => (r, r)
  | .httpContext c p | .streamContext c p => (c, p)
  | .httpCallback _ c r _ | .grpcCallback _ c r _ | .grpcStreamMessage _ c r _
  | .grpcStreamClose _ c r _ => (c, r)

/-- The stream tokens whose entry the event's handler may take out. -/
def Event.closes : Event → List UInt32
  | .grpcClose t .. => [t]
  | _ => []

/-- A handler that keeps the context maps and the ledger of the callback
stores, and starts every frame with the pair that frame serves. -/
structure Served (closed : List UInt32) (w w' : World) extends Keeps w w', Books closed w w' :
    Prop where
  starts : ∃ l, Starts w w' l ∧ ∀ s ∈ l, s.2 = s.1.served

namespace Served

variable {closed closed₂ : List UInt32} {w w₁ w₂ : World}

theorem refl (w : World) : Served [] w w := ⟨.refl w, .refl w, [], .refl w, by simp⟩

theorem trans (h₁ : Served closed w w₁) (h₂ : Served closed₂ w₁ w₂) :
    Served (closed ++ closed₂) w w₂ := by
  obtain ⟨l₁, s₁, q₁⟩ := h₁.starts
  obtain ⟨l₂, s₂, q₂⟩ := h₂.starts
  exact ⟨h₁.toKeeps.trans h₂.toKeeps, h₁.toBooks.trans h₂.toBooks, l₂ ++ l₁, s₁.trans s₂,
    fun s hs => (List.mem_append.mp hs).elim (q₂ s) (q₁ s)⟩

theorem mono (h : Served closed w w₁) (hc : closed ⊆ closed₂) : Served closed₂ w w₁ :=
  ⟨h.toKeeps, h.toBooks.mono hc, h.starts⟩

theorem quiet (q : Quiet w w₁) : Served [] w w₁ := ⟨q.keeps, .of_quiet q, [], q.trace, by simp⟩

theorem setActive (w : World) (id rootId : UInt32) : Served [] w (w.setActive id rootId) :=
  ⟨.setActive w id rootId, .setActive w id rootId, [], .of_trace rfl, by simp⟩

/-- Plugin code that runs no stored callback and starts its frames with the
pairs they serve. -/
theorem of_effect {held : List Cell} {regs : List Registration}
    {starts : List (Frame × UInt32 × UInt32)} (e : Effect held regs starts w w₁)
    (hstarts : ∀ f ∈ starts, f.1.consumes = none ∧ f.2 = f.1.served) : Served [] w w₁ :=
  ⟨e.toKeeps, .of_effect e fun f hf => (hstarts f hf).1, starts, e.trace, fun f hf => (hstarts f hf).2⟩

/-- Plugin code started as `frame` right after the pair was set to what the
frame serves. -/
theorem invoke {held : List Cell} {frame : Frame} {code : Code} {id rootId : UInt32}
    (h : invoke held frame code (w.setActive id rootId) = .ok w₁) (hs : w.Synced)
    (hf : frame.served = (id, rootId)) (hc : frame.consumes = none) : Served [] w w₁ :=
  let ⟨_, e⟩ := invoke_effect h hs
  (setActive w id rootId).trans (of_effect e (by simp [hf, hc]))

/-- **A completion**: the entry is taken out, then at most its callback runs,
with the pair it captured. -/
theorem consume {held : List Cell} {regs : List Registration}
    {starts : List (Frame × UInt32 × UInt32)} {s : Store} {t : UInt32}
    (hp : s.pending w.dispatcher t = true) (e : Effect held regs starts (w.modify (s.remove t)) w₁)
    (hstarts : ∀ f ∈ starts, f.1.consumes = some (s, t) ∧ f.2 = f.1.served)
    (hlen : starts.length ≤ 1) : Served (s.closes t) w w₁ :=
  ⟨(show Keeps w (w.modify (s.remove t)) by cases s <;> exact ⟨rfl, rfl, rfl, rfl, rfl, rfl⟩).trans
      e.toKeeps, .consume hp e (fun f hf => (hstarts f hf).1) hlen, starts, e.trace,
    fun f hf => (hstarts f hf).2⟩

end Served

/-- A delivery starts the callback it names with the pair that callback serves. -/
theorem Frame.delivery_served {frame : RootState → Frame} {c r : UInt32} {root : Option RootInfo}
    {runs : Bool} {consumed : Option (Store × UInt32)} (hc : ∀ state, (frame state).consumes = consumed)
    (hs : ∀ state, (frame state).served = (c, r)) :
    ∀ f ∈ Frame.delivery frame c r root runs, f.1.consumes = consumed ∧ f.2 = f.1.served :=
  fun _ hm => by
    obtain ⟨state, rfl⟩ := Frame.mem_delivery hm
    exact ⟨hc state, (hs state).symm⟩

/-! ### One lemma per handler -/

section Handlers

variable {w w' : World}

theorem onBaseContext_served {α : Type} {name : String} {httpMethod : HttpContext → Code × α}
    {streamMethod : StreamContext → Code × α} {rootMethod : RootContext → Code × α} {default a : α}
    {contextId : UInt32} (hs : w.Synced)
    (h : onBaseContext name httpMethod streamMethod rootMethod default contextId w = .ok (w', a)) :
    Served [] w w' := by
  unfold onBaseContext at h
  split at h
  · obtain ⟨w₁, h₁, ⟨⟩⟩ := bind_eq_ok.mp h
    exact .invoke h₁ hs rfl rfl
  · split at h
    · obtain ⟨w₁, h₁, ⟨⟩⟩ := bind_eq_ok.mp h
      exact .invoke h₁ hs rfl rfl
    · split at h
      · obtain ⟨info, hr⟩ := Option.isSome_iff_exists.mp ‹_›
        simp only [root_of_some (w := w.setActive contextId contextId) hr, ok_bind] at h
        obtain ⟨w₁, h₁, ⟨⟩⟩ := bind_eq_ok.mp h
        exact .invoke h₁ hs rfl rfl
      · obtain ⟨w₁, h₁, ⟨⟩⟩ := bind_eq_ok.mp h
        exact .quiet (World.log_quiet h₁)

theorem onRootConfiguration_served {name context : String} {buffer : BufferType}
    {method : RootContext → Option Bytes → Code × Bool} {contextId : UInt32} {size : Nat}
    {configuration : Except Status (Option Bytes)} {b : Bool} (hs : w.Synced)
    (h : onRootConfiguration name context buffer method contextId size configuration w = .ok (w', b)) :
    Served [] w w' := by
  unfold onRootConfiguration at h
  cases hr : w.dispatcher.roots contextId with
  | none =>
    simp only [hr, Option.isNone_none, if_true] at h
    obtain ⟨w₁, h₁, ⟨⟩⟩ := bind_eq_ok.mp h
    exact .quiet (World.log_quiet h₁)
  | some info =>
    simp only [hr, Option.isNone_some, Bool.false_eq_true, if_false] at h
    obtain ⟨⟨w₁, fetched⟩, h₁, h⟩ := bind_eq_ok.mp h
    have q := (Quiet.host w _).trans (World.checkConcern_quiet h₁)
    cases fetched with
    | none =>
      cases h
      exact .quiet q
    | some configuration =>
      have hr₁ : (w₁.setActive contextId contextId).dispatcher.roots contextId = some info := by
        simp [q.dispatcher, hr]
      simp only [root_of_some hr₁, ok_bind] at h
      obtain ⟨w₂, h₂, ⟨⟩⟩ := bind_eq_ok.mp h
      exact (Served.quiet q).trans (.invoke h₂ (q.synced hs) rfl rfl)

theorem onTick_served {contextId : UInt32} (hs : w.Synced) (h : onTick contextId w = .ok w') :
    Served [] w w' := by
  unfold onTick at h
  cases hr : w.dispatcher.roots contextId with
  | none =>
    simp only [hr, Option.isNone_none, if_true] at h
    exact .quiet (World.log_quiet h)
  | some info =>
    simp only [hr, Option.isNone_some, Bool.false_eq_true, if_false,
      root_of_some (w := w.setActive contextId contextId) hr, ok_bind] at h
    exact .invoke h hs rfl rfl

theorem onStream_served {α : Type} {unknown : Option String} {method : StreamContext → Code × α}
    {default a : α} {contextId : UInt32} (hs : w.Synced)
    (h : onStream unknown method default contextId w = .ok (w', a)) : Served [] w w' := by
  unfold onStream at h
  split at h
  · split at h
    · obtain ⟨w₁, h₁, ⟨⟩⟩ := bind_eq_ok.mp h
      exact .quiet (World.log_quiet h₁)
    · cases h
      exact .refl w
  · obtain ⟨w₁, h₁, ⟨⟩⟩ := bind_eq_ok.mp h
    exact .invoke h₁ hs rfl rfl

theorem onHttp_served {α : Type} {unknown : String} {method : HttpContext → Code × α}
    {default a : α} {contextId : UInt32} (hs : w.Synced)
    (h : onHttp unknown method default contextId w = .ok (w', a)) : Served [] w w' := by
  unfold onHttp at h
  split at h
  · obtain ⟨w₁, h₁, ⟨⟩⟩ := bind_eq_ok.mp h
    exact .quiet (World.log_quiet h₁)
  · obtain ⟨w₁, h₁, ⟨⟩⟩ := bind_eq_ok.mp h
    exact .invoke h₁ hs rfl rfl

theorem onHttpCallResponse_served {tokenId : UInt32} {numHeaders bodySize numTrailers : Nat}
    {entered restored : Except Status Unit} (hs : w.Synced)
    (h : onHttpCallResponse tokenId numHeaders bodySize numTrailers entered restored w = .ok w') :
    Served [] w w' := by
  cases hcb : w.dispatcher.httpCallbacks tokenId with
  | none =>
    simp only [onHttpCallResponse, hcb] at h
    exact .quiet (World.log_quiet h)
  | some cb =>
    obtain ⟨_, e⟩ := onHttpCallResponse_effect hs hcb h
    exact .consume (s := .http) (by simp [Store.pending, hcb]) e
      (Frame.delivery_served (fun _ => rfl) fun _ => rfl) (Frame.delivery_length ..)

theorem onGrpcReceive_served {tokenId : UInt32} {responseSize : Nat}
    {entered restored : Except Status Unit} (hs : w.Synced)
    (h : onGrpcReceive tokenId responseSize entered restored w = .ok w') : Served [] w w' := by
  cases hcb : w.dispatcher.grpcCallbacks tokenId with
  | some cb =>
    obtain ⟨_, e⟩ := onGrpcReceive_call_effect hs hcb h
    exact .consume (s := .grpc) (by simp [Store.pending, hcb]) e
      (Frame.delivery_served (fun _ => rfl) fun _ => rfl) (Frame.delivery_length ..)
  | none =>
    cases hst : w.dispatcher.grpcStreams tokenId with
    | none =>
      simp only [onGrpcReceive, hcb, hst] at h
      exact .quiet (World.log_quiet h)
    | some cb =>
      obtain ⟨_, e⟩ := onGrpcReceive_stream_effect hs hcb hst h
      refine .of_effect e fun f hf => ?_
      split at hf
      · refine Frame.delivery_served ?_ ?_ f hf <;> exact fun _ => rfl
      · cases hf

theorem onGrpcClose_served {tokenId statusCode : UInt32} {entered restored : Except Status Unit}
    {status : Except Status (UInt32 × Option String)} (hs : w.Synced)
    (h : onGrpcClose tokenId statusCode entered restored status w = .ok w') :
    Served [tokenId] w w' := by
  cases hcb : w.dispatcher.grpcCallbacks tokenId with
  | some cb =>
    obtain ⟨_, e⟩ := onGrpcClose_call_effect hs hcb h
    exact (Served.consume (s := .grpc) (by simp [Store.pending, hcb]) e
      (Frame.delivery_served (fun _ => rfl) fun _ => rfl) (Frame.delivery_length ..)).mono
      (List.nil_subset _)
  | none =>
    cases hst : w.dispatcher.grpcStreams tokenId with
    | none =>
      simp only [onGrpcClose, hcb, hst] at h
      exact (Served.quiet (World.log_quiet h)).mono (List.nil_subset _)
    | some cb =>
      obtain ⟨_, e⟩ := onGrpcClose_stream_effect hs hcb hst h
      refine Served.consume (s := .stream) (by simp [Store.pending, hst]) e (fun f hf => ?_) ?_
      · split at hf
        · refine Frame.delivery_served ?_ ?_ f hf <;> exact fun _ => rfl
        · cases hf
      · split
        · exact Frame.delivery_length ..
        · exact Nat.zero_le _

/-- `on_queue_ready` keeps the context maps and the ledger; its callback runs
with the pair it finds. -/
theorem onQueueReady_keeps {contextId queueId : UInt32} (hs : w.Synced)
    (h : onQueueReady contextId queueId w = .ok w') : Keeps w w' ∧ Books [] w w' := by
  unfold onQueueReady at h
  split at h
  · have q := World.log_quiet h
    exact ⟨q.keeps, .of_quiet q⟩
  · split at h
    · cases h
      exact ⟨.refl w, .refl w⟩
    · obtain ⟨_, e⟩ := invoke_effect h hs
      exact ⟨e.toKeeps, .of_effect e (by simp [Frame.consumes])⟩

end Handlers

/-! ### A populated world -/

/-- A root whose tick registers a callback for queue 9; the callback issues HTTP
call 20 and defines the counter "hits". -/
def queueingRoot : RootContext :=
  { RootContext.default (.done, .http .default) with
    onTick := .queueOnEnqueue 9
      (fun _ _ => .httpCallDispatch (.ok 20) (some fun _ _ => .done)
        (.metricDefine .counter "hits" (.ok 77) .done)) .done }

/-- Roots 1 and 3; root 1 registers its queue callback; root 3 is configured;
then queue 9 is ready for root 1. -/
def staleOps : List Op :=
  [.setRootContextFactory ⟨.done, queueingRoot⟩, .event (.contextCreate 1 0),
    .event (.contextCreate 3 0), .event (.tick 1), .event (.configure 3 0 (.ok none)),
    .event (.queueReady 1 9)]

/-! ### Every event -/

/-- The events that may change the context maps. -/
def Event.createsOrDeletes : Event → Bool
  | .contextCreate .. | .delete _ => true
  | _ => false

/-- The events whose handler sets the active pair before it runs plugin code. -/
def Event.setsPair : Event → Bool
  | .contextCreate .. | .delete _ | .queueReady .. => false
  | _ => true

/-- A handler that sets the pair, by the lemma of its handler. -/
theorem Event.handle_serves {e : Event} {w w' : World} {r : Reply} (hs : w.Synced)
    (he : e.setsPair = true) (h : e.handle w = .ok (w', r)) : Served e.closes w w' := by
  cases e <;> try cases he
  all_goals obtain ⟨⟨w₁, a⟩, h₁, h₂⟩ := bind_eq_ok.mp h; cases h₂
  case done | log => exact onBaseContext_served hs h₁
  case vmStart | configure => exact onRootConfiguration_served hs h₁
  case tick => exact onTick_served hs h₁
  case newConnection | downstreamData | downstreamConnectionClose | upstreamData
    | upstreamConnectionClose => exact onStream_served hs h₁
  case requestHeaders | requestBody | requestTrailers | responseHeaders | responseBody
    | responseTrailers => exact onHttp_served hs h₁
  case httpCallResponse => exact onHttpCallResponse_served hs h₁
  case grpcReceive => exact onGrpcReceive_served hs h₁
  case grpcClose => exact onGrpcClose_served hs h₁

/-- **Handlers that set the pair serve their frames**: in a synced world, such
a handler keeps the context maps and the books of the callback stores, and
every frame it starts runs with the pair that frame serves. -/
theorem handle_served {e : Event} {w w' : World} {r : Reply} (hs : w.Synced)
    (he : e.setsPair = true) (h : e.handle w = .ok (w', r)) : Served e.closes w w' :=
  Event.handle_serves hs he h

/-- After `staleOps`, root 1 ticks again and registers its queue callback anew. -/
theorem handle_served_stale :
    ∃ w rs w' r, runOps 32 staleOps World.init = .ok (w, rs) ∧ w.Synced ∧
      (Event.tick 1).setsPair = true ∧ (Event.tick 1).handle w = .ok (w', r) ∧
      Served (Event.tick 1).closes w w' :=
  ⟨_, _, _, _, rfl, rfl, rfl, rfl, handle_served rfl rfl rfl⟩

/-- **Every other handler keeps the context maps**, whatever plugin code it
runs. -/
theorem handle_keeps {e : Event} {w w' : World} {r : Reply} (hs : w.Synced)
    (he : e.createsOrDeletes = false) (h : e.handle w = .ok (w', r)) : Keeps w w' := by
  cases hq : e.setsPair
  · cases e <;> try cases hq
    all_goals try cases he
    obtain ⟨w₁, h₁, ⟨⟩⟩ := bind_eq_ok.mp h
    exact (onQueueReady_keeps hs h₁).1
  · exact (Event.handle_serves hs hq h).toKeeps

/-! ### Where the pair is stale -/

/-- The factory runs for roots 1 and 3 with the pair `(0, 0)`, and root 1's
queue callback runs with the pair `(3, 3)` left by `on_configure(3)`: the HTTP
call it issues is filed under root 3, and its counter is cached under root 3,
none under root 1. -/
theorem stale_active_pair :
    ((runOps 32 staleOps World.init).map fun (w, _) =>
      (w.trace.filterMap Obs.started, (w.dispatcher.httpCallbacks 20).map (·.rootContextId),
        (w.metrics 3).map (·.counters "hits"), (w.metrics 1).isSome)) =
    .ok ([(.queueCallback 1 9, 3, 3), (.rootContext 3, 3, 3), (.rootContext 1, 1, 1),
        (.rootContextFactory 3, 0, 0), (.rootContextFactory 1, 0, 0)],
      some 3, some (some 77), false) :=
  rfl

end ProxySdk
