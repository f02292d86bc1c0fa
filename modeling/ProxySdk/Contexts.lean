/-
ProxySdk/Contexts.lean

The context tree: which ids are roots, stream (connection) contexts and HTTP
(request) contexts, and how the handlers change that.

Only two handlers touch the three context maps: `on_create_context`, which
adds the new id to the map the parent and `create_context` choose, and
`on_delete`, which removes it; every other handler, and any plugin code, keeps
them (`handle_keeps`, `runCode_effect`).  A generation bump empties them at the
next `dispatch`.  Under the host's precondition that a created id is no
context yet, an id is a context of at most one kind in every reachable state
(`Reachable.disjoint`).  An event that names an id or token the dispatcher does
not know runs nothing, logs one line, and returns its default unless the host
refuses that line (`unknown_event_noop`).
-/
import ProxySdk.Events
import Mathlib.Tactic.SplitIfs

namespace ProxySdk

/-! ### `dispatch` without borrows -/

theorem Event.run_eq (e : Event) (w : World) : e.run w = e.handle w.sync := by
  simp [Event.run, dispatch_nil]

/-! ### Kinds of context -/

/-- The three kinds of context. -/
inductive ContextKind where
  | root
  | stream
  | http
  deriving DecidableEq, Repr

/-- The kind of context `create_context` returned. -/
def Context.kind : Context → ContextKind
  | .http _ => .http
  | .stream _ => .stream

/-- The maps that hold `c` as a key. -/
def Dispatcher.kinds (d : Dispatcher) (c : UInt32) : List ContextKind :=
  (if (d.roots c).isSome then [.root] else []) ++
    (if (d.streams c).isSome then [.stream] else []) ++
    (if (d.httpStreams c).isSome then [.http] else [])

/-- An id is a context of at most one kind. -/
def Dispatcher.Disjoint (d : Dispatcher) : Prop :=
  ∀ c, (d.kinds c).length ≤ 1

theorem Dispatcher.kinds_reset (d : Dispatcher) (c : UInt32) : d.reset.kinds c = [] := rfl

theorem World.sync_kinds (w : World) (c : UInt32) :
    w.sync.dispatcher.kinds c = if w.Synced then w.dispatcher.kinds c else [] := by
  unfold World.sync World.Synced
  split <;> simp_all [Dispatcher.kinds_reset]

theorem Keeps.kinds {w w' : World} (h : Keeps w w') : w'.dispatcher.kinds = w.dispatcher.kinds :=
  funext fun c => by simp [Dispatcher.kinds, h.roots, h.streams, h.httpStreams]

/-! ### Creating and deleting contexts -/

section CreateDelete

variable {w w' : World}

/-- The kinds `on_create_context(c, parent)` gives a new id: a root for parent
`0`, the kind of what the parent root's `create_context` returns for a known
parent, and nothing for an unknown one. -/
def Dispatcher.created (d : Dispatcher) (parent : UInt32) : List ContextKind :=
  if parent = 0 then [.root]
  else match d.roots parent with
    | some info => [info.data.createContext.2.kind]
    | none => []

theorem kinds_insert_root (d : Dispatcher) (c : UInt32) (info : RootInfo)
    (hc : d.kinds c = []) :
    { d with roots := d.roots.insert c info }.kinds =
      fun x => if x = c then [.root] else d.kinds x := by
  funext x
  by_cases hx : x = c
  · subst hx
    simp_all [Dispatcher.kinds]
  · simp [Dispatcher.kinds, hx]

/-- Filing a child gives its id the kind of the context, and no other id changes. -/
theorem fileContext_kinds (p c : UInt32) (context : Context) (w : World)
    (hc : w.dispatcher.kinds c = []) :
    (fileContext p c context w).2.dispatcher.kinds =
      fun x => if x = c then [context.kind] else w.dispatcher.kinds x := by
  funext x
  by_cases hx : x = c
  · subst hx
    cases context <;> simp_all [fileContext, Dispatcher.kinds, Context.kind]
  · cases context <;> simp [fileContext, Dispatcher.kinds, hx]

theorem fileContext_books (p c : UInt32) (context : Context) (w : World) :
    Books [] w (fileContext p c context w).2 := by
  cases context <;> simp only [fileContext] <;> exact .modify (fun _ => by exact ⟨rfl, rfl, rfl, rfl⟩) w

/-- `do_create_subcontext` of a known root: `create_context` runs, then the
child is filed, then at most a warning. -/
theorem doCreateSubcontext_spec {p c : UInt32} {info : RootInfo} (hs : w.Synced)
    (hp : w.dispatcher.roots p = some info) (h : doCreateSubcontext p c w = .ok w') :
    ∃ w₂, Keeps w w₂ ∧ Books [] w w₂ ∧ Quiet (fileContext p c info.data.createContext.2 w₂).2 w' := by
  simp only [doCreateSubcontext, root_of_some hp, ok_bind] at h
  obtain ⟨w₂, h₂, h⟩ := bind_eq_ok.mp h
  obtain ⟨_, e⟩ := invoke_effect h₂ hs
  refine ⟨w₂, e.toKeeps, .of_effect e (by simp [Frame.consumes]), ?_⟩
  generalize hf : fileContext p c info.data.createContext.2 w₂ = filed at h
  obtain ⟨reused, w₃⟩ := filed
  dsimp only at h
  split at h
  · exact World.log_quiet h
  · cases h
    exact .refl _

/-- **`on_create_context`** keeps the ledger of the callback stores, and gives a
fresh id exactly the kind `created` says, no other id changing. -/
theorem onCreateContext_spec {c parent : UInt32} (hs : w.Synced)
    (h : onCreateContext c parent w = .ok w') :
    Books [] w w' ∧ (w.dispatcher.kinds c = [] →
      w'.dispatcher.kinds = fun x =>
        if x = c then w.dispatcher.created parent else w.dispatcher.kinds x) := by
  unfold onCreateContext at h
  split at h
  · -- a root, made by the factory when it is missing
    obtain ⟨⟨w₁, _⟩, h₁, ⟨⟩⟩ := bind_eq_ok.mp h
    unfold root at h₁
    split at h₁
    · cases h₁
      refine ⟨.refl w, fun hc => absurd hc ?_⟩
      simp [Dispatcher.kinds, *]
    · split at h₁
      · cases h₁
      · obtain ⟨w₂, h₂, ⟨⟩⟩ := bind_eq_ok.mp h₁
        obtain ⟨_, e⟩ := invoke_effect h₂ hs
        refine ⟨(Books.of_effect e (by simp [Frame.consumes])).trans
          (.modify (fun _ => by exact ⟨rfl, rfl, rfl, rfl⟩) _), fun hc => ?_⟩
        have hk := e.toKeeps.kinds
        simpa [Dispatcher.created, *] using kinds_insert_root w₂.dispatcher c _ (hk ▸ hc)
  · split at h
    · -- a child of a known root
      obtain ⟨info, hp⟩ := Option.isSome_iff_exists.mp ‹_›
      obtain ⟨w₂, k, b, q⟩ := doCreateSubcontext_spec hs hp h
      refine ⟨(b.trans (fileContext_books _ _ _ _)).trans (.of_quiet q), fun hc => ?_⟩
      rw [q.dispatcher, fileContext_kinds _ _ _ _ (k.kinds ▸ hc), k.kinds]
      simp [Dispatcher.created, *]
    · -- an unknown parent
      have q := World.log_quiet h
      refine ⟨.of_quiet q, fun _ => funext fun x => ?_⟩
      rw [q.dispatcher]
      split <;> simp_all [Dispatcher.created]

theorem onCreateContext_kinds {c parent : UInt32} (hs : w.Synced) (hc : w.dispatcher.kinds c = [])
    (h : onCreateContext c parent w = .ok w') :
    w'.dispatcher.kinds = fun x => if x = c then w.dispatcher.created parent else w.dispatcher.kinds x :=
  (onCreateContext_spec hs h).2 hc

/-- An id in at most one map: the first map `on_delete` looks in that has it is
the only one. -/
theorem Dispatcher.kinds_le_one {d : Dispatcher} {c : UInt32} (hc : (d.kinds c).length ≤ 1) :
    ((d.httpStreams c).isSome → d.streams c = none ∧ d.roots c = none) ∧
      ((d.streams c).isSome → d.roots c = none) := by
  unfold Dispatcher.kinds at hc
  cases hr : d.roots c <;> cases hs : d.streams c <;> cases hh : d.httpStreams c <;> simp_all

/-- **`on_delete(c)`** keeps the ledger, and leaves `c` in none of the maps,
when it was in at most one; no other id changes. -/
theorem onDelete_spec {c : UInt32} (h : onDelete c w = .ok w') :
    Books [] w w' ∧ ((w.dispatcher.kinds c).length ≤ 1 →
      w'.dispatcher.kinds = fun x => if x = c then [] else w.dispatcher.kinds x) := by
  unfold onDelete at h
  split_ifs at h with h₁ h₂ h₃ <;> try cases h
  · refine ⟨.modify (fun _ => by exact ⟨rfl, rfl, rfl, rfl⟩) w, fun hc => funext fun x => ?_⟩
    by_cases hx : x = c <;> simp_all [Dispatcher.kinds, Dispatcher.kinds_le_one hc]
  · refine ⟨.modify (fun _ => by exact ⟨rfl, rfl, rfl, rfl⟩) w, fun hc => funext fun x => ?_⟩
    by_cases hx : x = c <;> simp_all [Dispatcher.kinds, Dispatcher.kinds_le_one hc]
  · refine ⟨.modify (fun _ => by exact ⟨rfl, rfl, rfl, rfl⟩) w, fun hc => funext fun x => ?_⟩
    by_cases hx : x = c <;> simp_all [Dispatcher.kinds, Dispatcher.kinds_le_one hc]
  · have q := World.log_quiet h
    refine ⟨.of_quiet q, fun _ => funext fun x => ?_⟩
    rw [q.dispatcher]
    by_cases hx : x = c <;> simp_all [Dispatcher.kinds]

end CreateDelete

/-! ### Plugin code outside an event -/

/-- `w'` has the contexts of `w`, or none at all. -/
def ContextsKept (w w' : World) : Prop :=
  w'.dispatcher.kinds = w.dispatcher.kinds ∨ w'.dispatcher.kinds = fun _ => []

namespace ContextsKept

variable {w w₁ w₂ : World}

theorem refl (w : World) : ContextsKept w w := .inl rfl

theorem trans (h₁ : ContextsKept w w₁) (h₂ : ContextsKept w₁ w₂) : ContextsKept w w₂ := by
  rcases h₂ with h₂ | h₂
  · unfold ContextsKept
    rwa [h₂]
  · exact .inr h₂

theorem observe (w : World) (o : Obs) : ContextsKept w (w.observe o) := .inl rfl

theorem sync (w : World) : ContextsKept w w.sync := by
  by_cases hs : w.Synced
  · exact .inl (by rw [World.sync_of_synced hs])
  · exact .inr (funext fun c => by simp [World.sync_kinds, hs])

theorem of_keeps (h : Keeps w w₁) : ContextsKept w w₁ :=
  .inl (funext fun c => by simp [Dispatcher.kinds, h.roots, h.streams, h.httpStreams])

theorem disjoint (h : ContextsKept w w₁) (hd : w.dispatcher.Disjoint) : w₁.dispatcher.Disjoint := by
  intro c
  rcases h with h | h <;> simp [h, hd c]

end ContextsKept

/-- Plugin code run outside any event, in any world: a registration in it may
be the first `dispatch` after a reset, which empties the contexts; nothing else
changes them. -/
theorem runCode_contextsKept {held : List Cell} {code : Code} {w w' : World}
    (h : runCode held code w = .ok w') : ContextsKept w w' :=
  (show CodeRel held ContextsKept from ⟨.refl, .trans, fun q => .of_keeps q.keeps,
    fun e => (ContextsKept.sync _).trans (.of_keeps e.toKeeps)⟩).of_runCode h

/-! ### Reachable states -/

/-- The host's precondition: `proxy_on_context_create(c, _)` only for an id
that is no context of the dispatcher that handles it. -/
def Op.Allowed : Op → World → Prop
  | .event (.contextCreate c _), w => w.sync.dispatcher.kinds c = []
  | _, _ => True

/-- The worlds a thread reaches from a fresh instance, whatever the host
answers to `proxy_log`, by operations the host is allowed to issue. -/
inductive Reachable (bits : Nat) : World → Prop
  | init (answers : List Status) : Reachable bits { World.init with logAnswers := answers }
  | step {w w' : World} {op : Op} {reply : Reply} :
    Reachable bits w → op.Allowed w → op.run bits w = .ok (w', reply) → Reachable bits w'

theorem Dispatcher.disjoint_of_update {d d' : Dispatcher} {c : UInt32} {k : List ContextKind}
    (hd : d.Disjoint) (hk : k.length ≤ 1) (h : d'.kinds = fun x => if x = c then k else d.kinds x) :
    d'.Disjoint := by
  intro x
  simp only [h]
  split
  · exact hk
  · exact hd x

theorem Dispatcher.created_length (d : Dispatcher) (parent : UInt32) :
    (d.created parent).length ≤ 1 := by
  unfold Dispatcher.created
  split
  · simp
  · split <;> simp

/-- One event keeps the contexts disjoint. -/
theorem Event.run_disjoint {e : Event} {w w' : World} {r : Reply} (hd : w.dispatcher.Disjoint)
    (ha : (Op.event e).Allowed w) (h : e.run w = .ok (w', r)) : w'.dispatcher.Disjoint := by
  rw [Event.run_eq] at h
  have hs := w.sync_synced
  have hd₀ := (ContextsKept.sync w).disjoint hd
  cases he : e.createsOrDeletes
  · exact (ContextsKept.of_keeps (handle_keeps hs he h)).disjoint hd₀
  · cases e <;> try cases he
    · obtain ⟨w₁, h₁, ⟨⟩⟩ := bind_eq_ok.mp h
      exact Dispatcher.disjoint_of_update hd₀ (Dispatcher.created_length _ _)
        (onCreateContext_kinds hs ha h₁)
    · obtain ⟨w₁, h₁, ⟨⟩⟩ := bind_eq_ok.mp h
      exact Dispatcher.disjoint_of_update hd₀ (by simp) ((onDelete_spec h₁).2 (hd₀ _))

/-- **Step lemma**: every operation the host may issue keeps the contexts
disjoint. -/
theorem Op.run_disjoint {bits : Nat} {op : Op} {w w' : World} {r : Reply}
    (hd : w.dispatcher.Disjoint) (ha : op.Allowed w) (h : op.run bits w = .ok (w', r)) :
    w'.dispatcher.Disjoint := by
  cases op with
  | event e => exact Event.run_disjoint hd ha h
  | reset => cases h; exact hd
  | setRootContextFactory => cases h; exact hd
  | setLogLevel =>
    simp only [Op.run] at h
    split at h
    · cases h
    · cases h; exact hd
  | call code =>
    obtain ⟨w₁, h₁, ⟨⟩⟩ := bind_eq_ok.mp h
    exact (runCode_contextsKept h₁).disjoint hd

/-- **Run lemma**: the contexts are disjoint in every reachable world. -/
theorem Reachable.disjoint {bits : Nat} {w : World} (h : Reachable bits w) :
    w.dispatcher.Disjoint := by
  induction h with
  | init => intro c; simp [World.init, Dispatcher.new, Dispatcher.kinds]
  | step _ ha hrun ih => exact Op.run_disjoint ih ha hrun

/-! ### The context tree -/

/-- A reset from a synced world leaves a wipe pending, on any `usize` of at
least one bit. -/
theorem reset_not_synced {bits : Nat} {w : World} (hbits : 0 < bits) (hgen : w.dispatcherGen < 2 ^ bits)
    (hs : w.Synced) : ¬ (reset bits w).Synced := by
  unfold World.Synced at *
  simp only [reset, hs]
  have : 2 ^ 1 ≤ 2 ^ bits := Nat.pow_le_pow_right (by decide) hbits
  by_cases h : w.dispatcherGen + 1 < 2 ^ bits
  · rw [Nat.mod_eq_of_lt h]; omega
  · rw [show w.dispatcherGen + 1 = 2 ^ bits by omega, Nat.mod_self]; omega

/-- **The context tree.**  Under the host's precondition, an id is a context of
at most one kind in every reachable world.  The key sets change in three ways
only: `on_create_context(c, parent)` gives the fresh id `c` the kind `created`
says; `on_delete(c)` takes `c` out of every map; and the first `dispatch` after
a reset empties them.  Every other event, whatever plugin code it runs, and
plugin code run outside an event change nothing else; in particular no root is
ever created but by `on_create_context` with parent `0`. -/
theorem context_tree {bits : Nat} :
    (∀ {w : World}, Reachable bits w → w.dispatcher.Disjoint) ∧
    (∀ {w w' : World} {r : Reply} {c parent : UInt32}, w.sync.dispatcher.kinds c = [] →
      (Event.contextCreate c parent).run w = .ok (w', r) →
      w'.dispatcher.kinds = fun x =>
        if x = c then w.sync.dispatcher.created parent else w.sync.dispatcher.kinds x) ∧
    (∀ {w w' : World} {r : Reply} {c : UInt32}, w.dispatcher.Disjoint →
      (Event.delete c).run w = .ok (w', r) →
      w'.dispatcher.kinds = fun x => if x = c then [] else w.sync.dispatcher.kinds x) ∧
    (∀ {e : Event} {w w' : World} {r : Reply}, e.createsOrDeletes = false →
      e.run w = .ok (w', r) → w'.dispatcher.kinds = w.sync.dispatcher.kinds) ∧
    (∀ {code : Code} {w w' : World}, runCode [] code w = .ok w' → ContextsKept w w') ∧
    (∀ {w : World}, 0 < bits → w.dispatcherGen < 2 ^ bits → w.Synced →
      (reset bits w).sync.dispatcher.kinds = fun _ => []) := by
  refine ⟨Reachable.disjoint, fun hc h => ?_, fun hd h => ?_, fun he h => ?_, runCode_contextsKept,
    fun hbits hgen hs => ?_⟩
  · rw [Event.run_eq] at h
    obtain ⟨w₁, h₁, ⟨⟩⟩ := bind_eq_ok.mp h
    exact onCreateContext_kinds (World.sync_synced _) hc h₁
  · rw [Event.run_eq] at h
    obtain ⟨w₁, h₁, ⟨⟩⟩ := bind_eq_ok.mp h
    exact (onDelete_spec h₁).2 ((ContextsKept.sync _).disjoint hd _)
  · rw [Event.run_eq] at h
    exact (handle_keeps (World.sync_synced _) he h).kinds
  · funext c
    simp [World.sync_kinds, reset_not_synced hbits hgen hs]

/-! ### Unknown ids -/

/-- The id or token `e` names is missing from every map its handler consults. -/
def Event.unknown (e : Event) (d : Dispatcher) : Bool :=
  match e with
  | .contextCreate _ p => p != 0 && (d.roots p).isNone
  | .done c | .log c | .delete c =>
    (d.httpStreams c).isNone && (d.streams c).isNone && (d.roots c).isNone
  | .vmStart c .. | .configure c .. | .tick c | .queueReady c _ => (d.roots c).isNone
  | .newConnection c | .downstreamData c .. | .downstreamConnectionClose c _
  | .upstreamData c .. | .upstreamConnectionClose c _ => (d.streams c).isNone
  | .requestHeaders c .. | .requestBody c .. | .requestTrailers c ..
  | .responseHeaders c .. | .responseBody c .. | .responseTrailers c .. =>
    (d.httpStreams c).isNone
  | .httpCallResponse t .. | .grpcReceive t .. | .grpcClose t .. =>
    (d.httpCallbacks t).isNone && (d.grpcCallbacks t).isNone && (d.grpcStreams t).isNone

/-- What an export returns when its handler finds nothing to do. -/
def Event.defaultReply : Event → Reply
  | .done _ | .vmStart .. | .configure .. => .bool true
  | .newConnection _ | .downstreamData .. | .upstreamData .. => .stream .continue
  | .requestHeaders .. | .responseHeaders .. => .headers .continue
  | .requestBody .. | .responseBody .. => .data .continue
  | .requestTrailers .. | .responseTrailers .. => .trailers .continue
  | _ => .unit

/-- The line the handler of `e` logs when the id or token it names is unknown:
a warning for a context id, a debug line for a token, and nothing for the data
and close events of a stream context. -/
def Event.unknownLog : Event → Option (Level × String)
  | .contextCreate c p =>
    some (.warn, "attempted to create context " ++ toString c ++ " under unknown context " ++ toString p)
  | .done c => some (.warn, "on_done" ++ " called on unknown context: " ++ toString c)
  | .log c => some (.warn, "on_log" ++ " called on unknown context: " ++ toString c)
  | .delete c => some (.warn, "deleting unknown context_id " ++ toString c)
  | .vmStart c .. => some (.warn, "received " ++ "on_vm_start" ++ " for non-root-context: " ++ toString c)
  | .configure c .. => some (.warn, "received " ++ "on_configure" ++ " for non-root-context: " ++ toString c)
  | .tick c => some (.warn, "received on_tick for non-root-context: " ++ toString c)
  | .queueReady c _ => some (.warn, "received on_queue_ready for non-root-context: " ++ toString c)
  | .newConnection c =>
    some (.warn, "no http context found for context (and was not implicitly created): " ++ toString c)
  | .downstreamData .. | .downstreamConnectionClose .. | .upstreamData ..
  | .upstreamConnectionClose .. => none
  | .requestHeaders c .. => some (.warn,
    "no http context found for on_http_request_headers (and was not implicitly created): " ++ toString c)
  | .requestBody c .. => some (.warn, "no http context found for on_http_request_body: " ++ toString c)
  | .requestTrailers c .. =>
    some (.warn, "no http context found for on_http_request_trailers: " ++ toString c)
  | .responseHeaders c .. =>
    some (.warn, "no http context found for on_http_response_headers: " ++ toString c)
  | .responseBody c .. => some (.warn, "no http context found for on_http_response_body: " ++ toString c)
  | .responseTrailers c .. =>
    some (.warn, "no http context found for on_http_response_trailers: " ++ toString c)
  | .httpCallResponse t .. => some (.debug,
    "received http_call_response for token " ++ toString t ++ ", but no callback was registered")
  | .grpcReceive t .. => some (.debug, "received grpc message for unknown token " ++ toString t)
  | .grpcClose t .. => some (.debug, "received grpc close for unknown token " ++ toString t)

/-- The log line, if any, on the dispatcher's thread. -/
def World.logLine (w : World) : Option (Level × String) → Except Panic World
  | some (level, message) => w.log level message
  | none => pure w

/-- **Unknown ids.**  In a synced world, an event whose id or token is unknown
to the maps its handler consults logs the line `unknownLog` gives, if any, and
returns its default: it runs no plugin code and changes nothing the dispatcher
sees.  The log is a `proxy_log` when the logger passes it on, and the export
panics when the host refuses it. -/
theorem unknown_event_noop (e : Event) (w : World) (hs : w.Synced)
    (hu : e.unknown w.dispatcher = true) :
    e.run w = (w.logLine e.unknownLog >>= fun w' => pure (w', e.defaultReply)) ∧
      ∀ w' r, e.run w = .ok (w', r) → Quiet w w' ∧ r = e.defaultReply := by
  have heq : e.run w = (w.logLine e.unknownLog >>= fun w' => pure (w', e.defaultReply)) := by
    rw [Event.run_of_synced hs]
    unfold Event.unknown at hu
    cases e <;>
      simp only [Bool.and_eq_true, Option.isNone_iff_eq_none, bne_iff_ne, ne_eq] at hu <;>
      simp only [Event.handle, Event.unknownLog, Event.defaultReply, World.logLine, onCreateContext,
        onDone, onLog, onBaseContext, onDelete, onVmStart, onConfigure, onRootConfiguration, onTick,
        onQueueReady, onNewConnection, onDownstreamData, onDownstreamClose, onUpstreamData,
        onUpstreamClose, onStream, onHttpRequestHeaders, onHttpRequestBody, onHttpRequestTrailers,
        onHttpResponseHeaders, onHttpResponseBody, onHttpResponseTrailers, onHttp,
        onHttpCallResponse, onGrpcReceive, onGrpcClose, hu, Option.isSome_none, Option.isNone_none,
        if_true, if_false, Bool.false_eq_true, not_false_eq_true, bind_assoc, pure_bind, Prod.map,
        id]
  refine ⟨heq, fun w' r h => ?_⟩
  rw [heq] at h
  obtain ⟨w₁, h₁, ⟨⟩⟩ := bind_eq_ok.mp h
  refine ⟨?_, rfl⟩
  cases hl : e.unknownLog with
  | none => rw [hl] at h₁; cases h₁; exact .refl w
  | some line => rw [hl] at h₁; exact World.log_quiet h₁

/-- After `staleOps`, with the logger set to `warn`, a tick for the unknown
root 5 logs its warning and changes nothing else. -/
theorem unknown_event_noop_stale :
    ∃ w rs, runOps 32 (staleOps ++ [.setLogLevel .warn]) World.init = .ok (w, rs) ∧ w.Synced ∧
      (Event.tick 5).unknown w.dispatcher = true ∧
      ((Event.tick 5).run w = (w.logLine (Event.tick 5).unknownLog >>= fun w' =>
          pure (w', (Event.tick 5).defaultReply)) ∧
        ∀ w' r, (Event.tick 5).run w = .ok (w', r) → Quiet w w' ∧ r = (Event.tick 5).defaultReply) :=
  ⟨_, _, rfl, rfl, rfl, unknown_event_noop (.tick 5) _ rfl rfl⟩

/-- The same tick when the host refuses the log: `Logger::log` unwraps the
refusal and the export panics instead of returning. -/
theorem unknown_event_refused_log :
    (runOps 32 (staleOps ++ [.setLogLevel .warn, .event (.tick 5)])
      { World.init with logAnswers := [.internalFailure] }).map (fun _ => ()) = .error .logRefused :=
  rfl

end ProxySdk
