/-
ProxySdk/Dispatcher/Frame.lean

What plugin code can and cannot do to the world.  Run in a synced world,
`runCode` keeps the context maps, the generations, the factory and the active
pair, and starts no plugin code of its own: it registers callbacks, fills the
metric cache, logs and issues host calls.  It cannot change a callback map
whose cell an enclosing frame holds, and the callback stores change only
through the registrations it makes, which the ghost record lists (`Effect`,
`runCode_effect`): a one-shot entry only at a token registered again, a stream
entry by replaying its registrations through the owner lock
`StreamRegistration.apply`.

`Quiet` is what a log, a `log_concern` and a metric `define` do: nothing the
dispatcher sees.  `Keeps` is the part every handler but `on_create_context` and
`on_delete` respects; `Starts` records which frames a stretch of execution
starts, with their active pairs.  Each SDK entry point gets one effect lemma,
and `runCode_effect` composes them along the program.  The `EffectiveContext`
guard of the completion handlers is `withEffectiveContext_effect`.
-/
import ProxySdk.Dispatcher.Run

namespace ProxySdk

/-- What every handler but `on_create_context` and `on_delete` leaves alone:
the context maps, the generations and the factory. -/
structure Keeps (w w' : World) : Prop where
  roots : w'.dispatcher.roots = w.dispatcher.roots
  streams : w'.dispatcher.streams = w.dispatcher.streams
  httpStreams : w'.dispatcher.httpStreams = w.dispatcher.httpStreams
  generation : w'.dispatcher.generation = w.dispatcher.generation
  dispatcherGen : w'.dispatcherGen = w.dispatcherGen
  rootInit : w'.rootInit = w.rootInit

namespace Keeps

variable {w w₁ w₂ : World}

theorem refl (w : World) : Keeps w w := ⟨rfl, rfl, rfl, rfl, rfl, rfl⟩

theorem trans (h₁ : Keeps w w₁) (h₂ : Keeps w₁ w₂) : Keeps w w₂ :=
  ⟨h₂.roots.trans h₁.roots, h₂.streams.trans h₁.streams, h₂.httpStreams.trans h₁.httpStreams,
    h₂.generation.trans h₁.generation, h₂.dispatcherGen.trans h₁.dispatcherGen,
    h₂.rootInit.trans h₁.rootInit⟩

theorem synced (h : Keeps w w₁) (hs : w.Synced) : w₁.Synced := by
  unfold World.Synced at *
  rw [h.generation, h.dispatcherGen, hs]

theorem observe (w : World) (o : Obs) : Keeps w (w.observe o) := ⟨rfl, rfl, rfl, rfl, rfl, rfl⟩

theorem setActive (w : World) (id rootId : UInt32) : Keeps w (w.setActive id rootId) :=
  ⟨rfl, rfl, rfl, rfl, rfl, rfl⟩

end Keeps

/-- `w'` extends the trace of `w` by observations that start the frames
`starts`, each with its active pair (newest first). -/
def Starts (w w' : World) (starts : List (Frame × UInt32 × UInt32)) : Prop :=
  ∃ new, w'.trace = new ++ w.trace ∧ new.filterMap Obs.started = starts

namespace Starts

variable {w w₁ w₂ : World} {s₁ s₂ : List (Frame × UInt32 × UInt32)}

theorem refl (w : World) : Starts w w [] := ⟨[], rfl, rfl⟩

theorem trans (h₁ : Starts w w₁ s₁) (h₂ : Starts w₁ w₂ s₂) : Starts w w₂ (s₂ ++ s₁) := by
  obtain ⟨n₁, e₁, q₁⟩ := h₁
  obtain ⟨n₂, e₂, q₂⟩ := h₂
  exact ⟨n₂ ++ n₁, by simp [e₂, e₁], by simp [q₁, q₂]⟩

theorem observe (w : World) (o : Obs) : Starts w (w.observe o) o.started.toList :=
  ⟨[o], rfl, by cases h : o.started <;> simp [List.filterMap, h]⟩

/-- A change that leaves the trace as it is. -/
theorem of_trace (h : w₁.trace = w.trace) : Starts w w₁ [] := ⟨[], h, rfl⟩

end Starts

/-! ### Logs -/

/-- A change the dispatcher does not see: the logger's answers, the metric
cache and host calls that start no plugin code. -/
structure Quiet (w w' : World) : Prop where
  dispatcher : w'.dispatcher = w.dispatcher
  dispatcherGen : w'.dispatcherGen = w.dispatcherGen
  rootInit : w'.rootInit = w.rootInit
  registrations : w'.registrations = w.registrations
  trace : Starts w w' []

namespace Quiet

variable {w w₁ w₂ : World}

theorem refl (w : World) : Quiet w w := ⟨rfl, rfl, rfl, rfl, .refl w⟩

theorem trans (h₁ : Quiet w w₁) (h₂ : Quiet w₁ w₂) : Quiet w w₂ :=
  ⟨h₂.dispatcher.trans h₁.dispatcher, h₂.dispatcherGen.trans h₁.dispatcherGen,
    h₂.rootInit.trans h₁.rootInit, h₂.registrations.trans h₁.registrations, h₁.trace.trans h₂.trace⟩

theorem host (w : World) (call : HostCall) : Quiet w (w.observe (.host call)) :=
  ⟨rfl, rfl, rfl, rfl, .observe w _⟩

theorem keeps (h : Quiet w w₁) : Keeps w w₁ :=
  ⟨by rw [h.dispatcher], by rw [h.dispatcher], by rw [h.dispatcher], by rw [h.dispatcher],
    h.dispatcherGen, h.rootInit⟩

theorem synced (h : Quiet w w₁) (hs : w.Synced) : w₁.Synced := h.keeps.synced hs

end Quiet

section Log

variable {w w' : World} {level : Level} {message context : String}

/-- A log that returns: at most a `proxy_log`, with one answer consumed. -/
theorem World.log_quiet (h : w.log level message = .ok w') : Quiet w w' := by
  unfold World.log at h
  split at h
  · cases h
  · cases h
    exact .refl w
  · cases h
    exact ⟨rfl, rfl, rfl, rfl, ⟨[_], rfl, rfl⟩⟩

theorem World.logConcern_quiet {α : Type} [Inhabited α] {result : Except Status α} {a : α}
    (h : w.logConcern context result = .ok (w', a)) : Quiet w w' := by
  cases result with
  | ok => cases h; exact .refl w
  | error =>
    obtain ⟨w₁, h₁, ⟨⟩⟩ := bind_eq_ok.mp h
    exact World.log_quiet h₁

theorem World.checkConcern_quiet {α : Type} {result : Except Status α} {a : Option α}
    (h : w.checkConcern context result = .ok (w', a)) : Quiet w w' := by
  cases result with
  | ok => cases h; exact .refl w
  | error =>
    obtain ⟨w₁, h₁, ⟨⟩⟩ := bind_eq_ok.mp h
    exact World.log_quiet h₁

/-- `define` touches only the metric cache, the logs and the trace. -/
theorem define_quiet {kind : MetricType} {name : String} {result : Except Status UInt32} {id : UInt32}
    (h : define kind name result w = .ok (w', id)) : Quiet w w' := by
  dsimp only [define] at h
  split at h
  · cases h
    exact ⟨rfl, rfl, rfl, rfl, .observe w _⟩
  · obtain ⟨⟨w₁, _⟩, h₁, ⟨⟩⟩ := bind_eq_ok.mp h
    have q := (Quiet.host w _).trans (World.logConcern_quiet h₁)
    exact ⟨q.dispatcher, q.dispatcherGen, q.rootInit, q.registrations, q.trace.trans (.observe _ _)⟩

end Log

/-! ### The effect of plugin code -/

/-- The effect of a stretch of plugin code run with `held` borrowed: it keeps
the context maps and the active pair, starts the frames `starts`, and makes the
registrations `regs` (newest first).  It cannot change a callback map whose
cell is held; a one-shot entry changes only at a token registered again, and a
stream entry is the replay of the stream registrations for its token. -/
structure Effect (held : List Cell) (regs : List Registration)
    (starts : List (Frame × UInt32 × UInt32)) (w w' : World) extends Keeps w w' : Prop where
  activeId : w'.dispatcher.activeId = w.dispatcher.activeId
  activeRootId : w'.dispatcher.activeRootId = w.dispatcher.activeRootId
  trace : Starts w w' starts
  registered : w'.registrations = regs ++ w.registrations
  grpcCallbacks : Cell.grpcCallbacks ∈ held →
    w'.dispatcher.grpcCallbacks = w.dispatcher.grpcCallbacks
  grpcStreams : Cell.grpcStreams ∈ held → w'.dispatcher.grpcStreams = w.dispatcher.grpcStreams
  httpAt : ∀ t, Registration.http t ∉ regs →
    w'.dispatcher.httpCallbacks t = w.dispatcher.httpCallbacks t
  grpcAt : ∀ t, Registration.grpc t ∉ regs →
    w'.dispatcher.grpcCallbacks t = w.dispatcher.grpcCallbacks t
  replay : ∀ t, w'.dispatcher.grpcStreams t =
    (streamRegsFor t regs).foldl StreamRegistration.apply (w.dispatcher.grpcStreams t)

namespace Effect

variable {held : List Cell} {regs regs₂ : List Registration}
  {s s₂ : List (Frame × UInt32 × UInt32)} {w w₁ w₂ : World}

theorem refl (w : World) : Effect held [] [] w w :=
  ⟨.refl w, rfl, rfl, .refl w, rfl, fun _ => rfl, fun _ => rfl, fun _ _ => rfl, fun _ _ => rfl,
    fun _ => rfl⟩

theorem trans (h₁ : Effect held regs s w w₁) (h₂ : Effect held regs₂ s₂ w₁ w₂) :
    Effect held (regs₂ ++ regs) (s₂ ++ s) w w₂ where
  toKeeps := h₁.toKeeps.trans h₂.toKeeps
  activeId := h₂.activeId.trans h₁.activeId
  activeRootId := h₂.activeRootId.trans h₁.activeRootId
  trace := h₁.trace.trans h₂.trace
  registered := by rw [h₂.registered, h₁.registered, List.append_assoc]
  grpcCallbacks hm := (h₂.grpcCallbacks hm).trans (h₁.grpcCallbacks hm)
  grpcStreams hm := (h₂.grpcStreams hm).trans (h₁.grpcStreams hm)
  httpAt t ht := by
    rw [List.mem_append, not_or] at ht
    exact (h₂.httpAt t ht.1).trans (h₁.httpAt t ht.2)
  grpcAt t ht := by
    rw [List.mem_append, not_or] at ht
    exact (h₂.grpcAt t ht.1).trans (h₁.grpcAt t ht.2)
  replay t := by rw [h₂.replay, h₁.replay, streamRegsFor_append, List.foldl_append]

theorem synced (h : Effect held regs s w w₁) (hs : w.Synced) : w₁.Synced := h.toKeeps.synced hs

/-- A stretch run under another active pair, with the pair of `w` put back
afterwards. -/
theorem restore {id rootId : UInt32} (h : Effect held regs s (w.setActive id rootId) w₁) :
    Effect held regs s w (w₁.setActive w.dispatcher.activeId w.dispatcher.activeRootId) :=
  ⟨⟨h.roots, h.streams, h.httpStreams, h.generation, h.dispatcherGen, h.rootInit⟩, rfl, rfl,
    h.trace, h.registered, h.grpcCallbacks, h.grpcStreams, h.httpAt, h.grpcAt, h.replay⟩

/-- Recording an observation. -/
theorem observe (w : World) (o : Obs) : Effect held [] o.started.toList w (w.observe o) :=
  ⟨.observe w o, rfl, rfl, .observe w o, rfl, fun _ => rfl, fun _ => rfl, fun _ _ => rfl,
    fun _ _ => rfl, fun _ => rfl⟩

theorem of_quiet (h : Quiet w w₁) : Effect held [] [] w w₁ := by
  have hd := h.dispatcher
  exact ⟨h.keeps, by rw [hd], by rw [hd], h.trace, h.registrations, fun _ => by rw [hd],
    fun _ => by rw [hd], fun _ _ => by rw [hd], fun _ _ => by rw [hd], fun _ => by rw [hd]; rfl⟩

end Effect

/-! ### One SDK call -/

section Calls

variable {held : List Cell} {token : UInt32} {w w' : World}

/-- A registration that returns has found its map free. -/
theorem not_mem_of_borrowMut {cell : Cell} {u : Unit} (h : borrowMut held cell = .ok u) :
    cell ∉ held := fun hm => by simp [borrowMut_of_mem hm] at h

theorem registerHttpCallback_effect {callback : RootState → HttpCallResponse → Code}
    (hs : w.Synced) (h : registerHttpCallback held token callback w = .ok w') :
    Effect held [.http token] [] w w' := by
  simp only [registerHttpCallback, dispatch_of_synced hs, ok_bind] at h
  obtain ⟨⟨⟩, -, ⟨⟩⟩ := bind_eq_ok.mp h
  exact ⟨⟨rfl, rfl, rfl, rfl, rfl, rfl⟩, rfl, rfl, .of_trace rfl, rfl, fun _ => rfl, fun _ => rfl,
    fun t ht => if_neg fun (e : t = token) => ht (by rw [e]; exact List.mem_singleton_self _),
    fun _ _ => rfl, fun _ => rfl⟩

theorem registerGrpcCallback_effect {callback : RootState → GrpcCallResponse → Code}
    (hs : w.Synced) (h : registerGrpcCallback held token callback w = .ok w') :
    Effect held [.grpc token] [] w w' := by
  simp only [registerGrpcCallback, dispatch_of_synced hs, ok_bind] at h
  obtain ⟨⟨⟩, hb, ⟨⟩⟩ := bind_eq_ok.mp h
  exact ⟨⟨rfl, rfl, rfl, rfl, rfl, rfl⟩, rfl, rfl, .of_trace rfl, rfl,
    (absurd · (not_mem_of_borrowMut hb)), fun _ => rfl, fun _ _ => rfl,
    fun t ht => if_neg fun (e : t = token) => ht (by rw [e]; exact List.mem_singleton_self _),
    fun _ => rfl⟩

/-- Entering a stream registration in the ghost record and setting the entry
of its token to what the owner lock gives. -/
theorem Effect.registerStream {r : StreamRegistration} {m : Map UInt32 GrpcStreamCallback}
    (hheld : Cell.grpcStreams ∉ held)
    (hm : ∀ t, m t = if token = t then r.apply (w.dispatcher.grpcStreams t)
      else w.dispatcher.grpcStreams t) :
    Effect held [.stream token r] []
      w ((w.register (.stream token r)).modify fun d => { d with grpcStreams := m }) :=
  ⟨⟨rfl, rfl, rfl, rfl, rfl, rfl⟩, rfl, rfl, .of_trace rfl, rfl, fun _ => rfl,
    (absurd · hheld), fun _ _ => rfl, fun _ _ => rfl,
    fun t => by show m t = _; rw [hm t, streamRegsFor_stream]; split <;> rfl⟩

/-- **Owner lock, one step**: a stream registration is entered in the ghost
record and applied to the entry of its token by `StreamRegistration.apply`;
the mismatch warning changes nothing else. -/
theorem registerGrpcStream_effect {name : String} {slot : StreamSlot} (hs : w.Synced)
    (h : registerGrpcStream name slot held token w = .ok w') :
    Effect held [.stream token ⟨w.dispatcher.activeId, w.dispatcher.activeRootId, slot⟩] [] w w' := by
  simp only [registerGrpcStream, dispatch_of_synced hs, ok_bind] at h
  obtain ⟨⟨⟩, hb, h⟩ := bind_eq_ok.mp h
  have hheld := not_mem_of_borrowMut hb
  simp only [World.register_dispatcher] at h
  split at h
  · rename_i entry he
    split at h
    · -- another context owns the entry: only the warning
      rename_i hne
      refine (Effect.registerStream (m := w.dispatcher.grpcStreams) hheld fun t => ?_).trans
        (.of_quiet (World.log_quiet h))
      split
      · subst t
        simp [he, StreamRegistration.apply, hne]
      · rfl
    · cases h
      exact Effect.registerStream hheld fun t => by
        split
        · subst t
          simp_all [StreamRegistration.apply, Map.insert_apply]
        · simp [Map.insert_apply, Ne.symm ‹_›]
  · rename_i he
    cases h
    exact Effect.registerStream hheld fun t => by
      split
      · subst t
        simp [he, StreamRegistration.apply, Map.insert_apply]
      · simp [Map.insert_apply, Ne.symm ‹_›]

theorem registerQueueCallback_effect {callback : RootState → UInt32 → Code} (hs : w.Synced)
    (h : registerQueueCallback held token callback w = .ok w') : Effect held [.queue token] [] w w' := by
  simp only [registerQueueCallback, dispatch_of_synced hs, ok_bind] at h
  obtain ⟨⟨⟩, -, ⟨⟩⟩ := bind_eq_ok.mp h
  exact ⟨⟨rfl, rfl, rfl, rfl, rfl, rfl⟩, rfl, rfl, .of_trace rfl, rfl, fun _ => rfl, fun _ => rfl,
    fun _ _ => rfl, fun _ _ => rfl, fun _ => rfl⟩

end Calls

/-! ### A whole program -/

/-- After a `dispatch`, the rest of a call runs in the world it syncs. -/
theorem dispatch_bind_sync {α : Type} {held : List Cell} {w : World}
    {rest : World → Except Panic α} {a : α} (h : (dispatch held w >>= rest) = .ok a) :
    (dispatch held w.sync >>= rest) = .ok a := by
  obtain ⟨w₁, hd, h⟩ := bind_eq_ok.mp h
  rwa [dispatch_of_synced w.sync_synced, ok_bind, ← dispatch_eq_sync hd]

/-- A relation between worlds that plugin code run with `held` borrowed cannot
break: it holds of quiet steps and of each registration, made in the world its
`dispatch` syncs, and it composes. -/
structure CodeRel (held : List Cell) (R : World → World → Prop) : Prop where
  refl : ∀ w, R w w
  trans : ∀ {w₁ w₂ w₃}, R w₁ w₂ → R w₂ w₃ → R w₁ w₃
  quiet : ∀ {w₁ w₂}, Quiet w₁ w₂ → R w₁ w₂
  registers : ∀ {regs w₁ w₂}, Effect held regs [] w₁.sync w₂ → R w₁ w₂

/-- **Plugin code in any world**, by induction on the program: each SDK call
is a quiet step or a registration. -/
theorem CodeRel.of_runCode {held : List Cell} {R : World → World → Prop} (hR : CodeRel held R) :
    ∀ {code : Code} {w w' : World}, runCode held code w = .ok w' → R w w'
  | .done, w, _, h => by
    cases h
    exact hR.refl w
  | .httpCallDispatch token callback next, w, w', h => by
    simp only [runCode] at h
    refine hR.trans (hR.quiet (.host w .dispatchHttpCall)) ?_
    split at h
    · obtain ⟨w₁, h₁, h₂⟩ := bind_eq_ok.mp h
      exact hR.trans (hR.registers (registerHttpCallback_effect (World.sync_synced _)
        (dispatch_bind_sync h₁))) (hR.of_runCode h₂)
    · exact hR.of_runCode h
  | .grpcCallDispatch token callback next, w, w', h => by
    simp only [runCode] at h
    refine hR.trans (hR.quiet (.host w .dispatchGrpcCall)) ?_
    split at h
    · obtain ⟨w₁, h₁, h₂⟩ := bind_eq_ok.mp h
      exact hR.trans (hR.registers (registerGrpcCallback_effect (World.sync_synced _)
        (dispatch_bind_sync h₁))) (hR.of_runCode h₂)
    · exact hR.of_runCode h
  | .grpcStreamOpen token onMessage onClose next, w, w', h => by
    simp only [runCode] at h
    refine hR.trans (hR.quiet (.host w .openGrpcStream)) ?_
    split at h
    · -- each slot given is one registration, then the rest of the program
      have reg {name slot t w₁ w₂} (h : registerGrpcStream name slot held t w₁ = .ok w₂) : R w₁ w₂ :=
        hR.registers (registerGrpcStream_effect (World.sync_synced _) (dispatch_bind_sync h))
      cases onMessage <;> cases onClose <;> simp only [pure_bind, bind_eq_ok] at h
      · exact hR.of_runCode h
      · obtain ⟨w₁, h₁, h⟩ := h
        exact hR.trans (reg h₁) (hR.of_runCode h)
      · obtain ⟨w₁, h₁, h⟩ := h
        exact hR.trans (reg h₁) (hR.of_runCode h)
      · obtain ⟨w₁, h₁, w₂, h₂, h⟩ := h
        exact hR.trans (reg h₁) (hR.trans (reg h₂) (hR.of_runCode h))
    · exact hR.of_runCode h
  | .queueOnEnqueue queue callback next, w, w', h => by
    simp only [runCode] at h
    obtain ⟨w₁, h₁, h₂⟩ := bind_eq_ok.mp h
    exact hR.trans (hR.registers (registerQueueCallback_effect (World.sync_synced _)
      (dispatch_bind_sync h₁))) (hR.of_runCode h₂)
  | .metricDefine kind name result next, w, w', h => by
    simp only [runCode] at h
    obtain ⟨⟨w₁, _⟩, h₁, h₂⟩ := bind_eq_ok.mp h
    exact hR.trans (hR.quiet (define_quiet h₁)) (hR.of_runCode h₂)
  | .log level message next, w, w', h => by
    simp only [runCode] at h
    obtain ⟨w₁, h₁, h₂⟩ := bind_eq_ok.mp h
    exact hR.trans (hR.quiet (World.log_quiet h₁)) (hR.of_runCode h₂)

/-- **Frame condition of plugin code** started in a synced world. -/
theorem runCode_effect {held : List Cell} {code : Code} {w w' : World} (hs : w.Synced)
    (h : runCode held code w = .ok w') : ∃ regs, Effect held regs [] w w' :=
  (show CodeRel held fun w w' => w.Synced → ∃ regs, Effect held regs [] w w' from
    ⟨fun w _ => ⟨[], .refl w⟩,
      fun h₁ h₂ hs => let ⟨_, e₁⟩ := h₁ hs; let ⟨_, e₂⟩ := h₂ (e₁.synced hs); ⟨_, e₁.trans e₂⟩,
      fun q _ => ⟨[], .of_quiet q⟩, fun e hs => ⟨_, World.sync_of_synced hs ▸ e⟩⟩).of_runCode h hs

/-! ### Starting plugin code -/

section Start

variable {held : List Cell} {w w' : World}

/-- In a synced world an export is its handler: `dispatch` has nothing to wipe. -/
theorem Event.run_of_synced {e : Event} (hs : w.Synced) : e.run w = e.handle w := by
  simp [Event.run, dispatch_of_synced hs]

/-- `invoke` records the frame with the active pair, then runs the code. -/
theorem invoke_effect {frame : Frame} {code : Code} (h : invoke held frame code w = .ok w')
    (hs : w.Synced) :
    ∃ regs, Effect held regs [(frame, w.dispatcher.activeId, w.dispatcher.activeRootId)] w w' :=
  let ⟨_, e⟩ := runCode_effect (w := w.observe _) hs h
  ⟨_, (Effect.observe w _).trans e⟩

/-- `Dispatcher::root` of a root that exists: no factory runs. -/
theorem root_of_some {rootContextId : UInt32} {info : RootInfo}
    (h : w.dispatcher.roots rootContextId = some info) :
    root held rootContextId w = .ok (w, info.data) := by
  simp [root, h]

/-- **The `EffectiveContext` guard**: when the host accepts the context, the
body runs with `(id, rootId)` active, and the prior pair is back afterwards;
when it refuses, nothing runs.  Either failure is only logged. -/
theorem withEffectiveContext_effect {name : String} {id rootId : UInt32}
    {entered restored : Except Status Unit} {body : World → Except Panic World}
    {starts : List (Frame × UInt32 × UInt32)}
    (h : withEffectiveContext held name id rootId entered restored body w = .ok w') (hs : w.Synced)
    (hbody : ∀ {w₁ w₂ : World}, body w₁ = .ok w₂ → w₁.Synced → w₁.dispatcher.activeId = id →
      w₁.dispatcher.activeRootId = rootId → ∃ regs, Effect held regs starts w₁ w₂) :
    ∃ regs, Effect held regs (if entered.isOk then starts else []) w w' := by
  unfold withEffectiveContext at h
  have e₀ : Effect held [] [] w _ := .observe w (.host (.setEffectiveContext id))
  cases entered with
  | error => exact ⟨_, e₀.trans (.of_quiet (World.log_quiet h))⟩
  | ok =>
    simp only [dispatch_of_synced (e₀.synced hs), ok_bind] at h
    obtain ⟨w₂, hb, h⟩ := bind_eq_ok.mp h
    obtain ⟨_, e⟩ := hbody hb hs rfl rfl
    -- the guard's `drop`: `set_effective_context(prior)`, its failure logged
    have drop {w₃} (q : Quiet (w₂.observe (.host (.setEffectiveContext w.dispatcher.activeId))) w₃)
        (h : (dispatch held w₃ >>= fun w₄ =>
          pure (w₄.setActive w.dispatcher.activeId w.dispatcher.activeRootId)) = .ok w') :
        ∃ regs, Effect held regs starts w w' := by
      have e₃ := (e.trans (.observe w₂ _)).trans (Effect.of_quiet q)
      simp only [dispatch_of_synced (e₃.synced hs), ok_bind, pure_eq_ok] at h
      cases h
      exact ⟨_, by simpa only [List.append_nil] using e₀.trans e₃.restore⟩
    cases restored with
    | error =>
      obtain ⟨w₃, h₃, h⟩ := bind_eq_ok.mp h
      exact drop (World.log_quiet h₃) h
    | ok => exact drop (.refl _) h

end Start

end ProxySdk
