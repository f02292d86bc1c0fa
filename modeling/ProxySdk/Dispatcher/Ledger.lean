/-
ProxySdk/Dispatcher/Ledger.lean

The callback ledger.  A stored callback is paid for by its registration: the
one-shot maps `http_callbacks` and `grpc_callbacks`, and the stream entries
whose close callback `on_grpc_close` runs, are consumed by the completion that
runs their callback.  For a store `s` and a token `t` the ledger counts the
callbacks for `t` run so far (read off the trace), whether an entry for `t` is
pending, and the registrations for `t` made so far (read off the ghost record).
`Accounts` says that a stretch of execution runs no callback it has not paid
for, by an entry it consumed or a registration it made.

`Books` is what every handler does to the callback stores: it keeps the
accounts, changes a stream entry only by replaying the stream registrations its
plugin code made (but at the tokens `closed`, whose entry an `on_grpc_close`
took out), and keeps the world synced.  Plugin code is booked through its
`Effect` (`Books.of_effect`); a completion that takes an entry out and then
runs its callback is booked by `Books.consume`.
-/
import ProxySdk.Dispatcher.Frame

namespace ProxySdk

/-- The stores whose entries are consumed by the callback they hold. -/
inductive Store where
  | http
  | grpc
  | stream
  deriving DecidableEq, Repr

/-- `t` has an entry in `s`. -/
def Store.pending : Store → Dispatcher → UInt32 → Bool
  | .http, d, t => (d.httpCallbacks t).isSome
  | .grpc, d, t => (d.grpcCallbacks t).isSome
  | .stream, d, t => (d.grpcStreams t).isSome

/-- The registration stores a callback for `t` in `s`. -/
def Store.registers : Store → UInt32 → Registration → Bool
  | .http, t, r => r.httpToken == some t
  | .grpc, t, r => r.grpcToken == some t
  | .stream, t, r => (r.streamFor t).isSome

/-- Taking the entry of `t` out of `s`. -/
def Store.remove : Store → UInt32 → Dispatcher → Dispatcher
  | .http, t, d => { d with httpCallbacks := d.httpCallbacks.remove t }
  | .grpc, t, d => { d with grpcCallbacks := d.grpcCallbacks.remove t }
  | .stream, t, d => { d with grpcStreams := d.grpcStreams.remove t }

/-- The stream tokens whose entry taking out of `s` drops. -/
def Store.closes : Store → UInt32 → List UInt32
  | .stream, t => [t]
  | _, _ => []

/-- The stored callback a frame runs, which its completion consumed. -/
def Frame.consumes : Frame → Option (Store × UInt32)
  | .httpCallback t .. => some (.http, t)
  | .grpcCallback t .. => some (.grpc, t)
  | .grpcStreamClose t .. => some (.stream, t)
  | _ => none

/-- The callbacks for `t` in `s` that the trace of `w` shows run. -/
def World.runs (w : World) (s : Store) (t : UInt32) : Nat :=
  (w.trace.filterMap Obs.started).countP fun f => f.1.consumes == some (s, t)

/-- `1` when `t` has an entry pending in `s`. -/
def World.pending (w : World) (s : Store) (t : UInt32) : Nat :=
  (s.pending w.dispatcher t).toNat

/-- The registrations for `t` in `s` in the ghost record of `w`. -/
def World.registered (w : World) (s : Store) (t : UInt32) : Nat :=
  w.registrations.countP (s.registers t)

/-- From `w` to `w'`, the callbacks run for `t` in `s`, and the entry left
pending, are paid for by the entry pending before and the registrations made. -/
def Accounts (s : Store) (t : UInt32) (w w' : World) : Prop :=
  w'.runs s t + w'.pending s t + w.registered s t ≤ w.runs s t + w.pending s t + w'.registered s t

namespace Accounts

variable {s : Store} {t : UInt32} {w w₁ w₂ : World}

theorem refl (w : World) : Accounts s t w w := Nat.le_refl _

theorem trans (h₁ : Accounts s t w w₁) (h₂ : Accounts s t w₁ w₂) : Accounts s t w w₂ := by
  unfold Accounts at *
  omega

/-- **Run lemma**: from a world with nothing run and nothing registered, each
registration pays for at most one run of its callback. -/
theorem runs_le (h : Accounts s t w w₁) (hr : w.runs s t = 0) (hp : w.pending s t = 0)
    (hreg : w.registered s t = 0) : w₁.runs s t + w₁.pending s t ≤ w₁.registered s t := by
  unfold Accounts at h
  omega

end Accounts

theorem Store.pending_remove (s s' : Store) (t t' : UInt32) (d : Dispatcher) :
    s'.pending (s.remove t d) t' = (s'.pending d t' && !decide (s' = s ∧ t' = t)) := by
  cases s <;> cases s' <;> by_cases h : t' = t <;>
    simp [Store.pending, Store.remove, Map.remove_apply, h]

/-- No registration for `t` in `regs` replays a stream entry for `t`. -/
theorem streamRegsFor_eq_nil {t : UInt32} {regs : List Registration}
    (h : regs.countP (Store.stream.registers t) = 0) : streamRegsFor t regs = [] := by
  rw [List.countP_eq_zero] at h
  simpa [streamRegsFor, List.filterMap_eq_nil_iff, Store.registers] using h

/-! ### The ledger of plugin code -/

section Effect

variable {held : List Cell} {regs : List Registration} {starts : List (Frame × UInt32 × UInt32)}
  {w w' : World}

theorem Effect.runs (e : Effect held regs starts w w') (s : Store) (t : UInt32) :
    w'.runs s t = starts.countP (fun f => f.1.consumes == some (s, t)) + w.runs s t := by
  obtain ⟨new, ht, hs⟩ := e.trace
  simp only [World.runs, ht, List.filterMap_append, List.countP_append, hs]

theorem Effect.registered_eq (e : Effect held regs starts w w') (s : Store) (t : UInt32) :
    w'.registered s t = regs.countP (s.registers t) + w.registered s t := by
  simp only [World.registered, e.registered, List.countP_append]

/-- An entry appears only where a registration made one. -/
theorem Effect.pending_le (e : Effect held regs starts w w') (s : Store) (t : UInt32) :
    w'.pending s t ≤ w.pending s t + regs.countP (s.registers t) := by
  rcases Nat.eq_zero_or_pos (regs.countP (s.registers t)) with h0 | hpos
  · have hkept : s.pending w'.dispatcher t = s.pending w.dispatcher t := by
      have none_of {p : Registration} (hp : p ∈ regs) : s.registers t p = false := by
        simpa using List.countP_eq_zero.mp h0 p hp
      cases s
      · simp only [Store.pending]
        rw [e.httpAt t fun hm => by simpa [Store.registers, Registration.httpToken] using none_of hm]
      · simp only [Store.pending]
        rw [e.grpcAt t fun hm => by simpa [Store.registers, Registration.grpcToken] using none_of hm]
      · simp only [Store.pending]
        rw [e.replay t, streamRegsFor_eq_nil h0]
        rfl
    simp [World.pending, hkept]
  · have := Bool.toNat_le (s.pending w'.dispatcher t)
    unfold World.pending
    omega

/-- **The ledger of plugin code**: what it runs and leaves pending is paid for
by what was pending, the registrations it made, and the frames it starts. -/
theorem Effect.accounts (e : Effect held regs starts w w') (s : Store) (t : UInt32) :
    w'.runs s t + w'.pending s t + w.registered s t ≤
      w.runs s t + starts.countP (fun f => f.1.consumes == some (s, t)) + w.pending s t +
        w'.registered s t := by
  have := e.pending_le s t
  rw [e.runs, e.registered_eq]
  omega

end Effect

/-! ### Books -/

/-- What a handler does to the callback stores: it keeps them in account, a
stream entry changes only by the registrations made (but at the tokens
`closed`, whose entry was taken out), and the world stays synced. -/
structure Books (closed : List UInt32) (w w' : World) : Prop where
  synced : w.Synced → w'.Synced
  replay : ∃ regs, w'.registrations = regs ++ w.registrations ∧ ∀ t ∉ closed,
    w'.dispatcher.grpcStreams t =
      (streamRegsFor t regs).foldl StreamRegistration.apply (w.dispatcher.grpcStreams t)
  accounts : ∀ s t, Accounts s t w w'

namespace Books

variable {closed closed₂ : List UInt32} {w w₁ w₂ : World}

theorem refl (w : World) : Books [] w w :=
  ⟨id, ⟨[], rfl, fun _ _ => rfl⟩, fun _ _ => .refl w⟩

theorem trans (h₁ : Books closed w w₁) (h₂ : Books closed₂ w₁ w₂) : Books (closed ++ closed₂) w w₂ := by
  obtain ⟨regs₁, hr₁, hs₁⟩ := h₁.replay
  obtain ⟨regs₂, hr₂, hs₂⟩ := h₂.replay
  refine ⟨h₂.synced ∘ h₁.synced, ⟨regs₂ ++ regs₁, by rw [hr₂, hr₁, List.append_assoc], fun t ht => ?_⟩,
    fun s t => (h₁.accounts s t).trans (h₂.accounts s t)⟩
  rw [List.mem_append, not_or] at ht
  rw [hs₂ t ht.2, hs₁ t ht.1, streamRegsFor_append, List.foldl_append]

theorem mono (h : Books closed w w₁) (hc : closed ⊆ closed₂) : Books closed₂ w w₁ := by
  obtain ⟨regs, hr, hs⟩ := h.replay
  exact ⟨h.synced, ⟨regs, hr, fun t ht => hs t fun hm => ht (hc hm)⟩, h.accounts⟩

/-- Plugin code that runs no stored callback. -/
theorem of_effect {held : List Cell} {regs : List Registration}
    {starts : List (Frame × UInt32 × UInt32)} (e : Effect held regs starts w w₁)
    (hstarts : ∀ f ∈ starts, f.1.consumes = none) : Books [] w w₁ := by
  refine ⟨e.synced, ⟨regs, e.registered, fun t _ => e.replay t⟩, fun s t => ?_⟩
  have h0 : starts.countP (fun f => f.1.consumes == some (s, t)) = 0 :=
    List.countP_eq_zero.mpr fun f hf => by simp [hstarts f hf]
  have := e.accounts s t
  unfold Accounts
  omega

theorem of_quiet (h : Quiet w w₁) : Books [] w w₁ :=
  of_effect (Effect.of_quiet h : Effect [] [] [] w w₁) (by simp)

theorem setActive (w : World) (id rootId : UInt32) : Books [] w (w.setActive id rootId) :=
  ⟨fun h => h, ⟨[], rfl, fun _ _ => rfl⟩, fun s _ => by cases s <;> exact Nat.le_refl _⟩

/-- A change of the context maps alone, as `on_create_context` and `on_delete`
make. -/
theorem modify {f : Dispatcher → Dispatcher} (hf : ∀ d, (f d).httpCallbacks = d.httpCallbacks ∧
    (f d).grpcCallbacks = d.grpcCallbacks ∧ (f d).grpcStreams = d.grpcStreams ∧
    (f d).generation = d.generation) (w : World) : Books [] w (w.modify f) := by
  obtain ⟨hh, hg, hs, hgen⟩ := hf w.dispatcher
  refine ⟨fun h => by unfold World.Synced at *; simp [hgen, h], ⟨[], rfl, fun t _ => by simp only [World.modify_dispatcher, hs]; rfl⟩,
    fun s t => ?_⟩
  cases s <;> simp [Accounts, World.pending, World.runs, World.registered, Store.pending, hh, hg, hs]

/-- **A completion**: the entry of `t` in `s` is taken out, then plugin code
runs that starts at most the callback it held. -/
theorem consume {held : List Cell} {regs : List Registration}
    {starts : List (Frame × UInt32 × UInt32)} {s : Store} {t : UInt32}
    (hp : s.pending w.dispatcher t = true) (e : Effect held regs starts (w.modify (s.remove t)) w₁)
    (hstarts : ∀ f ∈ starts, f.1.consumes = some (s, t)) (hlen : starts.length ≤ 1) :
    Books (s.closes t) w w₁ := by
  refine ⟨fun h => e.synced (by cases s <;> exact h), ⟨regs, e.registered, fun t' ht' => ?_⟩,
    fun s' t' => ?_⟩
  · rw [e.replay t']
    cases s <;> simp_all [Store.closes, Store.remove, Map.remove_apply]
  · have he := e.accounts s' t'
    have hpending := Store.pending_remove s s' t t' w.dispatcher
    have hcount : starts.countP (fun f => f.1.consumes == some (s', t')) +
        (w.modify (s.remove t)).pending s' t' ≤ w.pending s' t' := by
      by_cases hst : s' = s ∧ t' = t
      · obtain ⟨rfl, rfl⟩ := hst
        have := List.countP_le_length (fun f => f.1.consumes == some (s', t')) (l := starts)
        simp only [World.pending, World.modify_dispatcher, hpending, hp] at *
        simp
        omega
      · have : starts.countP (fun f => f.1.consumes == some (s', t')) = 0 :=
          List.countP_eq_zero.mpr fun f hf => by
            simp only [hstarts f hf, beq_iff_eq, Option.some.injEq, Prod.mk.injEq]
            exact fun h => hst ⟨h.1.symm, h.2.symm⟩
        simp [World.pending, hpending, hst, this]
    unfold Accounts
    have hr : (w.modify (s.remove t)).runs s' t' = w.runs s' t' := rfl
    have hg : (w.modify (s.remove t)).registered s' t' = w.registered s' t' := rfl
    omega

end Books

end ProxySdk
