/-
ProxySdk/Queue.lean

Shared queues (`queue.rs`) and the host calls behind them (`hostcalls.rs`):
`register_shared_queue`, `resolve_shared_queue`, `dequeue_shared_queue`,
`enqueue_shared_queue`, and the loop of the closure that `Queue::on_receive`
hands to `register_queue_callback`:

    while let Some(dequeued) = check_concern("queue-receive", queue.dequeue()).flatten() {
        callback(root, queue, dequeued);
    }

The loop stops only when a dequeue answers `Empty` or fails.  `queue.rs`
describes the host's side: a FIFO queue whose every item goes to one dequeue
only.  Against that host, the loop hands every queued item to the callback once,
oldest first, and leaves the queue empty, after exactly one more dequeue than
there were items (`receive_drains`).  A callback that puts an item back on its
own queue keeps the loop from ever stopping (`receive_refilled`).

Design.  The loop runs on any state `σ` that the host's `dequeue` and the
plugin's `callback` share; `fuel` bounds the number of dequeues, and `none`
means the loop has not stopped when the fuel runs out.
-/
import ProxySdk.Basic

namespace ProxySdk

/-! ### The host calls -/

/-- `hostcalls::register_shared_queue`, from the host's status and the id it returned. -/
def Hostcalls.registerSharedQueue : Status × UInt32 → Except Status UInt32
  | (status, returnId) => valueResult status returnId

/-- `hostcalls::resolve_shared_queue`: an unknown name is `None`. -/
def Hostcalls.resolveSharedQueue : Status × UInt32 → Except Status (Option UInt32)
  | (.ok, returnId) => .ok (some returnId)
  | (.notFound, _) => .ok none
  | (e, _) => .error e

/-- `hostcalls::dequeue_shared_queue`: an empty queue is `None`. -/
def Hostcalls.dequeueSharedQueue : Status × Bytes → Except Status (Option Bytes)
  | (.ok, returned) => .ok (some returned)
  | (.empty, _) => .ok none
  | (e, _) => .error e

/-- `hostcalls::enqueue_shared_queue`. -/
def Hostcalls.enqueueSharedQueue : Status → Except Status Unit :=
  statusResult

/-- `Queue::register`. -/
def Queue.register (answer : Status × UInt32) : Except Status UInt32 :=
  Hostcalls.registerSharedQueue answer

/-- `Queue::resolve`. -/
def Queue.resolve (answer : Status × UInt32) : Except Status (Option UInt32) :=
  Hostcalls.resolveSharedQueue answer

/-! ### The `on_receive` loop -/

section Receive

variable {σ : Type} (dequeue : σ → (Status × Bytes) × σ) (callback : Bytes → σ → σ)

/-- The closure `Queue::on_receive` registers, for at most `fuel` dequeues:
`dequeue` is the host's side of `queue.dequeue()`, `callback` the plugin's
callback on the item. -/
def Queue.receive : Nat → σ → Option σ
  | 0, _ => none
  | fuel + 1, s =>
    match (checkConcern (Hostcalls.dequeueSharedQueue (dequeue s).1)).join with
    | some dequeued => Queue.receive fuel (callback dequeued (dequeue s).2)
    | none => some (dequeue s).2

/-- One iteration of the loop: a dequeue and, on an item, the callback; `none`
when the loop stops at this dequeue. -/
def Queue.receiveStep (s : σ) : Option σ :=
  (checkConcern (Hostcalls.dequeueSharedQueue (dequeue s).1)).join.map fun item =>
    callback item (dequeue s).2

variable {dequeue callback}

/-- The loop is its iteration, repeated until an iteration stops it. -/
theorem receive_succ_step (fuel : Nat) (s : σ) :
    Queue.receive dequeue callback (fuel + 1) s =
      match Queue.receiveStep dequeue callback s with
      | some s' => Queue.receive dequeue callback fuel s'
      | none => some (dequeue s).2 := by
  simp only [Queue.receive, Queue.receiveStep]
  cases (checkConcern (Hostcalls.dequeueSharedQueue (dequeue s).1)).join <;> rfl

/-- **Step**: an item hands itself to the callback and the loop goes on. -/
theorem receive_succ_of_ok {s : σ} {item : Bytes} (h : (dequeue s).1 = (.ok, item)) (fuel : Nat) :
    Queue.receive dequeue callback (fuel + 1) s =
      Queue.receive dequeue callback fuel (callback item (dequeue s).2) := by
  simp [Queue.receive, h, Hostcalls.dequeueSharedQueue, checkConcern]

theorem dequeueSharedQueue_join {answer : Status × Bytes} (h : answer.1 ≠ .ok) :
    (checkConcern (Hostcalls.dequeueSharedQueue answer)).join = none := by
  obtain ⟨status, returned⟩ := answer
  cases status <;> first | exact absurd rfl h | rfl

/-- **Step**: any other answer, `Empty` or a failure, ends the loop. -/
theorem receive_succ_of_ne_ok {s : σ} (h : (dequeue s).1.1 ≠ .ok) (fuel : Nat) :
    Queue.receive dequeue callback (fuel + 1) s = some (dequeue s).2 := by
  simp only [Queue.receive, dequeueSharedQueue_join h]

end Receive

/-! ### Against the host of `queue.rs` -/

/-- The host's shared queues, each holding its items oldest first, together
with the plugin's root context data. -/
structure QueueWorld (ρ : Type) where
  queues : Map UInt32 (List Bytes)
  root : ρ

namespace QueueWorld

variable {ρ : Type}

/-- The host's side of `proxy_dequeue_shared_queue(queue)`: the oldest item,
taken off the queue, so that no other dequeue gets it. -/
def dequeue (queue : UInt32) (s : QueueWorld ρ) : (Status × Bytes) × QueueWorld ρ :=
  match s.queues queue with
  | none => ((.notFound, []), s)
  | some [] => ((.empty, []), s)
  | some (item :: rest) => ((.ok, item), { s with queues := s.queues.insert queue rest })

/-- The host's side of `proxy_enqueue_shared_queue(queue, value)`. -/
def enqueue (queue : UInt32) (value : Bytes) (s : QueueWorld ρ) : Status × QueueWorld ρ :=
  match s.queues queue with
  | none => (.notFound, s)
  | some items => (.ok, { s with queues := s.queues.insert queue (items ++ [value]) })

/-- What `on_receive` is for on a queue holding `items`: each item is taken
off the queue, oldest first, and handed to the callback once. -/
def deliver (callback : Bytes → QueueWorld ρ → QueueWorld ρ) (queue : UInt32) :
    List Bytes → QueueWorld ρ → QueueWorld ρ
  | [], s => s
  | item :: rest, s => deliver callback queue rest (callback item { s with queues := s.queues.insert queue rest })

end QueueWorld

section Fifo

variable {ρ : Type} {queue : UInt32} {callback : Bytes → QueueWorld ρ → QueueWorld ρ}

/-- **Run lemma**: on a queue holding `items`, with a callback that leaves the
queue alone, the loop makes `items.length + 1` dequeues and does what
`deliver` says; the queue ends empty. -/
theorem receive_drains (keeps : ∀ item s, (callback item s).queues queue = s.queues queue)
    (items : List Bytes) (s : QueueWorld ρ) (h : s.queues queue = some items) (fuel : Nat) :
    Queue.receive (QueueWorld.dequeue queue) callback fuel s =
        (if items.length < fuel then some (QueueWorld.deliver callback queue items s) else none) ∧
      (QueueWorld.deliver callback queue items s).queues queue = some [] := by
  induction items generalizing s fuel with
  | nil =>
    cases fuel with
    | zero => exact ⟨rfl, h⟩
    | succ fuel =>
      have hs : QueueWorld.dequeue queue s = ((.empty, []), s) := by simp [QueueWorld.dequeue, h]
      rw [receive_succ_of_ne_ok (by simp [hs]), hs]
      exact ⟨by simp [QueueWorld.deliver], h⟩
  | cons item rest ih =>
    have hs : QueueWorld.dequeue queue s = ((.ok, item), { s with queues := s.queues.insert queue rest }) := by
      simp [QueueWorld.dequeue, h]
    have hq : (callback item { s with queues := s.queues.insert queue rest }).queues queue = some rest := by
      simp [keeps]
    cases fuel with
    | zero => exact ⟨rfl, (ih _ hq 0).2⟩
    | succ fuel =>
      rw [receive_succ_of_ok (by rw [hs]), hs]
      simpa [QueueWorld.deliver] using ih _ hq fuel

/-- A callback that logs the items it gets, on queue `1` holding two items. -/
theorem receive_drains_log :
    Queue.receive (QueueWorld.dequeue 1)
        (fun item s => { s with root := s.root ++ [item] }) 3
        ⟨Map.empty.insert 1 [[0x61], [0x62]], []⟩ =
      (if 2 < 3 then some (QueueWorld.deliver (fun item s => { s with root := s.root ++ [item] }) 1
        [[0x61], [0x62]] ⟨Map.empty.insert 1 [[0x61], [0x62]], []⟩) else none) ∧
    (QueueWorld.deliver (fun item s => { s with root := s.root ++ [item] }) 1
        [[0x61], [0x62]] ⟨Map.empty.insert 1 [[0x61], [0x62]], []⟩).queues 1 = some [] :=
  @receive_drains (List Bytes) 1 (fun item s => { s with root := s.root ++ [item] }) (fun _ _ => rfl)
    [[0x61], [0x62]] _ rfl 3

example : (Queue.receive (QueueWorld.dequeue 1) (fun item s => { s with root := s.root ++ [item] }) 3
    ⟨Map.empty.insert 1 [[0x61], [0x62]], []⟩).map QueueWorld.root = some [[0x61], [0x62]] := rfl

/-- **A refilled queue**: if every callback run puts an item back on the queue,
a non-empty queue never runs dry and no fuel is enough for the loop to stop. -/
theorem receive_refilled
    (refills : ∀ item s, ∃ extra, (callback item s).queues queue = (s.queues queue).map (· ++ [extra]))
    (first : Bytes) (rest : List Bytes) (s : QueueWorld ρ) (h : s.queues queue = some (first :: rest))
    (fuel : Nat) :
    Queue.receive (QueueWorld.dequeue queue) callback fuel s = none := by
  induction fuel generalizing s first rest with
  | zero => rfl
  | succ fuel ih =>
    have hs : QueueWorld.dequeue queue s = ((.ok, first), { s with queues := s.queues.insert queue rest }) := by
      simp [QueueWorld.dequeue, h]
    rw [receive_succ_of_ok (by rw [hs]), hs]
    obtain ⟨extra, hextra⟩ := refills first { s with queues := s.queues.insert queue rest }
    obtain ⟨next, more, hnext⟩ := List.exists_cons_of_ne_nil (List.append_ne_nil_of_right_ne_nil rest
      (List.cons_ne_nil extra []))
    exact ih next more _ (by simp [hextra, hnext])

/-- A callback that echoes every item back onto queue `1`, which holds one item. -/
theorem receive_refilled_echo :
    (∀ item (s : QueueWorld Unit), ∃ extra,
      ((s.enqueue 1 item).2).queues 1 = (s.queues 1).map (· ++ [extra])) ∧
    ∀ fuel, Queue.receive (QueueWorld.dequeue 1) (fun item s => (s.enqueue 1 item).2) fuel
      ⟨Map.empty.insert 1 [[0x61]], ()⟩ = none := by
  have refills : ∀ item (s : QueueWorld Unit), ∃ extra,
      ((s.enqueue 1 item).2).queues 1 = (s.queues 1).map (· ++ [extra]) := fun item s =>
    ⟨item, by cases h : s.queues 1 <;> simp [QueueWorld.enqueue, h]⟩
  exact ⟨refills, receive_refilled refills [0x61] [] _ rfl⟩

end Fifo

end ProxySdk
