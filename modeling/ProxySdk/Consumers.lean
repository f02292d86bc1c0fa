/-
ProxySdk/Consumers.lean

Several VMs on one shared queue.  `queue.rs` describes a shared queue as a FIFO
MPMC queue with no message duplication: any VM may dequeue, and an item goes to
one dequeue only.  Each VM that registered `Queue::on_receive` runs the loop of
`Queue.receive` in its own `on_queue_ready`, and the host interleaves the
dequeues of the VMs with the producers' enqueues in any order.

The state is the host's queues with a ghost record of one queue: every item
enqueued on it, and every delivery, the VM whose callback got it and the item.
An event is a producer's `Queue::enqueue`, or one iteration of one VM's loop,
the body of `Queue.receive` (`receive_succ_step`).  Over any interleaving, what
the callbacks got, in the order they got it, followed by what is still queued,
is exactly what was enqueued; so no item is lost or delivered twice, and each
VM gets its items in the order they were enqueued (`consumers_safe`).  The loop
of one VM, run until it stops, is one such interleaving (`receive_run`).
-/
import ProxySdk.Queue

namespace ProxySdk

/-- The ghost record of a queue: every item enqueued on it, and every delivery,
the VM whose callback got it and the item. -/
structure Deliveries where
  sent : List Bytes
  got : List (Nat × Bytes)

namespace Consumers

/-- The callback of VM `vm`'s loop, as the ghost record sees it. -/
def deliverTo (vm : Nat) (item : Bytes) (s : QueueWorld Deliveries) : QueueWorld Deliveries :=
  { s with root := { s.root with got := s.root.got ++ [(vm, item)] } }

/-- An event of the system. -/
inductive Event where
  /-- A producer's `Queue::enqueue(item)`. -/
  | enqueue (item : Bytes)
  /-- One iteration of VM `vm`'s `on_receive` loop; once the loop has stopped,
  the dequeue that stopped it. -/
  | receive (vm : Nat)

variable (queue : UInt32)

/-- What an event does to the host's queues and the ghost record of `queue`. -/
def step (s : QueueWorld Deliveries) : Event → QueueWorld Deliveries
  | .enqueue item =>
    match s.enqueue queue item with
    | (.ok, s') => { s' with root := { s'.root with sent := s'.root.sent ++ [item] } }
    | (_, s') => s'
  | .receive vm =>
    (Queue.receiveStep (QueueWorld.dequeue queue) (deliverTo vm) s).getD (QueueWorld.dequeue queue s).2

/-- An interleaving of events. -/
def run : QueueWorld Deliveries → List Event → QueueWorld Deliveries := List.foldl (step queue)

/-- The invariant: the queue exists, and the items delivered so far, in their
order, followed by those still queued, are the items enqueued. -/
def Inv (s : QueueWorld Deliveries) : Prop :=
  ∃ items, s.queues queue = some items ∧ s.root.got.map Prod.snd ++ items = s.root.sent

variable {queue}

theorem step_enqueue {s : QueueWorld Deliveries} {items : List Bytes}
    (h : s.queues queue = some items) (item : Bytes) :
    step queue s (.enqueue item) =
      { queues := s.queues.insert queue (items ++ [item]),
        root := { s.root with sent := s.root.sent ++ [item] } } := by
  simp [step, QueueWorld.enqueue, h]

theorem step_receive_nil {s : QueueWorld Deliveries} (h : s.queues queue = some []) (vm : Nat) :
    step queue s (.receive vm) = s := by
  simp [step, Queue.receiveStep, QueueWorld.dequeue, h, Hostcalls.dequeueSharedQueue, checkConcern]

theorem step_receive_cons {s : QueueWorld Deliveries} {item : Bytes} {rest : List Bytes}
    (h : s.queues queue = some (item :: rest)) (vm : Nat) :
    step queue s (.receive vm) =
      { queues := s.queues.insert queue rest,
        root := { s.root with got := s.root.got ++ [(vm, item)] } } := by
  simp [step, Queue.receiveStep, QueueWorld.dequeue, h, Hostcalls.dequeueSharedQueue, checkConcern,
    deliverTo]

/-- **Step lemma**: every event keeps the invariant. -/
theorem step_inv {s : QueueWorld Deliveries} (h : Inv queue s) (event : Event) :
    Inv queue (step queue s event) := by
  obtain ⟨items, hq, hsent⟩ := h
  cases event with
  | enqueue item =>
    rw [step_enqueue hq]
    exact ⟨items ++ [item], by simp, by simp [← hsent]⟩
  | receive vm =>
    cases items with
    | nil => rw [step_receive_nil hq]; exact ⟨[], hq, hsent⟩
    | cons item rest =>
      rw [step_receive_cons hq]
      exact ⟨rest, by simp, by simp [← hsent]⟩

/-- **Run lemma**: every interleaving keeps the invariant. -/
theorem run_inv (events : List Event) {s : QueueWorld Deliveries} (h : Inv queue s) :
    Inv queue (run queue s events) := by
  induction events generalizing s with
  | nil => exact h
  | cons event events ih => exact ih (step_inv h event)

/-- **No item lost or delivered twice, over any interleaving**: from a state
where the deliveries so far, then the queue, are what was enqueued, any
interleaving of enqueues and loop iterations keeps it so; each VM's callbacks
get their items in the order they were enqueued. -/
theorem consumers_safe (queue : UInt32) (events : List Event) (s : QueueWorld Deliveries)
    (h : Inv queue s) :
    Inv queue (run queue s events) ∧
      ∀ vm, (((run queue s events).root.got.filter fun d => d.1 = vm).map Prod.snd).Sublist
        (run queue s events).root.sent := by
  refine ⟨run_inv events h, fun vm => ?_⟩
  obtain ⟨items, -, hsent⟩ := run_inv events h
  rw [← hsent]
  exact ((List.filter_sublist _).map _).trans (List.sublist_append_left _ _)

theorem consumers_safe_two_vms :
    Inv 1 ⟨Map.empty.insert 1 [[0x61]], ⟨[[0x61]], []⟩⟩ ∧
      (Inv 1 (run 1 ⟨Map.empty.insert 1 [[0x61]], ⟨[[0x61]], []⟩⟩
          [.receive 0, .enqueue [0x62], .receive 1, .receive 0]) ∧
        ∀ vm, (((run 1 ⟨Map.empty.insert 1 [[0x61]], ⟨[[0x61]], []⟩⟩
            [.receive 0, .enqueue [0x62], .receive 1, .receive 0]).root.got.filter fun d => d.1 = vm).map
              Prod.snd).Sublist
          (run 1 ⟨Map.empty.insert 1 [[0x61]], ⟨[[0x61]], []⟩⟩
            [.receive 0, .enqueue [0x62], .receive 1, .receive 0]).root.sent) :=
  ⟨⟨_, rfl, rfl⟩, consumers_safe 1 _ _ ⟨_, rfl, rfl⟩⟩

/-- **The loop of one VM is an interleaving**: whenever the loop of VM `vm`
stops, it stops in the state a run of its own iterations reaches. -/
theorem receive_run (queue : UInt32) (vm fuel : Nat) (s s' : QueueWorld Deliveries)
    (h : Queue.receive (QueueWorld.dequeue queue) (deliverTo vm) fuel s = some s') :
    ∃ n, run queue s (List.replicate n (.receive vm)) = s' := by
  induction fuel generalizing s with
  | zero => cases h
  | succ fuel ih =>
    rw [receive_succ_step] at h
    cases hstep : Queue.receiveStep (QueueWorld.dequeue queue) (deliverTo vm) s with
    | none =>
      rw [hstep] at h
      cases h
      exact ⟨1, by simp [run, step, hstep]⟩
    | some s₁ =>
      rw [hstep] at h
      obtain ⟨n, hn⟩ := ih s₁ h
      exact ⟨n + 1, by simpa [run, List.replicate_succ, step, hstep] using hn⟩

theorem receive_run_two_items :
    ∃ s', Queue.receive (QueueWorld.dequeue 1) (deliverTo 0) 3
        ⟨Map.empty.insert 1 [[0x61], [0x62]], ⟨[[0x61], [0x62]], []⟩⟩ = some s' ∧
      ∃ n, run 1 ⟨Map.empty.insert 1 [[0x61], [0x62]], ⟨[[0x61], [0x62]], []⟩⟩
        (List.replicate n (.receive 0)) = s' :=
  ⟨_, rfl, receive_run 1 0 3 _ _ rfl⟩

end Consumers

end ProxySdk
