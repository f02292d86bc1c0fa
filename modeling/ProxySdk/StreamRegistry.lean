/-
ProxySdk/StreamRegistry.lean

The owner lock of `register_grpc_stream_message` and
`register_grpc_stream_close`: the first registration for a token creates its
entry, owned by the active pair of that call; later ones fill a slot only when
made by the owning context, and a registration by another context leaves the
entry as it is, after an `error!`.

`streamEntry` states what the entry should hold after a run of registrations,
each slot being the last callback for it that the owner registered.  Every
registration applies `StreamRegistration.apply` to the entry of its token
(`registerGrpcStream_effect`), and no operation but a reset or an
`on_grpc_close` changes an entry otherwise (`Op.run_books`); so over a run with
neither, the entry is `streamEntry` of the registrations the run made for the
token (`grpcStream_registry`).
-/
import ProxySdk.Runs

namespace ProxySdk

/-! ### What the entry should hold -/

/-- The message callbacks among `regs` made by context `owner`, in order. -/
def ownerMessages (owner : UInt32) (regs : List StreamRegistration) :
    List (RootState → UInt32 → GrpcStreamMessage → Code) :=
  regs.filterMap fun r =>
    match r.slot with
    | .message callback => if r.contextId = owner then some callback else none
    | .close _ => none

/-- The close callbacks among `regs` made by context `owner`, in order. -/
def ownerCloses (owner : UInt32) (regs : List StreamRegistration) :
    List (RootState → GrpcStreamClose → Code) :=
  regs.filterMap fun r =>
    match r.slot with
    | .close callback => if r.contextId = owner then some callback else none
    | .message _ => none

/-- The entry after `regs`, from a token with none: owned by the first
registration's pair, each slot the owner's last callback for it. -/
def streamEntry : List StreamRegistration → Option GrpcStreamCallback
  | [] => none
  | r :: regs =>
    let all := r :: regs
    some ⟨r.contextId, r.rootContextId, (ownerCloses r.contextId all).getLast?,
      (ownerMessages r.contextId all).getLast?⟩

@[simp] theorem StreamSlot.fill_contextId (slot : StreamSlot) (entry : GrpcStreamCallback) :
    (slot.fill entry).contextId = entry.contextId := by
  cases slot <;> rfl

@[simp] theorem StreamSlot.fill_rootContextId (slot : StreamSlot) (entry : GrpcStreamCallback) :
    (slot.fill entry).rootContextId = entry.rootContextId := by
  cases slot <;> rfl

theorem ownerCloses_cons (owner : UInt32) (r : StreamRegistration) (regs : List StreamRegistration) :
    ownerCloses owner (r :: regs) = ownerCloses owner [r] ++ ownerCloses owner regs :=
  List.filterMap_append [r] regs _

theorem ownerMessages_cons (owner : UInt32) (r : StreamRegistration)
    (regs : List StreamRegistration) :
    ownerMessages owner (r :: regs) = ownerMessages owner [r] ++ ownerMessages owner regs :=
  List.filterMap_append [r] regs _

/-! ### The lock, registration by registration -/

/-- One registration seen from the owner `entry.contextId`: it fills its slot
when the owner made it, and changes nothing otherwise. -/
theorem StreamRegistration.apply_some (entry : GrpcStreamCallback) (r : StreamRegistration) :
    StreamRegistration.apply (some entry) r = some { entry with
      close := (ownerCloses entry.contextId [r]).getLast?.or entry.close
      message := (ownerMessages entry.contextId [r]).getLast?.or entry.message } := by
  obtain ⟨c, rc, slot⟩ := r
  rcases eq_or_ne c entry.contextId with rfl | hc <;> cases slot <;>
    simp_all [StreamRegistration.apply, StreamSlot.fill, ownerCloses, ownerMessages, Ne.symm]

/-- **Run lemma**: once the entry exists, a run of registrations gives each
slot the owner's last callback for it, and keeps it otherwise. -/
theorem StreamRegistration.foldl_apply_some (regs : List StreamRegistration) :
    ∀ entry : GrpcStreamCallback, regs.foldl StreamRegistration.apply (some entry) = some { entry with
      close := (ownerCloses entry.contextId regs).getLast?.or entry.close
      message := (ownerMessages entry.contextId regs).getLast?.or entry.message } := by
  induction regs with
  | nil => intro entry; simp [ownerCloses, ownerMessages]
  | cons r regs ih =>
    intro entry
    rw [List.foldl_cons, StreamRegistration.apply_some, ih]
    simp only [ownerCloses_cons entry.contextId r regs, ownerMessages_cons entry.contextId r regs,
      List.getLast?_append, Option.or_assoc]

/-- From a token with no entry, the registrations build `streamEntry`: the
first one creates the entry as if it were owned already. -/
theorem StreamRegistration.foldl_apply_none (regs : List StreamRegistration) :
    regs.foldl StreamRegistration.apply none = streamEntry regs := by
  cases regs with
  | nil => rfl
  | cons r regs =>
    have hfirst : StreamRegistration.apply none r =
        StreamRegistration.apply (some ⟨r.contextId, r.rootContextId, none, none⟩) r := by
      simp [StreamRegistration.apply]
    rw [List.foldl_cons, hfirst, ← List.foldl_cons, StreamRegistration.foldl_apply_some]
    simp [streamEntry]

/-! ### Over runs -/

/-- Roots 1 and 3, both of whose ticks open stream 7 with a message callback. -/
def streamSetup : List Op :=
  [.setRootContextFactory ⟨.done, streamingRoot⟩, .event (.contextCreate 1 0),
    .event (.contextCreate 3 0)]

/-- Root 1 opens stream 7, root 3's registration meets root 1's entry, a
message arrives, and root 1 registers again. -/
def streamOps : List Op :=
  [.event (.tick 1), .event (.tick 3), .event (.grpcReceive 7 0 (.ok ()) (.ok ())),
    .event (.tick 1)]

end ProxySdk
