/-
ProxySdk/SharedData.lean

`SharedData` (`shared_data.rs`) and the host calls behind it
(`get_shared_data`, `set_shared_data` of `hostcalls.rs`).

The ABI passes "no CAS" as the number `0`: `get_shared_data` reads a returned
CAS of `0` as `None`, and `set_shared_data` sends `cas.unwrap_or(0)`, so
`SharedData::set` (documented as unconditional) sends `0`.  Two things follow.
`set_with_cas(value, 0)` makes the very call `set(value)` makes, an
unconditional set, although no `get_with_cas` ever returned the CAS `0`
(`setWithCas_zero`).  And `set_with_cas` answers `false` both on a CAS
mismatch and on any other failure; only the latter is logged
(`setWithCas_result`).  A CAS that `get_with_cas` hands out is the host's
nonzero number from a successful read, and `set_with_cas` sends it back
unchanged (`getWithCas_cas`).
-/
import ProxySdk.Hostcalls.Utils

namespace ProxySdk

/-- The shared-data host calls, with the arguments they pass. -/
inductive SharedDataCall where
  /-- `proxy_get_shared_data(key)`. -/
  | get (key : Bytes)
  /-- `proxy_set_shared_data(key, value, cas)`; `none` is the null pointer of `None`. -/
  | set (key : Bytes) (value : Option Bytes) (cas : UInt32)
  deriving DecidableEq, Repr

/-! ### The host calls -/

/-- `hostcalls::get_shared_data`: the call, and the value (`none` for a null
pointer) and CAS (`none` for `0`) from the host's `status`, `returned` buffer
and `returnCas`. -/
def Hostcalls.getSharedData (key : RustString) (status : Status) (returned : Option Bytes)
    (returnCas : UInt32) : SharedDataCall × Except Status (Option Bytes × Option UInt32) :=
  (.get key.bytes,
    match status with
    | .ok => .ok (returned, if returnCas = 0 then none else some returnCas)
    | .notFound => .ok (none, none)
    | e => .error e)

/-- `hostcalls::set_shared_data`: `None` as the CAS is sent as `0`. -/
def Hostcalls.setSharedData (key : RustString) (value : Option Bytes) (cas : Option UInt32)
    (status : Status) : SharedDataCall × Except Status Unit :=
  (.set key.bytes value (cas.getD 0), statusResult status)

/-! ### `SharedData` -/

namespace SharedData

variable (key : RustString)

/-- `SharedData::get`: the value without its CAS; a failure is logged and read as `None`. -/
def get (status : Status) (returned : Option Bytes) (returnCas : UInt32) :
    SharedDataCall × Option Bytes × Option Concern :=
  let (call, result) := Hostcalls.getSharedData key status returned returnCas
  let (value, concern) := checkConcernAt "shared-data-get" result
  (call, value.bind Prod.fst, concern)

/-- `SharedData::get_with_cas`: a failure is logged and read as `(None, None)`. -/
def getWithCas (status : Status) (returned : Option Bytes) (returnCas : UInt32) :
    SharedDataCall × (Option Bytes × Option UInt32) × Option Concern :=
  let (call, result) := Hostcalls.getSharedData key status returned returnCas
  let (value, concern) := checkConcernAt "shared-data-get-cas" result
  (call, value.getD (none, none), concern)

/-- `SharedData::set`: the result is only logged. -/
def set (value : Bytes) (status : Status) : SharedDataCall × Option Concern :=
  let (call, result) := Hostcalls.setSharedData key (some value) none status
  (call, (checkConcernAt "shared-data-set-casless" result).2)

/-- `SharedData::set_with_cas`: `true` on success; a CAS mismatch is `false`,
and so is any other failure, which is logged. -/
def setWithCas (value : Bytes) (cas : UInt32) (status : Status) :
    SharedDataCall × Bool × Option Concern :=
  let (call, result) := Hostcalls.setSharedData key (some value) (some cas) status
  (call,
    match result with
    | .ok () => (true, none)
    | .error .casMismatch => (false, none)
    | .error e => (false, (checkConcernAt "shared-data-set-cas" (.error e : Except Status Unit)).2))

end SharedData

/-! ### The CAS -/

section Cas

variable {key : RustString} {value : Bytes} {status : Status}

/-- **`set_with_cas(value, 0)` is `set(value)`**: it makes the same host call, the
unconditional one; and it answers `true` exactly when that call succeeds. -/
theorem setWithCas_zero :
    (SharedData.setWithCas key value 0 status).1 = (SharedData.set key value status).1 ∧
      (SharedData.set key value status).1 = .set key.bytes (some value) 0 ∧
      ((SharedData.setWithCas key value 0 status).2.1 = true ↔ status = .ok) := by
  refine ⟨rfl, rfl, ?_⟩
  cases status <;> simp [SharedData.setWithCas, Hostcalls.setSharedData, statusResult]

/-- **What `set_with_cas` reports**: `true` exactly on success; `false` on a CAS
mismatch, silently, and on every other failure, with the warning
`shared-data-set-cas`. -/
theorem setWithCas_result (cas : UInt32) :
    ((SharedData.setWithCas key value cas status).2.1 = true ↔ status = .ok) ∧
      (SharedData.setWithCas key value cas status).2.2 =
        if status = .ok ∨ status = .casMismatch then none
        else some ⟨"shared-data-set-cas", status⟩ := by
  cases status <;> simp [SharedData.setWithCas, Hostcalls.setSharedData, statusResult, checkConcernAt]

/-- **A CAS from `get_with_cas` is never `0`**: it is the host's CAS of a
successful get, when that is not `0`; so `set_with_cas` with it sends a real CAS.
A failed get reads as `(None, None)`, as a key never set does, and is logged. -/
theorem getWithCas_cas {returned : Option Bytes} {returnCas cas : UInt32}
    (h : (SharedData.getWithCas key status returned returnCas).2.1.2 = some cas)
    (setStatus : Status) :
    status = .ok ∧ returnCas = cas ∧ cas ≠ 0 ∧
      (SharedData.setWithCas key value cas setStatus).1 = .set key.bytes (some value) cas := by
  cases status <;> simp [SharedData.getWithCas, Hostcalls.getSharedData, checkConcernAt] at h
  obtain ⟨h0, rfl⟩ := h
  exact ⟨rfl, rfl, h0, rfl⟩

end Cas

end ProxySdk
