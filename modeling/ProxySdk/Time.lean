/-
ProxySdk/Time.lean

`std::time::Duration` as the SDK uses it, and the clock and tick host calls
(`get_current_time`, `set_tick_period` of `hostcalls.rs`; `now`,
`instant_now`, `set_tick_period` of `time.rs`).

A `Duration` carries its invariant, nanoseconds below one second, so that only
normalised values can be built; `Duration::new` normalises and panics when the
carry overflows the seconds (`Duration.new_spec`).  The clock conversions keep
every nanosecond the host reports (`Duration.asNanos_fromNanos`).

The host takes tick periods and timeouts as a `u32` of milliseconds, and the
SDK sends `period.as_millis() as u32`.  The doc of `set_tick_period` says to use
`Duration::ZERO` to disable the ticker, but the period sent is `0`, which
disables it, exactly when the whole milliseconds are a multiple of `2³²`: every
nonzero period under one millisecond, and one of `2³²` ms, disable it as well
(`setTickPeriod_disables`).
-/
import ProxySdk.Basic

namespace ProxySdk

/-- `std::time::Duration`: whole seconds (a `u64`) and the nanoseconds below
one second. -/
@[ext] structure Duration where
  secs : Nat
  nanos : Nat
  secs_lt : secs < 2 ^ 64
  nanos_lt : nanos < 1000000000

namespace Duration

/-- `Duration::as_nanos`. -/
def asNanos (d : Duration) : Nat := d.secs * 1000000000 + d.nanos

/-- `Duration::as_millis`: whole milliseconds, the sub-millisecond rest dropped. -/
def asMillis (d : Duration) : Nat := d.secs * 1000 + d.nanos / 1000000

/-- `d.as_millis() as u32`, the form the host takes periods and timeouts in. -/
def millisU32 (d : Duration) : Nat := d.asMillis % 2 ^ 32

/-- `Duration::from_nanos`. -/
def fromNanos (nanos : UInt64) : Duration :=
  ⟨nanos.toNat / 1000000000, nanos.toNat % 1000000000,
    Nat.lt_of_le_of_lt (Nat.div_le_self _ _) nanos.toBitVec.isLt, Nat.mod_lt _ (by decide)⟩

/-- `Duration::from_secs`. -/
def fromSecs (secs : UInt64) : Duration := ⟨secs.toNat, 0, secs.toBitVec.isLt, by decide⟩

/-- `Duration::new`: nanoseconds past one second carry into the seconds, and
a carry that overflows the `u64` panics. -/
def new (secs : UInt64) (nanos : UInt32) : Except Panic Duration :=
  if h : nanos.toNat < 1000000000 then .ok ⟨secs.toNat, nanos.toNat, secs.toBitVec.isLt, h⟩
  else if hs : secs.toNat + nanos.toNat / 1000000000 < 2 ^ 64 then
    .ok ⟨secs.toNat + nanos.toNat / 1000000000, nanos.toNat % 1000000000, hs,
      Nat.mod_lt _ (by decide)⟩
  else .error .overflow

/-- A reading of the clock in nanoseconds survives the conversion whole. -/
@[simp] theorem asNanos_fromNanos (nanos : UInt64) : (fromNanos nanos).asNanos = nanos.toNat := by
  simp only [asNanos, fromNanos]
  omega

/-- **`Duration::new`** is the duration of `secs` seconds and `nanos`
nanoseconds, and panics exactly when its seconds do not fit a `u64`. -/
theorem new_spec (secs : UInt64) (nanos : UInt32) :
    (∃ d, new secs nanos = .ok d ∧ d.asNanos = secs.toNat * 1000000000 + nanos.toNat) ∨
      (new secs nanos = .error .overflow ∧ 2 ^ 64 ≤ secs.toNat + nanos.toNat / 1000000000) := by
  unfold new
  split
  · exact .inl ⟨_, rfl, rfl⟩
  · split
    · refine .inl ⟨_, rfl, ?_⟩
      simp only [asNanos]
      omega
    · exact .inr ⟨rfl, by omega⟩

end Duration

/-! ### The host calls -/

/-- The clock and tick host calls, with the arguments they pass. -/
inductive TimeCall where
  /-- `proxy_get_current_time_nanoseconds()`. -/
  | getCurrentTimeNanoseconds
  /-- `proxy_set_tick_period_milliseconds(period)`, a `u32`. -/
  | setTickPeriodMilliseconds (period : Nat)
  deriving DecidableEq, Repr

/-- `hostcalls::get_current_time`: `UNIX_EPOCH + Duration::from_nanos(return_time)`,
kept as the duration since the epoch. -/
def Hostcalls.getCurrentTime (status : Status) (returnTime : UInt64) :
    TimeCall × Except Status Duration :=
  (.getCurrentTimeNanoseconds, valueResult status (Duration.fromNanos returnTime))

/-- `hostcalls::set_tick_period`: `period.as_millis() as u32`. -/
def Hostcalls.setTickPeriod (period : Duration) (status : Status) : TimeCall × Except Status Unit :=
  (.setTickPeriodMilliseconds period.millisU32, statusResult status)

/-- `time::now`: `none` is the panic of its `expect`. -/
def now (status : Status) (returnTime : UInt64) : TimeCall × Option Duration :=
  let (call, result) := Hostcalls.getCurrentTime status returnTime
  (call, (checkConcernAt "now" result).1)

/-- `time::instant_now` on `wasm32`: the monotonic clock's nanoseconds split into
whole seconds and the rest, once `clock_time_get` has answered. -/
def instantNow (rawNs : UInt64) : Duration := Duration.fromNanos rawNs

/-- `time::set_tick_period`: a failure is only logged. -/
def setTickPeriod (period : Duration) (status : Status) : TimeCall × Option Concern :=
  let (call, result) := Hostcalls.setTickPeriod period status
  (call, (logConcernAt "set-tick-period" result).2)

/-- **Which periods disable the ticker**: the period sent is `0` exactly when
the whole milliseconds of `period` are a multiple of `2³²`, so every period under
one millisecond disables the ticker; otherwise the host gets the whole
milliseconds modulo `2³²`. -/
theorem setTickPeriod_disables (period : Duration) (status : Status) :
    ((setTickPeriod period status).1 = .setTickPeriodMilliseconds 0 ↔ 2 ^ 32 ∣ period.asMillis) ∧
      (period.secs = 0 → period.nanos < 1000000 →
        (setTickPeriod period status).1 = .setTickPeriodMilliseconds 0) := by
  refine ⟨?_, fun hs hn => ?_⟩
  · simp [setTickPeriod, Hostcalls.setTickPeriod, Duration.millisU32, Nat.dvd_iff_mod_eq_zero]
  · simp only [setTickPeriod, Hostcalls.setTickPeriod, Duration.millisU32, Duration.asMillis, hs,
      Nat.div_eq_of_lt hn]
    rfl

example : (setTickPeriod ⟨0, 500000, by decide, by decide⟩ .ok).1 =
    .setTickPeriodMilliseconds 0 := rfl

example : (setTickPeriod (Duration.fromSecs 4294968) .ok).1 = .setTickPeriodMilliseconds 704 := by
  decide

end ProxySdk
