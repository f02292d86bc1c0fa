/-
ProxySdk/Logger.lean

The logging of `logger.rs`: `set_log_level` and the `Logger` it installs, and
what a `log` macro call (`warn!`, `debug!`, `error!`) does once it reaches
`Logger::log`: a record no more verbose than `log::max_level()` goes to the
host as `proxy_log`, and the `unwrap` on the host's answer panics when the host
refuses it.

`set_log_level` installs the logger and the panic hook the first time only,
guarded by `INITIALIZED`, so `set_logger(..).unwrap()` runs once and never
panics, however often the level is set; afterwards a record reaches the host
exactly when it is no more verbose than the last level set, at the host's level
of the same name (`setLogLevel_run`).

Design.  The host's answers to `proxy_log` are part of the state code runs in:
the answers still to come, in order, one taken by each call made, so a
statement over every state is one over every sequence of answers.  Code outside
the dispatcher that logs runs in `Logged`, a state monad over the logger state,
those answers and the calls made; the dispatcher keeps the same state in its
`World` (`Dispatcher/State.lean`).  Both go through `Logger.emit`.
-/
import ProxySdk.Basic
import Mathlib.Data.List.Basic

namespace ProxySdk

/-- `log::Level`. -/
inductive Level where
  | error
  | warn
  | info
  | debug
  | trace
  deriving DecidableEq, Repr

/-- `log::LevelFilter`. -/
inductive LevelFilter where
  | off
  | error
  | warn
  | info
  | debug
  | trace
  deriving DecidableEq, Repr

/-- `LogLevel` (`hostcalls.rs`), the host's levels. -/
inductive LogLevel where
  | trace
  | debug
  | info
  | warn
  | error
  | critical
  deriving DecidableEq, Repr

/-- The `usize` a `Level` is compared as: `Error` is `1`, `Trace` is `5`. -/
def Level.rank : Level → Nat
  | .error => 1 | .warn => 2 | .info => 3 | .debug => 4 | .trace => 5

/-- The `usize` a `LevelFilter` is compared as: `Off` is `0`. -/
def LevelFilter.rank : LevelFilter → Nat
  | .off => 0 | .error => 1 | .warn => 2 | .info => 3 | .debug => 4 | .trace => 5

/-- `Level::to_level_filter`. -/
def Level.toLevelFilter : Level → LevelFilter
  | .error => .error | .warn => .warn | .info => .info | .debug => .debug | .trace => .trace

/-- `From<Level> for LogLevel`. -/
def LogLevel.ofLevel : Level → LogLevel
  | .error => .error | .warn => .warn | .info => .info | .debug => .debug | .trace => .trace

/-- `From<LogLevel> for LevelFilter`: the host's `Critical` is `Off`. -/
def LevelFilter.ofLogLevel : LogLevel → LevelFilter
  | .trace => .trace | .debug => .debug | .info => .info | .warn => .warn | .error => .error
  | .critical => .off

/-- The logging state: `INITIALIZED`, whether the `log` crate has a logger, and
`log::max_level()` (`Off` until set). -/
structure LoggerState where
  initialized : Bool
  loggerSet : Bool
  maxLevel : LevelFilter
  deriving DecidableEq, Repr

/-- A fresh instance. -/
def LoggerState.init : LoggerState := ⟨false, false, .off⟩

/-- `set_log_level`: the logger and the panic hook are installed on the first
call; `none` is the panic of `set_logger(..).unwrap()` when a logger is already
set.  The max level becomes `LevelFilter::from(LogLevel::from(level))`. -/
def setLogLevel (level : Level) (s : LoggerState) : Option LoggerState := do
  let s ← if !s.initialized then
      if s.loggerSet then none else some { s with initialized := true, loggerSet := true }
    else some s
  some { s with maxLevel := LevelFilter.ofLogLevel (LogLevel.ofLevel level) }

/-- `Logger::log` behind the `log` macros: a record of `level` goes to the host
as `proxy_log(LogLevel::from(level), ..)` when a logger is set and
`level <= log::max_level()`.  The host call made, if any, and whether the
`unwrap` of its result panicked, which it does when the host refuses the log. -/
def Logger.log (s : LoggerState) (level : Level) (status : Status) : Option LogLevel × Bool :=
  if s.loggerSet && decide (level.rank ≤ s.maxLevel.rank) then (some (LogLevel.ofLevel level), status != .ok)
  else (none, false)

/-- The panic hook `set_log_level` installs: a panic is logged at `Critical`,
and a refused log panics again inside the hook.  Before the first
`set_log_level` the default hook runs, which reaches no host call. -/
def panicHook (s : LoggerState) (status : Status) : Option LogLevel × Bool :=
  if s.initialized then (some .critical, status != .ok) else (none, false)

@[simp] theorem ofLogLevel_ofLevel (level : Level) :
    LevelFilter.ofLogLevel (LogLevel.ofLevel level) = level.toLevelFilter := by
  cases level <;> rfl

theorem setLogLevel_of_initialized {s : LoggerState} (h : s.initialized = true) (level : Level) :
    setLogLevel level s = some { s with maxLevel := level.toLevelFilter } := by
  simp [setLogLevel, h]

/-- Once initialised, a run of `set_log_level` calls only moves the max level,
to that of the last call. -/
theorem foldlM_setLogLevel_of_initialized (levels : List Level) {s : LoggerState}
    (h : s.initialized = true) :
    levels.foldlM (fun s level => setLogLevel level s) s =
      some { s with maxLevel := (levels.getLast?.map Level.toLevelFilter).getD s.maxLevel } := by
  induction levels generalizing s with
  | nil => rfl
  | cons level levels ih =>
    rw [List.foldlM_cons, setLogLevel_of_initialized h, Option.bind_eq_bind, Option.some_bind,
      ih (s := { s with maxLevel := level.toLevelFilter }) h]
    cases levels <;> simp [List.getLast?_eq_getLast]

/-- **Setting the level, any number of times**: from a fresh instance, no
`set_log_level` panics, and afterwards a panic is logged at `Critical`, and a
record reaches the host exactly when it is no more verbose than the last level
set, at the host level of the same name; a log the host refuses panics. -/
theorem setLogLevel_run (first : Level) (later : List Level) :
    ∃ s, (first :: later).foldlM (fun s level => setLogLevel level s) LoggerState.init = some s ∧
      (∀ status, panicHook s status = (some .critical, status != .ok)) ∧
      ∀ level status, Logger.log s level status =
        if level.rank ≤ ((first :: later).getLast (List.cons_ne_nil _ _)).toLevelFilter.rank
        then (some (LogLevel.ofLevel level), status != .ok) else (none, false) := by
  have first_call : setLogLevel first LoggerState.init = some ⟨true, true, first.toLevelFilter⟩ := by
    simp [setLogLevel, LoggerState.init]
  rw [List.foldlM_cons, first_call, Option.bind_eq_bind, Option.some_bind,
    foldlM_setLogLevel_of_initialized later rfl]
  refine ⟨_, rfl, fun _ => rfl, fun level status => ?_⟩
  cases later <;> simp [Logger.log, List.getLast?_eq_getLast]

/-! ### One log macro call -/

/-- A call `proxy_log(level, message)` the host receives. -/
structure LogCall where
  level : LogLevel
  message : String
  deriving DecidableEq, Repr

/-- A `log` macro call at `level` through `Logger::log`, given the host's
answer to `proxy_log` if it is asked: nothing when the record is filtered out,
the call when the host accepts it, and the panic of the `unwrap` when the host
refuses it. -/
def Logger.emit (s : LoggerState) (level : Level) (message : String) (answer : Status) :
    Except Panic (Option LogCall) :=
  match Logger.log s level answer with
  | (some hostLevel, false) => .ok (some ⟨hostLevel, message⟩)
  | (some _, true) => .error .logRefused
  | (none, _) => .ok none

/-- Whether a record of `level` reaches the host. -/
def LoggerState.enabled (s : LoggerState) (level : Level) : Bool :=
  s.loggerSet && decide (level.rank ≤ s.maxLevel.rank)

theorem Logger.emit_of_enabled {s : LoggerState} {level : Level} (h : s.enabled level = true)
    (message : String) (answer : Status) :
    Logger.emit s level message answer =
      if answer = .ok then .ok (some ⟨LogLevel.ofLevel level, message⟩) else .error .logRefused := by
  simp only [LoggerState.enabled] at h
  unfold Logger.emit Logger.log
  rw [if_pos h]
  cases answer <;> rfl

theorem Logger.emit_of_disabled {s : LoggerState} {level : Level} (h : s.enabled level = false)
    (message : String) (answer : Status) : Logger.emit s level message answer = .ok none := by
  simp only [LoggerState.enabled] at h
  simp [Logger.emit, Logger.log, h]

/-- A fresh instance logs nothing: no logger is set before `set_log_level`. -/
@[simp] theorem LoggerState.enabled_init (level : Level) : LoggerState.init.enabled level = false :=
  rfl

/-! ### Code that logs -/

/-- The logging side of an instance, for code outside the dispatcher: the
logger state, the host's answers to the `proxy_log` calls still to come (an
exhausted list answers `Ok`), and the calls made, newest first. -/
structure LogHost where
  logger : LoggerState
  answers : List Status
  sent : List LogCall

/-- Code that may log. -/
abbrev Logged (α : Type) := StateT LogHost (Except Panic) α

/-- A `log` macro call at `level`. -/
def Logged.log (level : Level) (message : String) : Logged Unit := fun h =>
  match Logger.emit h.logger level message (h.answers.headD .ok) with
  | .error p => .error p
  | .ok none => .ok ((), h)
  | .ok (some call) => .ok ((), { h with answers := h.answers.tail, sent := call :: h.sent })

/-- The warning `[concern-{context}] {e:?}` of `log_concern` and `check_concern`. -/
def concernMessage (context : String) (e : Status) : String :=
  "[concern-" ++ context ++ "] " ++ e.debug

/-- `log_concern(context, result)`: the value, or `T::default()` once the error
is logged as a warning. -/
def Logged.logConcern {α : Type} [Inhabited α] (context : String) : Except Status α → Logged α
  | .ok x => pure x
  | .error e => do Logged.log .warn (concernMessage context e); pure default

/-- Logging leaves the logger state as it is. -/
theorem Logged.log_logger {level : Level} {message : String} {h h' : LogHost} {u : Unit}
    (hl : Logged.log level message h = .ok (u, h')) : h'.logger = h.logger := by
  unfold Logged.log at hl
  split at hl <;> cases hl <;> rfl

/-- A record that is filtered out changes nothing. -/
theorem Logged.log_of_disabled {level : Level} {h : LogHost} (hd : h.logger.enabled level = false)
    (message : String) : Logged.log level message h = .ok ((), h) := by
  simp [Logged.log, Logger.emit_of_disabled hd]

/-- An enabled record is sent when the host accepts it, and panics otherwise. -/
theorem Logged.log_of_enabled {level : Level} {h : LogHost} (he : h.logger.enabled level = true)
    (message : String) :
    Logged.log level message h =
      if h.answers.headD .ok = .ok then
        .ok ((), { h with
          answers := h.answers.tail
          sent := ⟨LogLevel.ofLevel level, message⟩ :: h.sent })
      else .error .logRefused := by
  unfold Logged.log
  rw [Logger.emit_of_enabled he]
  by_cases ha : h.answers.headD .ok = .ok
  · rw [if_pos ha, if_pos ha]
  · rw [if_neg ha, if_neg ha]

end ProxySdk
