/-
ProxySdk/Basic.lean

Shared vocabulary of the model: the host's `Status` codes (`status.rs`), the
panics the modelled code can raise, the `RefCell`s of the thread-local
`Dispatcher`, `HashMap` as a partial map, `usize` arithmetic with overflow
checks, and `log_concern` / `check_concern` (`lib.rs`).

Design.  A Rust panic unwinds out of the whole host call, so every fallible
function of the model returns `Except Panic _`; a `Result<_, Status>` that the
code hands back as a value is a second, inner `Except Status _`.  Arithmetic on
`usize` is done on `Nat` against an explicit width `bits` (32 on `wasm32`, 64
natively), and overflow panics, as in a build with overflow checks.
-/
import Mathlib.Algebra.Order.Ring.Nat
import Mathlib.Logic.Basic

namespace ProxySdk

/-- The host's status codes (`status.rs`). -/
inductive Status where
  | ok
  | notFound
  | badArgument
  | serializationFailure
  | parseFailure
  | badExpression
  | invalidMemoryAccess
  | empty
  | casMismatch
  | resultMismatch
  | internalFailure
  | brokenConnection
  | unimplemented
  deriving DecidableEq, Repr

/-- The derived `Debug` of `Status`, the `{e:?}` of the log messages. -/
def Status.debug : Status → String
  | .ok => "Ok"
  | .notFound => "NotFound"
  | .badArgument => "BadArgument"
  | .serializationFailure => "SerializationFailure"
  | .parseFailure => "ParseFailure"
  | .badExpression => "BadExpression"
  | .invalidMemoryAccess => "InvalidMemoryAccess"
  | .empty => "Empty"
  | .casMismatch => "CasMismatch"
  | .resultMismatch => "ResultMismatch"
  | .internalFailure => "InternalFailure"
  | .brokenConnection => "BrokenConnection"
  | .unimplemented => "Unimplemented"

/-- Byte strings (`Vec<u8>`, `&[u8]`). -/
abbrev Bytes := List UInt8

/-- The `RefCell`s of the thread-local `Dispatcher`, one per map. -/
inductive Cell where
  | roots
  | streams
  | httpStreams
  | httpCallbacks
  | grpcCallbacks
  | grpcStreams
  | queueCallbacks
  deriving DecidableEq, Repr

/-- The panics the modelled code can raise. -/
inductive Panic where
  /-- `RefCell::borrow_mut` on a cell that an enclosing frame still borrows. -/
  | alreadyBorrowed (cell : Cell)
  /-- The `expect("missing root_context_factory")` of `Dispatcher::root`. -/
  | missingRootContextFactory
  /-- Arithmetic overflow on `usize`. -/
  | overflow
  /-- `String::from_utf8(..).unwrap()` on bytes that are not UTF-8. -/
  | unwrapFromUtf8
  /-- `Vec::with_capacity` asked for more than `isize::MAX` bytes. -/
  | capacityOverflow
  /-- The `unwrap` of `Logger::log` on a `proxy_log` the host refuses. -/
  | logRefused
  /-- `log::set_logger(..).unwrap()` when another logger is already set. -/
  | setLogger
  deriving DecidableEq, Repr

/-! ### `HashMap` -/

/-- `HashMap<K, V>`, read through lookups only: a partial map. -/
abbrev Map (κ α : Type) := κ → Option α

namespace Map

variable {κ α : Type}

/-- `HashMap::new()`. -/
def empty : Map κ α := fun _ => none

@[simp] theorem empty_apply (k : κ) : (empty : Map κ α) k = none := rfl

variable [DecidableEq κ]

/-- `HashMap::insert`, the value returned by it dropped. -/
def insert (m : Map κ α) (k : κ) (v : α) : Map κ α :=
  fun k' => if k' = k then some v else m k'

/-- `HashMap::remove`, the value returned by it dropped. -/
def remove (m : Map κ α) (k : κ) : Map κ α :=
  fun k' => if k' = k then none else m k'

@[simp] theorem insert_apply (m : Map κ α) (k k' : κ) (v : α) :
    m.insert k v k' = if k' = k then some v else m k' := rfl

@[simp] theorem remove_apply (m : Map κ α) (k k' : κ) :
    m.remove k k' = if k' = k then none else m k' := rfl

end Map

/-! ### `Except` -/

section Except

variable {ε α β : Type}

@[simp] theorem ok_bind (a : α) (f : α → Except ε β) : (Except.ok a >>= f) = f a := rfl

@[simp] theorem error_bind (e : ε) (f : α → Except ε β) :
    (Except.error e >>= f) = Except.error e := rfl

@[simp] theorem pure_eq_ok (a : α) : (pure a : Except ε α) = Except.ok a := rfl

theorem bind_eq_ok {x : Except ε α} {f : α → Except ε β} {b : β} :
    x >>= f = .ok b ↔ ∃ a, x = .ok a ∧ f a = .ok b := by
  cases x <;> simp

end Except

/-! ### `usize` and the concern helpers of `lib.rs` -/

/-- `a + b` on a `usize` of width `bits`. -/
def addUsize (bits a b : Nat) : Except Panic Nat :=
  if a + b < 2 ^ bits then .ok (a + b) else .error .overflow

/-- `a * b` on a `usize` of width `bits`. -/
def mulUsize (bits a b : Nat) : Except Panic Nat :=
  if a * b < 2 ^ bits then .ok (a * b) else .error .overflow

theorem addUsize_eq_ok {bits a b : Nat} (h : a + b < 2 ^ bits) :
    addUsize bits a b = .ok (a + b) := if_pos h

theorem addUsize_eq_error {bits a b : Nat} (h : 2 ^ bits ≤ a + b) :
    addUsize bits a b = .error .overflow := if_neg (Nat.not_lt.mpr h)

theorem mulUsize_eq_ok {bits a b : Nat} (h : a * b < 2 ^ bits) :
    mulUsize bits a b = .ok (a * b) := if_pos h

/-- `Vec::<u8>::with_capacity(capacity)` on a `usize` of width `bits`: a
capacity above `isize::MAX`, which is `2 ^ (bits - 1) - 1`, panics. -/
def withCapacity (bits capacity : Nat) : Except Panic Unit :=
  if capacity < 2 ^ (bits - 1) then .ok () else .error .capacityOverflow

theorem withCapacity_eq_ok {bits capacity : Nat} (h : capacity < 2 ^ (bits - 1)) :
    withCapacity bits capacity = .ok () := if_pos h

theorem withCapacity_eq_error {bits capacity : Nat} (h : 2 ^ (bits - 1) ≤ capacity) :
    withCapacity bits capacity = .error .capacityOverflow := if_neg (Nat.not_lt.mpr h)

/-- `log_concern`: the value, or `T::default()` once the error is logged. -/
def logConcern {α : Type} [Inhabited α] : Except Status α → α
  | .ok x => x
  | .error _ => default

/-- `check_concern`: the value, or `None` once the error is logged. -/
def checkConcern {α : Type} : Except Status α → Option α
  | .ok x => some x
  | .error _ => none

/-- The answer of a host call that returns nothing:
`Status::Ok => Ok(()), e => Err(e)`. -/
def statusResult : Status → Except Status Unit
  | .ok => .ok ()
  | e => .error e

/-- The answer of a host call that returns a value through an out-pointer:
`Status::Ok => Ok(value), e => Err(e)`. -/
def valueResult {α : Type} (status : Status) (value : α) : Except Status α :=
  match status with
  | .ok => .ok value
  | e => .error e

/-- The answer of a host call that returns a buffer: `Ok` hands back the buffer
(`none` for a null pointer), `NotFound` is `None`, anything else the error. -/
def bufferResult (status : Status) (returned : Option Bytes) : Except Status (Option Bytes) :=
  match status with
  | .ok => .ok returned
  | .notFound => .ok none
  | e => .error e

/-- The warning `[concern-{context}] {e:?}` that `log_concern` and
`check_concern` log on an error, as its context label and status. -/
structure Concern where
  context : String
  status : Status
  deriving DecidableEq, Repr

/-- `log_concern(context, result)`, with the warning it logs. -/
def logConcernAt {α : Type} [Inhabited α] (context : String) : Except Status α → α × Option Concern
  | .ok x => (x, none)
  | .error e => (default, some ⟨context, e⟩)

/-- `check_concern(context, result)`, with the warning it logs. -/
def checkConcernAt {α : Type} (context : String) : Except Status α → Option α × Option Concern
  | .ok x => (some x, none)
  | .error e => (none, some ⟨context, e⟩)

@[simp] theorem logConcernAt_fst {α : Type} [Inhabited α] (context : String) (result : Except Status α) :
    (logConcernAt context result).1 = logConcern result := by
  cases result <;> rfl

@[simp] theorem checkConcernAt_fst {α : Type} (context : String) (result : Except Status α) :
    (checkConcernAt context result).1 = checkConcern result := by
  cases result <;> rfl

end ProxySdk
