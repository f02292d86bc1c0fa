/-
ProxySdk/Metrics.lean

The `METRICS` cache of `metrics.rs`.  `Counter::define`, `Gauge::define` and
`Histogram::define` look the name up in the entry of `root_id()`, under the
metric's kind; on a miss they ask the host with `define_metric` and cache what
`log_concern` makes of the answer, which is the host's id, or `0` when the
host fails.

So the cache is a memo of the first answer, whatever it was: a run of defines
of one name asks the host once and hands every caller that first answer
(`define_run`).  In particular a failed `define_metric` is cached as the id
`0`, which the host never assigned, and is never asked again
(`define_caches_failure`).
-/
import ProxySdk.Events
import Mathlib.Data.List.Basic

namespace ProxySdk

/-- The id `define` finds for `name` of `kind` in the entry of `root_id()`. -/
def World.metricId (w : World) (kind : MetricType) (name : String) : Option UInt32 :=
  ((w.metrics w.dispatcher.activeRootId).getD default).get kind name

@[simp] theorem MetricsInfo.get_insert_self (info : MetricsInfo) (name : String) (id : UInt32)
    (kind : MetricType) : (info.insert name id kind).get kind name = some id := by
  cases kind <;> simp [MetricsInfo.insert, MetricsInfo.get]

/-- Plugin code that calls `define(name)` for `kind` once for each host answer
in `results`. -/
def defineCalls (kind : MetricType) (name : String) : List (Except Status UInt32) → Code
  | [] => .done
  | result :: results => .metricDefine kind name result (defineCalls kind name results)

section Define

variable {kind : MetricType} {name : String} {result : Except Status UInt32} {w : World}

/-- **A hit** returns the cached id and asks the host nothing. -/
theorem define_of_metricId {id : UInt32} (h : w.metricId kind name = some id) :
    define kind name result w = .ok (w.observe (.metric kind name id), id) := by
  simp only [World.metricId] at h
  simp [define, h]

/-- **A miss** asks the host through `log_concern("define-metric", ..)`, then
caches under `root_id()` what that gives, and returns it. -/
theorem define_of_metricId_none {w₁ : World} {id : UInt32} (h : w.metricId kind name = none)
    (hc : (w.observe (.host (.defineMetric kind name))).logConcern "define-metric" result =
      .ok (w₁, id)) :
    ∃ w₂, define kind name result w = .ok (w₂, id) ∧ w₂.trace = .metric kind name id :: w₁.trace ∧
      w₂.metricId kind name = some id := by
  have hd := (World.logConcern_quiet hc).dispatcher
  simp only [World.metricId] at h ⊢
  simp [define, h, hc, hd]

/-- Once cached, every later define of the name is served from the cache. -/
theorem runCode_defineCalls_of_metricId {held : List Cell} {id : UInt32}
    (results : List (Except Status UInt32)) (h : w.metricId kind name = some id) :
    runCode held (defineCalls kind name results) w =
      .ok { w with trace := List.replicate results.length (.metric kind name id) ++ w.trace } := by
  induction results generalizing w with
  | nil => rfl
  | cons result results ih =>
    simp only [defineCalls, runCode, define_of_metricId h, ok_bind, ih (w := w.observe _) h]
    simp [World.observe, List.replicate_succ']

/-- **Run lemma**: from a miss, a run of defines of one name asks the host once,
at the first call, through `log_concern`, whose warning on a failure goes
through the logger and panics when the host refuses it; every call then gets
what the first got, the host's id or `0`, and that answer stays cached. -/
theorem define_run {held : List Cell} (first : Except Status UInt32)
    (later : List (Except Status UInt32)) (h : w.metricId kind name = none) :
    (runCode held (defineCalls kind name (first :: later)) w).map
        (fun w' => (w'.trace, w'.metricId kind name)) =
      ((w.observe (.host (.defineMetric kind name))).logConcern "define-metric" first).map
        fun (w₁, id) => (List.replicate (later.length + 1) (.metric kind name id) ++ w₁.trace, some id) := by
  cases hc : (w.observe (.host (.defineMetric kind name))).logConcern "define-metric" first with
  | error p =>
    simp only [World.metricId] at h
    simp [defineCalls, runCode, define, h, hc, Except.map]
  | ok p =>
    obtain ⟨w₁, id⟩ := p
    obtain ⟨w₂, hdef, htrace, hid⟩ := define_of_metricId_none h hc
    simp only [defineCalls, runCode, hdef, ok_bind, runCode_defineCalls_of_metricId later hid,
      Except.map]
    exact congrArg Except.ok (Prod.ext (by simp [htrace, List.replicate_succ']) hid)

end Define

/-- After `staleOps`, the root in the active pair has no counter "requests":
two defines ask the host once; its failure goes through `log_concern` and is
cached as `0`. -/
theorem define_run_stale :
    ∃ w rs, runOps 32 staleOps World.init = .ok (w, rs) ∧ w.metricId .counter "requests" = none ∧
      (runCode [] (defineCalls .counter "requests" [.error .internalFailure, .ok 7]) w).map
          (fun w' => (w'.trace, w'.metricId .counter "requests")) =
        ((w.observe (.host (.defineMetric .counter "requests"))).logConcern "define-metric"
            (.error .internalFailure)).map
          fun (w₁, id) => (List.replicate 2 (.metric .counter "requests" id) ++ w₁.trace, some id) :=
  ⟨_, _, rfl, rfl, define_run (.error .internalFailure) [.ok 7] rfl⟩

/-- Plugin code defines the counter "requests" twice under root `0`.  The host
fails the first `define_metric` and would answer `7` to a second: the failure is
cached as the id `0`, the second define returns that `0`, and the host is asked
only once. -/
theorem define_caches_failure :
    ∃ w, runOps 32 [.call (defineCalls .counter "requests" [.error .internalFailure, .ok 7])]
        World.init = .ok (w, [.unit]) ∧
      w.trace = [.metric .counter "requests" 0, .metric .counter "requests" 0,
        .host (.defineMetric .counter "requests")] ∧
      w.metricId .counter "requests" = some 0 :=
  ⟨_, rfl, rfl, rfl⟩

end ProxySdk
