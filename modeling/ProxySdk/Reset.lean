/-
ProxySdk/Reset.lean

`proxy_sdk::reset()` bumps `DISPATCHER_GEN` and clears `ROOT_INIT`; the
dispatcher is wiped lazily, at the next `dispatch`.  What a thread observes
after a reset should be what a fresh instance observes.  The dispatcher the
next export sees is indeed a fresh one, up to its generation number
(`reset_sync`).  But the `METRICS` cache of `metrics.rs` is thread-local state
that no reset clears, so a counter defined before the reset is served from the
cache afterwards, without the `define_metric` a fresh instance issues
(`reset_keeps_metric_cache`).  Code run before that export also still reads the
old active pair through `root_id()`.
-/
import ProxySdk.Contexts

namespace ProxySdk

/-- A factory whose root defines the counter "requests" while it is built. -/
def countingFactory : RootContextFactory :=
  ⟨.metricDefine .counter "requests" (.ok 7) .done, RootContext.default (.done, .http .default)⟩

/-- **After a reset**, from a synced world on a `usize` of at least one bit, the
next export finds the state of a fresh instance given the same factory, but
for the generation numbers, the metric cache, the logger and the record of what
ran. -/
theorem reset_sync {bits : Nat} {w : World} (factory : RootContextFactory) (hbits : 0 < bits)
    (hgen : w.dispatcherGen < 2 ^ bits) (hs : w.Synced) :
    (setRootContextFactory factory (reset bits w)).sync =
      { setRootContextFactory factory World.init with
        dispatcher := { Dispatcher.new with generation := (w.dispatcherGen + 1) % 2 ^ bits }
        dispatcherGen := (w.dispatcherGen + 1) % 2 ^ bits
        metrics := w.metrics
        logger := w.logger
        logAnswers := w.logAnswers
        registrations := w.registrations
        trace := w.trace } := by
  have hn := reset_not_synced hbits hgen hs
  unfold World.Synced at hn
  simp only [World.sync, setRootContextFactory, if_pos hn]
  rfl

/-- What the host and the plugin observe while `ops` run from `w`: the
observations made (newest first) and the replies. -/
def observations (bits : Nat) (ops : List Op) (w : World) : Except Panic (List Obs × List Reply) :=
  (runOps bits ops { w with trace := [] }).map fun (w', replies) => (w'.trace, replies)

/-- Root 1 created, a reset, the factory set again, and root 1 created again:
the factory runs afresh, but its counter comes from the cache, with no
`define_metric`; on a fresh instance the same operations ask the host. -/
theorem reset_keeps_metric_cache :
    ((runOps 32 [.setRootContextFactory countingFactory, .event (.contextCreate 1 0), .reset,
        .setRootContextFactory countingFactory] World.init).map fun (w, _) =>
      observations 32 [.event (.contextCreate 1 0)] w) =
      .ok (.ok ([.metric .counter "requests" 7, .run (.rootContextFactory 1) 0 0], [.unit])) ∧
    observations 32 [.event (.contextCreate 1 0)] (setRootContextFactory countingFactory World.init) =
      .ok ([.metric .counter "requests" 7, .host (.defineMetric .counter "requests"),
        .run (.rootContextFactory 1) 0 0], [.unit]) :=
  ⟨rfl, rfl⟩

end ProxySdk
