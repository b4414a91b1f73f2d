/-
This file holds a call site: a context, and the batch that calls fill.

A call hands over a reading. Its point goes to the end of the batch, and what its hint says goes to
the metadata of the context; a rejected reading is counted. Between two calls the default tags may
be replaced, and each call sees those that are set at its time.
-/

import Telemetry.Context

namespace Telemetry

/-- A context and the batch that calls fill. -/
structure CallSite where
  context : Context
  batch : List Point
  deriving DecidableEq

namespace CallSite

/-- What happens at a call site. -/
inductive Event where
  /-- The default tags are replaced. -/
  | defaults (tags : TagSet)
  /-- A reading is handed over. -/
  | call (timestamp : Int64) (reading : Reading)
  deriving DecidableEq

/-- A call site after something has happened there. -/
def step (site : CallSite) : Event → CallSite
  | .defaults tags => { site with context := site.context.withDefaults tags }
  | .call timestamp reading =>
    let (context, batch) := site.context.add site.batch timestamp reading
    ⟨context, batch⟩

/-- A call site after all that has happened there, in order. -/
def run (site : CallSite) (events : List Event) : CallSite := events.foldl step site

@[simp] theorem run_nil (site : CallSite) : site.run [] = site := rfl

theorem run_cons (site : CallSite) (event : Event) (rest : List Event) :
    site.run (event :: rest) = (site.step event).run rest := rfl

end CallSite

end Telemetry
