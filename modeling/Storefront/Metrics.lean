import Storefront.Progress

/-!
# Metrics

What the service counts. A list of measurements is kept in the order in which they were taken; how
often each one was taken is what is exposed, a line for each that was taken at all.
-/

namespace Storefront

/-- Something that is counted. -/
inductive Measurement where
  | orderBegun
  | orderFailed (step : Step)
  | stepFailed (step : Step)
  | eventDelivered
  | eventFailed
  | orderTimed
  deriving DecidableEq

/-- The name under which a count is exposed. -/
def Measurement.name : Measurement → String
  | .orderBegun => "checkout_orders_total"
  | .orderFailed step => "checkout_orders_failed_total\x7bstep=\"" ++ step.name ++ "\"\x7d"
  | .stepFailed step => "checkout_best_effort_failures_total\x7bstep=\"" ++ step.name ++ "\"\x7d"
  | .eventDelivered => "checkout_events_published_total\x7boutcome=\"delivered\"\x7d"
  | .eventFailed => "checkout_events_published_total\x7boutcome=\"failed\"\x7d"
  | .orderTimed => "checkout_order_duration_seconds_count"

/-- Measurements, newest first. -/
abbrev Metrics := List Measurement

namespace Metrics

/-- A line for each measurement that was taken, in order of their texts. -/
def lines (m : Metrics) : List String :=
  (m.eraseDups.map fun x ↦ x.name ++ " " ++ Text.decimal (m.count x)).mergeSort
    fun a b ↦ decide (a ≤ b)

end Metrics

end Storefront
