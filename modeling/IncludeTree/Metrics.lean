/-!
# Metrics

`Metrics` sums up what has been observed under each name: how often, and the sum, the least and the
greatest of the values. A duration is observed without a value, since it is the clock's; a metric
that has one is only counted. A value that is no number spoils the sum but neither bound.
-/

namespace IncludeTree

/-- The values of a metric, summed up. -/
structure Summary where
  /-- The sum, from first to last. -/
  sum : Float
  /-- The least value. -/
  least : Float
  /-- The greatest value. -/
  greatest : Float
deriving Inhabited

/-- What has been observed of a metric. -/
structure Metric where
  /-- The number of observations. -/
  count : Nat
  /-- Their values, unless one of them is a duration. -/
  summary : Option Summary

/-- What has been observed, by name; the names increase. -/
structure Metrics where
  /-- The metrics. -/
  metrics : List (String × Metric) := []

namespace Summary

/-- The lesser of two values; one that is no number gives way. -/
def lesser (x y : Float) : Float := if x.isNaN then y else if y < x then y else x

/-- The greater of two values; one that is no number gives way. -/
def greater (x y : Float) : Float := if x.isNaN then y else if x < y then y else x

/-- The summary of a single value. -/
def single (value : Float) : Summary := { sum := value, least := value, greatest := value }

/-- The summary with one more value. -/
def add (s : Summary) (value : Float) : Summary where
  sum := s.sum + value
  least := lesser s.least value
  greatest := greater s.greatest value

end Summary

namespace Metric

/-- A metric after its first observation; `none` is a duration. -/
def first (value : Option Float) : Metric := { count := 1, summary := value.map .single }

/-- A metric after one more observation; `none` is a duration. -/
def add (m : Metric) (value : Option Float) : Metric where
  count := m.count + 1
  summary := do return (← m.summary).add (← value)

/-- The average of values summed up. -/
def average (m : Metric) (s : Summary) : Float := s.sum / Float.ofNat m.count

end Metric

namespace Metrics

/-- Observes a value, or a duration, under a name. -/
def observe (m : Metrics) (name : String) (value : Option Float) : Metrics where
  metrics := insert m.metrics
where
  /-- The metrics with the observation at its place. -/
  insert : List (String × Metric) → List (String × Metric)
    | [] => [(name, .first value)]
    | (n, metric) :: rest =>
      if name = n then (n, metric.add value) :: rest
      else if name < n then (name, .first value) :: (n, metric) :: rest
      else (n, metric) :: insert rest

/-- The name under which the duration of an operation is observed. -/
def durationName (operation : String) : String := operation ++ "_duration_s"

/-- Observes that an operation has been run. -/
def time (m : Metrics) (operation : String) : Metrics := m.observe (durationName operation) none

/-- The count of every metric, by name. -/
def counts (m : Metrics) : List (String × Nat) := m.metrics.map fun (name, metric) =>
  (name, metric.count)

end Metrics

end IncludeTree
