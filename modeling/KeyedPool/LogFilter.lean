import KeyedPool.LogFilter.Directive

/-!
# Filters for the log

A filter is a list of directives between commas. One piece that is no directive spoils the filter.

* `KeyedPool.LogFilter.read?`: the filter that a text gives.
-/

namespace KeyedPool

/-- A filter for the log. -/
abbrev LogFilter := List LogDirective

/-- A text cut at every comma, the empty pieces left out. -/
def commaPieces (cs : List Char) : List (List Char) :=
  (cs.splitOn ',').filter fun piece => !piece.isEmpty

/-- **The filter that a text gives**, if every piece of it is a directive. -/
def LogFilter.read? (s : String) : Option LogFilter :=
  (commaPieces s.toList).mapM LogDirective.read?

end KeyedPool
