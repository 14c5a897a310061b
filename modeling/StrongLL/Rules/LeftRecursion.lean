import StrongLL.Rules.Closure

/-!
# Left recursion

A production begins with another one if the other stands in an alternative
behind nothing but elements that can be skipped. A chain of such beginnings that
comes back to where it started would make a parser descend without end.
-/

namespace StrongLL.RuleTable

/-- The productions that can stand at the beginning of an alternative, in
order. -/
def leftCorners (nullable : List RuleId) : Alternative → List RuleId
  | [] => []
  | element :: rest =>
      let behind :=
        if element.isSkippable nullable then leftCorners nullable rest else []
      match element.symbol with
      | .token _ => behind
      | .rule id => id :: behind

/-- The productions that a production can begin with, each once, in order of
first occurrence. -/
def beginnings (table : RuleTable) (nullable : List RuleId) (id : RuleId) : List RuleId :=
  ((table.alternatives id).flatMap (leftCorners nullable)).foldl
    (fun found next => if found.contains next then found else found ++ [next]) []

/-- The part of a path from `target` on, closed to a cycle. The path is in
reverse. -/
def closeCycle (target : RuleId) (path : List RuleId) : List RuleId :=
  target :: ((path.takeWhile (· ≠ target)).reverse ++ [target])

/-- Follow several edges in turn, up to the first that closes a cycle with the
path or leads to one. -/
def followEdges
    (search : (visited : List RuleId) → RuleId → List RuleId × Option (List RuleId))
    (path : List RuleId) :
    (visited : List RuleId) → List RuleId → List RuleId × Option (List RuleId)
  | visited, [] => (visited, none)
  | visited, target :: rest =>
      if path.contains target then (visited, some (closeCycle target path))
      else
        match search visited target with
        | (visited, some cycle) => (visited, some cycle)
        | (visited, none) => followEdges search path visited rest

/-- Search for a cycle among the productions that `current` leads to. `path`
leads to `current`, in reverse. A production is searched once only. -/
def findCycleFrom (edges : RuleId → List RuleId) :
    (fuel : Nat) → (path visited : List RuleId) → (current : RuleId) →
      List RuleId × Option (List RuleId)
  | 0, _, visited, _ => (visited, none)
  | fuel + 1, path, visited, current =>
      if visited.contains current then (visited, none)
      else
        followEdges (findCycleFrom edges fuel (current :: path)) (current :: path)
          (current :: visited) (edges current)

/-- The first cycle that a search from each production in turn comes upon. A
path visits no production twice, which bounds the depth of the search. -/
def findCycle (table : RuleTable) (edges : RuleId → List RuleId) : Option (List RuleId) :=
  (followEdges (findCycleFrom edges (table.length + 1) []) [] []
    (table.map (·.id))).2

/-- A chain of productions of which each begins with the next, from a production
back to itself. -/
def leftRecursion? (table : RuleTable) : Option (List RuleId) :=
  table.findCycle (table.beginnings table.nullable)

end StrongLL.RuleTable
