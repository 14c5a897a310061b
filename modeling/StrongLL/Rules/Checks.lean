import StrongLL.Report.Defect
import StrongLL.Rules.LeftRecursion

/-!
# Checks on rule tables

What no parser can handle is refused: left recursion, productions that derive no
finite text, and unbounded repetitions of something that can be empty. The
defect names the declared production it was found in.
-/

namespace StrongLL

/-- Whether an element repeats without bound what can be empty. -/
def Element.isIdleLoop (element : Element) (nullable : List RuleId) : Bool :=
  match element.symbol with
  | .token _ => false
  | .rule id => element.occurs.max.isNone && nullable.contains id

namespace RuleTable

/-- No production can begin with itself. -/
def checkLeftRecursion (table : RuleTable) : Except Defect Unit :=
  match table.leftRecursion? with
  | none => .ok ()
  | some cycle =>
      .error (.infiniteLoop (table.originNameOf (cycle.headD 0)) (cycle.map table.nameOf))

/-- Every production derives some finite sequence of tokens. -/
def checkProductive (table : RuleTable) : Except Defect Unit :=
  let productive := table.productive
  match table.find? fun rule => !productive.contains rule.id with
  | none => .ok ()
  | some rule => .error (.rule (table.originName rule) .unproductive)

/-- Every copy in an unbounded repetition takes at least one token. -/
def checkLoops (table : RuleTable) : Except Defect Unit :=
  let nullable := table.nullable
  match table.find? fun rule =>
      rule.alternatives.any fun elements => elements.any (·.isIdleLoop nullable) with
  | none => .ok ()
  | some rule => .error (.infiniteLoop (table.originName rule) [])

end RuleTable

end StrongLL
