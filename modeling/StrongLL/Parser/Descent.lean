import StrongLL.Parser.State

/-!
# Recursive descent

The parser goes down the productions as the decisions of the grammar say.
Auxiliary productions add their children to the enclosing declared production. A
mismatch inside an alternative is reported, one token is skipped, and the element
that failed is tried again; the copies that were matched before still count.

Calls are bounded by a number of steps that is computed from the input and the
grammar. It is never used up: between two tokens only finitely many productions
can be entered.
-/

namespace StrongLL.Parser

variable {σ : Type}

/-- Make a call to the listener and report its refusal. -/
def tell {α : Type} (setting : Setting σ) (call : σ → σ × Except Diagnostic α) (otherwise : α) :
    Parse σ α := do
  let (listener, answer) := call (← get).listener
  modify fun parser => { parser with listener }
  match answer with
  | .ok value => return value
  | .error refusal =>
      report setting refusal false
      return otherwise

/-- Tell the listener that a node begins. -/
def enter (setting : Setting σ) (node : Node) : Parse σ Unit :=
  tell setting (setting.listener.enter node) ()

/-- Tell the listener that a node is complete. -/
def exit (setting : Setting σ) (node : Node) : Parse σ (Option Node) :=
  tell setting (setting.listener.exit node) none

/-- Let the listener attach a node, if it was kept, to its parent. -/
def attach (setting : Setting σ) (parent : Branch) : Option Node → Parse σ Branch
  | none => return parent
  | some node => do
      let (listener, parent, answer) := setting.listener.child parent node (← get).listener
      modify fun parser => { parser with listener }
      match answer with
      | .ok () => return parent
      | .error refusal =>
          report setting refusal false
          return parent

/-- Take a token of a given kind and attach its node. -/
def token (setting : Setting σ) (id : TokenId) (parent : Branch) : Parse σ Branch := do
  match ← peek setting 0 with
  | none => throw (.mismatch (← get).prematureEnd)
  | some next =>
      if next.id ≠ id then
        throw (.mismatch ((← get).unexpected 0 [setting.grammar.vocabulary.describe id]))
      let token ← consume setting
      let name := match setting.grammar.vocabulary.find? id with
        | some pattern => pattern.name
        | none => toString id
      let leaf := Node.leaf token name
      enter setting leaf
      attach setting parent (← exit setting leaf)

/-- Pick an alternative of a production by looking ahead. The answer is its place
and the depth of the decision. -/
def choose (setting : Setting σ) (rule : ResolvedRule) : Parse σ (Nat × Nat) := do
  match rule.decision with
  | none => return (0, 0)
  | some decision =>
      let input ← lookAhead setting decision.depth 0
      match decision.select input with
      | some index => return (index, decision.depth)
      | none =>
          throw (.mismatch ((← get).mismatch setting.grammar.vocabulary decision input))

/-- Whether to take another copy of an element of which `count` are there. -/
def wantsMore (setting : Setting σ) (element : ResolvedElement) (count : Nat) :
    Parse σ Bool := do
  if element.occurs.isFull count then return false
  if count < element.occurs.min then return true
  let again ← match element.decision with
    | some decision => do
        let input ← lookAhead setting decision.depth 0
        pure (decision.select input == some 0)
    | none => pure false
  match element.symbol with
  | .rule id => record (.loop id count again)
  | .token _ => pure ()
  return again

/-- The outcome of a step as a value. -/
def attempt {α : Type} (step : Parse σ α) : Parse σ (Except Halt α) :=
  ExceptT.lift step.run

/-- Take a step inside a production. -/
def inside {α : Type} (setting : Setting σ) (rule : RuleId) (step : Parse σ α) : Parse σ α := do
  let depth := (← get).depth
  if setting.limits.recursion.any (· ≤ depth) then fail .recursionLimit
  modify fun parser => { parser with depth := depth + 1 }
  record (.enter rule)
  let outcome ← attempt step
  record (.exit rule)
  modify fun parser => { parser with depth := parser.depth - 1 }
  match outcome with
  | .ok value => return value
  | .error halt => throw halt

mutual
/-- Parse a declared production. The answer is its node, unless the listener
dropped it. -/
def rule (setting : Setting σ) : (fuel : Nat) → RuleId → Parse σ (Option Node)
  | 0, _ => throw .unfinished
  | fuel + 1, id => do
      match setting.grammar.rule? id with
      | none => fail .unknownRule
      | some rule =>
          enter setting (.branch id rule.name [])
          let branch ← alternatives setting fuel rule ⟨id, rule.name, []⟩
          exit setting branch.toNode

/-- Pick an alternative of a production and parse it into `parent`. -/
def alternatives (setting : Setting σ) :
    (fuel : Nat) → ResolvedRule → Branch → Parse σ Branch
  | 0, _, _ => throw .unfinished
  | fuel + 1, rule, parent =>
      inside setting rule.id do
        let (index, depth) ← choose setting rule
        match rule.alternatives[index]? with
        | none => fail .noSuchAlternative
        | some chosen =>
            record (.alternative rule.id index depth)
            elements setting fuel chosen parent

/-- Parse elements one after the other. -/
def elements (setting : Setting σ) :
    (fuel : Nat) → List ResolvedElement → Branch → Parse σ Branch
  | 0, _, _ => throw .unfinished
  | _ + 1, [], parent => return parent
  | fuel + 1, element :: rest, parent => do
      let parent ← copies setting fuel element 0 parent
      elements setting fuel rest parent

/-- Parse the copies of an element, of which `count` are there. A copy that does
not fit is tried again once a token is skipped. -/
def copies (setting : Setting σ) :
    (fuel : Nat) → ResolvedElement → (count : Nat) → Branch → Parse σ Branch
  | 0, _, _, _ => throw .unfinished
  | fuel + 1, element, count, parent => do
      if ← wantsMore setting element count then
        match ← attempt (symbol setting fuel element.symbol parent) with
        | .ok parent => copies setting fuel element (count + 1) parent
        | .error (.mismatch diagnostic) =>
            recover setting diagnostic
            copies setting fuel element count parent
        | .error halt => throw halt
      else return parent

/-- Parse a symbol into `parent`. -/
def symbol (setting : Setting σ) : (fuel : Nat) → Symbol → Branch → Parse σ Branch
  | 0, _, _ => throw .unfinished
  | _ + 1, .token id, parent => token setting id parent
  | fuel + 1, .rule id, parent => do
      match setting.grammar.rule? id with
      | none => fail .unknownRule
      | some found =>
          if found.isAuxiliary then alternatives setting fuel found parent
          else attach setting parent (← rule setting fuel id)
end

/-- Nothing may be left behind the start production. -/
def checkEnd (setting : Setting σ) : Parse σ Unit := do
  match ← peek setting 0 with
  | none => return
  | some token =>
      let expected := [setting.grammar.vocabulary.describeTerminal .eof]
      report setting
        (.located (.unexpectedToken token.shortImage expected) token.position) true

/-- Parse the start production. Tokens that cannot begin it are skipped. -/
def root (setting : Setting σ) (steps : Nat) : (fuel : Nat) → Parse σ (Option Node)
  | 0 => throw .unfinished
  | fuel + 1 => do
      match ← attempt (rule setting steps setting.grammar.start) with
      | .ok node =>
          discard (attempt (checkEnd setting))
          return node
      | .error (.mismatch diagnostic) =>
          recover setting diagnostic
          root setting steps fuel
      | .error halt => throw halt

/-- The greatest number of elements in an alternative. -/
def widest (grammar : Grammar) : Nat :=
  (grammar.rules.flatMap (·.alternatives)).foldl
    (fun width elements => max width elements.length) 0

/-- The greatest number of copies that an element with an upper bound may have. -/
def mostCopies (grammar : Grammar) : Nat :=
  ((grammar.rules.flatMap (·.alternatives)).flatten).foldl
    (fun copies element => max copies (element.occurs.max.getD 0)) 0

/-- A bound on the tokens that are still to come. -/
def tokenBound (parser : Parser σ) : Nat :=
  parser.scanner.cursor.remaining + parser.buffer.length

/-- A bound on the depth of calls: each token, and each production entered
between two tokens, accounts for a bounded number of them. -/
def stepBound (grammar : Grammar) (parser : Parser σ) : Nat :=
  (parser.tokenBound + 2) * (grammar.rules.length + 2) *
    ((widest grammar + 1) * (mostCopies grammar + 2) + 8)

/-- How a parse ends. -/
inductive Outcome where
  /-- Without any error: the node of the start production, unless the listener
  dropped it. -/
  | parsed (root : Option Node)
  /-- With the errors that were logged. -/
  | failed (log : Log)
  /-- Not within the bound on steps. -/
  | unfinished

/-- Forget the previous parse, but not the tokens that are buffered. -/
def prepare (parser : Parser σ) : Parser σ :=
  { parser with log := [], recovery := 0, depth := 0, executed := 0 }

/-- Parse all of the input. -/
def parse (setting : Setting σ) (parser : Parser σ) : Parser σ × Outcome :=
  let parser := parser.prepare
  let steps := parser.stepBound setting.grammar
  let (result, parser) := (root setting steps (parser.tokenBound + 2)).run.run parser
  let log := parser.log
  let parser := { parser with log := [] }
  match result with
  | .error .unfinished => (parser, .unfinished)
  | .ok node => (parser, if log.isEmpty then .parsed node else .failed log)
  | .error _ => (parser, if log.isEmpty then .parsed none else .failed log)

/-- Parse a text into its complete tree. -/
def parseText (grammar : Grammar) (text : String) : Outcome :=
  let setting : Setting Unit := { grammar, listener := treeBuilder }
  match (parse setting (.ofSource (.ofString text) ())).2 with
  | .parsed none => .failed [⟨.internal .rootDiscarded, none⟩]
  | outcome => outcome

end StrongLL.Parser
