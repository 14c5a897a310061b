import StrongLL.Parser.Descent
import StrongLL.Proofs.Guided
import StrongLL.Proofs.Parser.State

/-!
# Steps of the descent

What the descent does between two calls of itself: it tells its listener of nodes, decides
by the tokens that are to come, and takes tokens.
-/

namespace StrongLL

/-- A branch with more children. -/
def Branch.add (branch : Branch) (nodes : List Node) : Branch :=
  { branch with children := branch.children ++ nodes }

@[simp] theorem Branch.add_nil (branch : Branch) : branch.add [] = branch := by
  simp [add]

@[simp] theorem Branch.add_add (branch : Branch) (first others : List Node) :
    (branch.add first).add others = branch.add (first ++ others) := by
  simp [add]

/-- A listener that refuses nothing and keeps all nodes as they are. -/
structure Listener.Keeps {σ : Type} (listener : Listener σ) : Prop where
  enter : ∀ node state, (listener.enter node state).2 = .ok ()
  exit : ∀ node state, (listener.exit node state).2 = .ok (some node)
  child : ∀ parent node state,
    (listener.child parent node state).2 = (parent.add [node], .ok ())

theorem treeBuilder_keeps : treeBuilder.Keeps :=
  ⟨fun _ _ => rfl, fun _ _ => rfl, fun _ _ _ => rfl⟩

namespace Parser

variable {σ α β : Type} {vocabulary : Vocabulary} {setting : Setting σ} {before : Parser σ}

/-! ## Parts of the steps -/

/-- Go on with an answer of the listener, or report what it refuses. -/
def abide (setting : Setting σ) (answer : Except Diagnostic α) (otherwise : α) : Parse σ α :=
  match answer with
  | .ok value => return value
  | .error refusal => do
      report setting refusal false
      return otherwise

/-- Record how the loop of a production goes on. -/
def recordLoop (symbol : Symbol) (count : Nat) (again : Bool) : Parse σ Bool := do
  match symbol with
  | .rule id => record (.loop id count again)
  | .token _ => pure ()
  return again

/-- Leave a production with the outcome of the step inside it. -/
def leave (rule : RuleId) (outcome : Except Halt α) : Parse σ α := do
  record (.exit rule)
  modify fun parser => { parser with depth := parser.depth - 1 }
  match outcome with
  | .ok value => return value
  | .error halt => throw halt

/-- Parse the alternative of a production that was chosen. -/
def chosenRow (setting : Setting σ) (fuel : Nat) (found : ResolvedRule) (parent : Branch)
    (choice : Nat × Nat) : Parse σ Branch :=
  match found.alternatives[choice.1]? with
  | none => fail .noSuchAlternative
  | some row => do
      record (.alternative found.id choice.1 choice.2)
      elements setting fuel row parent

/-- A parse came back with a tree. -/
def Outcome.hasRoot : Outcome → Bool
  | .parsed (some _) => true
  | _ => false

theorem Outcome.exists_root {outcome : Outcome} (rooted : outcome.hasRoot = true) :
    ∃ root, outcome = .parsed (some root) := by
  cases outcome with
  | parsed root =>
      cases root with
      | none => cases rooted
      | some root => exact ⟨root, rfl⟩
  | failed log => cases rooted
  | unfinished => cases rooted

theorem tell_run_eq (setting : Setting σ) (call : σ → σ × Except Diagnostic α) (otherwise : α)
    (before : Parser σ) : (tell setting call otherwise).run.run before =
      (abide setting (call before.listener).2 otherwise).run.run
        { before with listener := (call before.listener).1 } := rfl

theorem attach_run_eq (setting : Setting σ) (parent : Branch) (node : Node) (before : Parser σ) :
    (attach setting parent (some node)).run.run before =
      let told := setting.listener.child parent node before.listener
      (abide setting (told.2.2.map fun _ => told.2.1) told.2.1).run.run
        { before with listener := told.1 } := by
  let told := setting.listener.child parent node before.listener
  have ends : Ensures (attach setting parent (some node)) before fun outcome after =>
      (outcome, after) = (abide setting (told.2.2.map fun _ => told.2.1) told.2.1).run.run
        { before with listener := told.1 } := by
    unfold attach
    simp only [ensures_bind, ensures_get, ensures_modify, told]
    cases (setting.listener.child parent node before.listener).2.2 with
    | ok _ => rfl
    | error refusal => rfl
  exact ends

theorem alternatives_succ (setting : Setting σ) (fuel : Nat) (found : ResolvedRule)
    (parent : Branch) : alternatives setting (fuel + 1) found parent =
      inside setting found.id (choose setting found >>= chosenRow setting fuel found parent) := by
  rw [alternatives]
  rfl

/-! ## The listener -/

theorem Ensures.rests_bind {step : Parse σ α} {next : α → Parse σ β} {sure : Prop} {value : α}
    {other : β} (first : Ensures step before (Rests vocabulary sure value before))
    (more : ∀ found middle, Course vocabulary before [] middle → (sure → found = value) →
      Ensures (next found) middle (Rests vocabulary sure other middle)) :
    Ensures (step >>= next) before (Rests vocabulary sure other before) := by
  apply first.bind
  · intro found middle rests
    have same : sure → found = value := fun holds => Except.ok.inj (rests.answers holds).1
    apply (more found middle rests.course same).mono
    intro outcome after later
    exact later.behind rests.course fun holds => ⟨(rests.answers holds).2, holds⟩
  · intro halt after rests
    exact rests.halt

theorem ensures_refused {sure : Prop} {value : α} {middle : Parser σ}
    (quiet : Quiet before middle) (unsure : ¬ sure) (refusal : Diagnostic) (otherwise : α) :
    Ensures (do report setting refusal false; return otherwise) middle
      (Rests vocabulary sure value before) := by
  apply (ensures_report refusal false).bind
  · intro _ after reached
    exact ⟨quiet.course.trans reached.2.course, by simp, fun holds => absurd holds unsure⟩
  · intro halt after reached
    obtain ⟨never | answer, reported⟩ := reached
    · cases never
    · refine ⟨quiet.course.trans reported.course, fun other same => ?_,
        fun holds => absurd holds unsure⟩
      obtain rfl := Except.error.inj same
      have course : Course vocabulary before [] middle := quiet.course
      exact ⟨Except.error.inj answer, fun warned => reported.logged (course.warned warned)⟩

theorem quiet_listener (before : Parser σ) (listener : σ) :
    Quiet before { before with listener } :=
  ⟨⟨rfl, rfl, rfl, rfl⟩, rfl, rfl⟩

theorem ensures_tell {call : σ → σ × Except Diagnostic α} {otherwise value : α} {sure : Prop}
    (answers : sure → ∀ state, (call state).2 = .ok value) :
    Ensures (tell setting call otherwise) before (Rests vocabulary sure value before) := by
  unfold tell
  simp only [ensures_bind, ensures_get, ensures_modify]
  have told := quiet_listener before (call before.listener).1
  cases answer : (call before.listener).2 with
  | ok found =>
      simp only [ensures_pure]
      refine ⟨told.course, by simp, fun holds => ⟨?_, told.log⟩⟩
      exact congrArg Except.ok (Except.ok.inj (answer.symm.trans (answers holds _)))
  | error refusal =>
      refine ensures_refused told (fun holds => ?_) refusal otherwise
      simp [answers holds] at answer

theorem ensures_enter (node : Node) : Ensures (enter setting node) before
    (Rests setting.grammar.vocabulary setting.listener.Keeps () before) :=
  ensures_tell fun keeps => keeps.enter node

theorem ensures_exit (node : Node) : Ensures (exit setting node) before
    (Rests setting.grammar.vocabulary setting.listener.Keeps (some node) before) :=
  ensures_tell fun keeps => keeps.exit node

theorem ensures_attach (parent : Branch) (node : Node) (kept : Option Node)
    (same : setting.listener.Keeps → kept = some node) :
    Ensures (attach setting parent kept) before
      (Rests setting.grammar.vocabulary setting.listener.Keeps (parent.add [node]) before) := by
  cases kept with
  | none =>
      refine ⟨.refl before, by simp [attach], fun keeps => ?_⟩
      cases same keeps
  | some kept =>
      unfold attach
      simp only [ensures_bind, ensures_get, ensures_modify]
      have told := quiet_listener before
        (setting.listener.child parent kept before.listener).1
      cases answer : (setting.listener.child parent kept before.listener).2.2 with
      | ok found =>
          simp only [ensures_pure]
          refine ⟨told.course, by simp, fun keeps => ⟨?_, told.log⟩⟩
          obtain rfl := Option.some.inj (same keeps)
          have child := keeps.child parent kept before.listener
          exact congrArg Except.ok (congrArg Prod.fst child)
      | error refusal =>
          refine ensures_refused told (fun keeps => ?_) refusal _
          simp [keeps.child] at answer

/-! ## Tokens -/

/-- The steps behind a token that is consumed. -/
theorem ensures_leaf (parent : Branch) (leaf : Node) :
    Ensures (do
      enter setting leaf
      attach setting parent (← exit setting leaf)) before
        (Rests setting.grammar.vocabulary setting.listener.Keeps (parent.add [leaf]) before) := by
  apply (ensures_enter leaf).rests_bind
  intro _ _ _ _
  exact (ensures_exit leaf).rests_bind fun kept _ _ same => ensures_attach parent leaf kept same

/-- A token is consumed if it is of the right kind. Otherwise nothing is taken. -/
theorem ensures_token {id : TokenId} {pattern : Pattern}
    (known : setting.grammar.vocabulary.find? id = some pattern) (parent : Branch) :
    Ensures (token setting id parent) before fun outcome after =>
      match outcome with
      | .ok branch => ∃ token, token.id = id ∧
          Course setting.grammar.vocabulary before [.consumed token] after ∧
            (setting.listener.Keeps → branch = parent.add [.leaf token pattern.name])
      | .error (.mismatch _) => Course setting.grammar.vocabulary before [] after
      | .error halt => halt = .abort := by
  unfold token
  apply (ensures_peek 0).bind
  · intro found middle reached
    obtain ⟨reads, buffered⟩ := reached
    cases found with
    | none => exact reads.course
    | some next =>
        dsimp only
        split
        · exact reads.course
        · rename_i kind
          have kind : next.id = id := not_not.mp kind
          obtain ⟨rest, shape⟩ := exists_cons_of_getElem?_zero (buffered _ rfl).1
          apply (ensures_consume shape).bind
          · intro taken consumed reached
            obtain ⟨answer, course, _⟩ | ⟨never, _⟩ := reached
            · obtain rfl := Except.ok.inj answer
              simp only [known]
              apply (ensures_leaf parent _).mono
              intro outcome after rests
              cases outcome with
              | ok branch =>
                  refine ⟨taken, kind, (reads.course.trans course).trans rests.course,
                    fun keeps => ?_⟩
                  exact Except.ok.inj (rests.answers keeps).1
              | error halt =>
                  obtain ⟨rfl, _⟩ := rests.halts halt rfl
                  exact rfl
            · cases never
          · intro halt after reached
            obtain ⟨never, _⟩ | ⟨answer, _⟩ := reached
            · cases never
            · obtain rfl := Except.error.inj answer
              exact rfl
  · intro halt after reached
    obtain ⟨rfl, _⟩ := reached.1.halts halt rfl
    exact rfl

/-! ## Decisions -/

/-- A choice is made by what is ahead. Without an alternative for it nothing is taken. -/
theorem ensures_choose (rule : ResolvedRule) :
    Ensures (choose setting rule) before fun outcome after =>
      match outcome with
      | .ok (index, _) => Course setting.grammar.vocabulary before [] after ∧
          rule.choice? (before.upcoming setting.grammar.vocabulary) = some index
      | .error (.mismatch _) => Course setting.grammar.vocabulary before [] after ∧
          rule.choice? (before.upcoming setting.grammar.vocabulary) = none
      | .error halt => halt = .abort := by
  unfold choose
  cases made : rule.decision with
  | none => exact ⟨.refl before, by simp [ResolvedRule.choice?, made]⟩
  | some decision =>
      apply (ensures_lookAhead decision.depth 0).bind
      · intro input middle reads
        have choice : rule.choice? (before.upcoming setting.grammar.vocabulary) =
            decision.select input := by
          rw [reads.only input rfl, List.drop_zero]
          simp [ResolvedRule.choice?, Decision.look, made]
        rw [choice]
        cases selected : decision.select input with
        | none => exact ⟨reads.course, rfl⟩
        | some index => exact ⟨reads.course, rfl⟩
      · intro halt after reads
        obtain ⟨rfl, _⟩ := reads.halts halt rfl
        exact rfl

/-- Recording how a loop goes on changes nothing. -/
theorem ensures_recordLoop (symbol : Symbol) (count : Nat) (again : Bool) :
    Ensures (recordLoop symbol count again) before (Reads vocabulary again before) := by
  cases symbol with
  | token id => exact ensures_pure_reads again
  | rule id =>
      exact ⟨.of_quiet (quiet_record _ rfl), fun _ same => (Except.ok.inj same).symm⟩

/-- Another copy is taken as what is ahead says. -/
theorem ensures_wantsMore (element : ResolvedElement) (count : Nat) :
    Ensures (wantsMore setting element count) before (Reads setting.grammar.vocabulary
      (element.wants count (before.upcoming setting.grammar.vocabulary)) before) := by
  unfold wantsMore ResolvedElement.wants
  split
  · exact ensures_pure_reads false
  · split
    · exact ensures_pure_reads true
    · cases element.decision with
      | none => exact ensures_recordLoop element.symbol count false
      | some decision =>
          apply (ensures_lookAhead decision.depth 0).reads_bind
          intro middle _
          rw [List.drop_zero]
          exact ensures_recordLoop element.symbol count _

/-! ## Inside productions -/

theorem ensures_attempt {step : Parse σ α} {post : Except Halt (Except Halt α) → Parser σ → Prop} :
    Ensures (attempt step) before post ↔
      Ensures step before fun outcome after => post (.ok outcome) after := Iff.rfl

/-- A step inside a production takes what it takes alone, unless the limit on recursion is
reached. -/
theorem ensures_inside {rule : RuleId} {step : Parse σ α}
    {post : Except Halt α → Parser σ → Prop}
    (limited : setting.limits.recursion ≠ none → ∀ after, Reported before after →
      post (.error .abort) after)
    (inner : ∀ middle, Quiet before middle → Ensures step middle fun outcome last =>
      ∀ after, Quiet last after → post outcome after) :
    Ensures (inside setting rule step) before post := by
  unfold inside
  simp only [ensures_bind, ensures_get]
  split
  · rename_i exceeded
    simp only [ensures_bind]
    apply ensures_fail.mono
    intro outcome after reached
    obtain ⟨rfl, reported⟩ := reached
    exact limited (fun unlimited => by simp [unlimited] at exceeded) after reported
  · simp only [ensures_bind, ensures_modify, ensures_record, ensures_attempt]
    have entered : Quiet before { before with
        depth := before.depth + 1, trace := before.trace.push (.enter rule) } :=
      ⟨⟨rfl, rfl, rfl, by simp [taken, TraceEvent.taken?]⟩, rfl, rfl⟩
    apply (inner _ entered).mono
    intro outcome last reached
    have left := reached { last with
      trace := last.trace.push (.exit rule), depth := last.depth - 1 }
      ⟨⟨rfl, rfl, rfl, by simp [taken, TraceEvent.taken?]⟩, rfl, rfl⟩
    cases outcome with
    | ok value => exact left
    | error halt => exact left

end Parser

end StrongLL
