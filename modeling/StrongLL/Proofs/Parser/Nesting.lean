import StrongLL.Proofs.Parser.Heard
import StrongLL.Proofs.Parser.Honesty

/-!
# Calls are nested

A parse whose start production completes has told its listener of nodes in nested calls. Only
where no alternative of a production can be chosen the listener was told of a node in vain: of
it nothing more is heard. A token is skipped for it, and another node of the production is
begun.
-/

namespace StrongLL

namespace Parser

variable {σ α : Type} {setting : Setting σ} {before middle after : Parser σ}

/-! ## Calls and skipped tokens -/

/-- From one state to another some calls are made, and at least a number of tokens is
skipped. -/
def Called (setting : Setting σ) (before : Parser σ) (skips : Nat) (calls : List Call)
    (after : Parser σ) : Prop :=
  ∃ acts, Run setting before acts after ∧ callsOf acts = calls ∧
    skips ≤ (acts.filterMap Act.taken?).countP Taken.isSkipped

section

variable {skips more : Nat} {calls further : List Call}

theorem Called.trans (first : Called setting before skips calls middle)
    (later : Called setting middle more further after) :
    Called setting before (skips + more) (calls ++ further) after := by
  obtain ⟨acts, run, rfl, skipped⟩ := first
  obtain ⟨others, moreRun, rfl, moreSkipped⟩ := later
  refine ⟨acts ++ others, run.append moreRun, callsOf_append acts others, ?_⟩
  rw [List.filterMap_append, List.countP_append]
  exact Nat.add_le_add skipped moreSkipped

theorem Called.fewer (called : Called setting before skips calls after) (fewer : more ≤ skips) :
    Called setting before more calls after := by
  obtain ⟨acts, run, same, skipped⟩ := called
  exact ⟨acts, run, same, Nat.le_trans fewer skipped⟩

theorem Called.warned (called : Called setting before skips calls after) (warned : before.Warned) :
    after.Warned := by
  obtain ⟨acts, run, _⟩ := called
  exact run.warned warned

theorem Called.listener_eq (called : Called setting before skips calls after) :
    after.listener = setting.listener.heard before.listener calls := by
  obtain ⟨acts, run, rfl, _⟩ := called
  exact run.listener_eq

theorem called_single {act : Act} (allowed : act.Allowed setting.limits before) :
    Called setting before 0 act.call?.toList (act.apply setting before) := by
  refine ⟨[act], .single allowed, ?_, Nat.zero_le _⟩
  cases shape : act.call? <;> simp [callsOf, shape]

theorem Acted.called {outcome : Except Halt α}
    (acted : Acted setting Act.OnInput before outcome after) : Called setting before 0 [] after := by
  obtain ⟨acts, run, onInput, _⟩ := acted
  exact ⟨acts, run, callsOf_onInput onInput, Nat.zero_le _⟩

end

/-! ## Steps between two nodes -/

theorem called_enter (node : Node) : Ensures (enter setting node) before fun outcome after =>
    Called setting before 0 [.enter node] after ∧
      (outcome = .ok () ∨ outcome = .error .abort) := by
  have allowed : (Act.enter node).Allowed setting.limits before := trivial
  apply (ensures_tell_eq (setting.listener.enter node) ()).mono
  rintro outcome after ⟨rfl, answers⟩
  refine ⟨called_single allowed, ?_⟩
  cases told : (setting.listener.enter node before.listener).2 with
  | ok value =>
      rw [told] at answers
      exact .inl answers
  | error refusal =>
      rw [told] at answers
      exact answers

theorem called_exit (node : Node) : Ensures (exit setting node) before fun outcome after =>
    Called setting before 0 [.exit node] after ∧
      (outcome = .ok (setting.listener.close node before.listener).2.2 ∨
        outcome = .error .abort) := by
  have allowed : (Act.exit node).Allowed setting.limits before := trivial
  apply (ensures_exit_eq node).mono
  rintro outcome after ⟨rfl, answers⟩
  refine ⟨called_single allowed, ?_⟩
  unfold Listener.close
  generalize setting.listener.exit node before.listener = told at answers ⊢
  obtain ⟨state, answer⟩ := told
  cases answer with
  | ok kept => exact .inl answers
  | error refusal => exact answers

theorem called_attach (parent : Branch) (kept : Option Node) :
    Ensures (attach setting parent kept) before fun outcome after =>
      Called setting before 0 (setting.listener.attachment before.listener parent kept).1 after ∧
        (outcome = .ok (setting.listener.attachment before.listener parent kept).2 ∨
          outcome = .error .abort) := by
  cases kept with
  | none => exact ⟨⟨[], .done before, rfl, Nat.zero_le _⟩, .inl rfl⟩
  | some node =>
      have allowed : (Act.child parent node).Allowed setting.limits before := trivial
      apply (ensures_attach_eq parent node).mono
      rintro outcome after ⟨rfl, ended⟩
      exact ⟨called_single allowed, ended.imp_right And.left⟩

/-- A token is skipped, or the parse is over. -/
theorem called_recover (diagnostic : Diagnostic) (warned : before.Warned) :
    Ensures (recover setting diagnostic) before fun outcome after =>
      outcome = .ok () ∧ Called setting before 1 [] after ∨ outcome = .error .abort := by
  apply ((actsAs_recover diagnostic before warned).and (ensures_recover diagnostic)).mono
  rintro outcome after ⟨⟨acts, run, onInput, _⟩, ended⟩
  cases outcome with
  | ok value =>
      obtain ⟨token, course⟩ := ended
      refine .inl ⟨rfl, acts, run, callsOf_onInput onInput, ?_⟩
      have items := List.append_cancel_left (run.taken_eq.symm.trans course.taken)
      rw [items]
      rfl
  | error halt =>
      obtain rfl : halt = .abort := ended
      exact .inr rfl

theorem actsAs_checkEnd : ActsAs setting Act.OnInput (checkEnd setting) := by
  unfold checkEnd
  apply ((actsAs_peek 0).weaken onInput_of_scan).bind
  intro found
  cases found with
  | none => exact actsAs_pure ()
  | some token =>
      intro before warned
      apply (ensures_report_eq _ true).mono
      rintro outcome after ⟨_, rfl⟩
      have allowed (diagnostic : Diagnostic) :
          (Act.mismatch diagnostic).Allowed setting.limits before := trivial
      exact acted_single (allowed _) (.mismatch _) fun _ => log_stumble _ warned

/-! ## Steps that fill a branch -/

/-- How a step ends that fills a branch. Where it ends with a mismatch the branch is left
alone, and only some calls were made. -/
def FilledBy (setting : Setting σ) (retried : List Call → Prop) (before : Parser σ)
    (parent : Branch) : Except Halt Branch → Parser σ → Prop
  | .ok branch, after => ∃ vain calls, Called setting before vain calls after ∧
      Nested setting.listener vain before.listener parent calls branch
  | .error (.mismatch _), after => ∃ calls, retried calls ∧ Called setting before 0 calls after
  | .error _, _ => True

/-- Nothing is told of, or one production in vain. -/
def OneGivenUp (calls : List Call) : Prop :=
  calls = [] ∨ ∃ id name, calls = [.enter (.branch id name [])]

section

variable {retried : List Call → Prop} {parent branch : Branch} {outcome : Except Halt Branch}
  {vain : Nat} {calls : List Call}

theorem FilledBy.behind (first : Called setting before vain calls middle)
    (nested : Nested setting.listener vain before.listener parent calls branch)
    (later : FilledBy setting (fun _ => False) middle branch outcome after) :
    FilledBy setting retried before parent outcome after := by
  cases outcome with
  | ok last =>
      obtain ⟨within, more, called, inner⟩ := later
      rw [first.listener_eq] at inner
      exact ⟨vain + within, calls ++ more, first.trans called, nested.trans inner⟩
  | error halt =>
      cases halt with
      | mismatch _ =>
          obtain ⟨_, never, _⟩ := later
          exact never.elim
      | abort => trivial
      | unfinished => trivial

theorem FilledBy.behind_input (first : Called setting before 0 [] middle)
    (later : FilledBy setting retried middle parent outcome after) :
    FilledBy setting retried before parent outcome after := by
  have same : middle.listener = before.listener := first.listener_eq
  cases outcome with
  | ok last =>
      obtain ⟨within, more, called, inner⟩ := later
      rw [same] at inner
      have whole := first.trans called
      rw [Nat.zero_add, List.nil_append] at whole
      exact ⟨within, more, whole, inner⟩
  | error halt =>
      cases halt with
      | mismatch _ =>
          obtain ⟨more, allowed, called⟩ := later
          exact ⟨more, allowed, first.trans called⟩
      | abort => trivial
      | unfinished => trivial

/-- What is done behind a step without a call changes nothing. -/
theorem FilledBy.then_act (filled : FilledBy setting retried before parent outcome middle)
    {act : Act} (allowed : act.Allowed setting.limits middle) (silent : act.call? = none) :
    FilledBy setting retried before parent outcome (act.apply setting middle) := by
  have extends' : ∀ {skips calls}, Called setting before skips calls middle →
      Called setting before skips calls (act.apply setting middle) := by
    intro skips calls called
    have longer := called.trans (called_single allowed)
    rwa [silent, Option.toList_none, List.append_nil] at longer
  cases outcome with
  | ok last =>
      obtain ⟨vain, calls, called, nested⟩ := filled
      exact ⟨vain, calls, extends' called, nested⟩
  | error halt =>
      cases halt with
      | mismatch _ =>
          obtain ⟨calls, allowed, called⟩ := filled
          exact ⟨calls, allowed, extends' called⟩
      | abort => trivial
      | unfinished => trivial

theorem OneGivenUp.nested (givenUp : OneGivenUp calls) (listener : Listener σ) (state : σ)
    (parent : Branch) : ∃ vain ≤ 1, Nested listener vain state parent calls parent := by
  rcases givenUp with rfl | ⟨id, name, rfl⟩
  · exact ⟨0, Nat.zero_le 1, .nothing state parent⟩
  · exact ⟨1, Nat.le_refl 1, (Nested.nothing state parent).givenUp id name⟩

theorem filledBy_nothing (parent : Branch) (before : Parser σ) :
    FilledBy setting retried before parent (.ok parent) before :=
  ⟨0, [], ⟨[], .done before, rfl, Nat.zero_le _⟩, .nothing _ _⟩

theorem FilledBy.weaken {retried' : List Call → Prop}
    (filled : FilledBy setting retried before parent outcome after)
    (wider : ∀ calls, retried calls → retried' calls) :
    FilledBy setting retried' before parent outcome after := by
  cases outcome with
  | ok _ => exact filled
  | error halt =>
      cases halt with
      | mismatch _ =>
          obtain ⟨calls, allowed, called⟩ := filled
          exact ⟨calls, wider calls allowed, called⟩
      | abort => trivial
      | unfinished => trivial

end

theorem filledBy_halt {halt : Halt} {parent : Branch} (called : Called setting before 0 [] after) :
    FilledBy setting (· = []) before parent (.error halt) after := by
  cases halt with
  | mismatch diagnostic => exact ⟨[], rfl, called⟩
  | abort => trivial
  | unfinished => trivial

/-- A node is complete, and what is kept of it is attached. -/
theorem called_completion (parent : Branch) (node : Node) :
    Ensures (do attach setting parent (← exit setting node)) before fun outcome after =>
      (∃ branch, outcome = .ok branch ∧ ∃ calls, Called setting before 0 calls after ∧
        setting.listener.completion before.listener parent node = (calls, branch)) ∨
          outcome = .error .abort := by
  apply (called_exit node).bind
  · rintro kept middle ⟨exited, answer⟩
    obtain rfl := Except.ok.inj (answer.resolve_right nofun)
    have told : middle.listener = setting.listener.hear before.listener (.exit node) :=
      exited.listener_eq
    apply (called_attach parent _).mono
    rintro outcome after ⟨attached, ended⟩
    rw [told] at attached ended
    exact ended.imp_left fun same => ⟨_, same, _, exited.trans attached, rfl⟩
  · rintro halt after ⟨_, ended⟩
    cases ended.resolve_left nofun
    exact .inr rfl

theorem filledBy_leaf (token : Token) (name : String) (parent : Branch) :
    Ensures (do
      enter setting (.leaf token name)
      attach setting parent (← exit setting (.leaf token name))) before
        (FilledBy setting (· = []) before parent) := by
  apply (called_enter (.leaf token name)).bind
  · rintro _ middle ⟨entered, _⟩
    apply (called_completion parent (.leaf token name)).mono
    rintro outcome after (⟨branch, rfl, calls, completed, closes⟩ | rfl)
    · rw [entered.listener_eq] at closes
      exact ⟨0, _, entered.trans completed,
        (Nested.nothing before.listener parent).leaf token name closes⟩
    · trivial
  · rintro halt after ⟨_, ended⟩
    cases ended.resolve_left nofun
    trivial

theorem filledBy_token (id : TokenId) (parent : Branch) (warned : before.Warned) :
    Ensures (token setting id parent) before (FilledBy setting (· = []) before parent) := by
  have looks := (@actsAs_peek σ setting 0).weaken onInput_of_scan before warned
  unfold token
  apply (looks.and (ensures_peek 0)).bind
  · rintro found middle ⟨scanned, _, buffered⟩
    have first := scanned.called
    cases found with
    | none => exact filledBy_halt first
    | some next =>
        dsimp only
        split
        · exact filledBy_halt first
        · obtain ⟨rest, shape⟩ := exists_cons_of_getElem?_zero (buffered _ rfl).1
          apply (acted_consume shape).bind
          · intro token consumed taken
            apply (filledBy_leaf token _ parent).mono
            intro outcome after filled
            exact filled.behind_input (first.trans taken.called)
          · exact fun halt after taken => filledBy_halt (first.trans taken.called)
  · exact fun halt after ⟨scanned, _⟩ => filledBy_halt scanned.called

/-! ## The descent -/

/-- The calls about a production: it is filled between its beginning and its completion, or it
is given up. -/
def Visited (setting : Setting σ) (before : Parser σ) (id : RuleId) :
    Except Halt (Option Node) → Parser σ → Prop
  | .ok kept, after => ∃ found vain inner branch, setting.grammar.rule? id = some found ∧
      Called setting before vain (.enter (.branch id found.name []) :: (inner ++
        [.exit branch.toNode])) after ∧
      Nested setting.listener vain
        (setting.listener.heard before.listener [.enter (.branch id found.name [])])
          ⟨id, found.name, []⟩ inner branch ∧
      kept = (setting.listener.close branch.toNode (setting.listener.heard before.listener
        (.enter (.branch id found.name []) :: inner))).2.2
  | .error (.mismatch _), after => ∃ found, setting.grammar.rule? id = some found ∧
      Called setting before 0 [.enter (.branch id found.name [])] after
  | .error _, _ => True

/-- What holds of all calls with some fuel. -/
structure FilledAt (setting : Setting σ) (fuel : Nat) : Prop where
  rule : ∀ id before, before.Warned → Ensures (rule setting fuel id) before (Visited setting before id)
  alternatives : ∀ found parent before, before.Warned →
    Ensures (alternatives setting fuel found parent) before
      (FilledBy setting (· = []) before parent)
  elements : ∀ row parent before, before.Warned → Ensures (elements setting fuel row parent) before
    (FilledBy setting (fun _ => False) before parent)
  copies : ∀ element count parent before, before.Warned →
    Ensures (copies setting fuel element count parent) before
      (FilledBy setting (fun _ => False) before parent)
  symbol : ∀ target parent before, before.Warned →
    Ensures (symbol setting fuel target parent) before (FilledBy setting OneGivenUp before parent)

section

variable {fuel : Nat} (filled : FilledAt setting fuel)

include filled

theorem visited_rule (id : RuleId) (warned : before.Warned) :
    Ensures (rule setting (fuel + 1) id) before (Visited setting before id) := by
  unfold rule
  cases lookup : setting.grammar.rule? id with
  | none => trivial
  | some found =>
      apply (called_enter (.branch id found.name [])).bind
      · rintro _ entered ⟨begun, _⟩
        have told := begun.listener_eq
        apply (filled.alternatives found ⟨id, found.name, []⟩ entered (begun.warned warned)).bind
        · rintro branch middle ⟨vain, inner, called, nested⟩
          have inside := begun.trans called
          rw [Nat.zero_add] at inside
          rw [told] at nested
          apply (called_exit branch.toNode).mono
          rintro outcome after ⟨exited, ended⟩
          rw [inside.listener_eq] at ended
          rcases ended with rfl | rfl
          · exact ⟨found, vain, inner, branch, lookup, inside.trans exited, nested, rfl⟩
          · trivial
        · rintro halt after stuck
          cases halt with
          | mismatch diagnostic =>
              obtain ⟨_, rfl, called⟩ := stuck
              exact ⟨found, lookup, begun.trans called⟩
          | abort => trivial
          | unfinished => trivial
      · rintro halt after ⟨_, ended⟩
        cases ended.resolve_left (by simp)
        trivial

theorem filledBy_alternatives (found : ResolvedRule) (parent : Branch) (warned : before.Warned) :
    Ensures (alternatives setting (fuel + 1) found parent) before
      (FilledBy setting (· = []) before parent) := by
  unfold alternatives
  apply ensures_inside_eq
  · exact fun _ => trivial
  · intro allowed
    have opened := called_single allowed
    have closed : ∀ {outcome last}, FilledBy setting (· = []) before parent outcome last →
        FilledBy setting (· = []) before parent outcome
          ((Act.closeRule found.id).apply setting last) := by
      intro outcome last filled
      have allowed : (Act.closeRule found.id).Allowed setting.limits last := trivial
      exact filled.then_act allowed rfl
    apply (actsAs_choose found _ (opened.warned warned)).bind
    · rintro ⟨index, depth⟩ middle chosen
      have first := opened.trans chosen.called
      dsimp only
      cases found.alternatives[index]? with
      | none => trivial
      | some row =>
          have decision : (Act.decide (.alternative found.id index depth)).Allowed setting.limits
            middle := .inl ⟨_, _, _, rfl⟩
          have recorded := first.trans (called_single decision)
          rw [ensures_bind, ensures_record]
          apply (filled.elements row parent _ (recorded.warned warned)).mono
          intro outcome last later
          exact closed ((later.weaken fun _ never => never.elim).behind_input recorded)
    · exact fun halt after stuck => closed (filledBy_halt (opened.trans stuck.called))

theorem filledBy_elements (row : List ResolvedElement) (parent : Branch) (warned : before.Warned) :
    Ensures (elements setting (fuel + 1) row parent) before
      (FilledBy setting (fun _ => False) before parent) := by
  cases row with
  | nil => exact filledBy_nothing parent before
  | cons element rest =>
      unfold elements
      apply (filled.copies element 0 parent before warned).bind
      · rintro branch middle ⟨vain, calls, called, nested⟩
        apply (filled.elements rest branch middle (called.warned warned)).mono
        intro outcome after later
        exact later.behind called nested
      · intro halt after stuck
        cases halt with
        | mismatch diagnostic => exact stuck
        | abort => trivial
        | unfinished => trivial

theorem filledBy_copies (element : ResolvedElement) (count : Nat) (parent : Branch)
    (warned : before.Warned) : Ensures (copies setting (fuel + 1) element count parent) before
      (FilledBy setting (fun _ => False) before parent) := by
  rw [copies_succ]
  apply ((actsAs_wantsMore element count before warned).and
    (ensures_wantsMore element count)).bind
  · rintro wanted middle ⟨decided, _⟩
    have first := decided.called
    have still := first.warned warned
    cases wanted with
    | false => exact (filledBy_nothing parent middle).behind_input first
    | true =>
        simp only [if_true, rescue, ensures_bind, ensures_attempt]
        apply (filled.symbol element.symbol parent middle still).mono
        intro outcome tried made
        cases outcome with
        | ok branch =>
            obtain ⟨vain, calls, called, nested⟩ := made
            apply (filled.copies element (count + 1) branch tried (called.warned still)).mono
            intro outcome after later
            exact (later.behind called nested).behind_input first
        | error halt =>
            cases halt with
            | mismatch diagnostic =>
                obtain ⟨calls, givenUp, called⟩ := made
                obtain ⟨vain, few, nested⟩ := givenUp.nested setting.listener middle.listener parent
                rw [ensures_bind]
                apply (called_recover diagnostic (called.warned still)).mono
                rintro _ recovered (⟨rfl, skipped⟩ | rfl)
                · have tries := called.trans skipped
                  rw [List.append_nil] at tries
                  apply (filled.copies element count parent recovered (tries.warned still)).mono
                  intro outcome after later
                  exact (later.behind (tries.fewer (by omega)) nested).behind_input first
                · trivial
            | abort => trivial
            | unfinished => trivial
  · rintro halt after ⟨_, reads⟩
    obtain ⟨rfl, _⟩ := reads.halts halt rfl
    trivial

theorem filledBy_symbol (target : Symbol) (parent : Branch) (warned : before.Warned) :
    Ensures (symbol setting (fuel + 1) target parent) before
      (FilledBy setting OneGivenUp before parent) := by
  have quiet : ∀ calls, calls = [] → OneGivenUp calls := fun _ => .inl
  cases target with
  | token id =>
      exact (filledBy_token id parent warned).mono fun _ _ filled => filled.weaken quiet
  | rule id =>
      unfold symbol
      cases lookup : setting.grammar.rule? id with
      | none => trivial
      | some found =>
          dsimp only
          split
          · exact (filled.alternatives found parent before warned).mono fun _ _ inner =>
              inner.weaken quiet
          · apply (filled.rule id before warned).bind
            · rintro kept middle ⟨found, vain, inner, branch, _, called, nested, rfl⟩
              let begun : List Call := .enter (.branch id found.name []) :: inner
              have told : middle.listener = setting.listener.hear
                  (setting.listener.heard before.listener begun) (.exit branch.toNode) :=
                called.listener_eq.trans (setting.listener.heard_append before.listener begun _)
              apply (called_attach parent _).mono
              rintro outcome after ⟨attached, ended⟩
              rw [told] at attached ended
              rcases ended with rfl | rfl
              · have whole := called.trans attached
                rw [List.cons_append, List.append_assoc] at whole
                have placed := (Nested.nothing before.listener parent).branch id found.name nested rfl
                rw [Nat.zero_add] at placed
                exact ⟨vain, _, whole, placed⟩
              · trivial
            · intro halt after stuck
              cases halt with
              | mismatch diagnostic =>
                  obtain ⟨found, _, called⟩ := stuck
                  exact ⟨_, .inr ⟨id, found.name, rfl⟩, called⟩
              | abort => trivial
              | unfinished => trivial

end

theorem filledAt (fuel : Nat) : FilledAt setting fuel := by
  induction fuel with
  | zero =>
      exact ⟨fun _ _ _ => trivial, fun _ _ _ _ => trivial, fun _ _ _ _ => trivial,
        fun _ _ _ _ _ => trivial, fun _ _ _ _ => trivial⟩
  | succ fuel ih =>
      exact ⟨fun id _ => visited_rule ih id, fun found parent _ => filledBy_alternatives ih found parent,
        fun row parent _ => filledBy_elements ih row parent,
        fun element count parent _ => filledBy_copies ih element count parent,
        fun target parent _ => filledBy_symbol ih target parent⟩

/-! ## Whole parses -/

/-- The calls of a parse whose start production completes: some nodes of it that are told of in
vain, one that is filled, and its completion, which gives the result. -/
def NestedParse (listener : Listener σ) (id : RuleId) (name : String) (vain : Nat) (state : σ)
    (calls : List Call) (kept : Option Node) : Prop :=
  ∃ tries within inner branch, vain = tries + within ∧
    let begun := List.replicate (tries + 1) (Call.enter (.branch id name []))
    calls = begun ++ (inner ++ [.exit branch.toNode]) ∧
      Nested listener within (listener.heard state begun) ⟨id, name, []⟩ inner branch ∧
        kept = (listener.close branch.toNode (listener.heard state (begun ++ inner))).2.2

section

variable {listener : Listener σ} {id : RuleId} {name : String} {vain : Nat} {state : σ}
  {calls : List Call} {kept : Option Node}

theorem NestedParse.again (nested : NestedParse listener id name vain
      (listener.heard state [.enter (.branch id name [])]) calls kept) :
    NestedParse listener id name (vain + 1) state (.enter (.branch id name []) :: calls) kept := by
  obtain ⟨tries, within, inner, branch, rfl, rfl, inside, rfl⟩ := nested
  exact ⟨tries + 1, within, inner, branch, by omega, rfl, inside, rfl⟩

theorem NestedParse.count (nested : NestedParse listener id name vain state calls kept) :
    calls.countP Call.isEnter = calls.countP Call.isExit + vain := by
  obtain ⟨tries, within, inner, branch, rfl, rfl, inside, _⟩ := nested
  have begun : (List.replicate (tries + 1) (Call.enter (.branch id name []))).countP Call.isEnter =
        tries + 1 ∧
      (List.replicate (tries + 1) (Call.enter (.branch id name []))).countP Call.isExit = 0 := by
    simp [List.countP_replicate, Call.isEnter, Call.isExit]
  have closed : [Call.exit branch.toNode].countP Call.isEnter = 0 ∧
      [Call.exit branch.toNode].countP Call.isExit = 1 := ⟨rfl, rfl⟩
  have filled := inside.count
  simp only [List.countP_append, begun, closed]
  omega

end

theorem nested_root (steps fuel : Nat) (warned : before.Warned) :
    Ensures (root setting steps fuel) before fun outcome after =>
      ∀ kept, outcome = .ok kept → ∃ found vain calls,
        setting.grammar.rule? setting.grammar.start = some found ∧
          Called setting before vain calls after ∧
            NestedParse setting.listener setting.grammar.start found.name vain before.listener
              calls kept := by
  induction fuel generalizing before with
  | zero =>
      intro kept never
      cases never
  | succ fuel ih =>
      unfold root
      rw [ensures_bind, ensures_attempt]
      apply ((filledAt steps).rule setting.grammar.start before warned).mono
      intro outcome middle visited
      cases outcome with
      | ok kept =>
          obtain ⟨found, vain, inner, branch, lookup, called, nested, rfl⟩ := visited
          dsimp only
          rw [ensures_bind, ensures_discard]
          apply (actsAs_checkEnd middle (called.warned warned)).mono
          rintro _ after acted other same
          obtain rfl := Except.ok.inj same
          have whole := called.trans acted.called
          rw [List.append_nil] at whole
          exact ⟨found, vain, _, lookup, whole, 0, vain, inner, branch, (Nat.zero_add _).symm, rfl,
            nested, rfl⟩
      | error halt =>
          cases halt with
          | mismatch diagnostic =>
              obtain ⟨found, lookup, called⟩ := visited
              dsimp only
              rw [ensures_bind]
              apply (called_recover diagnostic (called.warned warned)).mono
              rintro _ recovered (⟨rfl, skipped⟩ | rfl)
              · have tried := called.trans skipped
                apply (ih (tried.warned warned)).mono
                intro outcome after later kept same
                obtain ⟨again, vain, calls, lookup', more, nested⟩ := later kept same
                obtain rfl := Option.some.inj (lookup.symm.trans lookup')
                rw [tried.listener_eq] at nested
                have whole := tried.trans more
                rw [Nat.zero_add, Nat.add_comm] at whole
                exact ⟨found, vain + 1, _, lookup, whole, nested.again⟩
              · intro kept never
                cases never
          | abort =>
              intro kept never
              cases never
          | unfinished =>
              intro kept never
              cases never

/-! ## The calls that are kept -/

theorem NestedParse.of_recorded {listener : Listener σ} {id : RuleId} {name : String} {vain : Nat}
    {state : σ × List Call} {calls : List Call} {kept : Option Node}
    (nested : NestedParse listener.recorded id name vain state calls kept) :
    NestedParse listener id name vain state.1 calls kept := by
  obtain ⟨tries, within, inner, branch, rfl, rfl, inside, rfl⟩ := nested
  have filled := nested_of_recorded inside
  rw [heard_recorded] at filled
  refine ⟨tries, within, inner, branch, rfl, rfl, filled, ?_⟩
  rw [close_recorded, heard_recorded]

/-- How the start production of a parse ends. -/
def startOutcome (setting : Setting σ) (parser : Parser σ) : Except Halt (Option Node) :=
  ((root setting (parser.prepare.stepBound setting.grammar)
    (parser.prepare.tokenBound + 2)).run.run parser.prepare).1

theorem startOutcome_recorded (setting : Setting σ) (parser : Parser σ) :
    startOutcome setting.recorded parser.recorded = startOutcome setting parser := by
  have start : Alike (recording σ) parser.recorded.prepare parser.prepare :=
    ⟨rfl, rfl, rfl, rfl, rfl, rfl, rfl, rfl, rfl⟩
  have matched := (inStep_root (parsesAlike_recording setting)
    (parser.prepare.stepBound setting.grammar) (parser.prepare.tokenBound + 2) _ _ start).1
  change Matched Eq (startOutcome setting.recorded parser.recorded) (startOutcome setting parser)
    at matched
  generalize startOutcome setting.recorded parser.recorded = left at matched ⊢
  generalize startOutcome setting parser = right at matched ⊢
  cases matched with
  | ok same => rw [same]
  | error halt => rfl

/-- In a parse whose start production completes the calls are nested, but for the productions
that are told of in vain. For each of these a token was skipped. -/
theorem parse_nested (setting : Setting σ) (parser : Parser σ) {kept : Option Node}
    (completes : startOutcome setting parser = .ok kept) :
    ∃ found vain items, setting.grammar.rule? setting.grammar.start = some found ∧
      NestedParse setting.listener setting.grammar.start found.name vain parser.listener
        (calls setting parser) kept ∧
      (parse setting parser).1.taken = parser.taken ++ items ∧
      vain ≤ items.countP Taken.isSkipped ∧
      (calls setting parser).countP Call.isEnter =
        (calls setting parser).countP Call.isExit + vain := by
  rw [← startOutcome_recorded] at completes
  have ends : Ensures (root setting.recorded
      (parser.recorded.prepare.stepBound setting.recorded.grammar)
      (parser.recorded.prepare.tokenBound + 2)) parser.recorded.prepare _ :=
    nested_root _ _ (warned_prepare parser.recorded)
  obtain ⟨found, vain, made, lookup, ⟨acts, run, same, skipped⟩, nested⟩ := ends kept completes
  have last : (parse setting.recorded parser.recorded).1 =
      { ((root setting.recorded (parser.recorded.prepare.stepBound setting.recorded.grammar)
        (parser.recorded.prepare.tokenBound + 2)).run.run parser.recorded.prepare).2 with
        log := [] } := fst_verdict _
  have made_eq : calls setting parser = made := by
    unfold calls
    rw [last, ← same]
    exact (congrArg Prod.snd (run.listener_eq.trans (heard_recorded _ _ _))).trans
      (List.nil_append _)
  have trace := (parse_recorded setting parser).2.trace
  have taken : (parse setting parser).1.taken = parser.taken ++ acts.filterMap Act.taken? := by
    refine Eq.trans ?_ run.taken_eq
    unfold Parser.taken
    rw [← trace, last]
  rw [made_eq]
  exact ⟨found, vain, _, lookup, nested.of_recorded, taken, skipped, nested.count⟩

/-- `S = P` and `P = "a" | "b"`, with `"c"` as a token that no production has -/
def choiceBelow : Ebnf.Declaration where
  patterns := [{ id := 0, name := "A", kind := .literal, text := "a" },
    { id := 1, name := "B", kind := .literal, text := "b" },
    { id := 2, name := "C", kind := .literal, text := "c" }]
  productions := [{ id := 0, name := "S", alternatives := [[.rule 1 .once]] },
    { id := 1, name := "P", alternatives := [[.token 0 .once], [.token 1 .once]] }]

/-- The parse of `"ca"` as `S` completes behind the skipped `"c"`, but of four nodes that are
told of only three are complete. -/
theorem choiceBelow_calls : ∃ grammar kept, Grammar.build choiceBelow = .ok grammar ∧
    let setting : Setting Unit := { grammar, listener := treeBuilder }
    let fresh : Parser Unit := .ofSource (.ofString "ca") ()
    startOutcome setting fresh = .ok kept ∧ (calls setting fresh).countP Call.isEnter = 4 ∧
      (calls setting fresh).countP Call.isExit = 3 := by
  have facts : ((Grammar.build choiceBelow).toOption.any fun grammar =>
      (startOutcome ({ grammar, listener := treeBuilder } : Setting Unit)
        (.ofSource (.ofString "ca") ()) matches .ok _) &&
      ((calls ({ grammar, listener := treeBuilder } : Setting Unit)
          (.ofSource (.ofString "ca") ())).countP Call.isEnter = 4 ∧
        (calls ({ grammar, listener := treeBuilder } : Setting Unit)
          (.ofSource (.ofString "ca") ())).countP Call.isExit = 3)) = true := by
    decide +kernel
  obtain ⟨grammar, built, facts⟩ := exists_ok_of_any facts
  obtain ⟨completes, counts⟩ := Bool.and_eq_true_iff.mp facts
  split at completes
  · rename_i kept ends
    exact ⟨grammar, kept, built, ends, of_decide_eq_true counts⟩
  · cases completes

/-- The calls of this parse are not nested. -/
theorem choiceBelow_not_nested : ∃ grammar kept, Grammar.build choiceBelow = .ok grammar ∧
    let setting : Setting Unit := { grammar, listener := treeBuilder }
    let fresh : Parser Unit := .ofSource (.ofString "ca") ()
    startOutcome setting fresh = .ok kept ∧
      ∀ name, ¬ NestedParse treeBuilder grammar.start name 0 () (calls setting fresh) kept := by
  obtain ⟨grammar, kept, built, completes, enters, exits⟩ := choiceBelow_calls
  refine ⟨grammar, kept, built, completes, fun name nested => ?_⟩
  have balanced := nested.count
  rw [enters, exits] at balanced
  omega

/-- One production is told of in vain there. -/
theorem choiceBelow_nested : ∃ grammar kept name, Grammar.build choiceBelow = .ok grammar ∧
    let setting : Setting Unit := { grammar, listener := treeBuilder }
    let fresh : Parser Unit := .ofSource (.ofString "ca") ()
    startOutcome setting fresh = .ok kept ∧
      NestedParse treeBuilder grammar.start name 1 () (calls setting fresh) kept := by
  obtain ⟨grammar, kept, built, completes, enters, exits⟩ := choiceBelow_calls
  obtain ⟨found, vain, items, _, nested, _, _, count⟩ := parse_nested _ _ completes
  have one : vain = 1 := by
    rw [enters, exits] at count
    omega
  exact ⟨grammar, kept, found.name, built, completes, one ▸ nested⟩

end Parser

end StrongLL
