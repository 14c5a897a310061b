import StrongLL.Proofs.Parser.Mismatch

/-!
# Where an attempt fails

A mismatch is found before anything is taken. What did not fit is left with the parser where it
was: it has looked further, it may have told its listener that a node begins, and what it
entered it has left. So the same element can be tried again behind one skipped token. Once an
alternative is chosen no mismatch comes out of it any more.
-/

namespace StrongLL

/-- Events in which each production that is entered is left, and which are errors otherwise. -/
inductive Balanced : List TraceEvent → Prop where
  | nothing : Balanced []
  | error (diagnostic : Diagnostic) (suppressed : Bool) {rest : List TraceEvent}
      (more : Balanced rest) : Balanced (.error diagnostic suppressed :: rest)
  | visit (id : RuleId) {inner rest : List TraceEvent} (inside : Balanced inner)
      (more : Balanced rest) : Balanced (.enter id :: (inner ++ .exit id :: rest))

theorem Balanced.append {first later : List TraceEvent} (left : Balanced first)
    (right : Balanced later) : Balanced (first ++ later) := by
  induction left with
  | nothing => exact right
  | error diagnostic suppressed _ ih => exact ih.error diagnostic suppressed
  | visit id inside _ _ ih =>
      rw [List.cons_append, List.append_assoc, List.cons_append]
      exact .visit id inside ih

namespace Parser

variable {σ α β : Type} {setting : Setting σ} {before middle after : Parser σ}
  {vocabulary : Vocabulary}

/-! ## A parser that has only looked further -/

/-- Nothing is taken and nothing is left open. What was buffered is still in front, and the
tokens to come are the same. -/
structure Unmoved (vocabulary : Vocabulary) (before after : Parser σ) : Prop where
  taken : after.taken = before.taken
  executed : after.executed = before.executed
  depth : after.depth = before.depth
  buffer : before.buffer <+: after.buffer
  upcoming : after.upcoming vocabulary = before.upcoming vocabulary
  log : before.log <+: after.log
  events : ∃ events, after.trace.toList = before.trace.toList ++ events ∧ Balanced events

theorem Unmoved.refl (parser : Parser σ) : Unmoved vocabulary parser parser :=
  ⟨rfl, rfl, rfl, List.prefix_refl _, rfl, List.prefix_refl _, [], by simp, .nothing⟩

theorem Unmoved.trans (left : Unmoved vocabulary before middle)
    (right : Unmoved vocabulary middle after) : Unmoved vocabulary before after := by
  obtain ⟨first, traced, balanced⟩ := left.events
  obtain ⟨later, moreTraced, moreBalanced⟩ := right.events
  exact {
    taken := right.taken.trans left.taken
    executed := right.executed.trans left.executed
    depth := right.depth.trans left.depth
    buffer := left.buffer.trans right.buffer
    upcoming := right.upcoming.trans left.upcoming
    log := left.log.trans right.log
    events := ⟨first ++ later, by rw [moreTraced, traced, List.append_assoc],
      balanced.append moreBalanced⟩ }

/-- An error that is reported moves nothing. -/
theorem unmoved_note (diagnostic : Diagnostic) (recovery : Nat) :
    Unmoved vocabulary before { before.note diagnostic with recovery } := by
  have reported : Reported before { before.note diagnostic with recovery } :=
    reported_note diagnostic recovery
  exact {
    taken := reported.taken
    executed := rfl
    depth := rfl
    buffer := List.prefix_refl _
    upcoming := reported.upcoming
    log := reported.log
    events := ⟨[.error diagnostic _], Array.toList_push .., .error diagnostic _ .nothing⟩ }

theorem unmoved_scanned (more : before.exhausted = false) :
    Unmoved vocabulary before (scanned vocabulary before) := by
  cases given : before.scanner.next vocabulary with
  | mk scanner answer =>
      unfold scanned
      simp only [given]
      match answer with
      | .ok (some token) =>
          have course := (course_scanned more given).1
          exact ⟨by simpa using course.taken, rfl, rfl, List.prefix_append _ _,
            course.upcoming_eq, course.log, [], by simp, .nothing⟩
      | .ok none =>
          have course := (course_ended given).1
          exact ⟨by simpa using course.taken, rfl, rfl, List.prefix_refl _, course.upcoming_eq,
            course.log, [], by simp, .nothing⟩
      | .error diagnostic =>
          have noted : Unmoved vocabulary { before with scanner }
              (stumble diagnostic { before with scanner }) := unmoved_note diagnostic _
          have course : Course vocabulary before [] (stumble diagnostic { before with scanner }) :=
            course_faulty given (reported_note diagnostic _)
          exact { noted with upcoming := course.upcoming_eq }

theorem unmoved_enter (node : Node) :
    Unmoved vocabulary before ((Act.enter node).apply setting before) := by
  have told : Unmoved vocabulary before
      { before with listener := (setting.listener.enter node before.listener).1 } :=
    ⟨rfl, rfl, rfl, List.prefix_refl _, rfl, List.prefix_refl _, [], by simp, .nothing⟩
  unfold Act.apply heed
  dsimp only
  split
  · exact told
  · exact told.trans (unmoved_note _ before.recovery)

/-- What only looks further inside a production has done so outside, once this is left. -/
theorem Unmoved.visit (id : RuleId)
    (inside : Unmoved vocabulary ((Act.openRule id).apply setting before) middle) :
    Unmoved vocabulary before ((Act.closeRule id).apply setting middle) := by
  obtain ⟨events, traced, balanced⟩ := inside.events
  have entered : ((Act.openRule id).apply setting before).taken = before.taken :=
    (taken_push (.enter id)).trans (List.append_nil _)
  have left : ((Act.closeRule id).apply setting middle).taken = middle.taken :=
    (taken_push (.exit id)).trans (List.append_nil _)
  have depth : middle.depth = before.depth + 1 := inside.depth
  refine ⟨left.trans (inside.taken.trans entered), inside.executed, ?_, inside.buffer,
    inside.upcoming, inside.log, .enter id :: (events ++ [.exit id]), ?_,
    .visit id balanced .nothing⟩
  · simp [Act.apply, depth]
  · simp [Act.apply] at traced ⊢
    simp [traced]

/-! ## The acts of a failed attempt -/

/-- The acts about a production of which no alternative fits: it is entered, some tokens are
asked for, and it is left. -/
def visit (id : RuleId) (count : Nat) : List Act :=
  .openRule id :: (List.replicate count .scan ++ [.closeRule id])

/-- The acts about a symbol that does not fit. -/
inductive Tried (setting : Setting σ) : Symbol → List Act → Prop where
  | token (id : TokenId) (count : Nat) : Tried setting (.token id) (List.replicate count .scan)
  | auxiliary {id : RuleId} {found : ResolvedRule} (count : Nat)
      (lookup : setting.grammar.rule? id = some found) (isAuxiliary : found.isAuxiliary = true) :
      Tried setting (.rule id) (visit found.id count)
  | declared {id : RuleId} {found : ResolvedRule} (count : Nat)
      (lookup : setting.grammar.rule? id = some found) (isDeclared : found.isAuxiliary = false) :
      Tried setting (.rule id) (.enter (.branch id found.name []) :: visit found.id count)

section

variable {count : Nat}

theorem Run.scans_unmoved (run : Run setting before (List.replicate count .scan) after) :
    Unmoved setting.grammar.vocabulary before after := by
  induction count generalizing before with
  | zero =>
      cases run
      exact .refl _
  | succ count ih =>
      cases run with
      | act allowed more => exact (unmoved_scanned allowed).trans (ih more)

theorem Run.visit_unmoved {id : RuleId} (run : Run setting before (visit id count) after) :
    Unmoved setting.grammar.vocabulary before after := by
  cases run with
  | act _ more =>
      obtain ⟨scans, closes⟩ := more.split
      cases closes with
      | act _ last =>
          cases last
          exact scans.scans_unmoved.visit id

/-- Acts about a symbol that does not fit leave the parser where it was. -/
theorem Tried.unmoved {target : Symbol} {acts : List Act} (tried : Tried setting target acts)
    (run : Run setting before acts after) : Unmoved setting.grammar.vocabulary before after := by
  cases tried with
  | token id count => exact run.scans_unmoved
  | auxiliary count lookup isAuxiliary => exact run.visit_unmoved
  | declared count lookup isDeclared =>
      cases run with
      | act _ more => exact (unmoved_enter _).trans more.visit_unmoved

end

/-! ## Steps that look ahead -/

/-- What holds behind a step if it ends with a mismatch. -/
def OnMismatch (post : Parser σ → Prop) : Except Halt α → Parser σ → Prop
  | .error (.mismatch _), after => post after
  | .ok _, _ | .error .abort, _ | .error .unfinished, _ => True

/-- Whether a step ended with a mismatch. -/
def isMismatch : Except Halt α → Bool
  | .error (.mismatch _) => true
  | .ok _ | .error .abort | .error .unfinished => false

theorem exists_of_isMismatch {outcome : Except Halt α} (stuck : isMismatch outcome = true) :
    ∃ diagnostic, outcome = .error (.mismatch diagnostic) :=
  match outcome, stuck with
  | .error (.mismatch diagnostic), _ => ⟨diagnostic, rfl⟩

theorem OnMismatch.holds {post : Parser σ → Prop} {outcome : Except Halt α}
    {diagnostic : Diagnostic} (ends : OnMismatch post outcome after)
    (stuck : outcome = .error (.mismatch diagnostic)) : post after := by
  subst stuck
  exact ends

theorem OnMismatch.weaken {post post' : Parser σ → Prop} {outcome : Except Halt α}
    (ends : OnMismatch post outcome after) (weaker : ∀ parser, post parser → post' parser) :
    OnMismatch post' outcome after :=
  match outcome, ends with
  | .error (.mismatch _), ends => weaker _ ends
  | .ok _, _ | .error .abort, _ | .error .unfinished, _ => trivial

theorem OnMismatch.halt {post : Parser σ → Prop} {halt : Halt}
    (ends : OnMismatch post (.error halt : Except Halt α) after) :
    OnMismatch post (.error halt : Except Halt β) after :=
  match halt, ends with
  | .mismatch _, ends => ends
  | .abort, _ | .unfinished, _ => trivial

theorem onMismatch_of_abort {post : Parser σ → Prop} {outcome : Except Halt α}
    (ends : (∃ value, outcome = .ok value) ∨ outcome = .error .abort) :
    OnMismatch post outcome after := by
  obtain ⟨value, rfl⟩ | rfl := ends
  · trivial
  · trivial

/-- From one state to another tokens are only asked for. -/
def Scans (setting : Setting σ) (before after : Parser σ) : Prop :=
  ∃ count, Run setting before (List.replicate count .scan) after

theorem scans_refl (parser : Parser σ) : Scans setting parser parser := ⟨0, .done parser⟩

theorem Scans.scanned (scans : Scans setting before middle) (more : middle.exhausted = false) :
    Scans setting before (scanned setting.grammar.vocabulary middle) := by
  obtain ⟨count, run⟩ := scans
  have allowed : Act.scan.Allowed setting.limits middle := more
  refine ⟨count + 1, ?_⟩
  rw [List.replicate_succ']
  exact run.append (.single allowed)

theorem ensures_peek_scans (index : Nat) : Ensures (peek setting index) before fun _ after =>
    Scans setting before after :=
  ensures_peek_keeps (fun _ more scans => scans.scanned more) index (scans_refl before)

theorem ensures_lookAhead_scans (depth index : Nat) :
    Ensures (lookAhead setting depth index) before fun _ after => Scans setting before after :=
  ensures_lookAhead_keeps (fun _ more scans => scans.scanned more) depth index (scans_refl before)

/-! ## Steps that do not fit -/

/-- A token that is of another kind is not taken. -/
theorem ensures_token_mismatch (id : TokenId) (parent : Branch) :
    Ensures (token setting id parent) before (OnMismatch (Scans setting before)) := by
  unfold token
  apply (ensures_peek_scans 0 |>.and (ensures_peek 0)).bind
  · rintro found middle ⟨scans, _, buffered⟩
    cases found with
    | none => exact scans
    | some next =>
        dsimp only
        split
        · exact scans
        · obtain ⟨rest, shape⟩ := exists_cons_of_getElem?_zero (buffered _ rfl).1
          apply (ensures_consume_eq shape).bind
          · rintro taken consumed _
            apply (ensures_leaf parent _).mono
            intro outcome after rests
            refine onMismatch_of_abort ?_
            cases outcome with
            | ok branch => exact .inl ⟨branch, rfl⟩
            | error halt => exact .inr (congrArg _ (rests.halts halt rfl).1)
          · rintro halt after (⟨never, _⟩ | ⟨answer, _⟩)
            · cases never
            · obtain rfl := Except.error.inj answer
              trivial
  · rintro halt after ⟨_, reads, _⟩
    obtain ⟨rfl, _⟩ := reads.halts halt rfl
    trivial

/-- Without an alternative that fits tokens were only asked for. -/
theorem ensures_choose_mismatch (found : ResolvedRule) :
    Ensures (choose setting found) before (OnMismatch (Scans setting before)) := by
  unfold choose
  cases found.decision with
  | none => trivial
  | some decision =>
      apply ((ensures_lookAhead_scans decision.depth 0).and
        (ensures_lookAhead decision.depth 0)).bind
      · rintro input middle ⟨scans, _⟩
        cases decision.select input with
        | none => exact scans
        | some index => trivial
      · rintro halt after ⟨_, reads⟩
        obtain ⟨rfl, _⟩ := reads.halts halt rfl
        trivial

/-- A mismatch is never met in deciding on another copy. -/
theorem ensures_wantsMore_settled (element : ResolvedElement) (count : Nat) :
    Ensures (wantsMore setting element count) before (OnMismatch fun _ => False) := by
  apply (ensures_wantsMore element count).mono
  intro outcome after reads
  refine onMismatch_of_abort ?_
  cases outcome with
  | ok again => exact .inl ⟨again, rfl⟩
  | error halt => exact .inr (congrArg _ (reads.halts halt rfl).1)

theorem ensures_recover_settled (diagnostic : Diagnostic) :
    Ensures (recover setting diagnostic) before (OnMismatch fun _ => False) := by
  apply (ensures_recover diagnostic).mono
  intro outcome after ended
  refine onMismatch_of_abort ?_
  cases outcome with
  | ok value => exact .inl ⟨value, rfl⟩
  | error halt => exact .inr (congrArg _ ended)

/-- A call to the listener ends with a value, or the parse is over. -/
theorem Answers.ended {answer : Except Diagnostic α} {otherwise : α} {outcome : Except Halt α}
    (answers : Answers answer otherwise outcome) :
    (∃ value, outcome = .ok value) ∨ outcome = .error .abort := by
  cases answer with
  | ok value => exact .inl ⟨value, answers⟩
  | error refusal => exact answers.imp_left fun same => ⟨otherwise, same⟩

theorem ensures_attach_settled {post : Parser σ → Prop} (parent : Branch) (kept : Option Node) :
    Ensures (attach setting parent kept) before (OnMismatch post) := by
  cases kept with
  | none => trivial
  | some node =>
      apply (ensures_attach_eq parent node).mono
      rintro outcome after ⟨_, ended⟩
      exact onMismatch_of_abort (ended.imp (fun same => ⟨_, same⟩) And.left)

/-- Behind a step that ends with no mismatch, what follows decides. -/
theorem Ensures.settled_bind {step : Parse σ α} {next : α → Parse σ β} {post : Parser σ → Prop}
    (first : Ensures step before (OnMismatch fun _ => False))
    (more : ∀ value middle, Ensures (next value) middle (OnMismatch post)) :
    Ensures (step >>= next) before (OnMismatch post) :=
  first.bind (fun value middle _ => more value middle)
    fun _ _ ends => (ends.weaken fun _ never => never.elim).halt

/-! ## The descent -/

/-- How calls with some fuel end with a mismatch: those about a symbol or a production only
where they began, and those about a chosen alternative not at all. -/
structure FailsInPlace (setting : Setting σ) (fuel : Nat) : Prop where
  rule : ∀ id before, Ensures (rule setting fuel id) before (OnMismatch fun after =>
    ∃ found count, setting.grammar.rule? id = some found ∧
      Run setting before (.enter (.branch id found.name []) :: visit found.id count) after)
  alternatives : ∀ found parent before, Ensures (alternatives setting fuel found parent) before
    (OnMismatch fun after => ∃ count, Run setting before (visit found.id count) after)
  elements : ∀ row parent before,
    Ensures (elements setting fuel row parent) before (OnMismatch fun _ => False)
  copies : ∀ element count parent before,
    Ensures (copies setting fuel element count parent) before (OnMismatch fun _ => False)
  symbol : ∀ target parent before, Ensures (symbol setting fuel target parent) before
    (OnMismatch fun after => ∃ acts, Tried setting target acts ∧ Run setting before acts after)

section

variable {fuel : Nat} (fails : FailsInPlace setting fuel)

include fails

theorem ensures_chosenRow_settled (found : ResolvedRule) (parent : Branch) (choice : Nat × Nat) :
    Ensures (chosenRow setting fuel found parent choice) before (OnMismatch fun _ => False) := by
  unfold chosenRow
  cases found.alternatives[choice.1]? with
  | none => trivial
  | some row =>
      dsimp only
      rw [ensures_bind, ensures_record]
      exact fails.elements row parent _

theorem ensures_alternatives_mismatch (found : ResolvedRule) (parent : Branch) :
    Ensures (alternatives setting (fuel + 1) found parent) before (OnMismatch fun after =>
      ∃ count, Run setting before (visit found.id count) after) := by
  rw [alternatives_succ]
  apply ensures_inside_eq
  · exact fun _ => trivial
  · intro opens
    have closes {last : Parser σ}
        (scans : Scans setting ((Act.openRule found.id).apply setting before) last) :
        ∃ count, Run setting before (visit found.id count)
          ((Act.closeRule found.id).apply setting last) := by
      obtain ⟨count, run⟩ := scans
      have closing : (Act.closeRule found.id).Allowed setting.limits last := trivial
      exact ⟨count, .act opens (run.append (.single closing))⟩
    apply (ensures_choose_mismatch found).bind
    · intro choice middle _
      apply (ensures_chosenRow_settled fails found parent choice).mono
      intro outcome last settled
      match outcome, settled with
      | .error (.mismatch _), never => exact never.elim
      | .ok _, _ | .error .abort, _ | .error .unfinished, _ => trivial
    · intro halt last stuck
      match halt, stuck with
      | .mismatch _, scans => exact closes scans
      | .abort, _ | .unfinished, _ => trivial

theorem ensures_rule_mismatch (id : RuleId) :
    Ensures (rule setting (fuel + 1) id) before (OnMismatch fun after =>
      ∃ found count, setting.grammar.rule? id = some found ∧
        Run setting before (.enter (.branch id found.name []) :: visit found.id count) after) := by
  unfold rule
  cases lookup : setting.grammar.rule? id with
  | none => trivial
  | some found =>
      have entering : (Act.enter (.branch id found.name [])).Allowed setting.limits before :=
        trivial
      apply (ensures_tell_eq (setting.listener.enter (.branch id found.name [])) ()).bind
      · rintro _ middle ⟨rfl, _⟩
        apply (fails.alternatives found ⟨id, found.name, []⟩ _).bind
        · intro branch inner _
          apply (ensures_exit_eq branch.toNode).mono
          rintro outcome after ⟨_, answers⟩
          exact onMismatch_of_abort answers.ended
        · intro halt after stuck
          refine stuck.halt.weaken fun last visited => ?_
          obtain ⟨count, run⟩ := visited
          exact ⟨found, count, rfl, .act entering run⟩
      · rintro halt after ⟨_, answers⟩
        exact (onMismatch_of_abort answers.ended : OnMismatch _ _ _).halt

theorem ensures_elements_settled (row : List ResolvedElement) (parent : Branch) :
    Ensures (elements setting (fuel + 1) row parent) before (OnMismatch fun _ => False) := by
  cases row with
  | nil => trivial
  | cons element rest =>
      unfold elements
      exact (fails.copies element 0 parent before).settled_bind fun branch middle =>
        fails.elements rest branch middle

/-- A copy that does not fit is tried again behind a skipped token, or the parse is over. -/
theorem ensures_copies_settled (element : ResolvedElement) (count : Nat) (parent : Branch) :
    Ensures (copies setting (fuel + 1) element count parent) before
      (OnMismatch fun _ => False) := by
  rw [copies_succ]
  apply (ensures_wantsMore_settled element count).settled_bind
  intro wanted middle
  cases wanted with
  | false => trivial
  | true =>
      simp only [if_true, rescue, ensures_bind, ensures_attempt]
      apply (fails.symbol element.symbol parent middle).mono
      intro outcome tried _
      cases outcome with
      | ok branch => exact fails.copies element (count + 1) branch tried
      | error halt =>
          cases halt with
          | mismatch diagnostic =>
              exact (ensures_recover_settled diagnostic).settled_bind fun _ recovered =>
                fails.copies element count parent recovered
          | abort | unfinished => trivial

theorem ensures_symbol_mismatch (target : Symbol) (parent : Branch) :
    Ensures (symbol setting (fuel + 1) target parent) before (OnMismatch fun after =>
      ∃ acts, Tried setting target acts ∧ Run setting before acts after) := by
  cases target with
  | token id =>
      apply (ensures_token_mismatch id parent).mono
      intro outcome after ends
      refine ends.weaken fun last scans => ?_
      obtain ⟨count, run⟩ := scans
      exact ⟨_, .token id count, run⟩
  | rule id =>
      unfold symbol
      cases lookup : setting.grammar.rule? id with
      | none => trivial
      | some found =>
          cases auxiliary : found.isAuxiliary with
          | true =>
              simp only [auxiliary, if_true]
              apply (fails.alternatives found parent before).mono
              intro outcome after ends
              refine ends.weaken fun last visited => ?_
              obtain ⟨count, run⟩ := visited
              exact ⟨_, .auxiliary count lookup auxiliary, run⟩
          | false =>
              simp only [auxiliary, Bool.false_eq_true, if_false]
              apply (fails.rule id before).bind
              · exact fun kept middle _ => ensures_attach_settled parent kept
              · intro halt after stuck
                refine stuck.halt.weaken fun last visited => ?_
                obtain ⟨again, count, lookup', run⟩ := visited
                obtain rfl := Option.some.inj (lookup.symm.trans lookup')
                exact ⟨_, .declared count lookup auxiliary, run⟩

end

theorem failsInPlace (fuel : Nat) : FailsInPlace setting fuel := by
  induction fuel with
  | zero =>
      exact ⟨fun _ _ => trivial, fun _ _ _ => trivial, fun _ _ _ => trivial,
        fun _ _ _ _ => trivial, fun _ _ _ => trivial⟩
  | succ fuel ih =>
      exact ⟨fun id _ => ensures_rule_mismatch ih id,
        fun found parent _ => ensures_alternatives_mismatch ih found parent,
        fun row parent _ => ensures_elements_settled ih row parent,
        fun element count parent _ => ensures_copies_settled ih element count parent,
        fun target parent _ => ensures_symbol_mismatch ih target parent⟩

/-- The element that does not fit is tried again with the parent and the count as they were. -/
theorem copies_run_mismatch {fuel : Nat} {element : ResolvedElement} {count : Nat}
    {parent : Branch} {diagnostic : Diagnostic}
    (wanted : (wantsMore setting element count).run.run before = (.ok true, middle))
    (stuck : (symbol setting fuel element.symbol parent).run.run middle =
      (.error (.mismatch diagnostic), after)) :
    (copies setting (fuel + 1) element count parent).run.run before =
      (do recover setting diagnostic; copies setting fuel element count parent).run.run after := by
  rw [copies_succ, bind_run, wanted]
  simp only [if_true]
  rw [rescue_run, stuck]

/-- Where a call about a symbol or a production ends with a mismatch, the acts since it began
are known. A declared production was told of, a production was entered and left, and tokens
were asked for; with each act come the errors that it reports. No node was attached, nothing was
taken, and nothing is left open. The element is tried again behind a skipped token, with the
parent and the count as they were. From a chosen alternative no mismatch comes out. -/
theorem mismatch_unmoved (setting : Setting σ) (fuel : Nat) (before : Parser σ) :
    (∀ target parent diagnostic,
      let ended := (symbol setting fuel target parent).run.run before
      ended.1 = .error (.mismatch diagnostic) →
        (∃ acts, Tried setting target acts ∧ Run setting before acts ended.2) ∧
          Unmoved setting.grammar.vocabulary before ended.2) ∧
    (∀ id diagnostic,
      let ended := (rule setting fuel id).run.run before
      ended.1 = .error (.mismatch diagnostic) →
        (∃ found count, setting.grammar.rule? id = some found ∧
          Run setting before (.enter (.branch id found.name []) :: visit found.id count) ended.2) ∧
          Unmoved setting.grammar.vocabulary before ended.2) ∧
    (∀ found parent diagnostic,
      let ended := (alternatives setting fuel found parent).run.run before
      ended.1 = .error (.mismatch diagnostic) →
        (∃ count, Run setting before (visit found.id count) ended.2) ∧
          Unmoved setting.grammar.vocabulary before ended.2) ∧
    (∀ (element : ResolvedElement) count parent diagnostic middle after,
      (wantsMore setting element count).run.run before = (.ok true, middle) →
        (symbol setting fuel element.symbol parent).run.run middle =
          (.error (.mismatch diagnostic), after) →
          (copies setting (fuel + 1) element count parent).run.run before =
            (do recover setting diagnostic
                copies setting fuel element count parent).run.run after) ∧
    ∀ found parent choice diagnostic,
      ((chosenRow setting fuel found parent choice).run.run before).1 ≠
        .error (.mismatch diagnostic) := by
  have fails : FailsInPlace setting fuel := failsInPlace fuel
  refine ⟨fun target parent diagnostic stuck => ?_, fun id diagnostic stuck => ?_,
    fun found parent diagnostic stuck => ?_,
    fun element count parent diagnostic middle after => copies_run_mismatch,
    fun found parent choice diagnostic stuck => ?_⟩
  · obtain ⟨acts, tried, run⟩ := OnMismatch.holds (fails.symbol target parent before) stuck
    exact ⟨⟨acts, tried, run⟩, tried.unmoved run⟩
  · obtain ⟨found, count, lookup, run⟩ := OnMismatch.holds (fails.rule id before) stuck
    refine ⟨⟨found, count, lookup, run⟩, ?_⟩
    cases run with
    | act _ more => exact (unmoved_enter _).trans more.visit_unmoved
  · obtain ⟨count, run⟩ := OnMismatch.holds (fails.alternatives found parent before) stuck
    exact ⟨⟨count, run⟩, run.visit_unmoved⟩
  · exact OnMismatch.holds (ensures_chosenRow_settled fails found parent choice) stuck

/-- At `"aa"` the production of `sharedStart` does not fit. Both tokens are in the buffer then,
and the production was entered and left. -/
theorem sharedStart_unmoved : ∃ grammar diagnostic, Grammar.build sharedStart = .ok grammar ∧
    let setting : Setting Unit := { grammar, listener := treeBuilder }
    let fresh : Parser Unit := .ofSource (.ofString "aa") ()
    let ended := (symbol setting 3 (.rule grammar.start) ⟨0, "S", []⟩).run.run fresh
    ended.1 = .error (.mismatch diagnostic) ∧
      (∃ acts, Tried setting (.rule grammar.start) acts ∧ Run setting fresh acts ended.2) ∧
      Unmoved grammar.vocabulary fresh ended.2 ∧ ended.2.buffer.length = 2 ∧
      ended.2.trace = #[.enter 0, .exit 0] := by
  have facts : ((Grammar.build sharedStart).toOption.any fun grammar =>
      let ended := (symbol ({ grammar, listener := treeBuilder } : Setting Unit) 3
        (.rule grammar.start) ⟨0, "S", []⟩).run.run (.ofSource (.ofString "aa") ())
      isMismatch ended.1 &&
        (ended.2.buffer.length = 2 ∧ ended.2.trace = #[.enter 0, .exit 0])) = true := by
    decide +kernel
  obtain ⟨grammar, built, facts⟩ := exists_ok_of_any facts
  obtain ⟨stuck, rest⟩ := Bool.and_eq_true_iff.mp facts
  obtain ⟨buffered, traced⟩ := of_decide_eq_true rest
  obtain ⟨diagnostic, ended⟩ := exists_of_isMismatch stuck
  obtain ⟨done, unmoved⟩ :=
    (mismatch_unmoved ({ grammar, listener := treeBuilder } : Setting Unit) 3
      (.ofSource (.ofString "aa") ())).1 (.rule grammar.start) ⟨0, "S", []⟩ diagnostic ended
  exact ⟨grammar, diagnostic, built, ended, done, unmoved, buffered, traced⟩

end Parser

end StrongLL
