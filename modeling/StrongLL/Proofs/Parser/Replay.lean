import StrongLL.Proofs.Parser.ErrorLimit
import StrongLL.Proofs.Parser.Recorded

/-!
# Following a parse and following its tree

A listener that follows a parse without errors gets the calls that it gets where it follows
the tree of that parse. Two parsers are run side by side for this, one that builds the tree
and one with the listener. They read the same tokens and decide alike, and what the first one
adds to a node is what is played to the listener of the second one.
-/

namespace StrongLL

namespace Listener

variable {σ : Type}

/-- Behind everything that a listener refuses parsing goes on. -/
structure Recoverable (listener : Listener σ) : Prop where
  enter : ∀ node state refusal, (listener.enter node state).2 = .error refusal →
    refusal.isRecoverable = true
  exit : ∀ node state refusal, (listener.exit node state).2 = .error refusal →
    refusal.isRecoverable = true
  child : ∀ parent node state refusal, (listener.child parent node state).2.2 = .error refusal →
    refusal.isRecoverable = true

theorem Recoverable.recorded {listener : Listener σ} (recoverable : listener.Recoverable) :
    listener.recorded.Recoverable :=
  ⟨fun node state => recoverable.enter node state.1,
    fun node state => recoverable.exit node state.1,
    fun parent node state => recoverable.child parent node state.1⟩

/-- Attach a node to its parent if it was kept. -/
def join (listener : Listener σ) (parent : Branch) (kept : Option Node) (state : σ) :
    σ × Log × Branch :=
  match kept with
  | none => (state, [], parent)
  | some node =>
      let told := listener.child parent node state
      (told.1, refusals told.2.2, told.2.1)

theorem replayInto_cons (listener : Listener σ) (node : Node) (rest : List Node) (parent : Branch)
    (state : σ) : listener.replayInto (node :: rest) parent state =
      let played := listener.replay node state
      let joined := listener.join parent played.2.2 played.1
      let others := listener.replayInto rest joined.2.2 joined.1
      (others.1, played.2.1 ++ joined.2.1 ++ others.2.1, others.2.2) := by
  rw [replayInto]
  generalize listener.replay node state = played
  obtain ⟨state, log, kept⟩ := played
  cases kept with
  | none => simp [join]
  | some kept => rfl

theorem replay_leaf (listener : Listener σ) (token : Token) (name : String) (state : σ) :
    listener.replay (.leaf token name) state =
      let told := listener.enter (.leaf token name) state
      let closed := listener.close (.leaf token name) told.1
      (closed.1, refusals told.2 ++ closed.2.1, closed.2.2) := rfl

theorem replay_branch (listener : Listener σ) (id : RuleId) (name : String) (children : List Node)
    (state : σ) : listener.replay (.branch id name children) state =
      let told := listener.enter (.branch id name []) state
      let played := listener.replayInto children ⟨id, name, []⟩ told.1
      let closed := listener.close played.2.2.toNode played.1
      (closed.1, refusals told.2 ++ played.2.1 ++ closed.2.1, closed.2.2) := by
  rw [replay]

theorem replayInto_single (listener : Listener σ) (node : Node) (parent : Branch) (state : σ) :
    listener.replayInto [node] parent state =
      let played := listener.replay node state
      let joined := listener.join parent played.2.2 played.1
      (joined.1, played.2.1 ++ joined.2.1, joined.2.2) := by
  rw [replayInto_cons]
  simp only [replayInto, List.append_nil]

theorem replayInto_append (listener : Listener σ) (first others : List Node) (parent : Branch)
    (state : σ) : listener.replayInto (first ++ others) parent state =
      let begun := listener.replayInto first parent state
      let ended := listener.replayInto others begun.2.2 begun.1
      (ended.1, begun.2.1 ++ ended.2.1, ended.2.2) := by
  induction first generalizing parent state with
  | nil => simp [replayInto]
  | cons node rest ih =>
      rw [List.cons_append, replayInto_cons, replayInto_cons]
      simp only [ih, List.append_assoc]

theorem close_eq (listener : Listener σ) (node : Node) (state : σ) :
    listener.close node state =
      let told := listener.exit node state
      (told.1, refusals told.2, told.2.toOption.getD none) := by
  unfold close
  generalize listener.exit node state = told
  obtain ⟨next, answer⟩ := told
  cases answer with
  | ok kept => rfl
  | error refusal => rfl

theorem join_recorded (listener : Listener σ) (parent : Branch) (kept : Option Node)
    (state : σ × List Call) :
    let joined := listener.recorded.join parent kept state
    (joined.1.1, joined.2) = listener.join parent kept state.1 := by
  cases kept with
  | none => rfl
  | some node => rfl

mutual
theorem replay_recorded (listener : Listener σ) (node : Node) (state : σ × List Call) :
    let played := listener.recorded.replay node state
    (played.1.1, played.2) = listener.replay node state.1 := by
  cases node with
  | leaf token name =>
      simp only [replay_leaf, close_eq]
      rfl
  | branch id name children =>
      have inner := replayInto_recorded listener children ⟨id, name, []⟩
        (listener.recorded.enter (.branch id name []) state).1
      have entered : (listener.recorded.enter (.branch id name []) state).1.1 =
          (listener.enter (.branch id name []) state.1).1 := rfl
      rw [entered] at inner
      simp only [replay_branch, close_eq, ← inner]
      rfl

theorem replayInto_recorded (listener : Listener σ) (nodes : List Node) (parent : Branch)
    (state : σ × List Call) :
    let played := listener.recorded.replayInto nodes parent state
    (played.1.1, played.2) = listener.replayInto nodes parent state.1 := by
  cases nodes with
  | nil => rfl
  | cons node rest =>
      have first := replay_recorded listener node state
      simp only [replayInto_cons, ← first]
      generalize listener.recorded.replay node state = played
      have others := replayInto_recorded listener rest
        (listener.recorded.join parent played.2.2 played.1).2.2
        (listener.recorded.join parent played.2.2 played.1).1
      simp only [← join_recorded, ← others]
end

/-- Keeping the calls changes nothing else where a tree is followed. -/
theorem analyze_recorded (listener : Listener σ) (tree : Node) (state : σ × List Call) :
    let analyzed := listener.recorded.analyze tree state
    (analyzed.1.1, analyzed.2) = listener.analyze tree state.1 := by
  unfold analyze
  simp only [← replay_recorded]
  generalize listener.recorded.replay tree state = played
  obtain ⟨now, log, kept⟩ := played
  cases log with
  | nil => rfl
  | cons refusal others => rfl

end Listener

namespace Parser

variable {σ α β γ δ : Type}

/-! ## Parsers side by side -/

/-- The setting in which the tree is built. -/
def building (setting : Setting σ) : Setting Unit where
  grammar := setting.grammar
  listener := treeBuilder
  limits := setting.limits

/-- Parsers that differ in their listeners and in what these refused -/
def aside (state : σ) (log : Log) : Likeness Unit σ where
  scanners := Eq
  listeners _ listener := listener = state
  logs left right := right = log ++ left
  traces _ _ := True
  events _ _ := True

/-- A parser that builds a tree, with nothing logged, and one with a listener that is in some
state and has refused some calls. -/
structure Beside (state : σ) (log : Log) (left : Parser Unit) (right : Parser σ) : Prop where
  alike : Alike (aside state log) left right
  unlogged : left.log = []
  calm : left.recovery = 0

/-- If a step of the left parser comes to a value and nothing is logged, then a step of the
right parser comes to a value, and both values and states fulfil a condition. -/
def Together (step : Parse Unit α) (step' : Parse σ β) (left : Parser Unit) (right : Parser σ)
    (post : α → Parser Unit → β → Parser σ → Prop) : Prop :=
  ∀ value after, step.run.run left = (.ok value, after) → after.log = [] →
    ∃ value' after', step'.run.run right = (.ok value', after') ∧ post value after value' after'

variable {setting : Setting σ} {state : σ} {log : Log} {left : Parser Unit}
  {right : Parser σ}

section

variable {step : Parse Unit α} {step' : Parse σ β}
  {post : α → Parser Unit → β → Parser σ → Prop}

theorem Beside.warned (beside : Beside state log left right) : left.Warned := by
  intro recovering
  rw [beside.calm] at recovering
  exact absurd recovering (Nat.lt_irrefl 0)

theorem Beside.calm' (beside : Beside state log left right) : right.recovery = 0 :=
  beside.alike.recovery.symm.trans beside.calm

theorem together_pure {value : α} {value' : β} (holds : post value left value' right) :
    Together (pure value) (pure value') left right post := by
  intro found after ran _
  obtain ⟨same, rfl⟩ := Prod.mk.inj ran
  obtain rfl := Except.ok.inj same
  exact ⟨value', right, rfl, holds⟩

/-- Where the left parser halts nothing is said. -/
theorem together_halt {halt : Halt} (halts : (step.run.run left).1 = .error halt) :
    Together step step' left right post := by
  intro value after ran
  rw [ran] at halts
  cases halts

theorem Together.mono {post' : α → Parser Unit → β → Parser σ → Prop}
    (together : Together step step' left right post)
    (weaken : ∀ value after value' after', post value after value' after' →
      post' value after value' after') : Together step step' left right post' := by
  intro value after ran empty
  obtain ⟨value', after', ran', known⟩ := together value after ran empty
  exact ⟨value', after', ran', weaken _ _ _ _ known⟩

/-- Behind a step go on side by side. The left parser only logs more. -/
theorem Together.bind {next : α → Parse Unit γ} {next' : β → Parse σ δ}
    {post' : γ → Parser Unit → δ → Parser σ → Prop} (warned : left.Warned)
    (extending : Extending step) (later : ∀ value, Extending (next value))
    (first : Together step step' left right post)
    (more : ∀ value after value' after', post value after value' after' →
      Together (next value) (next' value') after after' post') :
    Together (step >>= next) (step' >>= next') left right post' := by
  intro value after ran empty
  have still := extending.warned warned
  unfold Together at first
  rw [bind_run] at ran
  generalize (step.run.run left : Except Halt α × Parser Unit) = result at ran still first
  obtain ⟨outcome, middle⟩ := result
  cases outcome with
  | error halt => cases (Prod.mk.inj ran).1
  | ok found =>
      have unlogged : middle.log = [] :=
        (later found).unlogged still ((congrArg (·.2.log) ran).trans empty)
      obtain ⟨found', middle', ran', known⟩ := first found middle rfl unlogged
      obtain ⟨value', after', ended, reached⟩ :=
        more found middle found' middle' known value after ran empty
      exact ⟨value', after', by rw [bind_run, ran']; exact ended, reached⟩

/-- Where a mismatch is dealt with, something is logged. -/
theorem Together.rescue {next : α → Parse Unit γ} {next' : β → Parse σ δ}
    {handler : Diagnostic → Parse Unit γ} {handler' : Diagnostic → Parse σ δ}
    {post' : γ → Parser Unit → δ → Parser σ → Prop} (warned : left.Warned)
    (extending : Extending step) (later : ∀ value, Extending (next value))
    (logs : ∀ diagnostic middle, Parser.Warned middle →
      ((handler diagnostic).run.run middle).2.log ≠ [])
    (first : Together step step' left right post)
    (more : ∀ value after value' after', post value after value' after' →
      Together (next value) (next' value') after after' post') :
    Together (rescue step next handler) (rescue step' next' handler') left right post' := by
  intro value after ran empty
  have still := extending.warned warned
  unfold Together at first
  rw [rescue_run] at ran
  generalize (step.run.run left : Except Halt α × Parser Unit) = result at ran still first
  obtain ⟨outcome, middle⟩ := result
  cases outcome with
  | ok found =>
      have unlogged : middle.log = [] :=
        (later found).unlogged still ((congrArg (·.2.log) ran).trans empty)
      obtain ⟨found', middle', ran', known⟩ := first found middle rfl unlogged
      obtain ⟨value', after', ended, reached⟩ :=
        more found middle found' middle' known value after ran empty
      exact ⟨value', after', by rw [rescue_run, ran']; exact ended, reached⟩
  | error halt =>
      cases halt with
      | mismatch diagnostic =>
          exact absurd ((congrArg (·.2.log) ran).trans empty) (logs diagnostic middle still)
      | abort => cases (Prod.mk.inj ran).1
      | unfinished => cases (Prod.mk.inj ran).1

/-- Steps that do not ask the listener -/
theorem InStep.together {same : α → β → Prop} (inStep : InStep (aside state log) same step step')
    (extending : Extending step) (beside : Beside state log left right) :
    Together step step' left right fun value after value' after' =>
      same value value' ∧ Beside state log after after' := by
  intro value after ran empty
  obtain ⟨matched, still⟩ := inStep left right beside.alike
  have warned := extending.warned beside.warned
  rw [ran] at matched still warned
  generalize ran' : (step'.run.run right : Except Halt β × Parser σ) = result' at matched still
  obtain ⟨outcome', after'⟩ := result'
  dsimp only at matched
  cases matched with
  | ok related =>
      have calm : after.recovery = 0 :=
        Nat.eq_zero_of_not_pos fun recovering => warned recovering empty
      exact ⟨_, after', rfl, related, still, empty, calm⟩

end

/-! ## The listener -/

theorem readsAlike_aside (errors : setting.limits.errors = none) (state : σ) (log : Log) :
    ReadsAlike (aside state log) (building setting) setting where
  vocabulary := rfl
  limits := rfl
  scanners := by
    rintro scanner _ rfl
    exact ⟨rfl, rfl⟩
  positions := fun _ _ same => congrArg Scanner.position same
  remaining := fun _ _ same => congrArg (·.cursor.remaining) same
  logs := by
    rintro left _ diagnostic rfl
    exact List.append_assoc ..
  full := by
    intro _ _ _ limit isLimit
    cases errors.symm.trans isLimit
  traces := fun _ _ _ _ _ _ => trivial
  error := fun _ _ => trivial
  consume := fun _ => trivial
  skip := fun _ => trivial

/-- What a listener refuses is logged, and parsing goes on. -/
theorem abide_run (errors : setting.limits.errors = none) (answer : Except Diagnostic α)
    (recoverable : ∀ refusal, answer = .error refusal → refusal.isRecoverable = true)
    (otherwise : α) (before : Parser σ) :
    (abide setting answer otherwise).run.run before =
      (.ok (answer.toOption.getD otherwise), heed answer before) := by
  cases answer with
  | ok value => rfl
  | error refusal =>
      unfold abide
      rw [bind_run, report_run]
      simp only [recoverable refusal rfl, isLogFull, errors, Bool.not_true, Bool.false_eq_true,
        Bool.or_self, if_false]
      rfl

theorem tell_run (errors : setting.limits.errors = none) {call : σ → σ × Except Diagnostic α}
    (recoverable : ∀ state refusal, (call state).2 = .error refusal →
      refusal.isRecoverable = true) (otherwise : α) (before : Parser σ) :
    (tell setting call otherwise).run.run before =
      let told := call before.listener
      (.ok (told.2.toOption.getD otherwise), heed told.2 { before with listener := told.1 }) := by
  rw [tell_run_eq, abide_run errors _ (recoverable before.listener)]

theorem attach_run (errors : setting.limits.errors = none)
    (recoverable : setting.listener.Recoverable) (parent : Branch) (node : Node)
    (before : Parser σ) : (attach setting parent (some node)).run.run before =
      let told := setting.listener.child parent node before.listener
      (.ok told.2.1, heed told.2.2 { before with listener := told.1 }) := by
  have refused := recoverable.child parent node before.listener
  rw [attach_run_eq]
  dsimp only
  cases answer : (setting.listener.child parent node before.listener).2.2 with
  | ok _ => rfl
  | error refusal =>
      apply abide_run errors
      intro other same
      obtain rfl := Except.error.inj same
      exact refused refusal answer

/-- A call to the listener, and what it refuses -/
theorem Beside.heed (beside : Beside state log left right) (told : σ)
    (answer : Except Diagnostic α) :
    Beside told (log ++ Listener.refusals answer) left
      (heed answer { right with listener := told }) := by
  have same : right.log = log := by
    rw [beside.alike.log, beside.unlogged, List.append_nil]
  refine ⟨?_, beside.unlogged, beside.calm⟩
  cases answer with
  | ok value =>
      refine { beside.alike with listener := rfl, log := ?_ }
      change right.log = (log ++ []) ++ left.log
      rw [same, beside.unlogged, List.append_nil, List.append_nil]
  | error refusal =>
      refine { beside.alike with listener := rfl, log := ?_, trace := trivial }
      change (Parser.note refusal { right with listener := told }).log =
        (log ++ [refusal]) ++ left.log
      rw [beside.unlogged, List.append_nil]
      simp [note, beside.calm', same]

section

variable (errors : setting.limits.errors = none) (recoverable : setting.listener.Recoverable)
  (beside : Beside state log left right)

include errors recoverable beside

theorem together_enter (node : Node) :
    Together (enter (building setting) node) (enter setting node) left right
      fun _ after _ after' =>
        let told := setting.listener.enter node state
        Beside told.1 (log ++ Listener.refusals told.2) after after' := by
  intro value after ran _
  obtain rfl : left = after := (Prod.mk.inj ran).2
  have listener : right.listener = state := beside.alike.listener
  refine ⟨_, _, tell_run errors (recoverable.enter node) () right, ?_⟩
  rw [listener]
  exact beside.heed _ _

theorem together_exit (node node' : Node) :
    Together (exit (building setting) node) (exit setting node') left right
      fun value after value' after' =>
        let closed := setting.listener.close node' state
        value = some node ∧ value' = closed.2.2 ∧
          Beside closed.1 (log ++ closed.2.1) after after' := by
  intro value after ran _
  obtain rfl : left = after := (Prod.mk.inj ran).2
  obtain rfl : some node = value := Except.ok.inj (Prod.mk.inj ran).1
  have listener : right.listener = state := beside.alike.listener
  rw [Listener.close_eq]
  refine ⟨_, _, tell_run errors (recoverable.exit node') none right, rfl, by rw [listener], ?_⟩
  rw [listener]
  exact beside.heed _ _

theorem together_attach (parent parent' : Branch) (node : Node) (kept : Option Node) :
    Together (attach (building setting) parent (some node)) (attach setting parent' kept)
      left right fun value after value' after' =>
        let joined := setting.listener.join parent' kept state
        value = parent.add [node] ∧ value' = joined.2.2 ∧
          Beside joined.1 (log ++ joined.2.1) after after' := by
  intro value after ran _
  obtain rfl : left = after := (Prod.mk.inj ran).2
  obtain rfl : parent.add [node] = value := Except.ok.inj (Prod.mk.inj ran).1
  have listener : right.listener = state := beside.alike.listener
  cases kept with
  | none =>
      refine ⟨_, _, rfl, rfl, rfl, ?_⟩
      change Beside state (log ++ []) left right
      rw [List.append_nil]
      exact beside
  | some node' =>
      refine ⟨_, _, attach_run errors recoverable parent' node' right, rfl,
        by rw [listener]; rfl, ?_⟩
      rw [listener]
      exact beside.heed _ _

end

/-! ## Nodes -/

/-- A node is built on the left, and on the right it is played to the listener. -/
def PlaysNode (listener : Listener σ) (state : σ) (log : Log) (value : Option Node)
    (after : Parser Unit) (value' : Option Node) (after' : Parser σ) : Prop :=
  ∃ node, value = some node ∧
    let played := listener.replay node state
    value' = played.2.2 ∧ Beside played.1 (log ++ played.2.1) after after'

/-- Nodes are added to a branch on the left, and on the right they are played into another
branch. -/
def PlaysInto (listener : Listener σ) (parent parent' : Branch) (state : σ) (log : Log)
    (branch : Branch) (after : Parser Unit) (branch' : Branch) (after' : Parser σ) : Prop :=
  ∃ nodes, branch = parent.add nodes ∧
    let played := listener.replayInto nodes parent' state
    branch' = played.2.2 ∧ Beside played.1 (log ++ played.2.1) after after'

section

variable {listener : Listener σ} {parent parent' branch branch' : Branch} {after : Parser Unit}
  {after' : Parser σ}

theorem playsInto_nothing (beside : Beside state log left right) :
    PlaysInto listener parent parent' state log parent left parent' right := by
  refine ⟨[], (Branch.add_nil parent).symm, by rw [Listener.replayInto], ?_⟩
  simpa [Listener.replayInto] using beside

/-- What is played behind some nodes is played into what these were played into. -/
theorem PlaysInto.then
    (first : PlaysInto listener parent parent' state log branch after branch' after') :
    ∃ state' log', Beside state' log' after after' ∧
      ∀ {last : Branch} {ended : Parser Unit} {last' : Branch} {ended' : Parser σ},
        PlaysInto listener branch branch' state' log' last ended last' ended' →
          PlaysInto listener parent parent' state log last ended last' ended' := by
  obtain ⟨nodes, rfl, rfl, beside⟩ := first
  refine ⟨_, _, beside, ?_⟩
  rintro last ended last' ended' ⟨others, rfl, rfl, still⟩
  refine ⟨nodes ++ others, Branch.add_add .., ?_, ?_⟩
  · rw [Listener.replayInto_append]
  · rw [Listener.replayInto_append, ← List.append_assoc]
    exact still

/-- A node that was played is attached if it was kept. -/
theorem playsInto_node {node : Node} (built : branch = parent.add [node])
    (joined :
      let played := listener.replay node state
      let joined := listener.join parent' played.2.2 played.1
      branch' = joined.2.2 ∧
        Beside joined.1 (log ++ played.2.1 ++ joined.2.1) after after') :
    PlaysInto listener parent parent' state log branch after branch' after' := by
  refine ⟨[node], built, ?_⟩
  rw [Listener.replayInto_single]
  exact ⟨joined.1, List.append_assoc .. ▸ joined.2⟩

end

/-! ## Steps -/

theorem extending_leaf (own : Setting σ) (parent : Branch) (leaf : Node) : Extending (do
    enter own leaf
    attach own parent (← exit own leaf)) :=
  (actsAs_enter leaf).extending.bind fun _ => (actsAs_exit leaf).extending.bind fun kept =>
    (actsAs_attach parent kept).extending

theorem extending_alternative (rule : RuleId) (index depth : Nat) :
    Extending (record (.alternative rule index depth) : Parse σ Unit) :=
  fun _ _ => grows_push (.alternative rule index depth) (Nat.le_refl _)

/-- A leaf is told of, and attached if it was kept. -/
theorem together_leaf (errors : setting.limits.errors = none)
    (recoverable : setting.listener.Recoverable) (beside : Beside state log left right)
    (parent parent' : Branch) (token : Token) (name : String) :
    Together
      (do
        enter (building setting) (.leaf token name)
        attach (building setting) parent (← exit (building setting) (.leaf token name)))
      (do
        enter setting (.leaf token name)
        attach setting parent' (← exit setting (.leaf token name)))
      left right (PlaysInto setting.listener parent parent' state log) := by
  apply (together_enter errors recoverable beside _).bind beside.warned (actsAs_enter _).extending
    fun _ => (actsAs_exit _).extending.bind fun kept => (actsAs_attach parent kept).extending
  intro _ entered _ entered' told
  apply (together_exit errors recoverable told (.leaf token name) _).bind told.warned
    (actsAs_exit _).extending fun kept => (actsAs_attach parent kept).extending
  rintro _ closed kept closed' ⟨rfl, rfl, still⟩
  apply (together_attach errors recoverable still parent parent' _ _).mono
  rintro branch after branch' after' ⟨built, joined⟩
  apply playsInto_node built
  simp only [Listener.replay_leaf, ← List.append_assoc log]
  exact joined

theorem together_token (errors : setting.limits.errors = none)
    (recoverable : setting.listener.Recoverable) (beside : Beside state log left right)
    (id : TokenId) (parent parent' : Branch) :
    Together (token (building setting) id parent) (token setting id parent') left right
      (PlaysInto setting.listener parent parent' state log) := by
  have reads := readsAlike_aside errors state log
  unfold token
  apply ((inStep_peek reads 0).together (actsAs_peek 0).any.extending beside).bind beside.warned
    (actsAs_peek 0).any.extending
  · rintro (_ | next)
    · exact extending_get.bind fun _ => extending_throw _
    · dsimp only
      split
      · exact extending_get.bind fun _ => extending_throw _
      · exact extending_consume.bind fun token => extending_leaf _ parent _
  · rintro found middle _ middle' ⟨rfl, still⟩
    cases found with
    | none => exact together_halt rfl
    | some next =>
        have vocabulary : (building setting).grammar.vocabulary = setting.grammar.vocabulary := rfl
        dsimp only
        rw [vocabulary]
        split
        · exact together_halt rfl
        · apply ((inStep_consume reads).together extending_consume still).bind still.warned
            extending_consume fun token => extending_leaf _ parent _
          rintro token taken _ taken' ⟨rfl, left⟩
          exact together_leaf errors recoverable left parent parent' token _

/-- A step inside a production -/
theorem together_inside (id : RuleId) (beside : Beside state log left right)
    {parent parent' : Branch} {step : Parse Unit Branch} {step' : Parse σ Branch}
    (inner : ∀ left right, Beside state log left right →
      Together step step' left right (PlaysInto setting.listener parent parent' state log)) :
    Together (inside (building setting) id step) (inside setting id step') left right
      (PlaysInto setting.listener parent parent' state log) := by
  intro value after ran empty
  have opened : Beside state log ((Act.openRule id).apply (building setting) left)
      ((Act.openRule id).apply setting right) :=
    { beside with
      alike :=
        { beside.alike with depth := congrArg (· + 1) beside.alike.depth, trace := trivial } }
  have entered := inner _ _ opened
  rw [inside_run] at ran ⊢
  have depth : left.depth = right.depth := beside.alike.depth
  have limits : (building setting).limits = setting.limits := rfl
  rw [limits, depth] at ran
  split at ran
  · cases (Prod.mk.inj ran).1
  · rename_i spare
    rw [if_neg spare]
    unfold Together at entered
    generalize (step.run.run ((Act.openRule id).apply (building setting) left) :
      Except Halt Branch × Parser Unit) = result at ran entered
    obtain ⟨outcome, last⟩ := result
    obtain ⟨rfl, rfl⟩ := Prod.mk.inj ran
    obtain ⟨branch', last', ran', nodes, built, played, still⟩ := entered value last rfl empty
    have closed : Beside _ _ ((Act.closeRule id).apply (building setting) last)
        ((Act.closeRule id).apply setting last') :=
      { still with
        alike := { still.alike with
          depth := congrArg (· - 1) still.alike.depth
          trace := trivial } }
    exact ⟨branch', _, by rw [ran'], nodes, built, played, closed⟩

/-! ## The descent -/

/-- What holds of all calls with some fuel. -/
structure PlaysAt (setting : Setting σ) (fuel : Nat) : Prop where
  rule : ∀ {state log left right}, Beside state log left right → ∀ id,
    Together (rule (building setting) fuel id) (rule setting fuel id) left right
      (PlaysNode setting.listener state log)
  alternatives : ∀ {state log left right}, Beside state log left right →
    ∀ found parent parent', Together (alternatives (building setting) fuel found parent)
      (alternatives setting fuel found parent') left right
      (PlaysInto setting.listener parent parent' state log)
  elements : ∀ {state log left right}, Beside state log left right →
    ∀ row parent parent', Together (elements (building setting) fuel row parent)
      (elements setting fuel row parent') left right
      (PlaysInto setting.listener parent parent' state log)
  copies : ∀ {state log left right}, Beside state log left right →
    ∀ element count parent parent', Together (copies (building setting) fuel element count parent)
      (copies setting fuel element count parent') left right
      (PlaysInto setting.listener parent parent' state log)
  symbol : ∀ {state log left right}, Beside state log left right →
    ∀ target parent parent', Together (symbol (building setting) fuel target parent)
      (symbol setting fuel target parent') left right
      (PlaysInto setting.listener parent parent' state log)

section

variable (errors : setting.limits.errors = none) {fuel : Nat} (plays : PlaysAt setting fuel)
  (beside : Beside state log left right)

include plays beside

theorem together_elements (row : List ResolvedElement) (parent parent' : Branch) :
    Together (elements (building setting) (fuel + 1) row parent)
      (elements setting (fuel + 1) row parent') left right
      (PlaysInto setting.listener parent parent' state log) := by
  have descent := (@compatible_actsAs Unit (building setting)).relatedAt fuel
  cases row with
  | nil => exact together_pure (playsInto_nothing beside)
  | cons element rest =>
      apply (plays.copies beside element 0 parent parent').bind beside.warned
        (descent.copies element 0 parent).extending
        fun branch => (descent.elements rest branch).extending
      intro branch middle branch' middle' played
      obtain ⟨state', log', still, more⟩ := played.then
      exact (plays.elements still rest branch branch').mono fun _ _ _ _ later => more later

include errors

theorem together_alternatives (found : ResolvedRule) (parent parent' : Branch) :
    Together (alternatives (building setting) (fuel + 1) found parent)
      (alternatives setting (fuel + 1) found parent') left right
      (PlaysInto setting.listener parent parent' state log) := by
  have descent := (@compatible_actsAs Unit (building setting)).relatedAt fuel
  have chosen (choice : Nat × Nat) :
      Extending (chosenRow (building setting) fuel found parent choice) := by
    unfold chosenRow
    cases found.alternatives[choice.1]? with
    | none =>
        exact ((@compatible_actsAs Unit (building setting)).fail _ (.inr rfl)).extending
    | some row =>
        exact (extending_alternative found.id choice.1 choice.2).bind fun _ =>
          (descent.elements row parent).extending
  rw [alternatives_succ, alternatives_succ]
  apply together_inside found.id beside
  intro left right beside
  have chooses := inStep_choose (readsAlike_aside errors state log)
    (decideAlike_refl (fun _ => rfl : ∀ index : Nat, index = index) found.decision)
  apply (chooses.together (actsAs_choose found).extending beside).bind beside.warned
    (actsAs_choose found).extending chosen
  rintro ⟨index, depth⟩ middle ⟨_, _⟩ middle' ⟨⟨rfl, rfl⟩, still⟩
  unfold chosenRow
  dsimp only
  cases found.alternatives[index]? with
  | none => exact together_halt rfl
  | some row =>
      have records : InStep (aside state log) Eq (record (.alternative found.id index depth))
          (record (.alternative found.id index depth)) := inStep_record fun _ _ _ => trivial
      have extending := @extending_alternative Unit found.id index depth
      apply (records.together extending still).bind still.warned extending
        fun _ => (descent.elements row parent).extending
      rintro _ recorded _ recorded' ⟨_, left⟩
      exact plays.elements left row parent parent'

theorem together_copies (element : ResolvedElement) (count : Nat) (parent parent' : Branch) :
    Together (copies (building setting) (fuel + 1) element count parent)
      (copies setting (fuel + 1) element count parent') left right
      (PlaysInto setting.listener parent parent' state log) := by
  have descent := (@compatible_actsAs Unit (building setting)).relatedAt fuel
  have wants := (@actsAs_wantsMore Unit (building setting) element count).extending
  have more (branch : Branch) :=
    (descent.copies element (count + 1) branch).extending
  have again (diagnostic : Diagnostic) : Extending (do
      recover (building setting) diagnostic
      copies (building setting) fuel element count parent) :=
    (actsAs_recover diagnostic).extending.bind fun _ =>
      (descent.copies element count parent).extending
  have taken := (descent.symbol element.symbol parent).extending
  rw [copies_succ, copies_succ]
  have wanted := @inStep_wantsMore _ _ _ id _ _ (readsAlike_aside errors state log)
    (fun _ _ _ => trivial) _ _ (elementsAlike_refl element) count
  apply (wanted.together wants beside).bind beside.warned wants
  · intro goesOn
    cases goesOn with
    | false => exact extending_pure parent
    | true => exact taken.rescue more again
  · rintro goesOn middle _ middle' ⟨rfl, still⟩
    cases goesOn with
    | false => exact together_pure (playsInto_nothing still)
    | true =>
        simp only [if_true]
        apply (plays.symbol still element.symbol parent parent').rescue still.warned taken more
        · exact fun diagnostic failed warned => (logged_recover warned diagnostic).logged_then
            fun _ => (descent.copies element count parent).extending
        · intro branch copied branch' copied' played
          obtain ⟨state', log', left, others⟩ := played.then
          exact (plays.copies left element (count + 1) branch branch').mono
            fun _ _ _ _ later => others later

variable (recoverable : setting.listener.Recoverable)

include recoverable

theorem together_rule (id : RuleId) :
    Together (rule (building setting) (fuel + 1) id) (rule setting (fuel + 1) id) left right
      (PlaysNode setting.listener state log) := by
  have descent := (@compatible_actsAs Unit (building setting)).relatedAt fuel
  unfold rule
  have grammar : (building setting).grammar = setting.grammar := rfl
  rw [grammar]
  cases setting.grammar.rule? id with
  | none => exact together_halt rfl
  | some found =>
      dsimp only
      apply (together_enter errors recoverable beside _).bind beside.warned
        (actsAs_enter _).extending
        fun _ => (descent.alternatives found _).extending.bind fun branch =>
          (actsAs_exit branch.toNode).extending
      intro _ entered _ entered' told
      apply (plays.alternatives told found _ ⟨id, found.name, []⟩).bind told.warned
        (descent.alternatives found _).extending fun branch => (actsAs_exit branch.toNode).extending
      rintro _ filled _ filled' ⟨nodes, rfl, rfl, still⟩
      apply (together_exit errors recoverable still _ _).mono
      rintro value after value' after' ⟨built, closed⟩
      refine ⟨.branch id found.name nodes, built, ?_⟩
      simp only [Listener.replay_branch, ← List.append_assoc log]
      exact closed

theorem together_symbol (target : Symbol) (parent parent' : Branch) :
    Together (symbol (building setting) (fuel + 1) target parent)
      (symbol setting (fuel + 1) target parent') left right
      (PlaysInto setting.listener parent parent' state log) := by
  have descent := (@compatible_actsAs Unit (building setting)).relatedAt fuel
  cases target with
  | token id => exact together_token errors recoverable beside id parent parent'
  | rule id =>
      have grammar : (building setting).grammar = setting.grammar := rfl
      unfold symbol
      rw [grammar]
      cases setting.grammar.rule? id with
      | none => exact together_halt rfl
      | some found =>
          dsimp only
          split
          · exact plays.alternatives beside found parent parent'
          · apply (plays.rule beside id).bind beside.warned (descent.rule id).extending
              fun kept => (actsAs_attach parent kept).extending
            rintro _ middle _ middle' ⟨node, rfl, rfl, still⟩
            apply (together_attach errors recoverable still parent parent' node _).mono
            rintro branch after branch' after' ⟨built, joined⟩
            exact playsInto_node built joined

end

theorem playsAt (errors : setting.limits.errors = none)
    (recoverable : setting.listener.Recoverable) (fuel : Nat) : PlaysAt setting fuel := by
  induction fuel with
  | zero =>
      constructor
      · exact fun _ _ => together_halt rfl
      · exact fun _ _ _ _ => together_halt rfl
      · exact fun _ _ _ _ => together_halt rfl
      · exact fun _ _ _ _ _ => together_halt rfl
      · exact fun _ _ _ _ => together_halt rfl
  | succ fuel ih =>
      exact ⟨fun beside => together_rule errors ih beside recoverable,
        fun beside => together_alternatives errors ih beside, together_elements ih,
        fun beside => together_copies errors ih beside,
        fun beside => together_symbol errors ih beside recoverable⟩

/-! ## Whole parses -/

theorem extending_root {own : Setting σ} (steps fuel : Nat) : Extending (root own steps fuel) := by
  intro before warned
  apply (acted_root steps fuel warned).mono
  rintro _ after ⟨acts, run, _⟩
  exact run.grows

theorem extending_discard {step : Parse σ α} (extending : Extending step) :
    Extending (discard (attempt step)) := extending

theorem together_root (errors : setting.limits.errors = none)
    (recoverable : setting.listener.Recoverable) (beside : Beside state log left right)
    (steps fuel : Nat) :
    Together (root (building setting) steps fuel) (root setting steps fuel) left right
      (PlaysNode setting.listener state log) := by
  cases fuel with
  | zero => exact together_halt rfl
  | succ fuel =>
      have descent := (@compatible_actsAs Unit (building setting)).relatedAt steps
      have ends : Extending (discard (attempt (checkEnd (building setting)))) :=
        extending_discard extending_checkEnd
      rw [root_succ, root_succ]
      apply ((playsAt errors recoverable steps).rule beside setting.grammar.start).rescue
        beside.warned (descent.rule _).extending fun node => ends.bind fun _ => extending_pure node
      · exact fun diagnostic failed warned => (logged_recover warned diagnostic).logged_then
          fun _ => extending_root steps fuel
      · rintro value middle value' middle' ⟨node, rfl, rfl, still⟩
        have checks := (inStep_checkEnd (readsAlike_aside errors
          (setting.listener.replay node state).1
          (log ++ (setting.listener.replay node state).2.1))).attempt.discard
        apply (checks.together ends still).bind still.warned ends fun _ => extending_pure _
        rintro _ after _ after' ⟨_, left⟩
        exact together_pure ⟨node, rfl, rfl, left⟩

/-- What a parse comes back with where following a tree comes back with this -/
def outcomeOf : Except Log (Option Node) → Outcome
  | .ok kept => .parsed kept
  | .error log => .failed log

theorem parse_of_tree (errors : setting.limits.errors = none)
    (recoverable : setting.listener.Recoverable) {source : Source} {tree : Node}
    (parsed : (parse (building setting) (ofSource source ())).2 = .parsed (some tree)) (state : σ) :
    (parse setting (ofSource source state)).1.listener = (setting.listener.analyze tree state).1 ∧
      (parse setting (ofSource source state)).2 =
        outcomeOf (setting.listener.analyze tree state).2 := by
  obtain ⟨last, ran, empty, _⟩ := parse_eq_parsed_iff.mp (Prod.ext rfl parsed)
  have beside : Beside state [] (ofSource source ()) (ofSource source state) :=
    ⟨⟨rfl, rfl, rfl, rfl, rfl, rfl, rfl, rfl, trivial⟩, rfl, rfl⟩
  obtain ⟨value', after', ran', node, same, rfl, ended⟩ :=
    together_root errors recoverable beside _ _ _ last ran empty
  obtain rfl := Option.some.inj same
  have result : (root setting ((ofSource source state).prepare.stepBound setting.grammar)
      ((ofSource source state).prepare.tokenBound + 2)).run.run (ofSource source state).prepare =
        (.ok (setting.listener.replay tree state).2.2, after') := ran'
  have listener : after'.listener = (setting.listener.replay tree state).1 := ended.alike.listener
  have logged : after'.log = (setting.listener.replay tree state).2.1 := by
    rw [ended.alike.log, empty, List.append_nil, List.nil_append]
  unfold parse Listener.analyze
  dsimp only
  rw [result]
  dsimp only
  rw [logged, listener]
  generalize setting.listener.replay tree state = played
  obtain ⟨state', log, kept⟩ := played
  cases log with
  | nil => exact ⟨rfl, rfl⟩
  | cons refusal others => exact ⟨rfl, rfl⟩

/-- Where building the tree of a source succeeds, parsing the source with a listener whose
refusals are recoverable makes the calls to the listener that following the tree makes, leaves
it in the same state, and comes back with the same node, or with the same refusals. For that
as many errors may be logged as there are. -/
theorem parse_replays {listener : Listener σ} (recoverable : listener.Recoverable)
    {grammar : Grammar} {limits : Limits} {source : Source} {tree : Node}
    (parsed : (parse { grammar, listener := treeBuilder, limits } (ofSource source ())).2 =
      .parsed (some tree)) (state : σ) :
    let setting : Setting σ := { grammar, listener, limits := { limits with errors := none } }
    let fresh := ofSource source state
    calls setting fresh = (listener.recorded.analyze tree (state, [])).1.2 ∧
      (parse setting fresh).1.listener = (listener.analyze tree state).1 ∧
        (parse setting fresh).2 = outcomeOf (listener.analyze tree state).2 := by
  intro setting fresh
  have built : (parse (building setting) (ofSource source ())).2 = .parsed (some tree) :=
    (congrArg Prod.snd (parse_permitting parsed)).trans parsed
  have own := parse_of_tree rfl recoverable built state
  have recorded := @parse_of_tree _ setting.recorded rfl recoverable.recorded source tree built
    (state, [])
  exact ⟨congrArg Prod.snd recorded.1, own⟩

/-- A listener that counts nodes, turns children around and refuses every `"b"`. -/
def countingListener : Listener Nat where
  enter _ count := (count + 1, .ok ())
  exit node count :=
    match node with
    | .leaf ⟨1, _, position⟩ _ => (count, .error (.located (.refused "no b") position))
    | _ => (count, .ok (some node))
  child parent node count := (count, { parent with children := node :: parent.children }, .ok ())

theorem recoverable_countingListener : countingListener.Recoverable where
  enter := nofun
  exit := by
    intro node state refusal refused
    simp only [countingListener] at refused
    split at refused
    · cases refused
      rfl
    · cases refused
  child := nofun

/-- Parsing `"aab"` as `"a"{2,3} "b"` with this listener counts four nodes, and fails as
following the tree does. -/
theorem countedTokens_replayed : ∃ grammar tree,
    Grammar.build Grammar.countedTokens = .ok grammar ∧
      (parse { grammar, listener := treeBuilder } (ofSource (.ofString "aab") ())).2 =
        .parsed (some tree) ∧
      let setting : Setting Nat := { grammar, listener := countingListener }
      let fresh := ofSource (.ofString "aab") 0
      calls setting fresh = (countingListener.recorded.analyze tree (0, [])).1.2 ∧
        (parse setting fresh).1.listener = 4 ∧
          (parse setting fresh).2 = outcomeOf (countingListener.analyze tree 0).2 := by
  have parses : ((Grammar.build Grammar.countedTokens).toOption.any fun grammar =>
      decide ((parse { grammar, listener := countingListener }
        (ofSource (.ofString "aab") 0)).1.listener = 4) &&
        (parse { grammar, listener := treeBuilder }
          (ofSource (.ofString "aab") ())).2.hasRoot) = true := by
    decide +kernel
  obtain ⟨grammar, built, parses⟩ := exists_ok_of_any parses
  obtain ⟨counts, parsed⟩ := Bool.and_eq_true_iff.mp parses
  obtain ⟨tree, found⟩ := Outcome.exists_root parsed
  obtain ⟨same, _, outcome⟩ := parse_replays recoverable_countingListener found 0
  exact ⟨grammar, tree, built, found, same, of_decide_eq_true counts, outcome⟩

end Parser

end StrongLL
