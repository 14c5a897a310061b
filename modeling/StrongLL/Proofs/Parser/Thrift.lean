import StrongLL.Proofs.Parser.Honesty

/-!
# How far a parser reads ahead

A parser asks for a token only to take it, or to look at it for a decision. So at no moment
there are more tokens in its buffer than its deepest decision looks at.
-/

namespace StrongLL

namespace Parser

variable {σ α β : Type} {setting : Setting σ} {bound : Nat} {before middle after : Parser σ}
  {acts further : List Act}

/-- At no moment of a row of acts more tokens are buffered. -/
def Bounded (setting : Setting σ) (bound : Nat) (before : Parser σ) (acts : List Act) : Prop :=
  ∀ part, part <+: acts → (performed setting before part).buffer.length ≤ bound

theorem Bounded.room (bounded : Bounded setting bound before acts) :
    before.buffer.length ≤ bound :=
  bounded [] List.nil_prefix

theorem bounded_nothing (room : before.buffer.length ≤ bound) :
    Bounded setting bound before [] := by
  intro part isPart
  obtain rfl := List.prefix_nil.mp isPart
  exact room

theorem Bounded.cons {act : Act} (room : before.buffer.length ≤ bound)
    (more : Bounded setting bound (act.apply setting before) acts) :
    Bounded setting bound before (act :: acts) := by
  intro part isPart
  cases part with
  | nil => exact room
  | cons first part =>
      obtain ⟨rfl, shorter⟩ := List.cons_prefix_cons.mp isPart
      exact more part shorter

theorem Bounded.append (first : Bounded setting bound before acts)
    (later : Bounded setting bound (performed setting before acts) further) :
    Bounded setting bound before (acts ++ further) := by
  induction acts generalizing before with
  | nil => exact later
  | cons act acts ih =>
      refine Bounded.cons first.room (ih ?_ later)
      intro part isPart
      exact first (act :: part) (List.cons_prefix_cons.mpr ⟨rfl, isPart⟩)

/-! ## Acts that leave the buffer as it is, or take from it -/

/-- Only a scan adds to the buffer. -/
theorem Act.length_buffer_le (act : Act) (other : act ≠ .scan) :
    (act.apply setting before).buffer.length ≤ before.buffer.length :=
  (act.unscanned other).buffer.length_le

/-- A scan adds one token at most. -/
theorem length_buffer_scanned (vocabulary : Vocabulary) :
    (scanned vocabulary before).buffer.length ≤ before.buffer.length + 1 := by
  unfold scanned
  dsimp only
  split
  · simp
  · exact Nat.le_succ _
  · exact Nat.le_succ _

/-! ## Rows of acts with a bounded buffer -/

/-- A row of acts leads from one state to another, with no more than `bound` tokens in the
buffer at any moment. -/
def Thrifty (setting : Setting σ) (bound : Nat) (before after : Parser σ) : Prop :=
  ∃ acts, Run setting before acts after ∧ Bounded setting bound before acts

theorem thrifty_nothing (room : before.buffer.length ≤ bound) :
    Thrifty setting bound before before :=
  ⟨[], .done before, bounded_nothing room⟩

theorem Thrifty.room (thrifty : Thrifty setting bound before after) :
    after.buffer.length ≤ bound := by
  obtain ⟨acts, run, bounded⟩ := thrifty
  rw [run.eq_performed]
  exact bounded acts (List.prefix_refl acts)

theorem Thrifty.warned (thrifty : Thrifty setting bound before after) (warned : before.Warned) :
    after.Warned := by
  obtain ⟨acts, run, _⟩ := thrifty
  exact run.warned warned

theorem Thrifty.trans (first : Thrifty setting bound before middle)
    (later : Thrifty setting bound middle after) : Thrifty setting bound before after := by
  obtain ⟨acts, run, bounded⟩ := first
  obtain ⟨further, more, moreBounded⟩ := later
  refine ⟨acts ++ further, run.append more, bounded.append ?_⟩
  rw [← run.eq_performed]
  exact moreBounded

/-- An act that is not a scan -/
theorem thrifty_act (act : Act) (other : act ≠ .scan) (room : before.buffer.length ≤ bound)
    (allowed : act.Allowed setting.limits before) :
    Thrifty setting bound before (act.apply setting before) :=
  ⟨[act], .single allowed, .cons room
    (bounded_nothing (Nat.le_trans (act.length_buffer_le other) room))⟩

/-- A scan where there is room for another token -/
theorem thrifty_scan (room : before.buffer.length < bound) (goesOn : before.exhausted = false) :
    Thrifty setting bound before (scanned setting.grammar.vocabulary before) := by
  have fits : (Act.scan.apply setting before).buffer.length ≤ bound :=
    Nat.le_trans (length_buffer_scanned _) room
  have allowed : Act.scan.Allowed setting.limits before := goesOn
  exact ⟨[.scan], .single allowed, .cons (Nat.le_of_lt room) (bounded_nothing fits)⟩

/-- Wherever a step begins with room in the buffer, it is a row of acts that keeps to it. -/
def IsThrifty (setting : Setting σ) (bound : Nat) (step : Parse σ α) : Prop :=
  ∀ before, before.Warned → before.buffer.length ≤ bound →
    Ensures step before fun _ after => Thrifty setting bound before after

theorem isThrifty_pure (value : α) : IsThrifty setting bound (pure value : Parse σ α) :=
  fun _ _ room => thrifty_nothing room

theorem isThrifty_throw (halt : Halt) : IsThrifty setting bound (throw halt : Parse σ α) :=
  fun _ _ room => thrifty_nothing room

theorem isThrifty_get : IsThrifty setting bound (get : Parse σ (Parser σ)) :=
  fun _ _ room => ensures_get.mpr (thrifty_nothing room)

/-- Behind a step of which something is known -/
theorem Ensures.thrifty_bind {step : Parse σ α} {next : α → Parse σ β}
    {facts : Except Halt α → Parser σ → Prop} (warned : before.Warned)
    (first : Ensures step before fun outcome middle =>
      Thrifty setting bound before middle ∧ facts outcome middle)
    (more : ∀ value middle, middle.Warned → middle.buffer.length ≤ bound →
      facts (.ok value) middle →
        Ensures (next value) middle fun _ after => Thrifty setting bound middle after) :
    Ensures (step >>= next) before fun _ after => Thrifty setting bound before after := by
  apply first.bind
  · rintro value middle ⟨thrifty, known⟩
    apply (more value middle (thrifty.warned warned) thrifty.room known).mono
    intro outcome after later
    exact thrifty.trans later
  · rintro halt after ⟨thrifty, _⟩
    exact thrifty

theorem IsThrifty.bind {step : Parse σ α} {next : α → Parse σ β}
    (first : IsThrifty setting bound step) (more : ∀ value, IsThrifty setting bound (next value)) :
    IsThrifty setting bound (step >>= next) := by
  intro before warned room
  have nothing : Ensures step before fun _ _ => True := trivial
  exact Ensures.thrifty_bind warned ((first before warned room).and nothing)
    fun value middle still left _ => more value middle still left

theorem IsThrifty.rescue {step : Parse σ α} {next : α → Parse σ β}
    {handler : Diagnostic → Parse σ β} (first : IsThrifty setting bound step)
    (more : ∀ value, IsThrifty setting bound (next value))
    (handled : ∀ diagnostic, IsThrifty setting bound (handler diagnostic)) :
    IsThrifty setting bound (rescue step next handler) := by
  intro before warned room
  unfold Parser.rescue
  rw [ensures_bind, ensures_attempt]
  apply (first before warned room).mono
  intro outcome middle thrifty
  have still := thrifty.warned warned
  cases outcome with
  | ok value =>
      exact (more value middle still thrifty.room).mono fun _ _ later => thrifty.trans later
  | error halt =>
      cases halt with
      | mismatch diagnostic =>
          exact (handled diagnostic middle still thrifty.room).mono fun _ _ later =>
            thrifty.trans later
      | abort => exact thrifty
      | unfinished => exact thrifty

/-! ## Steps -/

/-- Tokens are fetched up to a place that the bound leaves room for. -/
theorem isThrifty_fetch {index : Nat} (inside : index < bound) (fuel : Nat) :
    IsThrifty setting bound (fetch setting index fuel) := by
  induction fuel with
  | zero => exact isThrifty_throw .unfinished
  | succ fuel ih =>
      intro before warned room
      unfold fetch
      simp only [ensures_bind, ensures_get]
      split
      · exact thrifty_nothing room
      · rename_i missing
        simp only [Bool.or_eq_true, decide_eq_true_eq, not_or, Bool.not_eq_true, Nat.not_lt]
          at missing
        have scan : Thrifty setting bound before (scanned setting.grammar.vocabulary before) :=
          thrifty_scan (Nat.lt_of_le_of_lt missing.1 inside) missing.2
        have goesOn : Ensures (fetch setting index fuel)
            (scanned setting.grammar.vocabulary before)
            fun _ after => Thrifty setting bound before after :=
          (ih _ (scan.warned warned) scan.room).mono fun _ _ later => scan.trans later
        revert scan goesOn
        unfold scanned
        match before.scanner.next setting.grammar.vocabulary with
        | (scanner, .ok (some token)) => exact fun _ goesOn => goesOn
        | (scanner, .ok none) => exact fun _ goesOn => goesOn
        | (scanner, .error diagnostic) =>
            intro scan goesOn
            simp only [ensures_bind, ensures_set]
            apply (ensures_report_eq diagnostic true).mono
            rintro outcome middle ⟨rfl | rfl, rfl⟩
            · exact goesOn
            · exact scan

theorem isThrifty_peek {index : Nat} (inside : index < bound) :
    IsThrifty setting bound (peek setting index) :=
  isThrifty_get.bind fun _ => (isThrifty_fetch inside _).bind fun _ =>
    isThrifty_get.bind fun _ => isThrifty_pure _

theorem isThrifty_lookAhead {depth index : Nat} (inside : index + depth ≤ bound) :
    IsThrifty setting bound (lookAhead setting depth index) := by
  induction depth generalizing index with
  | zero => exact isThrifty_pure []
  | succ depth ih =>
      unfold lookAhead
      apply (isThrifty_peek (by omega)).bind
      intro found
      cases found with
      | none => exact isThrifty_pure _
      | some token => exact (ih (by omega)).bind fun _ => isThrifty_pure _

theorem isThrifty_enter (node : Node) : IsThrifty setting bound (enter setting node) := by
  intro before warned room
  apply (ensures_tell_eq (setting.listener.enter node) ()).mono
  rintro outcome after ⟨rfl, _⟩
  exact thrifty_act (.enter node) nofun room trivial

theorem isThrifty_exit (node : Node) : IsThrifty setting bound (exit setting node) := by
  intro before warned room
  apply (ensures_exit_eq node).mono
  rintro outcome after ⟨rfl, _⟩
  exact thrifty_act (.exit node) nofun room trivial

theorem isThrifty_attach (parent : Branch) (kept : Option Node) :
    IsThrifty setting bound (attach setting parent kept) := by
  cases kept with
  | none => exact isThrifty_pure parent
  | some node =>
      intro before warned room
      apply (ensures_attach_eq parent node).mono
      rintro outcome after ⟨rfl, _⟩
      exact thrifty_act (.child parent node) nofun room trivial

theorem isThrifty_decide {event : TraceEvent}
    (isDecision : ∀ parser : Parser σ, (Act.decide event).Allowed setting.limits parser) :
    IsThrifty setting bound (record event : Parse σ Unit) :=
  fun before _ room =>
    ensures_record.mpr (thrifty_act (.decide event) nofun room (isDecision before))

theorem thrifty_fail {fault : Fault} (room : before.buffer.length ≤ bound)
    (allowed : (Act.fail fault).Allowed setting.limits before) :
    Ensures (fail fault : Parse σ α) before fun _ after => Thrifty setting bound before after :=
  thrifty_act (.fail fault) nofun room allowed

theorem thrifty_consume {token : Token} {rest : List Token} (room : before.buffer.length ≤ bound)
    (buffered : before.buffer = token :: rest) :
    Ensures (consume setting) before fun _ after => Thrifty setting bound before after := by
  unfold consume
  rw [ensures_bind]
  apply ensures_spend_eq.mono
  rintro outcome after (⟨rfl, rfl, spare⟩ | ⟨rfl, rfl, allowed⟩)
  · have taken : Thrifty setting bound before ((Act.consume token).apply setting before) :=
      thrifty_act (.consume token) (by simp) room ⟨⟨rest, buffered⟩, spare⟩
    simp only [Act.apply, buffered, List.tail_cons] at taken
    simp only [ensures_bind, ensures_get, buffered, ensures_modify, ensures_record, ensures_pure]
    exact taken
  · exact thrifty_act (.fail .executionLimit) (by simp) room allowed

section

variable (positive : 0 < bound)

include positive

theorem isThrifty_token (id : TokenId) (parent : Branch) :
    IsThrifty setting bound (token setting id parent) := by
  intro before warned room
  unfold token
  apply Ensures.thrifty_bind warned
    ((isThrifty_peek positive before warned room).and (ensures_peek 0))
  rintro found middle still left ⟨_, buffered⟩
  cases found with
  | none => exact thrifty_nothing left
  | some next =>
      dsimp only
      split
      · simp only [ensures_bind, ensures_get, ensures_throw]
        exact thrifty_nothing left
      · obtain ⟨rest, shape⟩ := exists_cons_of_getElem?_zero (buffered _ rfl).1
        have nothing : Ensures (consume setting) middle fun _ _ => True := trivial
        apply Ensures.thrifty_bind still ((thrifty_consume left shape).and nothing)
        intro token consumed warned room _
        exact ((isThrifty_enter _).bind fun _ => (isThrifty_exit _).bind
          (isThrifty_attach parent)) consumed warned room

/-- A token is skipped behind an error that is logged. -/
theorem thrifty_skip (warned : before.Warned) (room : before.buffer.length ≤ bound)
    (logged : before.log ≠ []) :
    Ensures (skip setting) before fun _ after => Thrifty setting bound before after := by
  unfold skip
  have look := (isThrifty_peek positive before warned room).and (@ensures_peek _ setting _ 0)
  apply Ensures.thrifty_bind warned (look.mono fun _ _ known => ⟨known.1, known⟩)
  rintro found middle _ left ⟨⟨acts, run, _⟩, _, buffered⟩
  cases found with
  | none => exact thrifty_nothing left
  | some token =>
      obtain ⟨rest, shape⟩ := exists_cons_of_getElem?_zero (buffered _ rfl).1
      rw [ensures_bind]
      apply ensures_spend_eq.mono
      rintro outcome after (⟨rfl, rfl, spare⟩ | ⟨rfl, rfl, allowed⟩)
      · have skipped : Thrifty setting bound middle ((Act.skip token).apply setting middle) :=
          thrifty_act (.skip token) nofun left ⟨⟨rest, shape⟩, run.logged logged, spare⟩
        exact skipped
      · exact thrifty_act (.fail .executionLimit) nofun left allowed

theorem isThrifty_recover (diagnostic : Diagnostic) :
    IsThrifty setting bound (recover setting diagnostic) := by
  intro before warned room
  unfold recover
  have stumbled : Thrifty setting bound before (stumble diagnostic before) :=
    thrifty_act (.mismatch diagnostic) nofun room trivial
  rw [ensures_bind]
  apply (ensures_report_eq diagnostic true).mono
  rintro outcome middle ⟨rfl | rfl, rfl⟩
  · dsimp only [if_true]
    rw [ensures_bind]
    apply (thrifty_skip positive (stumbled.warned warned) stumbled.room
      (log_stumble diagnostic warned)).mono
    intro outcome after skipped
    match outcome with
    | .ok true => exact stumbled.trans skipped
    | .ok false => exact stumbled.trans skipped
    | .error halt => exact stumbled.trans skipped
  · exact stumbled

theorem isThrifty_checkEnd : IsThrifty setting bound (checkEnd setting) := by
  unfold checkEnd
  apply (isThrifty_peek positive).bind
  intro found
  cases found with
  | none => exact isThrifty_pure ()
  | some token =>
      intro before warned room
      apply (ensures_report_eq _ true).mono
      rintro outcome after ⟨_, rfl⟩
      exact thrifty_act (.mismatch _) nofun room trivial

end

/-! ## Decisions -/

/-- A decision looks no further ahead than the bound. -/
def Shallow (bound : Nat) (decision : Option Decision) : Prop :=
  ∀ made, decision = some made → made.depth ≤ bound

theorem isThrifty_choose {rule : ResolvedRule} (shallow : Shallow bound rule.decision) :
    IsThrifty setting bound (choose setting rule) := by
  unfold choose
  cases made : rule.decision with
  | none => exact isThrifty_pure (0, 0)
  | some decision =>
      apply (isThrifty_lookAhead (by rw [Nat.zero_add]; exact shallow decision made)).bind
      intro input
      cases decision.select input with
      | some index => exact isThrifty_pure _
      | none => exact isThrifty_get.bind fun _ => isThrifty_throw _

theorem isThrifty_wantsMore {element : ResolvedElement} (shallow : Shallow bound element.decision)
    (count : Nat) : IsThrifty setting bound (wantsMore setting element count) := by
  have ends (again : Bool) : IsThrifty setting bound (recordLoop element.symbol count again) := by
    cases element.symbol with
    | token id => exact isThrifty_pure again
    | rule id =>
        exact (isThrifty_decide fun _ => .inr ⟨id, count, again, rfl⟩).bind fun _ =>
          isThrifty_pure again
  unfold wantsMore
  split
  · exact isThrifty_pure false
  · split
    · exact isThrifty_pure true
    · cases made : element.decision with
      | none => exact (isThrifty_pure false).bind ends
      | some decision =>
          apply (isThrifty_lookAhead (by rw [Nat.zero_add]; exact shallow decision made)).bind
          intro _
          exact (isThrifty_pure _).bind ends

/-! ## The descent -/

theorem isThrifty_inside (rule : RuleId) {step : Parse σ α}
    (inner : IsThrifty setting bound step) :
    IsThrifty setting bound (inside setting rule step) := by
  intro before warned room
  unfold inside
  simp only [ensures_bind, ensures_get]
  split
  · rename_i exceeded
    simp only [ensures_bind]
    exact thrifty_fail room (allowed_recursionLimit exceeded)
  · rename_i spare
    have opened : Thrifty setting bound before ((Act.openRule rule).apply setting before) :=
      thrifty_act (.openRule rule) (by simp) room (allowed_openRule rule spare)
    simp only [ensures_bind, ensures_modify, ensures_record, ensures_attempt]
    apply (inner _ (opened.warned warned) opened.room).mono
    intro outcome last thrifty
    have closed : Thrifty setting bound before ((Act.closeRule rule).apply setting last) :=
      (opened.trans thrifty).trans (thrifty_act (.closeRule rule) (by simp) thrifty.room trivial)
    cases outcome with
    | ok value => exact closed
    | error halt => exact closed

theorem compatible_isThrifty (positive : 0 < bound) :
    CompatibleOn (Shallow bound) setting setting.limits fun step _ =>
      IsThrifty setting bound step where
  pure := isThrifty_pure
  unfinished := isThrifty_throw .unfinished
  fail := fun fault inner _ _ room =>
    thrifty_fail room (by rcases inner with rfl | rfl <;> simp [Act.Allowed])
  bind := IsThrifty.bind
  rescue := IsThrifty.rescue
  inside := fun rule _ _ inner => isThrifty_inside rule inner
  alternative := fun rule index depth => isThrifty_decide fun _ => .inl ⟨rule, index, depth, rfl⟩
  enter := isThrifty_enter
  exit := isThrifty_exit
  attach := isThrifty_attach
  token := isThrifty_token positive
  choose := fun _ shallow => isThrifty_choose shallow
  wantsMore := fun _ count shallow => isThrifty_wantsMore shallow count
  recover := isThrifty_recover positive

section

variable (positive : 0 < bound)
  (shallow : ∀ id found, setting.grammar.rule? id = some found → RuleFits (Shallow bound) found)

include positive shallow

theorem isThrifty_root (steps fuel : Nat) : IsThrifty setting bound (root setting steps fuel) := by
  induction fuel with
  | zero => exact isThrifty_throw .unfinished
  | succ fuel ih =>
      have parses : IsThrifty setting bound (rule setting steps setting.grammar.start) :=
        ((compatible_isThrifty positive).relatedOn shallow steps).rule _
      intro before warned room
      unfold root
      rw [ensures_bind, ensures_attempt]
      apply (parses before warned room).mono
      intro outcome middle thrifty
      have still := thrifty.warned warned
      cases outcome with
      | ok kept =>
          dsimp only
          rw [ensures_bind, ensures_discard]
          apply (isThrifty_checkEnd positive middle still thrifty.room).mono
          intro _ after later
          exact thrifty.trans later
      | error halt =>
          cases halt with
          | mismatch diagnostic =>
              have again : IsThrifty setting bound (do
                  recover setting diagnostic
                  root setting steps fuel) :=
                (isThrifty_recover positive diagnostic).bind fun _ => ih
              exact (again middle still thrifty.room).mono fun _ _ later => thrifty.trans later
          | abort => exact thrifty
          | unfinished => exact thrifty

/-- A parse never has more tokens in its buffer than its decisions look at. -/
theorem thrifty_parse (parser : Parser σ) (room : parser.buffer.length ≤ bound) :
    ∃ acts last, Run setting parser.prepare acts last ∧
      (parse setting parser).1 = { last with log := [] } ∧
        Bounded setting bound parser.prepare acts := by
  obtain ⟨acts, run, bounded⟩ := isThrifty_root positive shallow
    (parser.prepare.stepBound setting.grammar) (parser.prepare.tokenBound + 2) parser.prepare
    (warned_prepare parser) room
  exact ⟨acts, _, run, fst_verdict _, bounded⟩

end

end Parser

end StrongLL
