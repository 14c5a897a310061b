import StrongLL.Proofs.Parser.FailedAttempt

/-!
# How far a decision looks ahead

A decision settles with the first terminals that at most one branch goes on with. The parser
does not stop there: it always looks as far ahead as the decision is deep, unless the input
ends before. What it reads beyond the terminals that matter, errors included, is reported
before the decision is made.
-/

namespace StrongLL

/-- Once the end of input is among the first terminals, these are all. -/
theorem getLast?_of_mem_firstTerminals {depth : Nat} {word : List TokenId}
    (ended : .eof ∈ firstTerminals depth word) :
    (firstTerminals depth word).getLast? = some .eof := by
  induction word generalizing depth with
  | nil =>
      cases depth with
      | zero => cases ended
      | succ depth => rw [firstTerminals_nil, List.getLast?_singleton]
  | cons token word ih =>
      cases depth with
      | zero => cases ended
      | succ depth =>
          rw [firstTerminals_cons] at ended ⊢
          have behind := ih ((List.mem_cons.mp ended).resolve_left (by simp))
          rw [List.getLast?_cons, behind, Option.getD_some]

theorem take_eq_self_of_eof {depth level : Nat} {word : List TokenId}
    (ended : .eof ∈ (firstTerminals depth word).take level) :
    (firstTerminals depth word).take level = firstTerminals depth word := by
  rcases Nat.le_total depth level with shorter | longer
  · exact List.take_of_length_le ((length_firstTerminals_le depth word).trans shorter)
  · rw [take_firstTerminals longer] at ended ⊢
    exact (firstTerminals_of_getLast?_eof longer (getLast?_of_mem_firstTerminals ended)).symm

/-! ## Where a decision settles -/

namespace Decision

variable {ahead : Nat → List TokenId → Prop} {count : Nat} {decision : Decision}
  {input : Terminals} {level : Nat}

/-- The first `level` terminals are enough: at this level at most one branch has them, or they
reach the end of input. -/
def SettledAt (decision : Decision) (input : Terminals) (level : Nat) : Prop :=
  0 < level ∧ (.eof ∈ input.take level ∨ ∃ sets, decision.levels[level - 1]? = some sets ∧
    (matching (input.take level) 0 sets).length ≤ 1)

/-- With all of its levels a decision is settled. -/
theorem Decides.settledAt_depth (decides : Decides ahead count decision) (input : Terminals) :
    decision.SettledAt input decision.depth := by
  have positive := decides.positive
  have inside : decision.depth - 1 < decision.levels.length := by
    unfold depth at positive ⊢
    omega
  have last := List.getElem?_eq_getElem inside
  refine ⟨positive, .inr ⟨_, last, ?_⟩⟩
  have level := decides.level _ _ last
  have whole : decision.depth - 1 + 1 = decision.depth := Nat.sub_add_cancel positive
  match found : matching (input.take decision.depth) 0 decision.levels[decision.depth - 1] with
  | [] => exact Nat.zero_le 1
  | [_] => exact Nat.le_refl 1
  | left :: right :: others =>
      refine absurd (shared_of_matching found fun branch member => ?_) (decides.disjoint _)
      obtain ⟨place, set, rfl, atPlace, isIn⟩ := Decision.mem_matching.mp member
      have heads := ((level.found place set atPlace _).mp isIn).1
      rwa [whole, ← Nat.zero_add place] at heads

/-- There is a least number of terminals with which a decision is settled. -/
theorem Decides.exists_isLeast (decides : Decides ahead count decision) (input : Terminals) :
    ∃ level, IsLeast {level | decision.SettledAt input level} level ∧ level ≤ decision.depth := by
  classical
  have settled : ∃ level, decision.SettledAt input level := ⟨_, decides.settledAt_depth input⟩
  refine ⟨Nat.find settled, ⟨Nat.find_spec settled, fun level => Nat.find_min' settled⟩, ?_⟩
  exact Nat.find_min' settled (decides.settledAt_depth input)

/-- From a level on at which at most one branch has the input, no level is looked at. -/
theorem selectFrom_take {sets : List SequenceSet} (here : decision.levels[level - 1]? = some sets)
    (few : (matching (input.take level) 0 sets).length ≤ 1)
    (deeper : List (List SequenceSet)) {lesser : Nat} (rest : decision.levels.drop lesser = deeper)
    (less : lesser < level) :
    selectFrom (input.take level) lesser deeper = selectFrom input lesser deeper := by
  induction deeper generalizing lesser with
  | nil => rfl
  | cons first deeper ih =>
      have same : (input.take level).take (lesser + 1) = input.take (lesser + 1) := by
        rw [List.take_take, Nat.min_eq_left less]
      have found : decision.levels[lesser]? = some first := by
        rw [← List.head?_drop, rest]
        rfl
      have behind : decision.levels.drop (lesser + 1) = deeper := by
        rw [← List.tail_drop, rest]
        rfl
      simp only [selectFrom, same]
      split
      · rfl
      · rfl
      · rename_i notNone notOne
        -- Several branches have the input here, so this is not the level with at most one.
        refine ih behind (Nat.lt_of_le_of_ne less fun reached => ?_)
        rw [← reached, Nat.add_sub_cancel, found] at here
        obtain rfl := Option.some.inj here
        rw [← reached] at few
        rcases shape : matching (input.take (lesser + 1)) 0 first with
          _ | ⟨only, _ | ⟨other, others⟩⟩
        · exact notNone shape
        · exact notOne only shape
        · rw [shape] at few
          simp at few

/-- The terminals with which a decision is settled are those by which it picks a branch. -/
theorem SettledAt.select_take {depth : Nat} {word : List TokenId}
    (settled : decision.SettledAt (firstTerminals depth word) level) :
    decision.select ((firstTerminals depth word).take level) =
      decision.select (firstTerminals depth word) := by
  obtain ⟨positive, ended | ⟨sets, here, few⟩⟩ := settled
  · rw [take_eq_self_of_eof ended]
  · exact selectFrom_take here few decision.levels rfl positive

end Decision

namespace Parser

variable {σ : Type} {setting : Setting σ} {before middle after : Parser σ}

/-! ## Looking further -/

/-- Looking ahead goes on where a shorter look stopped, unless this reached the end of input. -/
theorem lookAhead_add (setting : Setting σ) (depth further index : Nat) :
    lookAhead setting (depth + further) index = (do
      let first ← lookAhead setting depth index
      if .eof ∈ first then return first
      else return first ++ (← lookAhead setting further (index + depth))) := by
  induction depth generalizing index with
  | zero => simp [lookAhead]
  | succ depth ih =>
      rw [Nat.succ_add, lookAhead, lookAhead, bind_assoc]
      refine bind_congr fun found => ?_
      cases found with
      | none => simp
      | some token =>
          rw [ih (index + 1), Nat.add_right_comm index 1 depth]
          simp only [bind_assoc, pure_bind]
          refine bind_congr fun first => ?_
          by_cases ended : Terminal.eof ∈ first
          · simp [ended]
          · simp [ended, Nat.add_assoc]

/-- What is in the buffer, or behind the end of input, is there without a scan. -/
theorem ensures_peek_there {index : Nat}
    (there : index < before.buffer.length ∨ before.exhausted = true) :
    Ensures (peek setting index) before fun outcome after =>
      outcome = .ok before.buffer[index]? ∧ after = before := by
  unfold peek
  rw [ensures_bind, ensures_get]
  have fetched : Ensures (fetch setting index (before.scanner.cursor.remaining + 3)) before
      fun outcome after => outcome = .ok () ∧ after = before :=
    ensures_fetch_there there ⟨rfl, rfl⟩
  apply fetched.bind
  · rintro _ _ ⟨_, rfl⟩
    exact ⟨rfl, rfl⟩
  · rintro _ _ ⟨never, _⟩
    cases never

theorem ensures_lookAhead_there {depth index : Nat}
    (there : depth = 0 ∨ index + depth ≤ before.buffer.length ∨ before.exhausted = true) :
    Ensures (lookAhead setting depth index) before fun _ after => after = before := by
  induction depth generalizing index with
  | zero => rfl
  | succ depth ih =>
      have there := there.resolve_left (Nat.succ_ne_zero depth)
      unfold lookAhead
      apply (ensures_peek_there (there.imp_left fun enough => by omega)).bind
      · rintro found _ ⟨_, rfl⟩
        cases found with
        | none => rfl
        | some token =>
            have behind := @ih (index + 1) (.inr (there.imp_left fun enough => by omega))
            exact behind.bind (fun _ _ same => same) fun _ _ same => same
      · exact fun _ _ ended => ended.2

/-- Tokens that are not there have to be asked for. -/
theorem ensures_fetch_asks {index : Nat} (fuel : Nat) (missing : before.buffer.length ≤ index)
    (more : before.exhausted = false) :
    Ensures (fetch setting index (fuel + 1)) before fun _ after =>
      ∃ count, Run setting before (List.replicate (count + 1) .scan) after := by
  have allowed : Act.scan.Allowed setting.limits before := more
  have asks (last : Parser σ)
      (scans : Scans setting (scanned setting.grammar.vocabulary before) last) :
      ∃ count, Run setting before (List.replicate (count + 1) .scan) last := by
    obtain ⟨count, run⟩ := scans
    exact ⟨count, .act allowed run⟩
  apply ensures_fetch_step missing more
  · intro _
    apply (ensures_fetch_keeps (fun _ more scans => scans.scanned more) index fuel
      (scans_refl _)).mono
    exact fun _ => asks
  · exact asks _ (scans_refl _)

theorem ensures_peek_asks {index : Nat} (missing : before.buffer.length ≤ index)
    (more : before.exhausted = false) : Ensures (peek setting index) before fun _ after =>
      ∃ count, Run setting before (List.replicate (count + 1) .scan) after := by
  unfold peek
  rw [ensures_bind, ensures_get]
  exact (ensures_fetch_asks _ missing more).bind (fun _ _ asked => asked) fun _ _ asked => asked

/-- A look beyond what is buffered asks for tokens, unless the input has ended. -/
theorem ensures_lookAhead_asks {depth index : Nat} (missing : before.buffer.length < index + depth)
    (positive : 0 < depth) (more : before.exhausted = false) :
    Ensures (lookAhead setting depth index) before fun _ after =>
      ∃ count, Run setting before (List.replicate (count + 1) .scan) after := by
  induction depth generalizing index with
  | zero => cases positive
  | succ depth ih =>
      unfold lookAhead
      rcases Nat.lt_or_ge index before.buffer.length with here | beyond
      · apply (ensures_peek_there (.inl here)).bind
        · rintro found _ ⟨same, rfl⟩
          rw [List.getElem?_eq_getElem here] at same
          obtain rfl := Except.ok.inj same
          have further := @ih (index + 1) (by omega) (by omega)
          exact further.bind (fun _ _ asked => asked) fun _ _ asked => asked
        · rintro _ _ ⟨never, _⟩
          cases never
      · apply (ensures_peek_asks beyond more).bind
        · rintro found middle ⟨count, run⟩
          have asked : ∃ count, Run setting before (List.replicate (count + 1) .scan) middle :=
            ⟨count, run⟩
          cases found with
          | none => exact asked
          | some token =>
              apply (ensures_lookAhead_scans depth (index + 1)).bind
              · rintro rest last ⟨extra, further⟩
                refine ⟨count + extra, ?_⟩
                have whole := run.append further
                rwa [List.replicate_append_replicate, Nat.add_right_comm] at whole
              · rintro halt last ⟨extra, further⟩
                refine ⟨count + extra, ?_⟩
                have whole := run.append further
                rwa [List.replicate_append_replicate, Nat.add_right_comm] at whole
        · exact fun _ _ asked => asked

/-! ## Beyond what is needed -/

/-- A step that decides goes on asking for tokens behind the first `level` terminals, until it
has the terminals of all levels or the input has ended. A lexical error that halts it before
halts it there. -/
def LooksOn (setting : Setting σ) (decision : Decision) (level : Nat) {α : Type}
    (step : Parse σ α) (before : Parser σ) : Prop :=
  let needed := (lookAhead setting level 0).run.run before
  let ended := step.run.run before
  (∀ halt, needed.1 = .error halt → ended = (.error halt, needed.2)) ∧
  ∀ input, needed.1 = .ok input → ∃ count decided,
    Run setting needed.2 (List.replicate count .scan ++ decided) ended.2 ∧
    (∀ act ∈ decided, ∃ event, act = .decide event) ∧
    (count = 0 ↔ level = decision.depth ∨ decision.depth ≤ needed.2.buffer.length ∨
      needed.2.exhausted = true)

/-- A longer look asks for more tokens than a shorter one, unless they are there. -/
theorem ensures_lookAhead_beyond {level : Nat} (further : Nat) {input : Terminals}
    (needed : (lookAhead setting level 0).run.run before = (.ok input, middle)) :
    Ensures (lookAhead setting (level + further) 0) before fun _ after =>
      ∃ count, Run setting middle (List.replicate count .scan) after ∧
        (count = 0 ↔ further = 0 ∨ level + further ≤ middle.buffer.length ∨
          middle.exhausted = true) := by
  have looked : Ensures (lookAhead setting level 0) before fun outcome after =>
      outcome = .ok input ∧ after = middle :=
    ⟨congrArg Prod.fst needed, congrArg Prod.snd needed⟩
  have holds := looked.and (ensures_lookAhead_holds level 0)
  rw [lookAhead_add]
  apply holds.bind
  · rintro first reached ⟨⟨same, rfl⟩, found⟩
    obtain rfl := Except.ok.inj same
    by_cases ended : Terminal.eof ∈ first
    · rw [if_pos ended]
      exact ⟨0, .done _, by simp [(found first rfl).ended ended]⟩
    · rw [if_neg ended, Nat.zero_add]
      by_cases there : further = 0 ∨ level + further ≤ reached.buffer.length ∨
          reached.exhausted = true
      · have stays := @ensures_lookAhead_there σ setting reached further level there
        have nothing : ∃ count, Run setting reached (List.replicate count .scan) reached ∧
            (count = 0 ↔ further = 0 ∨ level + further ≤ reached.buffer.length ∨
              reached.exhausted = true) := ⟨0, .done reached, by simp [there]⟩
        apply stays.bind
        · rintro rest _ rfl
          exact nothing
        · rintro halt _ rfl
          exact nothing
      · obtain ⟨positive, missing, more⟩ : 0 < further ∧
            reached.buffer.length < level + further ∧ reached.exhausted = false := by
          simpa [not_or, Nat.pos_iff_ne_zero] using there
        have asks := @ensures_lookAhead_asks σ setting reached further level missing positive more
        have counted {last : Parser σ}
            (asked : ∃ count, Run setting reached (List.replicate (count + 1) .scan) last) :
            ∃ count, Run setting reached (List.replicate count .scan) last ∧
              (count = 0 ↔ further = 0 ∨ level + further ≤ reached.buffer.length ∨
                reached.exhausted = true) := by
          obtain ⟨count, run⟩ := asked
          exact ⟨count + 1, run, by simp [there]⟩
        exact asks.bind (fun _ _ => counted) fun _ _ => counted
  · rintro halt _ ⟨⟨never, _⟩, _⟩
    cases never

/-- Where a look ahead halts, a longer one halts in the same way. -/
theorem lookAhead_run_halt {level : Nat} (further : Nat) {halt : Halt}
    (needed : (lookAhead setting level 0).run.run before = (.error halt, middle)) :
    (lookAhead setting (level + further) 0).run.run before = (.error halt, middle) := by
  rw [lookAhead_add, bind_run, needed]

/-- A step looks on that looks as far ahead as the decision is deep, and then only decides. -/
theorem looksOn_of_bind {α : Type} {decision : Decision} {level : Nat}
    (within : level ≤ decision.depth) {decide : Terminals → Parse σ α}
    (decides : ∀ input middle, Ensures (decide input) middle fun _ after =>
      ∃ decided, Run setting middle decided after ∧ ∀ act ∈ decided, ∃ event, act = .decide event) :
    LooksOn setting decision level (lookAhead setting decision.depth 0 >>= decide) before := by
  obtain ⟨further, deep⟩ := Nat.exists_eq_add_of_le within
  have enough : level = decision.depth ↔ further = 0 := by omega
  unfold LooksOn
  rw [enough, deep]
  cases needed : (lookAhead setting level 0).run.run before with
  | mk outcome middle =>
      refine ⟨?_, ?_⟩
      · rintro halt rfl
        rw [bind_run, lookAhead_run_halt further needed]
      · rintro input rfl
        have beyond := ensures_lookAhead_beyond further needed
        have goesOn : Ensures (lookAhead setting (level + further) 0 >>= decide) before
            fun _ after => ∃ count decided,
              Run setting middle (List.replicate count .scan ++ decided) after ∧
              (∀ act ∈ decided, ∃ event, act = .decide event) ∧
              (count = 0 ↔ further = 0 ∨ level + further ≤ middle.buffer.length ∨
                middle.exhausted = true) := by
          apply beyond.bind
          · rintro found last ⟨count, run, zero⟩
            apply (decides found last).mono
            rintro outcome after ⟨decided, more, kinds⟩
            exact ⟨count, decided, run.append more, kinds, zero⟩
          · rintro halt after ⟨count, run, zero⟩
            exact ⟨count, [], by simpa using run, by simp, zero⟩
        exact goesOn

/-- The choice of an alternative looks on. -/
theorem looksOn_choose {decision : Decision} {level : Nat} (within : level ≤ decision.depth)
    {found : ResolvedRule} (made : found.decision = some decision) :
    LooksOn setting decision level (choose setting found) before := by
  unfold choose
  rw [made]
  apply looksOn_of_bind within
  intro input middle
  cases decision.select input with
  | none => exact ⟨[], .done middle, by simp⟩
  | some index => exact ⟨[], .done middle, by simp⟩

/-- So does the test for another copy. -/
theorem looksOn_wantsMore {decision : Decision} {level : Nat} (within : level ≤ decision.depth)
    {element : ResolvedElement} (made : element.decision = some decision) {count : Nat}
    (notFull : element.occurs.isFull count = false) (enough : element.occurs.min ≤ count) :
    LooksOn setting decision level (wantsMore setting element count) before := by
  have shape : wantsMore setting element count = lookAhead setting decision.depth 0 >>=
      fun input => recordLoop element.symbol count (decision.select input == some 0) := by
    unfold wantsMore
    rw [if_neg (by simp [notFull]), if_neg (Nat.not_lt.mpr enough), made]
    rfl
  rw [shape]
  apply looksOn_of_bind within
  intro input middle
  cases element.symbol with
  | token id => exact ⟨[], .done middle, by simp⟩
  | rule id =>
      have allowed : (Act.decide (.loop id count (decision.select input == some 0))).Allowed
        setting.limits middle := .inr ⟨id, count, _, rfl⟩
      exact ⟨_, .single allowed, by simp⟩

/-- At each decision of a grammar some terminals are enough for what is ahead: the least number
with which at most one branch is left, or which reaches the end of input. By these alone the
decision picks what it picks. But a parser that decides looks on behind them, and asks its
scanner for further tokens, unless the decision is just as deep, the buffer holds as many tokens
as it is deep, or the scanner has come to the end of input. -/
theorem decision_looks_on {declaration : Ebnf.Declaration} {grammar : Grammar}
    (built : Grammar.build declaration = .ok grammar) {site : Site} {decision : Decision}
    (decidesAt : DecidesAt grammar.rules site decision) (same : setting.grammar = grammar)
    (before : Parser σ) :
    let input := firstTerminals decision.depth
      ((before.upcoming grammar.vocabulary).map (·.id))
    ∃ level, IsLeast {level | decision.SettledAt input level} level ∧ level ≤ decision.depth ∧
      decision.select (input.take level) = decision.select input ∧
      (∀ depth looked, depth ≤ decision.depth →
        ((lookAhead setting depth 0).run.run before).1 = .ok looked → looked = input.take depth) ∧
      (∀ found : ResolvedRule, found.decision = some decision →
        LooksOn setting decision level (choose setting found) before) ∧
      ∀ (element : ResolvedElement) count, element.decision = some decision →
        element.occurs.isFull count = false → element.occurs.min ≤ count →
          LooksOn setting decision level (wantsMore setting element count) before := by
  intro input
  have decides := ((Grammar.builtFrom_of_build built).decides decidesAt).1
  obtain ⟨level, least, within⟩ := decides.exists_isLeast input
  refine ⟨level, least, within, least.1.select_take, fun depth looked less ended => ?_,
    fun found made => looksOn_choose within made,
    fun element count made notFull enough => looksOn_wantsMore within made notFull enough⟩
  have reads : Ensures (lookAhead setting depth 0) before _ := ensures_lookAhead depth 0
  rw [reads.only looked ended, List.drop_zero, take_firstTerminals less, same]

/-- Behind the first token of `"ac"` both alternatives of `sharedStart` are left, and behind the
second one is. So the choice asks for both tokens and for no more. -/
theorem sharedStart_settles : ∃ grammar found decision, Grammar.build sharedStart = .ok grammar ∧
    found ∈ grammar.rules ∧ found.decision = some decision ∧
    let setting : Setting Unit := { grammar, listener := treeBuilder }
    let fresh : Parser Unit := .ofSource (.ofString "ac") ()
    let input := firstTerminals decision.depth ((fresh.upcoming grammar.vocabulary).map (·.id))
    input = [.token 0, .token 2] ∧ IsLeast {level | decision.SettledAt input level} 2 ∧
      decision.select (input.take 2) = some 1 ∧
      LooksOn setting decision 2 (choose setting found) fresh := by
  have facts : ((Grammar.build sharedStart).toOption.any fun grammar =>
      grammar.rules.any fun found => found.decision.any fun decision =>
        let setting : Setting Unit := { grammar, listener := treeBuilder }
        let looked := (lookAhead setting decision.depth 0).run.run (.ofSource (.ofString "ac") ())
        decide (decision.depth = 2 ∧ looked.1 = .ok [.token 0, .token 2] ∧
          (decision.levels[0]?.map fun sets => Decision.matching [.token 0] 0 sets) =
            some [0, 1] ∧
          decision.select [.token 0, .token 2] = some 1)) = true := by
    decide +kernel
  obtain ⟨grammar, built, facts⟩ := exists_ok_of_any facts
  obtain ⟨found, member, facts⟩ := List.any_eq_true.mp facts
  obtain ⟨decision, made, facts⟩ := Option.any_eq_true _ _ |>.mp facts
  obtain ⟨depth, looked, first, picked⟩ := of_decide_eq_true facts
  obtain ⟨level, least, within, select, reads, chooses, _⟩ :=
    @decision_looks_on Unit { grammar, listener := treeBuilder } _ grammar built _ decision
      (.choice member made) rfl (.ofSource (.ofString "ac") ())
  have whole := reads decision.depth _ (Nat.le_refl _) looked
  rw [List.take_of_length_le (length_firstTerminals_le _ _)] at whole
  rw [← whole] at least select
  have notOne : ¬ decision.SettledAt [.token 0, .token 2] 1 := by
    rintro ⟨_, ended | ⟨sets, here, few⟩⟩
    · exact absurd ended (by decide)
    · obtain ⟨_, there, both⟩ := Option.map_eq_some_iff.mp first
      obtain rfl := Option.some.inj (here.symm.trans there)
      exact absurd (congrArg List.length both ▸ few) (by decide)
  have isTwo : level = 2 := by
    have positive : 0 < level := least.1.1
    have different : level ≠ 1 := fun isOne => notOne (isOne ▸ least.1)
    omega
  subst isTwo
  refine ⟨grammar, found, decision, built, member, made, whole.symm, ?_, ?_, chooses found made⟩
  · rw [← whole]
    exact least
  · rw [← whole]
    exact picked

/-- At `"c?"` the first token settles that no alternative of `sharedStart` fits. The choice asks
for another token all the same, and so reports the `?` behind the one that does not fit. This is
the only error of the parse that is logged. -/
theorem sharedStart_reads_on : ∃ grammar found decision, Grammar.build sharedStart = .ok grammar ∧
    found ∈ grammar.rules ∧ found.decision = some decision ∧
    let setting : Setting Unit := { grammar, listener := treeBuilder }
    let fresh : Parser Unit := .ofSource (.ofString "c?") ()
    let input := firstTerminals decision.depth ((fresh.upcoming grammar.vocabulary).map (·.id))
    let needed := ((lookAhead setting 1 0).run.run fresh).2
    let chosen := ((choose setting found).run.run fresh).2
    let report := Diagnostic.located (.unexpectedChar '?') ⟨1, 2, 1⟩
    IsLeast {level | decision.SettledAt input level} 1 ∧
      needed.log = [] ∧ needed.recovery = 0 ∧ chosen.log = [report] ∧ chosen.recovery = 3 ∧
      (parse setting fresh).2 = .failed [report] := by
  have facts : ((Grammar.build sharedStart).toOption.any fun grammar =>
      grammar.rules.any fun found => found.decision.any fun decision =>
        let setting : Setting Unit := { grammar, listener := treeBuilder }
        let fresh : Parser Unit := .ofSource (.ofString "c?") ()
        let needed := ((lookAhead setting 1 0).run.run fresh).2
        let chosen := ((choose setting found).run.run fresh).2
        let report := Diagnostic.located (.unexpectedChar '?') ⟨1, 2, 1⟩
        decide (((lookAhead setting decision.depth 0).run.run fresh).1 =
            .ok [.token 2, .eof] ∧
          (decision.levels[0]?.map fun sets => Decision.matching [.token 2] 0 sets) = some [] ∧
          needed.log = [] ∧ needed.recovery = 0 ∧ chosen.log = [report] ∧
            chosen.recovery = 3) &&
          match (parse setting fresh).2 with
          | .failed log => log == [report]
          | _ => false) = true := by
    decide +kernel
  obtain ⟨grammar, built, facts⟩ := exists_ok_of_any facts
  obtain ⟨found, member, facts⟩ := List.any_eq_true.mp facts
  obtain ⟨decision, made, facts⟩ := Option.any_eq_true _ _ |>.mp facts
  obtain ⟨facts, parsed⟩ := Bool.and_eq_true_iff.mp facts
  obtain ⟨looked, first, log, recovery, chosenLog, chosenRecovery⟩ := of_decide_eq_true facts
  refine ⟨grammar, found, decision, built, member, made, ?_, log, recovery, chosenLog,
    chosenRecovery, ?_⟩
  · have reads : Ensures (lookAhead ({ grammar, listener := treeBuilder } : Setting Unit)
        decision.depth 0) (.ofSource (.ofString "c?") ()) _ := ensures_lookAhead decision.depth 0
    have whole := reads.only _ looked
    rw [List.drop_zero] at whole
    rw [← whole]
    obtain ⟨sets, here, none⟩ := Option.map_eq_some_iff.mp first
    exact ⟨⟨Nat.one_pos, .inr ⟨sets, here, by simp [none]⟩⟩, fun level settled => settled.1⟩
  · split at parsed
    · rename_i log failed
      rw [failed, beq_iff_eq.mp parsed]
    · cases parsed

end Parser

end StrongLL
