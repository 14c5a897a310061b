import StrongLL.Proofs.Parser.Descent

/-!
# The pace of a parser

The work of a parser is to enter productions and to test loops. What is proved of it is
amortized: each token that is taken pays for a fixed amount of work, and a call may do some
more in advance. This has to hold at each moment of a run, so the account is kept along the
events that the steps record.
-/

namespace StrongLL

/-- Whether an event is work: a production is entered, or a loop is tested. -/
def TraceEvent.isWork : TraceEvent → Bool
  | .enter _ | .loop .. => true
  | _ => false

namespace Parser

variable {σ α β : Type}

/-! ## Accounts -/

/-- The productions that are entered and the loops that are tested. -/
def work (events : List TraceEvent) : Nat := events.countP TraceEvent.isWork

/-- The tokens that are consumed or skipped. -/
def takes (events : List TraceEvent) : Nat := (events.filterMap TraceEvent.taken?).length

@[simp] theorem work_append (events more : List TraceEvent) :
    work (events ++ more) = work events + work more :=
  List.countP_append

@[simp] theorem takes_append (events more : List TraceEvent) :
    takes (events ++ more) = takes events + takes more := by
  rw [takes, List.filterMap_append, List.length_append]
  rfl

/-- At each moment the work so far is paid for: by what may be done in advance, and by the
tokens taken so far. -/
def Paced (rate advance : Nat) (events : List TraceEvent) : Prop :=
  ∀ part, part <+: events → work part ≤ advance + rate * takes part

section

variable {rate advance other : Nat} {events more : List TraceEvent}

theorem paced_of_work_le (few : work events ≤ advance) : Paced rate advance events :=
  fun _ isPart => (isPart.sublist.countP_le.trans few).trans (Nat.le_add_right _ _)

theorem Paced.mono (paced : Paced rate advance events) (less : advance ≤ other) :
    Paced rate other events :=
  fun part isPart => (paced part isPart).trans (Nat.add_le_add_right less _)

/-- Later events are paid for by what the earlier ones left over. -/
theorem Paced.append (first : Paced rate advance events) (later : Paced rate other more)
    (paid : work events + other ≤ advance + rate * takes events) :
    Paced rate advance (events ++ more) := by
  rintro part ⟨behind, shape⟩
  rcases List.append_eq_append_iff.mp shape with ⟨rest, cut, _⟩ | ⟨rest, rfl, cut⟩
  · exact first part ⟨rest, cut.symm⟩
  · have bound := later rest ⟨behind, cut.symm⟩
    rw [work_append, takes_append, Nat.mul_add]
    omega

end

/-- The work that a call may do by the tokens that it took: `idle` without one, `busy` with
one, and `rate` more for each further one. -/
def charge (rate idle busy : Nat) : (taken : Nat) → Nat
  | 0 => idle
  | further + 1 => rate * further + busy

/-! ## Events between two states -/

/-- What was recorded between two states. Each token that was taken had been to come. -/
structure Recorded (events : List TraceEvent) (before after : Parser σ) : Prop where
  trace : after.trace.toList = before.trace.toList ++ events
  tokens : after.tokenBound + takes events ≤ before.tokenBound

section

variable {before middle after : Parser σ} {events more : List TraceEvent}

theorem Recorded.trans (first : Recorded events before middle)
    (later : Recorded more middle after) : Recorded (events ++ more) before after where
  trace := by rw [later.trace, first.trace, List.append_assoc]
  tokens := by
    have taken := first.tokens
    have further := later.tokens
    rw [takes_append]
    omega

/-- A course takes the tokens that are recorded. -/
theorem Recorded.takes_eq {vocabulary : Vocabulary} {items : List Taken}
    (recorded : Recorded events before after) (course : Course vocabulary before items after) :
    takes events = items.length := by
  have taken := course.taken
  rw [Parser.taken, recorded.trace, List.filterMap_append] at taken
  rw [takes, List.append_cancel_left taken]

/-- At most some work was done. -/
def Within (limit : Nat) (before after : Parser σ) : Prop :=
  ∃ events, Recorded events before after ∧ work events ≤ limit

/-- Some tokens were taken and at most some work was done, at a pace. -/
def Paid (rate advance limit taken : Nat) (before after : Parser σ) : Prop :=
  ∃ events, Recorded events before after ∧ Paced rate advance events ∧ work events ≤ limit ∧
    takes events = taken

/-- How a call ends that keeps to a pace. If it comes back with a value its work is paid for
by the tokens it took. -/
def Pays (rate advance : Nat) (bill : Nat → Nat) (before : Parser σ)
    (outcome : Except Halt α) (after : Parser σ) : Prop :=
  ∃ events, Recorded events before after ∧ Paced rate advance events ∧
    ∀ value, outcome = .ok value → work events ≤ bill (takes events)

theorem within_of_eq {limit : Nat} (trace : after.trace = before.trace)
    (tokens : after.tokenBound ≤ before.tokenBound) : Within limit before after :=
  ⟨[], ⟨by rw [trace, List.append_nil], tokens⟩, Nat.zero_le _⟩

theorem within_push {event : TraceEvent} {limit : Nat}
    (trace : after.trace = before.trace.push event)
    (tokens : after.tokenBound + takes [event] ≤ before.tokenBound)
    (few : work [event] ≤ limit) : Within limit before after :=
  ⟨[event], ⟨by rw [trace, Array.toList_push], tokens⟩, few⟩

/-- Steps that do no work leave the limit to those behind them. -/
theorem Within.trans {limit : Nat} (first : Within 0 before middle)
    (later : Within limit middle after) : Within limit before after := by
  obtain ⟨events, recorded, none⟩ := first
  obtain ⟨more, recordedMore, few⟩ := later
  refine ⟨events ++ more, recorded.trans recordedMore, ?_⟩
  rw [work_append]
  omega

theorem Within.mono {limit other : Nat} (within : Within limit before after)
    (less : limit ≤ other) : Within other before after := by
  obtain ⟨events, recorded, few⟩ := within
  exact ⟨events, recorded, few.trans less⟩

section

variable {vocabulary : Vocabulary} {items : List Taken} {rate advance limit taken : Nat}
  {bill : Nat → Nat}

theorem Within.paid (within : Within limit before after)
    (course : Course vocabulary before items after) (enough : limit ≤ advance) :
    Paid rate advance limit items.length before after := by
  obtain ⟨events, recorded, few⟩ := within
  exact ⟨events, recorded, paced_of_work_le (few.trans enough), few, recorded.takes_eq course⟩

theorem Within.pays {outcome : Except Halt α} (within : Within limit before after)
    (enough : limit ≤ advance) (few : ∀ taken, limit ≤ bill taken) :
    Pays rate advance bill before outcome after := by
  obtain ⟨events, recorded, bound⟩ := within
  exact ⟨events, recorded, paced_of_work_le (bound.trans enough),
    fun _ _ => bound.trans (few _)⟩

theorem Pays.paid {value : α} (pays : Pays rate advance bill before (.ok value) after)
    (course : Course vocabulary before items after) :
    Paid rate advance (bill items.length) items.length before after := by
  obtain ⟨events, recorded, paced, paid⟩ := pays
  have count := recorded.takes_eq course
  exact ⟨events, recorded, paced, count ▸ paid value rfl, count⟩

/-- A call that took nothing did no more than what it may do in advance. -/
theorem Pays.paid_nothing {outcome : Except Halt α}
    (pays : Pays rate advance bill before outcome after)
    (course : Course vocabulary before [] after) :
    Paid rate advance advance 0 before after := by
  obtain ⟨events, recorded, paced, _⟩ := pays
  have count : takes events = 0 := recorded.takes_eq course
  have few := paced events List.prefix_rfl
  rw [count] at few
  exact ⟨events, recorded, paced, few, count⟩

theorem Pays.error {halt : Halt} {other : Nat → Nat}
    (pays : Pays rate advance bill before (.error halt : Except Halt α) after) :
    Pays rate advance other before (.error halt : Except Halt β) after := by
  obtain ⟨events, recorded, paced, _⟩ := pays
  exact ⟨events, recorded, paced, nofun⟩

theorem Pays.mono {outcome : Except Halt α} {more : Nat} {other : Nat → Nat}
    (pays : Pays rate advance bill before outcome after) (enough : advance ≤ more)
    (cheaper : ∀ taken, bill taken ≤ other taken) :
    Pays rate more other before outcome after := by
  obtain ⟨events, recorded, paced, paid⟩ := pays
  exact ⟨events, recorded, paced.mono enough, fun value same =>
    (paid value same).trans (cheaper _)⟩

theorem Paid.trans {other limit' taken' : Nat}
    (first : Paid rate advance limit taken before middle)
    (later : Paid rate other limit' taken' middle after)
    (left : limit + other ≤ advance + rate * taken) :
    Paid rate advance (limit + limit') (taken + taken') before after := by
  obtain ⟨events, recorded, paced, few, count⟩ := first
  obtain ⟨more, recordedMore, pacedMore, fewMore, countMore⟩ := later
  refine ⟨events ++ more, recorded.trans recordedMore, paced.append pacedMore ?_, ?_, ?_⟩
  · rw [count]
    omega
  · rw [work_append]
    exact Nat.add_le_add few fewMore
  · rw [takes_append, count, countMore]

/-- The token that is skipped behind a call that took none. -/
theorem Paid.skip {item : Taken} (paid : Paid rate advance limit 0 before middle)
    (within : Within 0 middle after) (course : Course vocabulary middle [item] after)
    (enough : limit ≤ advance) :
    Paid rate advance (rate * 0 + limit) (0 + 1) before after := by
  have skipped : Paid rate 0 0 1 middle after := within.paid course (Nat.le_refl 0)
  have both := paid.trans skipped (by omega)
  rwa [Nat.add_comm limit 0] at both

theorem Paid.mono {more : Nat} (paid : Paid rate advance limit taken before after)
    (enough : advance ≤ more) : Paid rate more limit taken before after := by
  obtain ⟨events, recorded, paced, few, count⟩ := paid
  exact ⟨events, recorded, paced.mono enough, few, count⟩

/-- A call behind other work. -/
theorem Pays.behind {outcome : Except Halt α} {other : Nat} {later : Nat → Nat}
    (paid : Paid rate advance limit taken before middle)
    (pays : Pays rate other later middle outcome after)
    (left : limit + other ≤ advance + rate * taken)
    (enough : ∀ more, limit + later more ≤ bill (taken + more)) :
    Pays rate advance bill before outcome after := by
  obtain ⟨events, recorded, paced, few, count⟩ := paid
  obtain ⟨more, recordedMore, pacedMore, paidMore⟩ := pays
  refine ⟨events ++ more, recorded.trans recordedMore, paced.append pacedMore ?_,
    fun value same => ?_⟩
  · rw [count]
    omega
  · have bound := paidMore value same
    have room := enough (takes more)
    rw [work_append, takes_append, count]
    omega

variable {idle busy idleLater busyLater other : Nat} {outcome : Except Halt α}

theorem Pays.paid_idle {value : α}
    (pays : Pays rate advance (charge rate idle busy) before (.ok value) after)
    (course : Course vocabulary before [] after) : Paid rate advance idle 0 before after :=
  pays.paid course

theorem Pays.paid_busy {value : α} {item : Taken}
    (pays : Pays rate advance (charge rate idle busy) before (.ok value) after)
    (course : Course vocabulary before (item :: items) after) :
    Paid rate advance (rate * items.length + busy) (items.length + 1) before after :=
  pays.paid course

/-- A call behind work that took no token. -/
theorem Pays.behind_idle (paid : Paid rate advance limit 0 before middle)
    (pays : Pays rate other (charge rate idleLater busyLater) middle outcome after)
    (left : limit + other ≤ advance) (idles : limit + idleLater ≤ idle)
    (works : limit + busyLater ≤ busy) :
    Pays rate advance (charge rate idle busy) before outcome after := by
  refine Pays.behind paid pays left fun more => ?_
  rw [Nat.zero_add]
  cases more with
  | zero => exact idles
  | succ further =>
      simp only [charge]
      omega

/-- A call behind work that took some tokens. -/
theorem Pays.behind_busy {cost : Nat}
    (paid : Paid rate advance (rate * taken + cost) (taken + 1) before middle)
    (pays : Pays rate other (charge rate idleLater busyLater) middle outcome after)
    (left : cost + other ≤ advance + rate) (idles : cost + idleLater ≤ busy)
    (works : cost + busyLater ≤ rate + busy) :
    Pays rate advance (charge rate idle busy) before outcome after := by
  refine Pays.behind paid pays ?_ fun more => ?_
  · rw [Nat.mul_succ]
    omega
  · cases more with
    | zero =>
        simp only [charge]
        omega
    | succ further =>
        rw [show taken + 1 + (further + 1) = (taken + 1 + further) + 1 from rfl]
        simp only [charge, Nat.mul_add, Nat.mul_one]
        omega

theorem le_charge {amount : Nat} (idles : amount ≤ idle) (works : amount ≤ busy) (taken : Nat) :
    amount ≤ charge rate idle busy taken := by
  cases taken with
  | zero => exact idles
  | succ further => exact works.trans (Nat.le_add_left _ _)

theorem charge_mono {idle' busy' : Nat} (idles : idle ≤ idle') (works : busy ≤ busy')
    (taken : Nat) : charge rate idle busy taken ≤ charge rate idle' busy' taken := by
  cases taken with
  | zero => exact idles
  | succ further => exact Nat.add_le_add_left works _

/-- Behind a call nothing more is done that counts. -/
theorem Pays.ahead {last : Except Halt β} (pays : Pays rate advance bill before outcome middle)
    (within : Within 0 middle after) (course : Course vocabulary middle [] after)
    (returns : ∀ value, last = .ok value → ∃ earlier, outcome = .ok earlier) :
    Pays rate advance bill before last after := by
  obtain ⟨events, recorded, paced, paid⟩ := pays
  obtain ⟨more, recordedMore, few⟩ := within
  have count : takes more = 0 := recordedMore.takes_eq course
  have none : work more = 0 := Nat.le_zero.mp few
  refine ⟨events ++ more, recorded.trans recordedMore,
    paced.append (paced_of_work_le (Nat.le_of_eq none)) ?_, fun value same => ?_⟩
  · exact paced events List.prefix_rfl
  · obtain ⟨earlier, same⟩ := returns value same
    rw [work_append, takes_append, count, none]
    exact paid earlier same

end

end

/-! ## The work of single steps -/

/-- A step does at most some work, wherever it starts from and however it ends. -/
def Light (limit : Nat) (step : Parse σ α) : Prop :=
  ∀ before, Ensures step before fun _ after => Within limit before after

section

variable {setting : Setting σ} {before after : Parser σ}

theorem Light.bind {limit : Nat} {step : Parse σ α} {next : α → Parse σ β}
    (first : Light 0 step) (more : ∀ value, Light limit (next value)) :
    Light limit (step >>= next) := by
  intro before
  apply (first before).bind
  · intro value middle within
    apply (more value middle).mono
    intro _ after later
    exact within.trans later
  · intro halt after within
    exact within.mono (Nat.zero_le limit)

theorem light_pure {limit : Nat} (value : α) : Light limit (pure value : Parse σ α) :=
  fun _ => within_of_eq rfl (Nat.le_refl _)

theorem light_throw (halt : Halt) : Light 0 (throw halt : Parse σ α) :=
  fun _ => within_of_eq rfl (Nat.le_refl _)

theorem light_get : Light 0 (get : Parse σ (Parser σ)) :=
  fun _ => within_of_eq rfl (Nat.le_refl _)

theorem light_modify {change : Parser σ → Parser σ}
    (kept : ∀ parser, (change parser).trace = parser.trace ∧
      (change parser).tokenBound = parser.tokenBound) : Light 0 (modify change : Parse σ PUnit) :=
  fun before => within_of_eq (kept before).1 (Nat.le_of_eq (kept before).2)

theorem within_note (diagnostic : Diagnostic) (recovery : Nat) :
    Within 0 before { before.note diagnostic with recovery } :=
  within_push rfl (Nat.le_refl _) (Nat.le_refl _)

theorem light_report (diagnostic : Diagnostic) (recovering : Bool) :
    Light 0 (report setting diagnostic recovering) := by
  intro before
  unfold report
  simp only [ensures_bind, ensures_modify]
  have ends : ∀ middle, Within 0 before middle →
      Ensures (do
        let parser ← get
        if !diagnostic.isRecoverable || parser.isLogFull setting.limits then throw .abort
        else pure () : Parse σ Unit) middle fun _ after => Within 0 before after := by
    intro middle within
    simp only [ensures_bind, ensures_get]
    split <;> exact within
  split
  · exact ends _ (within_note diagnostic _)
  · exact ends _ (within_note diagnostic before.recovery)

theorem light_fail (fault : Fault) : Light 0 (fail fault : Parse σ α) :=
  fun before => within_note _ before.recovery

/-! ### Tokens -/

theorem light_fetch (index fuel : Nat) : Light 0 (fetch setting index fuel) := by
  induction fuel with
  | zero => exact light_throw _
  | succ fuel ih =>
      intro before
      unfold fetch
      simp only [ensures_bind, ensures_get]
      split
      · exact within_of_eq rfl (Nat.le_refl _)
      · obtain ⟨goes, gave⟩ := Scanner.gave_next setting.grammar.vocabulary before.scanner
        cases given : before.scanner.next setting.grammar.vocabulary with
        | mk scanner answer =>
            rw [given] at goes gave
            match answer with
            | .ok (some token) =>
                simp only [ensures_bind, ensures_set]
                have fewer : scanner.cursor.remaining < before.scanner.cursor.remaining := gave
                have moved : Within 0 before
                    { before with scanner, buffer := before.buffer ++ [token] } := by
                  refine within_of_eq rfl ?_
                  simp only [tokenBound, List.length_append, List.length_singleton]
                  omega
                exact (ih _).mono fun _ after within => moved.trans within
            | .ok none =>
                simp only [ensures_bind, ensures_set]
                have moved : Within 0 before { before with scanner, exhausted := true } :=
                  within_of_eq rfl (Nat.add_le_add_right goes.remaining _)
                exact (ih _).mono fun _ after within => moved.trans within
            | .error diagnostic =>
                simp only [ensures_bind, ensures_set]
                have moved : Within 0 before { before with scanner } :=
                  within_of_eq rfl (Nat.add_le_add_right goes.remaining _)
                apply (light_report diagnostic true _).mono
                intro outcome middle reported
                cases outcome with
                | ok _ => exact (ih middle).mono fun _ after within =>
                    (moved.trans reported).trans within
                | error halt => exact moved.trans reported

theorem light_peek (index : Nat) : Light 0 (peek setting index) :=
  light_get.bind fun _ => (light_fetch index _).bind fun _ => light_get.bind fun _ => light_pure _

theorem light_lookAhead (depth index : Nat) : Light 0 (lookAhead setting depth index) := by
  induction depth generalizing index with
  | zero => exact light_pure _
  | succ depth ih =>
      unfold lookAhead
      refine (light_peek index).bind fun found => ?_
      cases found with
      | none => exact light_pure _
      | some token => exact (ih _).bind fun _ => light_pure _

theorem light_spend : Light 0 (spend setting) := by
  unfold spend
  refine light_get.bind fun parser => ?_
  dsimp only
  split
  · exact (light_fail _).bind fun _ => light_modify fun _ => ⟨rfl, rfl⟩
  · exact light_modify fun _ => ⟨rfl, rfl⟩

/-- A token that is taken had been to come. -/
theorem within_take {token : Token} {rest : List Token} {item : Taken} {event : TraceEvent}
    {recovery : Nat} (buffered : before.buffer = token :: rest) (taken : event.taken? = some item) :
    Within 0 before
      { before with buffer := rest, recovery, trace := before.trace.push event } := by
  refine within_push rfl ?_ ?_
  · simp [takes, taken, tokenBound, buffered, Nat.add_assoc]
  · cases event <;> first | exact Nat.le_refl 0 | cases taken

theorem light_consume : Light 0 (consume setting) := by
  intro before
  unfold consume
  apply (light_spend before).bind
  · intro _ middle within
    simp only [ensures_bind, ensures_get]
    cases buffered : middle.buffer with
    | nil => exact (light_fail _ middle).mono fun _ _ failed => within.trans failed
    | cons token rest =>
        simp only [ensures_bind, ensures_modify, ensures_record, ensures_pure]
        exact within.trans (within_take buffered rfl)
  · intro _ _ within
    exact within

theorem light_skip : Light 0 (skip setting) := by
  intro before
  unfold skip
  apply ((light_peek 0 before).and (ensures_peek 0)).bind
  · rintro found middle ⟨within, _, buffered⟩
    cases found with
    | none => exact within
    | some token =>
        obtain ⟨rest, shape⟩ := exists_cons_of_getElem?_zero (buffered _ rfl).1
        apply ((light_spend middle).and ensures_spend).bind
        · rintro _ spent ⟨counted, ⟨_, quiet⟩ | ⟨never, _⟩⟩
          · have still : spent.buffer = token :: rest := quiet.buffer.trans shape
            simp only [ensures_bind, ensures_modify, ensures_record, ensures_pure, still,
              List.tail_cons]
            exact (within.trans counted).trans (within_take still rfl)
          · cases never
        · rintro _ spent ⟨counted, _⟩
          exact within.trans counted
  · rintro _ _ ⟨within, _⟩
    exact within

theorem light_recover (diagnostic : Diagnostic) : Light 0 (recover setting diagnostic) := by
  refine (light_report diagnostic true).bind fun _ => light_skip.bind fun skipped => ?_
  cases skipped with
  | true => exact light_pure _
  | false => exact light_throw _

/-! ### The listener -/

theorem light_tell (call : σ → σ × Except Diagnostic α) (otherwise : α) :
    Light 0 (tell setting call otherwise) := by
  unfold tell
  refine light_get.bind fun parser => ?_
  obtain ⟨listener, answer⟩ := call parser.listener
  dsimp only
  refine Light.bind (light_modify ?_) fun _ => ?_
  · exact fun _ => ⟨rfl, rfl⟩
  cases answer with
  | ok value => exact light_pure _
  | error refusal => exact (light_report refusal false).bind fun _ => light_pure _

theorem light_enter (node : Node) : Light 0 (enter setting node) := light_tell _ _

theorem light_exit (node : Node) : Light 0 (exit setting node) := light_tell _ _

theorem light_attach (parent : Branch) (kept : Option Node) :
    Light 0 (attach setting parent kept) := by
  cases kept with
  | none => exact light_pure _
  | some node =>
      unfold attach
      refine light_get.bind fun parser => ?_
      obtain ⟨listener, parent, answer⟩ := setting.listener.child parent node parser.listener
      dsimp only
      refine Light.bind (light_modify ?_) fun _ => ?_
      · exact fun _ => ⟨rfl, rfl⟩
      cases answer with
      | ok value => exact light_pure _
      | error refusal => exact (light_report refusal false).bind fun _ => light_pure _

theorem light_token (id : TokenId) (parent : Branch) : Light 0 (token setting id parent) := by
  unfold token
  refine (light_peek 0).bind fun found => ?_
  cases found with
  | none => exact light_get.bind fun _ => light_throw _
  | some next =>
      dsimp only
      split
      · exact light_get.bind fun _ _ => within_of_eq rfl (Nat.le_refl _)
      · refine light_consume.bind fun taken => (light_enter _).bind fun _ => ?_
        exact (light_exit _).bind fun kept => light_attach parent kept

/-! ### Decisions -/

theorem light_choose (rule : ResolvedRule) : Light 0 (choose setting rule) := by
  unfold choose
  cases rule.decision with
  | none => exact light_pure _
  | some decision =>
      refine (light_lookAhead decision.depth 0).bind fun input => ?_
      cases decision.select input with
      | none => exact light_get.bind fun _ => light_throw _
      | some index => exact light_pure _

/-- A loop is tested at most once for each copy. -/
theorem light_recordLoop (symbol : Symbol) (count : Nat) (again : Bool) :
    Light 1 (recordLoop symbol count again : Parse σ Bool) := by
  cases symbol with
  | token id => exact light_pure again
  | rule id => exact fun before => within_push rfl (Nat.le_refl _) (Nat.le_refl _)

theorem light_wantsMore (element : ResolvedElement) (count : Nat) :
    Light 1 (wantsMore setting element count) := by
  have recorded := @light_recordLoop σ element.symbol count
  unfold wantsMore
  split
  · exact light_pure false
  · split
    · exact light_pure true
    · cases element.decision with
      | none => exact recorded false
      | some decision => exact (light_lookAhead decision.depth 0).bind fun _ => recorded _

/-- A production that is entered adds to the work inside it. -/
theorem ensures_inside_pays {rule : RuleId} {step : Parse σ α} {rate advance idle busy : Nat}
    (inner : ∀ middle, Ensures step middle (Pays rate advance (charge rate idle busy) middle)) :
    Ensures (inside setting rule step) before
      (Pays rate (advance + 1) (charge rate (idle + 1) (busy + 1)) before) := by
  unfold inside
  simp only [ensures_bind, ensures_get]
  split
  · simp only [ensures_bind]
    apply ((light_fail _ before).and ensures_fail).mono
    rintro _ after ⟨within, rfl, _⟩
    exact within.pays (Nat.zero_le _) fun _ => Nat.zero_le _
  · simp only [ensures_bind, ensures_modify, ensures_record, ensures_attempt]
    have entered : Quiet before { before with
        depth := before.depth + 1, trace := before.trace.push (.enter rule) } :=
      ⟨⟨rfl, rfl, rfl, by simp [taken, TraceEvent.taken?]⟩, rfl, rfl⟩
    have course : Course setting.grammar.vocabulary before [] { before with
        depth := before.depth + 1, trace := before.trace.push (.enter rule) } := entered.course
    have counted : Within 1 before { before with
        depth := before.depth + 1, trace := before.trace.push (.enter rule) } :=
      within_push rfl (Nat.le_refl _) (Nat.le_refl _)
    apply (inner _).mono
    intro outcome last pays
    have left : Within 0 last { last with
        trace := last.trace.push (.exit rule), depth := last.depth - 1 } :=
      within_push rfl (Nat.le_refl _) (Nat.le_refl _)
    have still : Course setting.grammar.vocabulary last [] { last with
        trace := last.trace.push (.exit rule), depth := last.depth - 1 } :=
      Quiet.course ⟨⟨rfl, rfl, rfl, by simp [taken, TraceEvent.taken?]⟩, rfl, rfl⟩
    have started : Paid rate (advance + 1) 1 0 before { before with
        depth := before.depth + 1, trace := before.trace.push (.enter rule) } :=
      counted.paid course (Nat.le_add_left _ _)
    have whole := Pays.behind_idle started pays (Nat.le_of_eq (Nat.add_comm _ _))
      (Nat.le_of_eq (Nat.add_comm _ _)) (Nat.le_of_eq (Nat.add_comm _ _))
    have ended := whole.ahead left still fun value same => ⟨value, same⟩
    cases outcome with
    | ok value => exact ended
    | error halt => exact ended

end

end Parser

end StrongLL
