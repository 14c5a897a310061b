import StrongLL.Parser.State
import StrongLL.Proofs.LookAhead.Follow
import StrongLL.Proofs.Scanner

/-!
# Steps of a parser

A step takes tokens off those that are still to come, by consuming or skipping them, and
may log errors. Tokens are skipped and lexical errors are passed over only where
something is logged, so as long as the log is empty nothing is lost.
-/

namespace StrongLL

namespace Parser

variable {σ α β : Type}

/-! ## Outcomes -/

/-- From a state a step comes to an outcome and a state that fulfil a condition. -/
def Ensures (step : Parse σ α) (before : Parser σ) (post : Except Halt α → Parser σ → Prop) :
    Prop :=
  post (step.run.run before).1 (step.run.run before).2

section

variable {before : Parser σ} {step : Parse σ α}

theorem ensures_pure {value : α} {post : Except Halt α → Parser σ → Prop} :
    Ensures (pure value) before post ↔ post (.ok value) before := Iff.rfl

theorem ensures_throw {halt : Halt} {post : Except Halt α → Parser σ → Prop} :
    Ensures (throw halt : Parse σ α) before post ↔ post (.error halt) before := Iff.rfl

theorem ensures_get {post : Except Halt (Parser σ) → Parser σ → Prop} :
    Ensures get before post ↔ post (.ok before) before := Iff.rfl

theorem ensures_set {next : Parser σ} {post : Except Halt PUnit → Parser σ → Prop} :
    Ensures (set next) before post ↔ post (.ok ()) next := Iff.rfl

theorem ensures_modify {change : Parser σ → Parser σ}
    {post : Except Halt PUnit → Parser σ → Prop} :
    Ensures (modify change) before post ↔ post (.ok ()) (change before) := Iff.rfl

theorem ensures_record {event : TraceEvent} {post : Except Halt Unit → Parser σ → Prop} :
    Ensures (record event) before post ↔
      post (.ok ()) { before with trace := before.trace.push event } := Iff.rfl

/-- A step goes on from where the one before it ended, unless that halted. -/
theorem bind_run {next : α → Parse σ β} :
    (step >>= next).run.run before =
      match step.run.run before with
      | (.ok value, middle) => (next value).run.run middle
      | (.error halt, middle) => (.error halt, middle) := by
  rw [ExceptT.run_bind, StateT.run_bind]
  generalize (step.run.run before : Except Halt α × Parser σ) = result
  obtain ⟨outcome, after⟩ := result
  cases outcome with
  | ok value => rfl
  | error halt => rfl

theorem ensures_bind {next : α → Parse σ β} {post : Except Halt β → Parser σ → Prop} :
    Ensures (step >>= next) before post ↔ Ensures step before fun outcome after =>
      match outcome with
      | .ok value => Ensures (next value) after post
      | .error halt => post (.error halt) after := by
  unfold Ensures
  rw [bind_run]
  generalize (step.run.run before : Except Halt α × Parser σ) = result
  obtain ⟨outcome, after⟩ := result
  cases outcome <;> rfl

theorem Ensures.mono {post post' : Except Halt α → Parser σ → Prop}
    (ensures : Ensures step before post)
    (weaken : ∀ outcome after, post outcome after → post' outcome after) :
    Ensures step before post' :=
  weaken _ _ ensures

theorem Ensures.and {post post' : Except Halt α → Parser σ → Prop}
    (left : Ensures step before post) (right : Ensures step before post') :
    Ensures step before fun outcome after => post outcome after ∧ post' outcome after :=
  ⟨left, right⟩

/-- A step behind one whose outcomes are known. -/
theorem Ensures.bind {next : α → Parse σ β} {middle : Except Halt α → Parser σ → Prop}
    {post : Except Halt β → Parser σ → Prop} (first : Ensures step before middle)
    (ok : ∀ value after, middle (.ok value) after → Ensures (next value) after post)
    (error : ∀ halt after, middle (.error halt) after → post (.error halt) after) :
    Ensures (step >>= next) before post := by
  rw [ensures_bind]
  apply first.mono
  intro outcome after reached
  cases outcome with
  | ok value => exact ok value after reached
  | error halt => exact error halt after reached

end

end Parser

/-! ## Tokens that are taken -/

/-- What becomes of a token. -/
inductive Taken where
  | consumed (token : Token)
  | skipped (token : Token)
  deriving DecidableEq, Repr

namespace Taken

def token : Taken → Token
  | .consumed token => token
  | .skipped token => token

def consumed? : Taken → Option Token
  | .consumed token => some token
  | .skipped _ => none

def isSkipped : Taken → Bool
  | .consumed _ => false
  | .skipped _ => true

/-- Where nothing is skipped everything is consumed. -/
theorem consumed_of_not_skipped {items : List Taken}
    (kept : ∀ token, .skipped token ∉ items) :
    items.filterMap consumed? = items.map token := by
  induction items with
  | nil => rfl
  | cons item rest ih =>
      have others := ih fun token member => kept token (List.mem_cons_of_mem _ member)
      cases item with
      | consumed token => simp [consumed?, Taken.token, others]
      | skipped token => exact absurd (List.mem_cons_self ..) (kept token)

end Taken

/-- What an event does to a token. -/
def TraceEvent.taken? : TraceEvent → Option Taken
  | .consume token => some (.consumed token)
  | .skip token => some (.skipped token)
  | _ => none

namespace Parser

variable {σ α β : Type}

/-- The tokens that were consumed or skipped, in order. -/
def taken (parser : Parser σ) : List Taken :=
  parser.trace.toList.filterMap TraceEvent.taken?

/-- The tokens that were consumed, in order. -/
def consumed (parser : Parser σ) : List Token := parser.taken.filterMap Taken.consumed?

/-- The tokens that are still to be taken. -/
def upcoming (vocabulary : Vocabulary) (parser : Parser σ) : List Token :=
  parser.buffer ++ if parser.exhausted then [] else parser.scanner.delivered vocabulary

/-- The lexical errors that are still to come. -/
def faults (vocabulary : Vocabulary) (parser : Parser σ) : List Diagnostic :=
  if parser.exhausted then [] else parser.scanner.faults vocabulary

/-- Errors are kept back only behind one that is logged. -/
def Warned (parser : Parser σ) : Prop := 0 < parser.recovery → parser.log ≠ []

/-- From one state to another a parser takes some tokens. As long as nothing is logged it
passes over no error and skips no token. -/
structure Course (vocabulary : Vocabulary) (before : Parser σ) (items : List Taken)
    (after : Parser σ) : Prop where
  taken : after.taken = before.taken ++ items
  upcoming : before.upcoming vocabulary = items.map (·.token) ++ after.upcoming vocabulary
  faults : after.faults vocabulary <:+ before.faults vocabulary
  log : before.log <+: after.log
  warned : before.Warned → after.Warned
  clean : before.Warned → after.log = [] →
    after.faults vocabulary = before.faults vocabulary ∧ ∀ token, .skipped token ∉ items

section

variable {vocabulary : Vocabulary}

theorem Course.refl (parser : Parser σ) : Course vocabulary parser [] parser :=
  ⟨by simp, by simp, List.suffix_refl _, List.prefix_refl _, id, fun _ _ => ⟨rfl, by simp⟩⟩

theorem Course.log_eq_nil {before after : Parser σ} {items : List Taken}
    (course : Course vocabulary before items after) (empty : after.log = []) :
    before.log = [] :=
  List.prefix_nil.mp (empty ▸ course.log)

theorem Course.trans {first second third : Parser σ} {items others : List Taken}
    (left : Course vocabulary first items second)
    (right : Course vocabulary second others third) :
    Course vocabulary first (items ++ others) third where
  taken := by rw [right.taken, left.taken, List.append_assoc]
  upcoming := by rw [left.upcoming, right.upcoming, List.map_append, List.append_assoc]
  faults := right.faults.trans left.faults
  log := left.log.trans right.log
  warned := right.warned ∘ left.warned
  clean := by
    intro warned empty
    obtain ⟨faults, kept⟩ := left.clean warned (right.log_eq_nil empty)
    obtain ⟨laterFaults, laterKept⟩ := right.clean (left.warned warned) empty
    refine ⟨laterFaults.trans faults, fun token member => ?_⟩
    rcases List.mem_append.mp member with member | member
    · exact kept token member
    · exact laterKept token member

theorem Course.upcoming_eq {before after : Parser σ} (course : Course vocabulary before [] after) :
    after.upcoming vocabulary = before.upcoming vocabulary := by
  rw [course.upcoming, List.map_nil, List.nil_append]

/-- No more tokens are to come than before. -/
theorem Course.length_upcoming {before after : Parser σ} {items : List Taken}
    (course : Course vocabulary before items after) :
    (before.upcoming vocabulary).length = items.length + (after.upcoming vocabulary).length := by
  rw [course.upcoming, List.length_append, List.length_map]

end

/-! ## Steps that take nothing -/

/-- The tokens, and what they are read from, are the same. -/
structure SameTokens (before after : Parser σ) : Prop where
  scanner : after.scanner = before.scanner
  buffer : after.buffer = before.buffer
  exhausted : after.exhausted = before.exhausted
  taken : after.taken = before.taken

/-- Nothing happened to tokens and errors. -/
structure Quiet (before after : Parser σ) : Prop extends SameTokens before after where
  log : after.log = before.log
  recovery : after.recovery = before.recovery

/-- An error was reported; it is logged, or one before it is. -/
structure Reported (before after : Parser σ) : Prop extends SameTokens before after where
  log : before.log <+: after.log
  logged : before.Warned → after.log ≠ []

section

variable {vocabulary : Vocabulary} {before middle after : Parser σ}

theorem SameTokens.upcoming (same : SameTokens before after) :
    after.upcoming vocabulary = before.upcoming vocabulary := by
  simp only [Parser.upcoming, same.buffer, same.exhausted, same.scanner]

theorem SameTokens.faults (same : SameTokens before after) :
    after.faults vocabulary = before.faults vocabulary := by
  simp only [Parser.faults, same.exhausted, same.scanner]

theorem Quiet.course (quiet : Quiet before after) : Course vocabulary before [] after where
  taken := by rw [quiet.taken, List.append_nil]
  upcoming := by rw [quiet.upcoming, List.map_nil, List.nil_append]
  faults := quiet.faults ▸ List.suffix_refl _
  log := quiet.log ▸ List.prefix_refl _
  warned := by
    intro warned
    rw [Warned, quiet.log, quiet.recovery]
    exact warned
  clean := fun _ _ => ⟨quiet.faults, by simp⟩

theorem Reported.course (reported : Reported before after) :
    Course vocabulary before [] after where
  taken := by rw [reported.taken, List.append_nil]
  upcoming := by rw [reported.upcoming, List.map_nil, List.nil_append]
  faults := reported.faults ▸ List.suffix_refl _
  log := reported.log
  warned := fun warned _ => reported.logged warned
  clean := fun warned empty => absurd empty (reported.logged warned)

/-- A step that takes no token. It may halt, having logged an error, but not where it is
`sure`. -/
structure Rests (vocabulary : Vocabulary) (sure : Prop) (value : α) (before : Parser σ)
    (outcome : Except Halt α) (after : Parser σ) : Prop where
  course : Course vocabulary before [] after
  halts : ∀ halt, outcome = .error halt → halt = .abort ∧ (before.Warned → after.log ≠ [])
  answers : sure → outcome = .ok value ∧ after.log = before.log

theorem Rests.of_quiet {sure : Prop} {value : α} (quiet : Quiet before after) :
    Rests vocabulary sure value before (.ok value) after :=
  ⟨quiet.course, by simp, fun _ => ⟨rfl, quiet.log⟩⟩

theorem Rests.halt {sure : Prop} {value : α} {other : β} {halt : Halt}
    (rests : Rests vocabulary sure value before (.error halt) after) :
    Rests vocabulary sure other before (.error halt) after :=
  ⟨rests.course, fun _ same => Except.error.inj same ▸ rests.halts halt rfl,
    fun holds => nomatch (rests.answers holds).1⟩

/-- Steps without tokens in a row take no token. -/
theorem Rests.behind {sure certain : Prop} {value : α} {outcome : Except Halt α}
    (course : Course vocabulary before [] middle)
    (unlogged : sure → middle.log = before.log ∧ certain)
    (rests : Rests vocabulary certain value middle outcome after) :
    Rests vocabulary sure value before outcome after where
  course := course.trans rests.course
  halts := fun halt same =>
    ⟨(rests.halts halt same).1, fun warned => (rests.halts halt same).2 (course.warned warned)⟩
  answers := by
    intro holds
    obtain ⟨log, holds⟩ := unlogged holds
    obtain ⟨answer, later⟩ := rests.answers holds
    exact ⟨answer, later.trans log⟩

end

/-! ## Reporting -/

section

variable {vocabulary : Vocabulary} {setting : Setting σ} {before : Parser σ}

theorem quiet_record (event : TraceEvent) (silent : event.taken? = none) :
    Quiet before { before with trace := before.trace.push event } :=
  ⟨⟨rfl, rfl, rfl, by simp [taken, silent]⟩, rfl, rfl⟩

theorem reported_note (diagnostic : Diagnostic) (recovery : Nat) :
    Reported before { before.note diagnostic with recovery } := by
  refine ⟨⟨rfl, rfl, rfl, by simp [taken, note, TraceEvent.taken?]⟩, ?_, fun warned => ?_⟩
  · simp only [note]
    split
    · exact List.prefix_refl _
    · exact List.prefix_append _ _
  · simp only [note]
    split
    · rename_i suppressed
      simp only [Bool.and_eq_true, decide_eq_true_eq] at suppressed
      exact warned suppressed.1
    · simp

theorem ensures_report (diagnostic : Diagnostic) (recovering : Bool) :
    Ensures (report setting diagnostic recovering) before fun outcome after =>
      (outcome = .ok () ∨ outcome = .error .abort) ∧ Reported before after := by
  unfold report
  simp only [ensures_bind, ensures_modify]
  have ends : ∀ middle, Reported before middle →
      Ensures (do
        let parser ← get
        if !diagnostic.isRecoverable || parser.isLogFull setting.limits then throw .abort
        else pure () : Parse σ Unit) middle fun outcome after =>
          (outcome = .ok () ∨ outcome = .error .abort) ∧ Reported before after := by
    intro middle reported
    simp only [ensures_bind, ensures_get]
    split
    · exact ⟨.inr rfl, reported⟩
    · exact ⟨.inl rfl, reported⟩
  split
  · exact ends _ (reported_note diagnostic _)
  · exact ends _ (reported_note diagnostic before.recovery)

theorem ensures_fail {fault : Fault} : Ensures (fail fault : Parse σ α) before
    fun outcome after => outcome = .error .abort ∧ Reported before after :=
  ⟨rfl, reported_note _ before.recovery⟩

/-! ## Looking ahead -/

/-- The calls that fetching tokens needs. -/
def fetchBound (parser : Parser σ) : Nat :=
  if parser.exhausted then 1 else parser.scanner.left + 2

theorem fetchBound_scanning (more : before.exhausted = false) :
    before.fetchBound = before.scanner.left + 2 :=
  if_neg (by simp [more])

theorem fetchBound_le {fuel : Nat} (more : before.exhausted = false)
    (enough : before.scanner.left + 2 ≤ fuel) : before.fetchBound ≤ fuel := by
  rw [fetchBound_scanning more]
  exact enough

/-- A token that is scanned goes to the buffer. -/
theorem course_scanned {scanner : Scanner} {token : Token} (more : before.exhausted = false)
    (given : before.scanner.next vocabulary = (scanner, .ok (some token))) :
    Course vocabulary before [] { before with scanner, buffer := before.buffer ++ [token] } ∧
      faults vocabulary { before with scanner, buffer := before.buffer ++ [token] } =
        before.faults vocabulary := by
  have same : faults vocabulary { before with scanner, buffer := before.buffer ++ [token] } =
      before.faults vocabulary := by
    simp [faults, more, Scanner.faults, Scanner.outputs_token given]
  refine ⟨⟨by simp [taken], ?_, same ▸ List.suffix_refl _, List.prefix_refl _, id,
    fun _ _ => ⟨same, by simp⟩⟩, same⟩
  simp [upcoming, more, Scanner.delivered, Scanner.outputs_token given, Except.toOption]

theorem course_ended {scanner : Scanner}
    (given : before.scanner.next vocabulary = (scanner, .ok none)) :
    Course vocabulary before [] { before with scanner, exhausted := true } ∧
      before.faults vocabulary = [] := by
  have none : before.faults vocabulary = [] := by
    simp [faults, Scanner.faults, Scanner.outputs_end given]
  have none' : faults vocabulary { before with scanner, exhausted := true } = [] := by
    simp [faults]
  refine ⟨⟨by simp [taken], ?_, none' ▸ List.nil_suffix, List.prefix_refl _, id,
    fun _ _ => ⟨none'.trans none.symm, by simp⟩⟩, none⟩
  simp [upcoming, Scanner.delivered, Scanner.outputs_end given]

/-- An error that is passed over is reported. -/
theorem course_faulty {scanner : Scanner} {diagnostic : Diagnostic} {after : Parser σ}
    (given : before.scanner.next vocabulary = (scanner, .error diagnostic))
    (reported : Reported { before with scanner } after) : Course vocabulary before [] after := by
  have course : Course vocabulary { before with scanner } [] after := reported.course
  refine ⟨course.taken, ?_, course.faults.trans ?_, reported.log, course.warned,
    fun warned empty => absurd empty (reported.logged warned)⟩
  · rw [← course.upcoming]
    simp only [upcoming, Scanner.delivered, Scanner.outputs_error given, List.filterMap_cons,
      Except.toOption]
  · simp only [faults, Scanner.faults, Scanner.outputs_error given, List.filterMap_cons]
    split
    · exact List.suffix_refl _
    · exact List.suffix_cons _ _

/-- Fetching tokens buffers as many as are asked for, or all. Where no lexical errors are
to come, nothing can go wrong. -/
theorem ensures_fetch (index : Nat) {fuel : Nat} (enough : before.fetchBound ≤ fuel) :
    Ensures (fetch setting index fuel) before fun outcome after =>
      Rests setting.grammar.vocabulary (before.faults setting.grammar.vocabulary = []) ()
          before outcome after ∧
        (outcome = .ok () → index < after.buffer.length ∨ after.exhausted = true) := by
  induction fuel generalizing before with
  | zero =>
      unfold fetchBound at enough
      split at enough <;> omega
  | succ fuel ih =>
      unfold fetch
      simp only [ensures_bind, ensures_get]
      split
      · rename_i there
        simp only [Bool.or_eq_true, decide_eq_true_eq] at there
        exact ⟨⟨.refl before, by simp, fun _ => ⟨rfl, rfl⟩⟩, fun _ => there⟩
      · rename_i missing
        simp only [Bool.or_eq_true, decide_eq_true_eq, not_or, Bool.not_eq_true] at missing
        obtain ⟨_, more⟩ := missing
        rw [fetchBound_scanning more] at enough
        cases given : before.scanner.next setting.grammar.vocabulary with
        | mk scanner answer =>
            match answer with
            | .ok (some token) =>
                simp only [ensures_bind, ensures_set]
                have fewer := Scanner.left_lt_of_token given
                obtain ⟨course, same⟩ := course_scanned more given
                have spare : fetchBound { before with
                    scanner, buffer := before.buffer ++ [token] } ≤ fuel := by
                  apply fetchBound_le
                  · exact more
                  · dsimp only
                    omega
                apply (ih spare).mono
                intro outcome after reached
                exact ⟨reached.1.behind course fun free => ⟨rfl, same.trans free⟩, reached.2⟩
            | .ok none =>
                simp only [ensures_bind, ensures_set]
                obtain ⟨course, none⟩ := course_ended given
                have spare : fetchBound { before with scanner, exhausted := true } ≤ fuel := by
                  rw [fetchBound, if_pos rfl]
                  omega
                apply (ih spare).mono
                intro outcome after reached
                exact ⟨reached.1.behind course fun _ => ⟨rfl, by simp [faults]⟩, reached.2⟩
            | .error diagnostic =>
                simp only [ensures_bind, ensures_set]
                have fewer := Scanner.left_lt_of_error given
                have faulty : before.faults setting.grammar.vocabulary ≠ [] := by
                  simp [faults, more, Scanner.faults, Scanner.outputs_error given]
                apply (ensures_report diagnostic true).mono
                intro outcome middle reached
                obtain ⟨rfl | rfl, reported⟩ := reached
                · have scanning : middle.scanner = scanner := reported.scanner
                  have spare : middle.fetchBound ≤ fuel := by
                    apply fetchBound_le (reported.exhausted.trans more)
                    rw [scanning]
                    omega
                  apply (ih spare).mono
                  intro outcome after reached
                  exact ⟨reached.1.behind (course_faulty given reported)
                    fun free => absurd free faulty, reached.2⟩
                · refine ⟨⟨course_faulty given reported, fun halt same => ?_,
                    fun free => absurd free faulty⟩, by simp⟩
                  obtain rfl := Except.error.inj same
                  exact ⟨rfl, reported.logged⟩

/-- A step that finds out about the tokens to come. Only lexical errors can halt it. -/
structure Reads (vocabulary : Vocabulary) (value : α) (before : Parser σ)
    (outcome : Except Halt α) (after : Parser σ) : Prop extends
    Rests vocabulary (before.faults vocabulary = []) value before outcome after where
  only : ∀ found, outcome = .ok found → found = value

theorem ensures_pure_reads (value : α) :
    Ensures (pure value) before (Reads vocabulary value before) :=
  ⟨.of_quiet ⟨⟨rfl, rfl, rfl, rfl⟩, rfl, rfl⟩, fun _ same => (Except.ok.inj same).symm⟩

theorem Ensures.reads_bind {step : Parse σ α} {next : α → Parse σ β} {value : α} {other : β}
    (first : Ensures step before (Reads vocabulary value before))
    (more : ∀ middle, Course vocabulary before [] middle →
      Ensures (next value) middle (Reads vocabulary other middle)) :
    Ensures (step >>= next) before (Reads vocabulary other before) := by
  apply first.bind
  · intro found middle reads
    obtain rfl := reads.only found rfl
    refine (more middle reads.course).mono fun outcome after later => ⟨?_, later.only⟩
    refine later.behind reads.course fun free => ⟨(reads.answers free).2, ?_⟩
    exact List.suffix_nil.mp (free ▸ reads.course.faults)
  · intro halt after reads
    exact ⟨reads.halt, by simp⟩

theorem ensures_peek (index : Nat) : Ensures (peek setting index) before fun outcome after =>
    Reads setting.grammar.vocabulary (before.upcoming setting.grammar.vocabulary)[index]?
        before outcome after ∧
      ∀ found, outcome = .ok found →
        after.buffer[index]? = found ∧ (found = none → after.exhausted = true) := by
  have enough : before.fetchBound ≤ before.scanner.cursor.remaining + 3 := by
    unfold fetchBound Scanner.left
    split
    · omega
    · cases before.scanner.cursor.source.failure <;> simp
  unfold peek
  rw [ensures_bind, ensures_get]
  apply (ensures_fetch index enough).bind
  · intro value after reached
    obtain ⟨rests, buffered⟩ := reached
    have same : (before.upcoming setting.grammar.vocabulary)[index]? = after.buffer[index]? := by
      rw [← rests.course.upcoming_eq, upcoming]
      rcases buffered rfl with inside | ended
      · rw [List.getElem?_append_left inside]
      · rw [if_pos ended, List.append_nil]
    simp only [ensures_bind, ensures_get, ensures_pure]
    refine ⟨⟨⟨rests.course, by simp, fun free => ⟨by rw [same], (rests.answers free).2⟩⟩, ?_⟩, ?_⟩
    · rintro found answer
      rw [same, Except.ok.inj answer]
    · rintro found answer
      obtain rfl := Except.ok.inj answer
      refine ⟨rfl, fun none => (buffered rfl).resolve_left ?_⟩
      exact Nat.not_lt.mpr (List.getElem?_eq_none_iff.mp none)
  · intro halt after reached
    exact ⟨⟨reached.1.halt, by simp⟩, by simp⟩

/-- A look ahead finds the terminals that are to come. -/
theorem ensures_lookAhead (depth index : Nat) :
    Ensures (lookAhead setting depth index) before (Reads setting.grammar.vocabulary
      (firstTerminals depth
        (((before.upcoming setting.grammar.vocabulary).drop index).map (·.id))) before) := by
  induction depth generalizing before index with
  | zero => exact ensures_pure_reads _
  | succ depth ih =>
      unfold lookAhead
      apply ((ensures_peek index).mono fun _ _ => And.left).reads_bind
      intro middle course
      cases coming : (before.upcoming setting.grammar.vocabulary)[index]? with
      | none =>
          rw [List.drop_eq_nil_iff.mpr (List.getElem?_eq_none_iff.mp coming), List.map_nil,
            firstTerminals_nil]
          exact ensures_pure_reads _
      | some token =>
          obtain ⟨inside, found⟩ := List.getElem?_eq_some_iff.mp coming
          rw [List.drop_eq_getElem_cons inside, found, List.map_cons, firstTerminals_cons]
          rw [← course.upcoming_eq]
          exact (ih (index + 1)).reads_bind fun _ _ => ensures_pure_reads _

/-! ## Taking tokens -/

/-- A token that is buffered first can be taken off. -/
theorem exists_cons_of_getElem?_zero {buffer : List Token} {token : Token}
    (first : buffer[0]? = some token) : ∃ rest, buffer = token :: rest :=
  List.head?_eq_some_iff.mp (List.head?_eq_getElem? ▸ first)

/-- Only the limit on execution can keep a token from being counted. -/
theorem ensures_spend : Ensures (spend setting) before fun outcome after =>
    (outcome = .ok () ∧ Quiet before after) ∨
      (outcome = .error .abort ∧ Reported before after ∧ setting.limits.execution ≠ none) := by
  unfold spend
  simp only [ensures_bind, ensures_get]
  split
  · rename_i exceeded
    simp only [ensures_bind]
    apply ensures_fail.mono
    intro outcome after reached
    obtain ⟨rfl, reported⟩ := reached
    refine .inr ⟨rfl, reported, fun unlimited => ?_⟩
    simp [unlimited] at exceeded
  · exact .inl ⟨rfl, ⟨⟨rfl, rfl, rfl, rfl⟩, rfl, rfl⟩⟩

/-- A course goes on by taking the first token off the buffer. A token is skipped only
behind a logged error. -/
theorem Course.take {first : Parser σ} {items : List Taken} {event : TraceEvent} {item : Taken}
    {rest : List Token} {recovery : Nat} (course : Course vocabulary first items before)
    (taken : event.taken? = some item) (buffered : before.buffer = item.token :: rest)
    (recovering : recovery ≤ before.recovery)
    (logged : first.Warned → before.log = [] → ∀ token, item ≠ .skipped token) :
    Course vocabulary first (items ++ [item])
      { before with buffer := rest, recovery, trace := before.trace.push event } where
  taken := by
    rw [← List.append_assoc, ← course.taken]
    simp [Parser.taken, taken]
  upcoming := by
    rw [course.upcoming]
    simp [Parser.upcoming, buffered]
  faults := course.faults
  log := course.log
  warned := fun warned positive =>
    course.warned warned (Nat.lt_of_lt_of_le positive recovering)
  clean := by
    intro warned empty
    obtain ⟨faults, kept⟩ := course.clean warned empty
    refine ⟨faults, fun token member => ?_⟩
    rcases List.mem_append.mp member with member | member
    · exact kept token member
    · exact logged warned empty token (List.mem_singleton.mp member).symm

theorem ensures_consume {token : Token} {rest : List Token}
    (buffered : before.buffer = token :: rest) :
    Ensures (consume setting) before fun outcome after =>
      (outcome = .ok token ∧
          Course setting.grammar.vocabulary before [.consumed token] after ∧
          after.log = before.log) ∨
        (outcome = .error .abort ∧ Reported before after ∧
          setting.limits.execution ≠ none) := by
  unfold consume
  apply ensures_spend.bind
  · intro value middle reached
    obtain ⟨_, quiet⟩ | ⟨never, _⟩ := reached
    · simp only [ensures_bind, ensures_get, quiet.buffer, buffered, ensures_modify,
        ensures_record, ensures_pure]
      exact .inl ⟨trivial, quiet.course.take rfl (quiet.buffer.trans buffered) (Nat.sub_le _ 1)
        (by simp), quiet.log⟩
    · cases never
  · intro halt after reached
    obtain ⟨never, _⟩ | ⟨answer, more⟩ := reached
    · cases never
    · exact .inr ⟨by rw [Except.error.inj answer], more⟩

/-- Behind a reported error a token can be skipped, if there is one. -/
theorem ensures_skip {first : Parser σ} (reported : Reported first before) :
    Ensures (skip setting) before fun outcome after =>
      match outcome with
      | .ok true => ∃ token, Course setting.grammar.vocabulary first [.skipped token] after
      | .ok false => True
      | .error halt => halt = .abort := by
  unfold skip
  apply (ensures_peek 0).bind
  · intro found middle reached
    obtain ⟨reads, buffered⟩ := reached
    cases found with
    | none => trivial
    | some token =>
        apply ensures_spend.bind
        · intro value spent reached
          obtain ⟨_, quiet⟩ | ⟨never, _⟩ := reached
          · obtain ⟨rest, shape⟩ : ∃ rest, spent.buffer = token :: rest := by
              rw [quiet.buffer]
              exact exists_cons_of_getElem?_zero (buffered _ rfl).1
            simp only [ensures_bind, ensures_modify, ensures_record, ensures_pure, shape,
              List.tail_cons]
            have still := reads.course.trans quiet.course
            refine ⟨token, (reported.course.trans still).take rfl shape (Nat.le_refl _) ?_⟩
            intro warned empty
            exact absurd (still.log_eq_nil empty) (reported.logged warned)
          · cases never
        · intro halt after reached
          obtain ⟨never, _⟩ | ⟨answer, _⟩ := reached
          · cases never
          · exact Except.error.inj answer
  · intro halt after reached
    exact (reached.1.halts halt rfl).1

/-- Recovering takes a token, or the parse is over. -/
theorem ensures_recover (diagnostic : Diagnostic) :
    Ensures (recover setting diagnostic) before fun outcome after =>
      match outcome with
      | .ok () => ∃ token, Course setting.grammar.vocabulary before [.skipped token] after
      | .error halt => halt = .abort := by
  unfold recover
  apply (ensures_report diagnostic true).bind
  · intro value middle reached
    refine (ensures_skip reached.2).bind (fun skipped after reached => ?_)
      fun halt after reached => reached
    cases skipped with
    | true => exact reached
    | false => exact rfl
  · intro halt after reached
    obtain ⟨never | answer, _⟩ := reached
    · cases never
    · exact Except.error.inj answer

end

end Parser

end StrongLL
