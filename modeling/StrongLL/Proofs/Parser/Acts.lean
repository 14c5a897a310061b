import StrongLL.Proofs.Parser.Descent

/-!
# A parse, act by act

Whatever a parser does is a row of acts: it asks its scanner for a token, calls its
listener, reports an error, takes a token, or enters or leaves a production. An invariant
that each act keeps holds at every moment of every run. Most invariants are about the books
that a parser keeps, which say nothing of its tokens and of its listener.
-/

namespace StrongLL

namespace Parser

variable {σ α : Type}

/-! ## Acts -/

/-- Report an error that opens a time of recovery. -/
def stumble (diagnostic : Diagnostic) (parser : Parser σ) : Parser σ :=
  { parser.note diagnostic with recovery := recoveryTokens }

/-- Report what a listener refuses. -/
def heed (answer : Except Diagnostic α) (parser : Parser σ) : Parser σ :=
  match answer with
  | .ok _ => parser
  | .error refusal => parser.note refusal

/-- Ask the scanner for the next token. -/
def scanned (vocabulary : Vocabulary) (parser : Parser σ) : Parser σ :=
  let next := parser.scanner.next vocabulary
  match next.2 with
  | .ok (some token) => { parser with scanner := next.1, buffer := parser.buffer ++ [token] }
  | .ok none => { parser with scanner := next.1, exhausted := true }
  | .error diagnostic => stumble diagnostic { parser with scanner := next.1 }

/-- Something that a parser does. -/
inductive Act where
  /-- It asks for the next token of the input. -/
  | scan
  | enter (node : Node)
  | exit (node : Node)
  | child (parent : Branch) (node : Node)
  /-- It reports what does not fit. -/
  | mismatch (diagnostic : Diagnostic)
  /-- It reports why it cannot go on itself. -/
  | fail (fault : Fault)
  | consume (token : Token)
  | skip (token : Token)
  | openRule (rule : RuleId)
  | closeRule (rule : RuleId)
  /-- It decides on an alternative, or on another copy. -/
  | decide (event : TraceEvent)

namespace Act

/-- What an act does to a parser. -/
def apply (setting : Setting σ) (parser : Parser σ) : Act → Parser σ
  | .scan => scanned setting.grammar.vocabulary parser
  | .enter node =>
      let told := setting.listener.enter node parser.listener
      heed told.2 { parser with listener := told.1 }
  | .exit node =>
      let told := setting.listener.exit node parser.listener
      heed told.2 { parser with listener := told.1 }
  | .child parent node =>
      let told := setting.listener.child parent node parser.listener
      heed told.2.2 { parser with listener := told.1 }
  | .mismatch diagnostic => stumble diagnostic parser
  | .fail fault => parser.note (.located (.internal fault) parser.position)
  | .consume token =>
      { parser with
        executed := parser.executed + 1
        buffer := parser.buffer.tail
        recovery := parser.recovery - 1
        trace := parser.trace.push (.consume token) }
  | .skip token =>
      { parser with
        executed := parser.executed + 1
        buffer := parser.buffer.tail
        trace := parser.trace.push (.skip token) }
  | .openRule rule =>
      { parser with depth := parser.depth + 1, trace := parser.trace.push (.enter rule) }
  | .closeRule rule =>
      { parser with depth := parser.depth - 1, trace := parser.trace.push (.exit rule) }
  | .decide event => { parser with trace := parser.trace.push event }

/-- When an act comes about. Tokens are taken off the buffer, and skipped only behind an
error that is logged. Within its limits a parser takes tokens and enters productions, and
only outside of them it complains of one. -/
def Allowed (limits : Limits) (parser : Parser σ) : Act → Prop
  | .scan => parser.exhausted = false
  | .enter _ | .exit _ | .child .. | .mismatch _ | .closeRule _ => True
  | .fail fault =>
      (fault = .recursionLimit → ∃ limit, limits.recursion = some limit ∧ limit ≤ parser.depth) ∧
        (fault = .executionLimit →
          ∃ limit, limits.execution = some limit ∧ limit ≤ parser.executed)
  | .consume token =>
      (∃ rest, parser.buffer = token :: rest) ∧
        ∀ limit, limits.execution = some limit → parser.executed < limit
  | .skip token =>
      (∃ rest, parser.buffer = token :: rest) ∧ parser.log ≠ [] ∧
        ∀ limit, limits.execution = some limit → parser.executed < limit
  | .openRule _ => ∀ limit, limits.recursion = some limit → parser.depth < limit
  | .decide event =>
      (∃ rule index depth, event = .alternative rule index depth) ∨
        ∃ rule count again, event = .loop rule count again

end Act

section

variable {limits : Limits} {parser : Parser σ}

theorem allowed_recursionLimit (exceeded : limits.recursion.any (· ≤ parser.depth) = true) :
    (Act.fail .recursionLimit).Allowed limits parser := by
  obtain ⟨limit, isLimit, reached⟩ := Option.any_eq_true _ _ |>.mp exceeded
  exact ⟨fun _ => ⟨limit, isLimit, of_decide_eq_true reached⟩, nofun⟩

theorem allowed_executionLimit (exceeded : limits.execution.any (· ≤ parser.executed) = true) :
    (Act.fail .executionLimit).Allowed limits parser := by
  obtain ⟨limit, isLimit, reached⟩ := Option.any_eq_true _ _ |>.mp exceeded
  exact ⟨nofun, fun _ => ⟨limit, isLimit, of_decide_eq_true reached⟩⟩

theorem allowed_openRule (rule : RuleId)
    (spare : ¬ limits.recursion.any (· ≤ parser.depth) = true) :
    (Act.openRule rule).Allowed limits parser :=
  fun limit isLimit => by simpa [isLimit] using spare

end

/-- Where a row of acts leads. -/
def performed (setting : Setting σ) (before : Parser σ) (acts : List Act) : Parser σ :=
  acts.foldl (Act.apply setting) before

/-- A row of acts, each of which comes about where it is done. -/
inductive Run (setting : Setting σ) : Parser σ → List Act → Parser σ → Prop where
  | done (parser : Parser σ) : Run setting parser [] parser
  | act {before after : Parser σ} {act : Act} {acts : List Act}
      (allowed : act.Allowed setting.limits before)
      (more : Run setting (act.apply setting before) acts after) :
      Run setting before (act :: acts) after

section

variable {setting : Setting σ} {before middle after : Parser σ} {acts further : List Act}

theorem Run.eq_performed (run : Run setting before acts after) :
    after = performed setting before acts := by
  induction run with
  | done parser => rfl
  | act _ _ ih => exact ih

theorem Run.single {act : Act} (allowed : act.Allowed setting.limits before) :
    Run setting before [act] (act.apply setting before) :=
  .act allowed (.done _)

theorem Run.append (first : Run setting before acts middle)
    (later : Run setting middle further after) : Run setting before (acts ++ further) after := by
  induction first with
  | done parser => exact later
  | act allowed _ ih => exact .act allowed (ih later)

/-- A row of acts can be parted anywhere. -/
theorem Run.split (run : Run setting before (acts ++ further) after) :
    Run setting before acts (performed setting before acts) ∧
      Run setting (performed setting before acts) further after := by
  induction acts generalizing before with
  | nil => exact ⟨.done before, run⟩
  | cons act rest ih =>
      cases run with
      | act allowed more =>
          obtain ⟨first, later⟩ := ih more
          exact ⟨.act allowed first, later⟩

/-- What every act keeps holds at all moments. -/
theorem Run.always {invariant : Parser σ → Prop} (run : Run setting before acts after)
    (start : invariant before)
    (kept : ∀ parser (act : Act), invariant parser → act.Allowed setting.limits parser →
      invariant (act.apply setting parser)) :
    ∀ part, part <+: acts → invariant (performed setting before part) := by
  induction run with
  | done parser =>
      intro part isPart
      obtain rfl := List.prefix_nil.mp isPart
      exact start
  | @act before _ first _ allowed _ ih =>
      intro part isPart
      cases part with
      | nil => exact start
      | cons act part =>
          obtain ⟨rfl, shorter⟩ := List.cons_prefix_cons.mp isPart
          exact ih (kept before act start allowed) part shorter

theorem Run.last {invariant : Parser σ → Prop} (run : Run setting before acts after)
    (start : invariant before)
    (kept : ∀ parser (act : Act), invariant parser → act.Allowed setting.limits parser →
      invariant (act.apply setting parser)) : invariant after := by
  rw [run.eq_performed]
  exact run.always start kept acts (List.prefix_refl acts)

end

/-! ## The input -/

/-- What is left of the input where nothing is scanned: all that was there, but for tokens that
are taken off the buffer. -/
structure Unscanned (before after : Parser σ) : Prop where
  scanner : after.scanner = before.scanner
  exhausted : after.exhausted = before.exhausted
  buffer : after.buffer <:+ before.buffer

theorem SameTokens.unscanned {before after : Parser σ} (same : SameTokens before after) :
    Unscanned before after :=
  ⟨same.scanner, same.exhausted, same.buffer ▸ List.suffix_refl _⟩

theorem unscanned_heed (answer : Except Diagnostic α) (parser : Parser σ) (listener : σ) :
    Unscanned parser (heed answer { parser with listener }) := by
  cases answer with
  | ok value => exact ⟨rfl, rfl, List.suffix_refl _⟩
  | error refusal => exact ⟨rfl, rfl, List.suffix_refl _⟩

/-- Of all acts only a scan uses the scanner. -/
theorem Act.unscanned {setting : Setting σ} {before : Parser σ} (act : Act)
    (other : act ≠ .scan) : Unscanned before (act.apply setting before) := by
  cases act with
  | scan => exact absurd rfl other
  | enter node => exact unscanned_heed _ before _
  | exit node => exact unscanned_heed _ before _
  | child parent node => exact unscanned_heed _ before _
  | mismatch diagnostic => exact (reported_note diagnostic recoveryTokens).unscanned
  | fail fault => exact (reported_note _ before.recovery).unscanned
  | consume token => exact ⟨rfl, rfl, List.tail_suffix _⟩
  | skip token => exact ⟨rfl, rfl, List.tail_suffix _⟩
  | openRule rule => exact ⟨rfl, rfl, List.suffix_refl _⟩
  | closeRule rule => exact ⟨rfl, rfl, List.suffix_refl _⟩
  | decide event => exact ⟨rfl, rfl, List.suffix_refl _⟩

/-! ## Tokens that are taken -/

/-- The token that an act takes, if it takes one. -/
def Act.taken? : Act → Option Taken
  | .consume token => some (.consumed token)
  | .skip token => some (.skipped token)
  | _ => none

theorem taken_push {parser : Parser σ} (event : TraceEvent) :
    taken { parser with trace := parser.trace.push event } =
      parser.taken ++ event.taken?.toList := by
  simp only [taken, Array.toList_push, List.filterMap_append]
  cases takes : event.taken? with
  | none => simp [takes]
  | some item => simp [takes]

theorem taken_stumble (diagnostic : Diagnostic) (parser : Parser σ) :
    (stumble diagnostic parser).taken = parser.taken :=
  (reported_note diagnostic recoveryTokens).taken

theorem taken_heed (answer : Except Diagnostic α) (parser : Parser σ) :
    (heed answer parser).taken = parser.taken := by
  cases answer with
  | ok value => rfl
  | error refusal => exact (reported_note refusal parser.recovery).taken

theorem Act.taken_apply {setting : Setting σ} {parser : Parser σ} {act : Act}
    (allowed : act.Allowed setting.limits parser) :
    (act.apply setting parser).taken = parser.taken ++ act.taken?.toList := by
  cases act with
  | scan =>
      simp only [taken?, Option.toList_none, List.append_nil]
      unfold apply scanned
      dsimp only
      split
      · rfl
      · rfl
      · exact taken_stumble _ _
  | enter node => exact (taken_heed _ _).trans (List.append_nil _).symm
  | exit node => exact (taken_heed _ _).trans (List.append_nil _).symm
  | child parent node => exact (taken_heed _ _).trans (List.append_nil _).symm
  | mismatch diagnostic => exact (taken_stumble _ _).trans (List.append_nil _).symm
  | fail fault =>
      exact (reported_note _ parser.recovery).taken.trans (List.append_nil _).symm
  | consume token => exact taken_push (.consume token)
  | skip token => exact taken_push (.skip token)
  | openRule rule => exact taken_push (.enter rule)
  | closeRule rule => exact taken_push (.exit rule)
  | decide event =>
      obtain ⟨rule, index, depth, rfl⟩ | ⟨rule, count, again, rfl⟩ := allowed
      · exact taken_push (.alternative rule index depth)
      · exact taken_push (.loop rule count again)

/-- The trace keeps the tokens that the acts take. -/
theorem Run.taken_eq {setting : Setting σ} {before after : Parser σ} {acts : List Act}
    (run : Run setting before acts after) :
    after.taken = before.taken ++ acts.filterMap Act.taken? := by
  induction run with
  | done => rw [List.filterMap_nil, List.append_nil]
  | @act before _ act acts allowed _ ih =>
      rw [ih, Act.taken_apply allowed, List.append_assoc]
      cases shape : act.taken? <;> simp [shape]

/-! ## The books -/

/-- What a parser keeps count of. -/
structure Books where
  log : Log
  recovery : Nat
  depth : Nat
  executed : Nat
  events : List TraceEvent

/-- The books of a parser. -/
def books (parser : Parser σ) : Books :=
  ⟨parser.log, parser.recovery, parser.depth, parser.executed, parser.trace.toList⟩

namespace Books

/-- Report an error. -/
def note (diagnostic : Diagnostic) (books : Books) : Books :=
  let suppressed := 0 < books.recovery && !diagnostic.problem.isExternal
  { books with
    log := if suppressed then books.log else books.log ++ [diagnostic]
    events := books.events ++ [.error diagnostic suppressed] }

/-- What an act does to the books. -/
inductive Turns (limits : Limits) (books : Books) : Books → Prop where
  | keep : Turns limits books books
  | refuse (diagnostic : Diagnostic) : Turns limits books (books.note diagnostic)
  | stumble (diagnostic : Diagnostic) :
      Turns limits books { books.note diagnostic with recovery := recoveryTokens }
  | consume (token : Token)
      (spare : ∀ limit, limits.execution = some limit → books.executed < limit) :
      Turns limits books
        { books with
          executed := books.executed + 1
          recovery := books.recovery - 1
          events := books.events ++ [.consume token] }
  | skip (token : Token) (logged : books.log ≠ [])
      (spare : ∀ limit, limits.execution = some limit → books.executed < limit) :
      Turns limits books
        { books with
          executed := books.executed + 1
          events := books.events ++ [.skip token] }
  | openRule (rule : RuleId)
      (spare : ∀ limit, limits.recursion = some limit → books.depth < limit) :
      Turns limits books
        { books with depth := books.depth + 1, events := books.events ++ [.enter rule] }
  | closeRule (rule : RuleId) :
      Turns limits books
        { books with depth := books.depth - 1, events := books.events ++ [.exit rule] }
  | alternative (rule : RuleId) (index depth : Nat) :
      Turns limits books { books with events := books.events ++ [.alternative rule index depth] }
  | loop (rule : RuleId) (count : Nat) (again : Bool) :
      Turns limits books { books with events := books.events ++ [.loop rule count again] }

end Books

section

variable {limits : Limits} {parser middle : Parser σ}

theorem books_note (diagnostic : Diagnostic) :
    (parser.note diagnostic).books = parser.books.note diagnostic := by
  simp only [books, note, Books.note, Array.toList_push]
  rfl

theorem books_stumble (diagnostic : Diagnostic) : (stumble diagnostic parser).books =
    { parser.books.note diagnostic with recovery := recoveryTokens } := by
  simp only [books, stumble, note, Books.note, Array.toList_push]
  rfl

theorem turns_heed (answer : Except Diagnostic α) (same : middle.books = parser.books) :
    Books.Turns limits parser.books (heed answer middle).books := by
  cases answer with
  | ok value =>
      rw [heed, same]
      exact .keep
  | error refusal =>
      rw [heed, books_note, same]
      exact .refuse refusal

theorem turns_stumble (diagnostic : Diagnostic) (same : middle.books = parser.books) :
    Books.Turns limits parser.books (stumble diagnostic middle).books := by
  rw [books_stumble, same]
  exact .stumble diagnostic

end

theorem Act.turns {setting : Setting σ} {parser : Parser σ} {act : Act}
    (allowed : act.Allowed setting.limits parser) :
    Books.Turns setting.limits parser.books (act.apply setting parser).books := by
  have pushed (event : TraceEvent) :
      (parser.trace.push event).toList = parser.trace.toList ++ [event] := Array.toList_push ..
  cases act with
  | scan =>
      unfold apply scanned
      generalize parser.scanner.next setting.grammar.vocabulary = next
      dsimp only
      split
      · exact .keep
      · exact .keep
      · exact turns_stumble _ rfl
  | enter node => exact turns_heed _ rfl
  | exit node => exact turns_heed _ rfl
  | child parent node => exact turns_heed _ rfl
  | mismatch diagnostic => exact turns_stumble diagnostic rfl
  | fail fault =>
      rw [apply, books_note]
      exact .refuse _
  | consume token =>
      simp only [apply, books, pushed]
      exact .consume token allowed.2
  | skip token =>
      simp only [apply, books, pushed]
      exact .skip token allowed.2.1 allowed.2.2
  | openRule rule =>
      simp only [apply, books, pushed]
      exact .openRule rule allowed
  | closeRule rule =>
      simp only [apply, books, pushed]
      exact .closeRule rule
  | decide event =>
      simp only [apply, books, pushed]
      obtain ⟨rule, index, depth, rfl⟩ | ⟨rule, count, again, rfl⟩ := allowed
      · exact .alternative rule index depth
      · exact .loop rule count again

/-- What is kept of the books holds at all moments. -/
theorem Run.books_always {setting : Setting σ} {before after : Parser σ} {acts : List Act}
    {invariant : Books → Prop} (run : Run setting before acts after)
    (start : invariant before.books)
    (kept : ∀ books next, invariant books → books.Turns setting.limits next → invariant next) :
    ∀ part, part <+: acts → invariant (performed setting before part).books :=
  run.always start fun _ _ holds allowed => kept _ _ holds (Act.turns allowed)

theorem Run.books_last {setting : Setting σ} {before after : Parser σ} {acts : List Act}
    {invariant : Books → Prop} (run : Run setting before acts after)
    (start : invariant before.books)
    (kept : ∀ books next, invariant books → books.Turns setting.limits next → invariant next) :
    invariant after.books :=
  run.last start fun _ _ holds allowed => kept _ _ holds (Act.turns allowed)

/-! ## What only grows -/

/-- Log and events only get longer, and errors are kept back only behind a logged one. -/
structure Books.Grows (books next : Books) : Prop where
  log : books.log <+: next.log
  events : books.events <+: next.events
  warned : (0 < books.recovery → books.log ≠ []) → 0 < next.recovery → next.log ≠ []

theorem Books.Grows.refl (books : Books) : books.Grows books :=
  ⟨List.prefix_refl _, List.prefix_refl _, id⟩

theorem Books.Grows.trans {first second third : Books} (left : first.Grows second)
    (right : second.Grows third) : first.Grows third :=
  ⟨left.log.trans right.log, left.events.trans right.events,
    fun warned => right.warned (left.warned warned)⟩

theorem Books.grows_note (diagnostic : Diagnostic) (books : Books) :
    books.log <+: (books.note diagnostic).log ∧
      ((0 < books.recovery → books.log ≠ []) → (books.note diagnostic).log ≠ []) := by
  unfold note
  dsimp only
  split
  · rename_i suppressed
    simp only [Bool.and_eq_true, decide_eq_true_eq] at suppressed
    exact ⟨List.prefix_refl _, fun warned => warned suppressed.1⟩
  · exact ⟨List.prefix_append _ _, fun _ => by simp⟩

theorem Books.Turns.grows {limits : Limits} {books next : Books} (turns : books.Turns limits next) :
    books.Grows next := by
  cases turns with
  | keep => exact .refl books
  | refuse diagnostic =>
      obtain ⟨log, logged⟩ := grows_note diagnostic books
      exact ⟨log, List.prefix_append _ _, fun warned _ => logged warned⟩
  | stumble diagnostic =>
      obtain ⟨log, logged⟩ := grows_note diagnostic books
      exact ⟨log, List.prefix_append _ _, fun warned _ => logged warned⟩
  | consume token _ =>
      exact ⟨List.prefix_refl _, List.prefix_append _ _,
        fun warned positive => warned (Nat.lt_of_lt_of_le positive (Nat.sub_le _ 1))⟩
  | skip token _ _ => exact ⟨List.prefix_refl _, List.prefix_append _ _, id⟩
  | openRule rule _ => exact ⟨List.prefix_refl _, List.prefix_append _ _, id⟩
  | closeRule rule => exact ⟨List.prefix_refl _, List.prefix_append _ _, id⟩
  | alternative rule index depth => exact ⟨List.prefix_refl _, List.prefix_append _ _, id⟩
  | loop rule count again => exact ⟨List.prefix_refl _, List.prefix_append _ _, id⟩

section

variable {setting : Setting σ} {before after : Parser σ} {acts : List Act}

theorem Run.grows (run : Run setting before acts after) : before.books.Grows after.books := by
  exact run.books_last (.refl before.books) fun _ _ grown turns => grown.trans turns.grows

theorem Run.warned (run : Run setting before acts after) (warned : before.Warned) : after.Warned :=
  run.grows.warned warned

theorem Run.log_prefix (run : Run setting before acts after) : before.log <+: after.log :=
  run.grows.log

/-- What is logged stays logged. -/
theorem Run.logged (run : Run setting before acts after) (logged : before.log ≠ []) :
    after.log ≠ [] :=
  fun empty => logged (List.prefix_nil.mp (empty ▸ run.log_prefix))

end

end Parser

end StrongLL
