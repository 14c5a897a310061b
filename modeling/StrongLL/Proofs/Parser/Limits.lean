import StrongLL.Proofs.Parser.Honesty
import StrongLL.Proofs.Parser.Tracks
import StrongLL.Proofs.Parser.Pace

/-!
# Limits only cut a parse short

The same source is parsed under limits and without any, with the same listener. Either both
parses are the same, or the limited one fails with the first errors of the other one and at
most one about a limit, having taken the first tokens that the other one takes. The limits
are kept: on the productions that are open at once, the tokens that are taken and the errors
that are logged.
-/

namespace StrongLL

/-- The errors of a log that may be logged: as many as the limit says, but one in any case. -/
def Limits.permitted (limits : Limits) (log : Log) : Log :=
  match limits.errors with
  | some limit => log.take (max limit 1)
  | none => log

namespace Parser

variable {σ α β : Type} {setting : Setting σ} {before middle after full : Parser σ}

/-! ## The start production -/

theorem extending_report (diagnostic : Diagnostic) :
    Extending (report setting diagnostic true) := by
  intro before _
  have allowed : (Act.mismatch diagnostic).Allowed setting.limits before := trivial
  apply (ensures_report_eq diagnostic true).mono
  rintro _ after ⟨_, rfl⟩
  exact (Act.turns allowed).grows

theorem tracks_checkEnd : Tracks setting (checkEnd setting) (checkEnd (free setting)) where
  acts := fun _ warned => (acted_checkEnd warned).mono
    fun _ _ ⟨acts, run, ends, _⟩ => ⟨acts, run, fun _ _ => trivial,
      fun aborted => (ends.resolve_left (by simp [aborted])).2⟩
  extending := fun _ warned => (acted_checkEnd warned).mono fun _ _ ⟨_, run, _⟩ => run.grows
  mirrors := by
    intro before ready
    unfold checkEnd
    apply mirrors_bind ((tracks_peek 0).acts before ready.warned).runs
      ((tracks_peek 0).mirrors before ready)
    · intro found middle still _
      cases found with
      | none => exact still.follows _
      | some token => exact mirrors_report still middle _ true
    · rintro (_ | token)
      · exact extending_pure ()
      · exact extending_report _

/-- The start production, where it is passed on that the parse is over behind it. -/
def strictRoot (setting : Setting σ) (steps : Nat) : (fuel : Nat) → Parse σ (Option Node)
  | 0 => throw .unfinished
  | fuel + 1 => rescue (rule setting steps setting.grammar.start)
      (fun node => do checkEnd setting; return node)
      fun diagnostic => do recover setting diagnostic; strictRoot setting steps fuel

theorem tracks_strictRoot (steps fuel : Nat) :
    Tracks setting (strictRoot setting steps fuel) (strictRoot (free setting) steps fuel) := by
  induction fuel with
  | zero => exact tracks_throw (by simp)
  | succ fuel ih =>
      exact Tracks.rescue ((compatible_tracks.relatedAt steps).rule _)
        (fun node => tracks_checkEnd.bind fun _ => tracks_pure node)
        fun diagnostic => (tracks_recover diagnostic).bind fun _ => ih

theorem root_succ (steps fuel : Nat) : root setting steps (fuel + 1) =
    rescue (rule setting steps setting.grammar.start)
      (fun node => do discard (attempt (checkEnd setting)); return node)
      (fun diagnostic => do recover setting diagnostic; root setting steps fuel) := by
  rw [root]
  refine bind_congr fun tried => ?_
  cases tried with
  | ok node => rfl
  | error halt =>
      cases halt with
      | mismatch diagnostic => rfl
      | abort => rfl
      | unfinished => rfl

/-- Behind the start production it does not matter whether it is passed on that the parse is
over: there is a log then. -/
theorem verdict_strictRoot (steps fuel : Nat) (warned : before.Warned) :
    verdict ((strictRoot setting steps fuel).run.run before) =
      verdict ((root setting steps fuel).run.run before) := by
  induction fuel generalizing before with
  | zero => rfl
  | succ fuel ih =>
      have acted : ActsAs setting anyAct (rule setting steps setting.grammar.start) :=
        (compatible_actsAs.relatedAt steps).rule _
      have ruled := (acted before warned).mono fun _ _ acted => acted.warned warned
      rw [root_succ, strictRoot, rescue_run, rescue_run]
      unfold Ensures at ruled
      generalize ((rule setting steps setting.grammar.start).run.run before :
        Except Halt (Option Node) × Parser σ) = result at ruled ⊢
      match result with
      | (.ok node, middle) =>
          have ends := @acted_checkEnd σ setting middle ruled
          have lenient : (do discard (attempt (checkEnd setting)); return node).run.run middle =
              (.ok node, ((checkEnd setting).run.run middle).2) := rfl
          dsimp only
          rw [bind_run, lenient]
          unfold Ensures at ends
          generalize ((checkEnd setting).run.run middle : Except Halt Unit × Parser σ) = ended
            at ends ⊢
          obtain ⟨outcome, after⟩ := ended
          obtain ⟨_, _, rfl | ⟨rfl, logged⟩, _⟩ := ends
          · rfl
          · simp [verdict, logged]
      | (.error (.mismatch diagnostic), middle) =>
          have recovered : Ensures (recover setting diagnostic) middle fun _ last => last.Warned :=
            (actsAs_recover diagnostic middle ruled).mono fun _ _ acted => acted.warned ruled
          dsimp only
          rw [bind_run, bind_run]
          unfold Ensures at recovered
          generalize ((recover setting diagnostic).run.run middle : Except Halt Unit × Parser σ) =
            result at recovered ⊢
          obtain ⟨outcome, last⟩ := result
          cases outcome with
          | ok value => exact ih recovered
          | error halt => rfl
      | (.error .abort, middle) => rfl
      | (.error .unfinished, middle) => rfl

/-! ## The limits are kept -/

/-- How many productions are open behind some events. -/
def openBehind (events : List TraceEvent) : Nat :=
  events.foldl (fun depth event => (event.depths depth).2) 0

theorem openBehind_concat (events : List TraceEvent) (event : TraceEvent) :
    openBehind (events ++ [event]) = (event.depths (openBehind events)).2 := by
  rw [openBehind, List.foldl_append]
  rfl

/-- The books agree with the events, and the limits on tokens and productions are kept. -/
structure Books.Keeps (limits : Limits) (books : Books) : Prop where
  executed : books.executed = takes books.events
  depth : books.depth = openBehind books.events
  tokens : ∀ limit, limits.execution = some limit → books.executed ≤ limit
  nesting : ∀ limit, limits.recursion = some limit →
    ∀ part, part <+: books.events → openBehind part ≤ limit

theorem Books.Keeps.push {limits : Limits} {books next : Books} {event : TraceEvent}
    (keeps : books.Keeps limits) (events : next.events = books.events ++ [event])
    (executed : next.executed = books.executed + takes [event])
    (depth : next.depth = (event.depths books.depth).2)
    (tokens : ∀ limit, limits.execution = some limit → next.executed ≤ limit)
    (nesting : ∀ limit, limits.recursion = some limit → next.depth ≤ limit) :
    next.Keeps limits where
  executed := by rw [executed, events, takes_append, keeps.executed]
  depth := by rw [depth, events, openBehind_concat, keeps.depth]
  tokens := tokens
  nesting := by
    intro limit isLimit part isPart
    rw [events] at isPart
    rcases List.prefix_concat_iff.mp isPart with rfl | isPart
    · rw [openBehind_concat, ← keeps.depth, ← depth]
      exact nesting limit isLimit
    · exact keeps.nesting limit isLimit part isPart

/-- As many productions as are open now may be open. -/
theorem Books.Keeps.depth_le {limits : Limits} {books : Books} (keeps : books.Keeps limits)
    (limit : Nat) (isLimit : limits.recursion = some limit) : books.depth ≤ limit :=
  keeps.depth ▸ keeps.nesting limit isLimit _ (List.prefix_refl _)

theorem Books.Keeps.turn {limits : Limits} {books next : Books} (keeps : books.Keeps limits)
    (turns : books.Turns limits next) : next.Keeps limits := by
  cases turns with
  | keep => exact keeps
  | refuse diagnostic => exact keeps.push rfl rfl rfl keeps.tokens keeps.depth_le
  | stumble diagnostic => exact keeps.push rfl rfl rfl keeps.tokens keeps.depth_le
  | consume token spare => exact keeps.push rfl rfl rfl spare keeps.depth_le
  | skip token _ spare => exact keeps.push rfl rfl rfl spare keeps.depth_le
  | openRule rule spare => exact keeps.push rfl rfl rfl keeps.tokens spare
  | closeRule rule =>
      exact keeps.push rfl rfl rfl keeps.tokens fun limit isLimit =>
        Nat.le_trans (Nat.sub_le _ 1) (keeps.depth_le limit isLimit)
  | alternative rule index depth => exact keeps.push rfl rfl rfl keeps.tokens keeps.depth_le
  | loop rule count again => exact keeps.push rfl rfl rfl keeps.tokens keeps.depth_le

theorem Run.keeps {acts : List Act} (run : Run setting before acts after)
    (start : before.books.Keeps setting.limits) : after.books.Keeps setting.limits :=
  run.books_last start fun _ _ keeps turns => keeps.turn turns

/-! ## Whole parses -/

/-- The errors that a parse comes back with. -/
def Outcome.log : Outcome → Log
  | .failed log => log
  | .parsed _ | .unfinished => []

/-- How a parse under limits, which was a row of acts, stands to the same parse without
limits. A listener may keep the calls that it gets in its state, so where both parses are the
same they made the same calls. -/
structure Limited (setting : Setting σ) (acts : List Act) (cut full : Parser σ × Outcome) :
    Prop where
  /-- Both are the same, or the limited one fails, with the first errors of the other one and
  at most one about a limit. -/
  ends : cut = full ∨ ∃ shared reason, cut.2 = .failed (shared ++ reason) ∧
    shared ++ reason ≠ [] ∧ shared <+: full.2.log ∧
      (reason = [] ∨ ∃ fault position, fault.IsLimit ∧
        reason = [.located (.internal fault) position])
  /-- The tokens that are taken are the first ones of those that the other parse takes. -/
  taken : cut.1.taken <+: full.1.taken
  tokens : ∀ limit, setting.limits.execution = some limit → cut.1.taken.length ≤ limit
  nesting : ∀ limit, setting.limits.recursion = some limit →
    ∀ part, part <+: cut.1.trace.toList → openBehind part ≤ limit
  errors : ∀ limit, setting.limits.errors = some limit → cut.2.log.length ≤ max limit 1
  /-- Unless it ran out of fuel, all the errors are there that may be logged. -/
  fuelled : (∀ fault, .fail fault ∈ acts → ¬ fault.IsLimit) →
    cut.2.log = setting.limits.permitted full.2.log

theorem log_verdict {result : Except Halt (Option Node) × Parser σ}
    (finished : (verdict result).2 ≠ .unfinished) : (verdict result).2.log = result.2.log := by
  by_cases empty : result.2.log = []
  · obtain ⟨outcome, last⟩ := result
    match outcome with
    | .ok _ => simp_all [verdict, Outcome.log]
    | .error .unfinished => exact absurd rfl finished
    | .error (.mismatch _) => simp_all [verdict, Outcome.log]
    | .error .abort => simp_all [verdict, Outcome.log]
  · rw [verdict_logged finished empty]
    rfl

theorem permitted_eq_self {limits : Limits} {log : Log} (fits : Fits limits log) :
    limits.permitted log = log := by
  unfold Limits.permitted
  split
  · rename_i limit isLimit
    exact List.take_of_length_le (fits limit isLimit)
  · rfl

section

variable {acts : List Act} {outcome other : Except Halt (Option Node)}

/-- Along a run the limits are kept. -/
theorem Run.limited (run : Run setting before acts after) (start : before.books.Keeps setting.limits)
    (finished : (verdict (outcome, after)).2 ≠ .unfinished)
    (finished' : (verdict (other, full)).2 ≠ .unfinished) (fits : Fits setting.limits after.log)
    (taken : after.taken <+: full.taken)
    (ends : verdict (outcome, after) = verdict (other, full) ∨ ∃ shared reason,
      (verdict (outcome, after)).2 = .failed (shared ++ reason) ∧ shared ++ reason ≠ [] ∧
        shared <+: full.log ∧ (reason = [] ∨ ∃ fault position, fault.IsLimit ∧
          reason = [.located (.internal fault) position]))
    (fuelled : (∀ fault, .fail fault ∈ acts → ¬ fault.IsLimit) →
      after.log = setting.limits.permitted full.log) :
    Limited setting acts (verdict (outcome, after)) (verdict (other, full)) where
  ends := by rwa [log_verdict finished']
  taken := by rwa [fst_verdict, fst_verdict]
  tokens := by
    intro limit isLimit
    have count : after.taken.length = after.books.executed := (run.keeps start).executed.symm
    rw [fst_verdict]
    exact Nat.le_trans (Nat.le_of_eq count) ((run.keeps start).tokens limit isLimit)
  nesting := by
    rw [fst_verdict]
    exact (run.keeps start).nesting
  errors := by rwa [log_verdict finished]
  fuelled := by rwa [log_verdict finished, log_verdict finished']

theorem Follows.limited (run : Run setting before acts after)
    (start : before.books.Keeps setting.limits)
    (finished : (verdict (outcome, after)).2 ≠ .unfinished)
    (finished' : (verdict (other, full)).2 ≠ .unfinished)
    (follows : Follows setting before outcome after other full) :
    ∃ acts, Run setting before acts after ∧
      Limited setting acts (verdict (outcome, after)) (verdict (other, full)) := by
  cases follows with
  | same fits _ =>
      have all : after.log = setting.limits.permitted after.log := (permitted_eq_self fits).symm
      exact ⟨acts, run, run.limited start finished finished' fits (List.prefix_refl _) (.inl rfl)
        fun _ => all⟩
  | cut short =>
      have logged := short.logged
      have failed := verdict_logged finished logged
      cases short.cause with
      | @fuel acts fault shared position run isLimit reported log first =>
          rw [log] at failed logged
          exact ⟨acts, run, run.limited start finished finished' short.fits short.taken
            (.inr ⟨shared, _, failed, logged, first, .inr ⟨fault, position, isLimit, rfl⟩⟩)
            fun fuelled => absurd isLimit (fuelled fault reported)⟩
      | errors isLimit isFull first =>
          have all : after.log = setting.limits.permitted full.log := by
            simp only [Limits.permitted, isLimit, ← isFull]
            exact List.prefix_iff_eq_take.mp first
          rw [← List.append_nil after.log] at failed logged
          exact ⟨acts, run, run.limited start finished finished' short.fits short.taken
            (.inr ⟨after.log, [], failed, logged, first, .inl rfl⟩) fun _ => all⟩

end

/-- Limits only cut a parse short. -/
theorem parse_limited {declaration : Ebnf.Declaration} {grammar : Grammar}
    (built : Grammar.build declaration = .ok grammar) {setting : Setting σ}
    (same : setting.grammar = grammar) (source : Source) (listener : σ) :
    ∃ acts last, Run setting (ofSource source listener) acts last ∧
      (parse setting (ofSource source listener)).1 = { last with log := [] } ∧
        (parse setting (ofSource source listener)).2.log = last.log ∧
          Limited setting acts (parse setting (ofSource source listener))
            (parse (free setting) (ofSource source listener)) := by
  have from' := Grammar.builtFrom_of_build built
  generalize beginning : ofSource source listener = fresh
  have start : fresh.books.Keeps setting.limits := by
    subst beginning
    refine ⟨rfl, rfl, fun _ _ => Nat.zero_le _, fun limit _ part isPart => ?_⟩
    obtain rfl : part = [] := List.prefix_nil.mp isPart
    exact Nat.zero_le limit
  have ready : Ready setting.limits fresh := by
    subst beginning
    exact ⟨nofun, fun limit _ => Nat.lt_of_lt_of_le Nat.one_pos (Nat.le_max_right limit 1)⟩
  have prepared : fresh.prepare = fresh := by
    subst beginning
    rfl
  have tracks := @tracks_strictRoot σ setting (fresh.stepBound setting.grammar)
    (fresh.tokenBound + 2)
  have strict (limits : Limits) : parse { setting with limits } fresh =
      verdict ((strictRoot { setting with limits } (fresh.stepBound setting.grammar)
        (fresh.tokenBound + 2)).run.run fresh) := by
    rw [verdict_strictRoot _ _ ready.warned]
    conv_lhs => unfold parse; rw [prepared]
    rfl
  have finished := parse_ne_unfinished from' same fresh
  have same' : (free setting).grammar = grammar := same
  have finished' := parse_ne_unfinished from' same' fresh
  rw [strict] at finished'
  have limited : parse setting fresh = _ := strict setting.limits
  rw [limited] at finished
  rw [limited, strict]
  obtain ⟨acts, run, _⟩ := tracks.acts fresh ready.warned
  obtain ⟨acts, run, known⟩ := Follows.limited run start finished finished'
    (tracks.mirrors fresh ready)
  exact ⟨acts, _, run, fst_verdict _, log_verdict finished, known⟩

/-- The parse of `"aab"` as `"a"{2,3} "b"` takes one token where it may take one, and fails.
Without limits there is no error. -/
theorem countedTokens_limited : ∃ grammar acts last,
    Grammar.build Grammar.countedTokens = .ok grammar ∧
      let setting : Setting Unit :=
        { grammar, listener := treeBuilder, limits := ⟨some 4, some 1, some 2⟩ }
      let fresh : Parser Unit := .ofSource (.ofString "aab") ()
      (parse setting fresh).1.taken.length = 1 ∧ (parse setting fresh).2.log.length = 1 ∧
        (parse (free setting) fresh).1.taken.length = 3 ∧ (parse (free setting) fresh).2.log = [] ∧
          Run setting fresh acts last ∧
            Limited setting acts (parse setting fresh) (parse (free setting) fresh) := by
  have parses : ((Grammar.build Grammar.countedTokens).toOption.any fun grammar =>
      let setting : Setting Unit :=
        { grammar, listener := treeBuilder, limits := ⟨some 4, some 1, some 2⟩ }
      let fresh : Parser Unit := .ofSource (.ofString "aab") ()
      decide ((parse setting fresh).1.taken.length = 1 ∧ (parse setting fresh).2.log.length = 1 ∧
        (parse (free setting) fresh).1.taken.length = 3 ∧
          (parse (free setting) fresh).2.log = [])) = true := by
    decide +kernel
  obtain ⟨grammar, built, parses⟩ := exists_ok_of_any parses
  obtain ⟨taken, logged, all, unlogged⟩ := of_decide_eq_true parses
  obtain ⟨acts, last, run, _, _, limited⟩ := @parse_limited Unit _ grammar built
    { grammar, listener := treeBuilder, limits := ⟨some 4, some 1, some 2⟩ } rfl
    (.ofString "aab") ()
  exact ⟨grammar, acts, last, built, taken, logged, all, unlogged, run, limited⟩

end Parser

end StrongLL
