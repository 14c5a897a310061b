import StrongLL.Proofs.Parser.Steps

/-!
# Runs that limits cut short

A step under limits is compared with the same step without any, from the same state and with
the same listener. Both do the same until a limit strikes. Then the limited one ends for
good, and what it logged and took until then is the beginning of what the other one logs and
takes.
-/

namespace StrongLL

/-- No limits at all. -/
def Limits.unlimited : Limits := ⟨none, none, none⟩

/-- A fault that tells of a limit. -/
def Fault.IsLimit (fault : Fault) : Prop := fault = .recursionLimit ∨ fault = .executionLimit

namespace Parser

variable {σ α β : Type} {setting : Setting σ} {before middle after full : Parser σ}

/-- The setting with the same grammar and listener, without limits. -/
abbrev free (setting : Setting σ) : Setting σ := { setting with limits := .unlimited }

/-! ## Cut short -/

/-- As many errors may be logged as a limit says, but one in any case. -/
def Fits (limits : Limits) (log : Log) : Prop :=
  ∀ limit, limits.errors = some limit → log.length ≤ max limit 1

/-- Where a parser is not cut short: there is room for another error, and errors are kept
back only behind a logged one. -/
structure Ready (limits : Limits) (parser : Parser σ) : Prop where
  warned : parser.Warned
  room : ∀ limit, limits.errors = some limit → parser.log.length < max limit 1

theorem Ready.fits {limits : Limits} (ready : Ready limits before) : Fits limits before.log :=
  fun limit isLimit => Nat.le_of_lt (ready.room limit isLimit)

/-- Why a run ended where another one with a log goes on. -/
inductive Cause (setting : Setting σ) (before after : Parser σ) (log : Log) : Prop where
  /-- Fuel was missing, and this is the last thing that was logged. -/
  | fuel {acts : List Act} {fault : Fault} {shared : Log} {position : Position}
      (run : Run setting before acts after) (isLimit : fault.IsLimit)
      (reported : .fail fault ∈ acts)
      (logged : after.log = shared ++ [.located (.internal fault) position])
      (first : shared <+: log) : Cause setting before after log
  /-- The log was full. -/
  | errors {limit : Nat} (isLimit : setting.limits.errors = some limit)
      (isFull : after.log.length = max limit 1) (first : after.log <+: log) :
      Cause setting before after log

/-- A run ended where another one, which has no limits, goes on. -/
structure CutShort (setting : Setting σ) (before after full : Parser σ) : Prop where
  taken : after.taken <+: full.taken
  fits : Fits setting.limits after.log
  warned : full.Warned
  cause : Cause setting before after full.log

theorem CutShort.behind {acts : List Act} (run : Run setting before acts middle)
    (short : CutShort setting middle after full) : CutShort setting before after full where
  taken := short.taken
  fits := short.fits
  warned := short.warned
  cause := by
    cases short.cause with
    | fuel more isLimit reported logged first =>
        exact .fuel (run.append more) isLimit (List.mem_append_right _ reported) logged first
    | errors isLimit isFull first => exact .errors isLimit isFull first

/-- The run without limits goes on. -/
theorem CutShort.grow {last : Parser σ} (short : CutShort setting before after full)
    (grows : full.books.Grows last.books) : CutShort setting before after last where
  taken := short.taken.trans (grows.events.filterMap _)
  fits := short.fits
  warned := grows.warned short.warned
  cause := by
    cases short.cause with
    | fuel run isLimit reported logged first =>
        exact .fuel run isLimit reported logged (first.trans grows.log)
    | errors isLimit isFull first => exact .errors isLimit isFull (first.trans grows.log)

/-- A run that is cut short has logged something. -/
theorem CutShort.logged (short : CutShort setting before after full) : after.log ≠ [] := by
  cases short.cause with
  | fuel _ _ _ logged _ => simp [logged]
  | @errors limit _ isFull _ =>
      have positive : 0 < after.log.length :=
        Nat.lt_of_lt_of_le Nat.one_pos (isFull ▸ Nat.le_max_right limit 1)
      exact List.ne_nil_of_length_pos positive

/-- How a step under limits stands to the same step without them. -/
inductive Follows (setting : Setting σ) (before : Parser σ) :
    Except Halt α → Parser σ → Except Halt α → Parser σ → Prop where
  | same {outcome : Except Halt α} {after : Parser σ} (fits : Fits setting.limits after.log)
      (ready : outcome ≠ .error .abort → Ready setting.limits after) :
      Follows setting before outcome after outcome after
  | cut {outcome : Except Halt α} {after full : Parser σ}
      (short : CutShort setting before after full) :
      Follows setting before (.error .abort) after outcome full

theorem Follows.behind {acts : List Act} {outcome other : Except Halt α}
    (run : Run setting before acts middle)
    (follows : Follows setting middle outcome after other full) :
    Follows setting before outcome after other full := by
  cases follows with
  | same fits ready => exact .same fits ready
  | cut short => exact .cut (short.behind run)

theorem Ready.follows (ready : Ready setting.limits after) (outcome : Except Halt α) :
    Follows setting before outcome after outcome after :=
  .same ready.fits fun _ => ready

/-- From a state a step follows another one, which is not under limits. -/
def Mirrors (setting : Setting σ) (origin before : Parser σ) (step step' : Parse σ α) : Prop :=
  Follows setting origin (step.run.run before).1 (step.run.run before).2
    (step'.run.run before).1 (step'.run.run before).2

section

variable {origin next : Parser σ} {step step' : Parse σ β} {steps steps' : Parser σ → Parse σ β}

theorem Mirrors.behind {acts : List Act} (run : Run setting origin acts middle)
    (mirrors : Mirrors setting middle before step step') : Mirrors setting origin before step step' :=
  Follows.behind run mirrors

theorem mirrors_get (mirrors : Mirrors setting origin before (steps before) (steps' before)) :
    Mirrors setting origin before (get >>= steps) (get >>= steps') :=
  mirrors

theorem mirrors_set (mirrors : Mirrors setting origin next step step') :
    Mirrors setting origin before (do set next; step) (do set next; step') :=
  mirrors

end

/-! ## What the run without limits adds -/

/-- A step only adds to log and events. -/
def Extending (step : Parse σ α) : Prop :=
  ∀ before, before.Warned → Ensures step before fun _ after => before.books.Grows after.books

theorem ActsAs.extending {kind : Act → Prop} {step : Parse σ α} (acts : ActsAs setting kind step) :
    Extending step :=
  fun before warned => (acts before warned).mono fun _ _ ⟨_, run, _⟩ => run.grows

theorem extending_pure (value : α) : Extending (pure value : Parse σ α) :=
  fun _ _ => .refl _

theorem extending_throw (halt : Halt) : Extending (throw halt : Parse σ α) :=
  fun _ _ => .refl _

theorem extending_get : Extending (get : Parse σ (Parser σ)) :=
  fun _ _ => .refl _

theorem Extending.bind {step : Parse σ α} {next : α → Parse σ β} (first : Extending step)
    (more : ∀ value, Extending (next value)) : Extending (step >>= next) := by
  intro before warned
  apply (first before warned).bind
  · intro value middle grows
    apply (more value middle (grows.warned warned)).mono
    intro _ after further
    exact grows.trans further
  · exact fun _ _ grows => grows

theorem Extending.rescue {step : Parse σ α} {next : α → Parse σ β}
    {handler : Diagnostic → Parse σ β} (first : Extending step)
    (more : ∀ value, Extending (next value))
    (handled : ∀ diagnostic, Extending (handler diagnostic)) :
    Extending (rescue step next handler) := by
  have attempted : Extending (attempt step) := first
  apply attempted.bind
  intro outcome
  cases outcome with
  | ok value => exact more value
  | error halt =>
      cases halt with
      | mismatch diagnostic => exact handled diagnostic
      | abort => exact extending_throw _
      | unfinished => exact extending_throw _

theorem extending_spend : Extending (spend setting) := by
  intro before _
  apply ensures_spend_eq.mono
  rintro outcome after (⟨_, rfl, _⟩ | ⟨_, rfl, allowed⟩)
  · exact ⟨List.prefix_refl _, List.prefix_refl _, id⟩
  · exact (Act.turns allowed).grows

/-- Where an event is recorded nothing is taken back. -/
theorem grows_push (event : TraceEvent) {buffer : List Token} {recovery depth : Nat}
    (recovering : recovery ≤ before.recovery) : before.books.Grows
      { before with buffer, recovery, depth, trace := before.trace.push event : Parser σ }.books where
  log := List.prefix_refl _
  events := by simp [books]
  warned := fun warned positive => warned (Nat.lt_of_lt_of_le positive recovering)

theorem extending_consume : Extending (consume setting) := by
  apply extending_spend.bind
  rintro ⟨⟩ before _
  simp only [ensures_bind, ensures_get]
  cases before.buffer with
  | nil =>
      have allowed : (Act.fail .nothingBuffered).Allowed setting.limits before := ⟨nofun, nofun⟩
      exact (Act.turns allowed).grows
  | cons token rest => exact grows_push (.consume token) (Nat.sub_le _ 1)

theorem extending_drop (token : Token) : Extending (do
    spend setting
    modify fun parser => { parser with buffer := parser.buffer.tail }
    record (.skip token)
    return true) := by
  apply extending_spend.bind
  rintro ⟨⟩ before _
  exact grows_push (.skip token) (Nat.le_refl _)

theorem extending_skip : Extending (skip setting) := by
  apply (actsAs_peek 0).extending.bind
  rintro (_ | token)
  · exact extending_pure false
  · exact extending_drop token

/-- What is changed besides the errors does not matter. -/
theorem Ready.keep {limits : Limits} (ready : Ready limits before) (log : after.log = before.log)
    (recovery : after.recovery ≤ before.recovery) : Ready limits after where
  warned := fun positive => log ▸ ready.warned (Nat.lt_of_lt_of_le positive recovery)
  room := log ▸ ready.room

/-! ## Steps behind each other -/

/-- Going on behind a step is to look at its outcome. -/
theorem bind_eq_attempt (step : Parse σ α) (next : α → Parse σ β) :
    step >>= next = attempt step >>= fun outcome =>
      match outcome with
      | .ok value => next value
      | .error halt => throw halt := by
  funext before
  change (step >>= next).run.run before = (attempt step >>= _).run.run before
  rw [bind_run, attempt_bind_run]
  generalize (step.run.run before : Except Halt α × Parser σ) = result
  obtain ⟨outcome, after⟩ := result
  cases outcome with
  | ok value => rfl
  | error halt => rfl

/-- Steps that look at the outcomes of steps that follow each other. The state in between is
known to fulfil some facts. -/
theorem mirrors_attempt {origin : Parser σ} {step step' : Parse σ α}
    {next next' : Except Halt α → Parse σ β} {facts : Except Halt α → Parser σ → Prop}
    (acted : Ensures step before fun outcome middle =>
      (∃ acts, Run setting origin acts middle) ∧ facts outcome middle)
    (first : Mirrors setting origin before step step')
    (abort : next (.error .abort) = throw .abort) (abort' : next' (.error .abort) = throw .abort)
    (more : ∀ outcome middle, Ready setting.limits middle → facts outcome middle →
      Mirrors setting middle middle (next outcome) (next' outcome))
    (extending : ∀ outcome, Extending (next' outcome)) :
    Mirrors setting origin before (attempt step >>= next) (attempt step' >>= next') := by
  unfold Mirrors Ensures at *
  rw [attempt_bind_run, attempt_bind_run]
  generalize (step.run.run before : Except Halt α × Parser σ) = limited at *
  generalize (step'.run.run before : Except Halt α × Parser σ) = whole at *
  obtain ⟨outcome, after⟩ := limited
  obtain ⟨other, full⟩ := whole
  obtain ⟨⟨acts, run⟩, known⟩ := acted
  cases first with
  | same fits ready =>
      by_cases aborted : outcome = .error .abort
      · subst aborted
        dsimp only
        rw [abort, abort']
        exact .same fits fun goesOn => absurd rfl goesOn
      · exact (more outcome after (ready aborted) known).behind run
  | cut short =>
      dsimp only
      rw [abort]
      exact .cut (short.grow (extending other full short.warned))

/-- Steps behind steps that follow each other. -/
theorem mirrors_bind {origin : Parser σ} {step step' : Parse σ α} {next next' : α → Parse σ β}
    {facts : Except Halt α → Parser σ → Prop}
    (acted : Ensures step before fun outcome middle =>
      (∃ acts, Run setting origin acts middle) ∧ facts outcome middle)
    (first : Mirrors setting origin before step step')
    (more : ∀ value middle, Ready setting.limits middle → facts (.ok value) middle →
      Mirrors setting middle middle (next value) (next' value))
    (extending : ∀ value, Extending (next' value)) :
    Mirrors setting origin before (step >>= next) (step' >>= next') := by
  rw [bind_eq_attempt, bind_eq_attempt step']
  apply mirrors_attempt acted first rfl rfl
  · intro outcome middle ready known
    cases outcome with
    | ok value => exact more value middle ready known
    | error halt => exact ready.follows _
  · intro outcome
    cases outcome with
    | ok value => exact extending value
    | error halt => exact extending_throw halt

/-- What a step comes back with does not matter. -/
theorem Mirrors.map {origin : Parser σ} {step step' : Parse σ α}
    (first : Mirrors setting origin before step step') (change : α → β) :
    Mirrors setting origin before (do return change (← step)) (do return change (← step')) := by
  unfold Mirrors at *
  rw [bind_run, bind_run]
  generalize (step.run.run before : Except Halt α × Parser σ) = limited at *
  generalize (step'.run.run before : Except Halt α × Parser σ) = whole at *
  obtain ⟨outcome, after⟩ := limited
  obtain ⟨other, full⟩ := whole
  cases first with
  | same fits ready =>
      cases outcome with
      | ok value => exact (ready nofun).follows _
      | error halt =>
          refine .same fits fun goesOn => ready fun aborted => goesOn ?_
          obtain rfl := Except.error.inj aborted
          rfl
  | cut short =>
      cases other with
      | ok value => exact .cut short
      | error halt => exact .cut short

/-! ## Steps that are cut short -/

/-- A step of the descent under limits, and the same step without them. -/
structure Tracks (setting : Setting σ) (step step' : Parse σ α) : Prop where
  acts : ActsAs setting anyAct step
  extending : Extending step'
  mirrors : ∀ before, Ready setting.limits before → Mirrors setting before before step step'

theorem tracks_pure (value : α) : Tracks setting (pure value) (pure value) where
  acts := actsAs_pure value
  extending := extending_pure value
  mirrors := fun _ ready => ready.follows _

theorem tracks_throw {halt : Halt} (goesOn : halt ≠ .abort) :
    Tracks setting (throw halt : Parse σ α) (throw halt) where
  acts := actsAs_throw goesOn
  extending := extending_throw halt
  mirrors := fun _ ready => ready.follows _

theorem tracks_get : Tracks setting (get : Parse σ (Parser σ)) get where
  acts := actsAs_get
  extending := extending_get
  mirrors := fun _ ready => ready.follows _

/-- Whatever a step comes back with, it was a row of acts. -/
theorem Ensures.runs {kind : Act → Prop} {step : Parse σ α}
    (acted : Ensures step before (Acted setting kind before)) : Ensures step before
      fun _ middle => (∃ acts, Run setting before acts middle) ∧ True :=
  acted.mono fun _ _ ⟨acts, run, _⟩ => ⟨⟨acts, run⟩, trivial⟩

theorem Tracks.bind {step step' : Parse σ α} {next next' : α → Parse σ β}
    (first : Tracks setting step step') (more : ∀ value, Tracks setting (next value) (next' value)) :
    Tracks setting (step >>= next) (step' >>= next') where
  acts := first.acts.bind fun value => (more value).acts
  extending := first.extending.bind fun value => (more value).extending
  mirrors := fun before ready =>
    mirrors_bind (first.acts before ready.warned).runs (first.mirrors before ready)
      (fun value middle still _ => (more value).mirrors middle still)
      fun value => (more value).extending

theorem Tracks.rescue {step step' : Parse σ α} {next next' : α → Parse σ β}
    {handler handler' : Diagnostic → Parse σ β} (first : Tracks setting step step')
    (more : ∀ value, Tracks setting (next value) (next' value))
    (handled : ∀ diagnostic, Tracks setting (handler diagnostic) (handler' diagnostic)) :
    Tracks setting (rescue step next handler) (rescue step' next' handler') where
  acts := first.acts.rescue (fun value => (more value).acts) fun diagnostic =>
    (handled diagnostic).acts
  extending := first.extending.rescue (fun value => (more value).extending) fun diagnostic =>
    (handled diagnostic).extending
  mirrors := by
    intro before ready
    apply mirrors_attempt (first.acts before ready.warned).runs (first.mirrors before ready)
      rfl rfl
    · intro outcome middle still _
      cases outcome with
      | ok value => exact (more value).mirrors middle still
      | error halt =>
          cases halt with
          | mismatch diagnostic => exact (handled diagnostic).mirrors middle still
          | abort => exact still.follows _
          | unfinished => exact still.follows _
    · intro outcome
      cases outcome with
      | ok value => exact (more value).extending
      | error halt =>
          cases halt with
          | mismatch diagnostic => exact (handled diagnostic).extending
          | abort => exact extending_throw _
          | unfinished => exact extending_throw _

end Parser

end StrongLL
