import StrongLL.Proofs.Parser.Acts

/-!
# The chronicle of a parse

What counts for the suppression of errors is which errors are reported, by whom, and which
tokens are consumed in between. Along a row of acts these moments are noted in order. The log,
the events of the trace that tell of them, and the counter that decides on suppression can all
be read off this chronicle.
-/

namespace StrongLL

/-! ## Moments -/

/-- Where an error that is reported comes from. -/
inductive Origin where
  /-- The scanner gave it in place of a token. -/
  | lexical
  /-- The tokens do not fit the grammar. -/
  | syntactic
  /-- The listener refused a call. -/
  | listener
  /-- The parser could not go on itself. -/
  | internal
  deriving DecidableEq, Repr

/-- What happens to an error or to a token. -/
inductive Moment where
  | reported (origin : Origin) (diagnostic : Diagnostic) (suppressed : Bool)
  | consumed (token : Token)
  | skipped (token : Token)
  deriving DecidableEq, Repr

namespace Moment

/-- The event of a trace that tells of a moment. -/
def event : Moment → TraceEvent
  | reported _ diagnostic suppressed => .error diagnostic suppressed
  | consumed token => .consume token
  | skipped token => .skip token

/-- The error that is logged, if one is. -/
def logged? : Moment → Option Diagnostic
  | reported _ diagnostic false => some diagnostic
  | _ => none

def isConsumed : Moment → Bool
  | consumed _ => true
  | _ => false

/-- Whether an error comes with the input: from the scanner, or because it does not fit. -/
def isFromInput : Moment → Bool
  | reported .lexical _ _ | reported .syntactic _ _ => true
  | _ => false

/-- A lexical or syntax error is reported, whether or not it is suppressed. -/
def Opens : Moment → Prop
  | reported origin diagnostic _ =>
      (origin = .lexical ∨ origin = .syntactic) ∧ diagnostic.problem.isExternal = false
  | _ => False

/-- What a moment makes of the number of tokens that are still to be consumed until errors are
logged again. -/
def turn (left : Nat) (moment : Moment) : Nat :=
  if moment.isFromInput then Parser.recoveryTokens
  else if moment.isConsumed then left - 1
  else left

end Moment

/-- Whether an event tells of an error or of a token. -/
def TraceEvent.isNotable : TraceEvent → Bool
  | .error .. | .consume _ | .skip _ => true
  | _ => false

theorem Moment.isNotable_event (moment : Moment) : moment.event.isNotable = true := by
  cases moment <;> rfl

/-- How many tokens are left to be consumed behind some moments. -/
def window (left : Nat) (moments : List Moment) : Nat := moments.foldl Moment.turn left

theorem window_append (left : Nat) (earlier later : List Moment) :
    window left (earlier ++ later) = window (window left earlier) later := List.foldl_append

/-- Without an error in the input the tokens that are consumed are counted down. -/
theorem window_eq_sub {left : Nat} {moments : List Moment}
    (none : ∀ moment ∈ moments, moment.isFromInput = false) :
    window left moments = left - moments.countP Moment.isConsumed := by
  induction moments generalizing left with
  | nil => rfl
  | cons moment rest ih =>
      obtain ⟨first, others⟩ := List.forall_mem_cons.mp none
      have behind : window left (moment :: rest) = window (moment.turn left) rest := rfl
      rw [behind, ih others, List.countP_cons]
      unfold Moment.turn
      rw [first, if_neg Bool.false_ne_true]
      split
      · omega
      · rfl

/-- Of the moments of a kind one is the latest. -/
theorem exists_latest {moments : List Moment} {kind : Moment → Bool}
    (some : ∃ moment ∈ moments, kind moment = true) :
    ∃ first latest recent, moments = first ++ latest :: recent ∧ kind latest = true ∧
      ∀ moment ∈ recent, kind moment = false := by
  induction moments with
  | nil =>
      obtain ⟨_, never, _⟩ := some
      cases never
  | cons moment rest ih =>
      by_cases later : ∃ other ∈ rest, kind other = true
      · obtain ⟨first, latest, recent, rfl, isKind, none⟩ := ih later
        exact ⟨moment :: first, latest, recent, rfl, isKind, none⟩
      · obtain ⟨found, member, isKind⟩ := some
        rcases List.mem_cons.mp member with rfl | member
        · refine ⟨[], found, rest, rfl, isKind, fun other member => ?_⟩
          exact Bool.eq_false_iff.mpr fun isKind => later ⟨other, member, isKind⟩
        · exact absurd ⟨found, member, isKind⟩ later

/-- Tokens are left to be consumed exactly if fewer than three were since the latest error in
the input. -/
theorem window_pos_iff {moments : List Moment} :
    0 < window 0 moments ↔ ∃ first latest recent, moments = first ++ latest :: recent ∧
      latest.isFromInput = true ∧ (∀ moment ∈ recent, moment.isFromInput = false) ∧
        recent.countP Moment.isConsumed < Parser.recoveryTokens := by
  have since {first recent : List Moment} {latest : Moment} (isInput : latest.isFromInput = true)
      (none : ∀ moment ∈ recent, moment.isFromInput = false) :
      window 0 (first ++ latest :: recent) =
        Parser.recoveryTokens - recent.countP Moment.isConsumed := by
    have opened : window 0 (first ++ latest :: recent) = window Parser.recoveryTokens recent := by
      rw [window_append]
      exact congrArg (window · recent) (if_pos isInput)
    rw [opened, window_eq_sub none]
  constructor
  · intro positive
    by_cases some : ∃ moment ∈ moments, moment.isFromInput = true
    · obtain ⟨first, latest, recent, rfl, isInput, none⟩ := exists_latest some
      rw [since isInput none] at positive
      exact ⟨first, latest, recent, rfl, isInput, none, by omega⟩
    · have none : ∀ moment ∈ moments, moment.isFromInput = false := fun moment member =>
        Bool.eq_false_iff.mpr fun isInput => some ⟨moment, member, isInput⟩
      rw [window_eq_sub none, Nat.zero_sub] at positive
      cases positive
  · rintro ⟨first, latest, recent, rfl, isInput, none, few⟩
    rw [since isInput none]
    omega

namespace Parser

variable {σ α : Type} {setting : Setting σ} {before middle after : Parser σ}

/-- Whether an error that is reported now is suppressed. -/
def keepsBack (parser : Parser σ) (diagnostic : Diagnostic) : Bool :=
  0 < parser.recovery && !diagnostic.problem.isExternal

/-- The report of an error that a call to the listener or the scanner may come back with. -/
def reportOf (origin : Origin) (parser : Parser σ) : Except Diagnostic α → Option Moment
  | .ok _ => none
  | .error diagnostic => some (.reported origin diagnostic (parser.keepsBack diagnostic))

/-- The moment that an act is, if it is one. -/
def Act.moment? (setting : Setting σ) (parser : Parser σ) : Act → Option Moment
  | .scan => reportOf .lexical parser (parser.scanner.next setting.grammar.vocabulary).2
  | .enter node => reportOf .listener parser (setting.listener.enter node parser.listener).2
  | .exit node => reportOf .listener parser (setting.listener.exit node parser.listener).2
  | .child parent node =>
      reportOf .listener parser (setting.listener.child parent node parser.listener).2.2
  | .mismatch diagnostic =>
      some (.reported .syntactic diagnostic (parser.keepsBack diagnostic))
  | .fail fault =>
      let diagnostic := .located (.internal fault) parser.position
      some (.reported .internal diagnostic (parser.keepsBack diagnostic))
  | .consume token => some (.consumed token)
  | .skip token => some (.skipped token)
  | .openRule _ | .closeRule _ | .decide _ => none

/-- The moments of a row of acts. -/
def chronicle (setting : Setting σ) : (parser : Parser σ) → List Act → List Moment
  | _, [] => []
  | parser, act :: acts =>
      (act.moment? setting parser).toList ++ chronicle setting (act.apply setting parser) acts

/-! ## What can be read off -/

/-- The events of a trace that tell of errors and tokens. -/
def notable (parser : Parser σ) : List TraceEvent := parser.trace.toList.filter (·.isNotable)

/-- From one state to another just these moments came about, and whether an error was
suppressed was decided by those before it. -/
structure Chronicled (before : Parser σ) (moments : List Moment) (after : Parser σ) : Prop where
  log : after.log = before.log ++ moments.filterMap Moment.logged?
  events : after.notable = before.notable ++ moments.map Moment.event
  recovery : after.recovery = window before.recovery moments
  suppressed : ∀ earlier origin diagnostic suppressed later,
    moments = earlier ++ .reported origin diagnostic suppressed :: later →
      suppressed = (0 < window before.recovery earlier && !diagnostic.problem.isExternal : Bool)

theorem Chronicled.refl (parser : Parser σ) : Chronicled parser [] parser :=
  ⟨by simp, by simp, rfl, by simp⟩

theorem Chronicled.trans {first later : List Moment} (left : Chronicled before first middle)
    (right : Chronicled middle later after) : Chronicled before (first ++ later) after where
  log := by rw [right.log, left.log, List.filterMap_append, List.append_assoc]
  events := by rw [right.events, left.events, List.map_append, List.append_assoc]
  recovery := by rw [right.recovery, left.recovery, window_append]
  suppressed := by
    intro earlier origin diagnostic suppressed rest split
    obtain ⟨behind, rfl, shape⟩ | ⟨behind, rfl, shape⟩ := List.append_eq_append_iff.mp split
    · rw [window_append, ← left.recovery]
      exact right.suppressed behind origin diagnostic suppressed rest shape
    · cases behind with
      | nil =>
          rw [← List.append_nil earlier, ← left.recovery]
          exact right.suppressed [] origin diagnostic suppressed rest shape.symm
      | cons moment behind =>
          obtain ⟨rfl, rfl⟩ := List.cons.inj shape
          exact left.suppressed earlier origin diagnostic suppressed behind rfl

/-- A step that no moment tells of. -/
theorem chronicled_nothing (log : after.log = before.log)
    (recovery : after.recovery = before.recovery) (events : after.notable = before.notable) :
    Chronicled before [] after :=
  ⟨by rw [log, List.filterMap_nil, List.append_nil], by rw [events, List.map_nil, List.append_nil],
    recovery, by simp⟩

/-- A step of one moment. -/
theorem chronicled_single (moment : Moment)
    (log : after.log = before.log ++ moment.logged?.toList)
    (events : after.trace = before.trace.push moment.event)
    (recovery : after.recovery = moment.turn before.recovery)
    (suppressed : ∀ origin diagnostic suppressed,
      moment = .reported origin diagnostic suppressed → suppressed = before.keepsBack diagnostic) :
    Chronicled before [moment] after where
  log := by
    rw [log]
    cases shape : moment.logged? <;> simp [shape]
  events := by
    simp [notable, events, moment.isNotable_event]
  recovery := recovery
  suppressed := by
    intro earlier origin diagnostic flag later split
    obtain ⟨rfl, shape⟩ | ⟨_, never⟩ := List.append_eq_singleton_iff.mp split.symm
    · exact suppressed origin diagnostic flag (List.cons.inj shape).1.symm
    · cases never

/-- An error is reported. Only one in the input opens a time of recovery. -/
theorem chronicled_note (origin : Origin) (diagnostic : Diagnostic) {recovery : Nat}
    (opens : recovery = Moment.turn before.recovery
      (.reported origin diagnostic (before.keepsBack diagnostic))) :
    Chronicled before [.reported origin diagnostic (before.keepsBack diagnostic)]
      { before.note diagnostic with recovery } := by
  apply chronicled_single
  · have noted : ({ before.note diagnostic with recovery } : Parser σ).log =
        if before.keepsBack diagnostic then before.log else before.log ++ [diagnostic] := rfl
    rw [noted]
    cases before.keepsBack diagnostic <;> simp [Moment.logged?]
  · rfl
  · exact opens
  · rintro _ _ _ ⟨⟩
    rfl

theorem chronicled_stumble (origin : Origin) (isInput : origin = .lexical ∨ origin = .syntactic)
    (diagnostic : Diagnostic) :
    Chronicled before [.reported origin diagnostic (before.keepsBack diagnostic)]
      (stumble diagnostic before) := by
  apply chronicled_note
  rcases isInput with rfl | rfl <;> rfl

/-- What the listener answers is heeded. -/
theorem chronicled_heed (answer : Except Diagnostic α) (listener : σ) :
    Chronicled before (reportOf .listener before answer).toList
      (heed answer { before with listener }) := by
  cases answer with
  | ok value => exact chronicled_nothing rfl rfl rfl
  | error refusal =>
      have told : Chronicled before [] { before with listener } := chronicled_nothing rfl rfl rfl
      exact told.trans (chronicled_note .listener refusal rfl)

/-- An event that tells neither of an error nor of a token. -/
theorem chronicled_push {event : TraceEvent} (silent : event.isNotable = false) {depth : Nat} :
    Chronicled before [] { before with depth, trace := before.trace.push event } :=
  chronicled_nothing rfl rfl (by simp [notable, silent])

theorem Act.chronicled {act : Act} (allowed : act.Allowed setting.limits before) :
    Chronicled before (act.moment? setting before).toList (act.apply setting before) := by
  cases act with
  | scan =>
      unfold moment? apply scanned
      dsimp only
      match before.scanner.next setting.grammar.vocabulary with
      | (scanner, .ok (some token)) => exact chronicled_nothing rfl rfl rfl
      | (scanner, .ok none) => exact chronicled_nothing rfl rfl rfl
      | (scanner, .error diagnostic) =>
          have read : Chronicled before [] { before with scanner } :=
            chronicled_nothing rfl rfl rfl
          exact read.trans (chronicled_stumble .lexical (.inl rfl) diagnostic)
  | enter node => exact chronicled_heed _ _
  | exit node => exact chronicled_heed _ _
  | child parent node => exact chronicled_heed _ _
  | mismatch diagnostic => exact chronicled_stumble .syntactic (.inr rfl) diagnostic
  | fail fault => exact chronicled_note .internal _ rfl
  | consume token =>
      exact chronicled_single (.consumed token) (by simp [apply, Moment.logged?]) rfl rfl (by simp)
  | skip token =>
      exact chronicled_single (.skipped token) (by simp [apply, Moment.logged?]) rfl rfl (by simp)
  | openRule rule => exact chronicled_push rfl
  | closeRule rule => exact chronicled_push rfl
  | decide event =>
      obtain ⟨rule, index, depth, rfl⟩ | ⟨rule, count, again, rfl⟩ := allowed
      · exact chronicled_push rfl
      · exact chronicled_push rfl

/-- The chronicle of a run tells of it. -/
theorem Run.chronicled {acts : List Act} (run : Run setting before acts after) :
    Chronicled before (chronicle setting before acts) after := by
  induction run with
  | done parser => exact .refl parser
  | act allowed _ ih => exact (Act.chronicled allowed).trans ih

end Parser

end StrongLL
