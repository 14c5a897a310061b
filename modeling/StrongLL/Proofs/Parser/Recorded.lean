import StrongLL.Proofs.Parser.InStep

/-!
# The calls of a parse

Any listener can be made to keep the calls that it gets. Nothing else changes by that, so
what is kept are the calls of the parse with the listener itself.
-/

namespace StrongLL

/-- A call to a listener. -/
inductive Call where
  | enter (node : Node)
  | exit (node : Node)
  | child (parent : Branch) (node : Node)

/-- A listener that answers as another one does, and keeps the calls that it gets. -/
def Listener.recorded {σ : Type} (listener : Listener σ) : Listener (σ × List Call) where
  enter node state :=
    let told := listener.enter node state.1
    ((told.1, state.2 ++ [.enter node]), told.2)
  exit node state :=
    let told := listener.exit node state.1
    ((told.1, state.2 ++ [.exit node]), told.2)
  child parent node state :=
    let told := listener.child parent node state.1
    ((told.1, state.2 ++ [.child parent node]), told.2)

/-- A setting whose listener keeps the calls that it gets. -/
def Setting.recorded {σ : Type} (setting : Setting σ) : Setting (σ × List Call) where
  grammar := setting.grammar
  listener := setting.listener.recorded
  limits := setting.limits

namespace Parser

variable {σ : Type}

/-- A parser whose listener has not got any call yet. -/
def recorded (parser : Parser σ) : Parser (σ × List Call) :=
  { parser with listener := (parser.listener, []) }

/-- The calls of a parse to its listener, in order. -/
def calls (setting : Setting σ) (parser : Parser σ) : List Call :=
  (parse setting.recorded parser.recorded).1.listener.2

/-- Parsers that are the same but for the calls that one of them keeps -/
def recording (σ : Type) : Likeness (σ × List Call) σ where
  scanners := Eq
  listeners state listener := state.1 = listener
  logs := Eq
  traces := Eq
  events := Eq

theorem readsAlike_recording (setting : Setting σ) :
    ReadsAlike (recording σ) setting.recorded setting where
  vocabulary := rfl
  limits := rfl
  scanners := by
    rintro scanner _ rfl
    exact ⟨rfl, rfl⟩
  positions := fun _ _ same => congrArg Scanner.position same
  remaining := fun _ _ same => congrArg (·.cursor.remaining) same
  logs := fun _ _ diagnostic same => congrArg (· ++ [diagnostic]) same
  full := by
    rintro log _ rfl _ _
    exact Iff.rfl
  traces := by
    rintro trace _ event _ rfl rfl
    rfl
  error := fun _ _ => rfl
  consume := fun _ => rfl
  skip := fun _ => rfl

theorem parsesAlike_recording (setting : Setting σ) :
    ParsesAlike (recording σ) id setting.recorded setting := by
  apply parsesAlike_of_eq (readsAlike_recording setting) rfl fun _ => rfl
  · rintro node state _ rfl
    exact ⟨rfl, rfl⟩
  · rintro node state _ rfl
    exact ⟨rfl, rfl⟩
  · rintro parent node state _ rfl
    exact ⟨rfl, rfl⟩

/-- Keeping the calls changes nothing else. -/
theorem parse_recorded (setting : Setting σ) (parser : Parser σ) :
    (parse setting.recorded parser.recorded).2 = (parse setting parser).2 ∧
      Alike (recording σ) (parse setting.recorded parser.recorded).1 (parse setting parser).1 :=
  parse_alike (parsesAlike_recording setting) (fun _ _ => Iff.rfl)
    ⟨rfl, rfl, rfl, rfl, rfl, rfl, rfl, rfl, rfl⟩

end Parser

end StrongLL
