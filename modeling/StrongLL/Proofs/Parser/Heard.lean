import StrongLL.Proofs.Parser.Recorded
import StrongLL.Proofs.Parser.Steps

/-!
# What a listener hears

A listener hears calls and nothing else, and all that it does depends on them. Calls are
nested where each node is told of when it begins, then all that is in it is told of, then that
it is complete, and where what the listener keeps of it is attached to the parent at once.
-/

namespace StrongLL

/-! ## Calls -/

namespace Listener

variable {σ : Type} (listener : Listener σ)

/-- The state of a listener behind a call. -/
def hear (state : σ) : Call → σ
  | .enter node => (listener.enter node state).1
  | .exit node => (listener.exit node state).1
  | .child parent node => (listener.child parent node state).1

/-- The state of a listener behind some calls. -/
def heard (state : σ) (calls : List Call) : σ := calls.foldl listener.hear state

theorem heard_append (state : σ) (calls more : List Call) :
    listener.heard state (calls ++ more) = listener.heard (listener.heard state calls) more :=
  List.foldl_append ..

/-- The call that attaches what is kept of a node to its parent, and the parent behind it. -/
def attachment (state : σ) (parent : Branch) : Option Node → List Call × Branch
  | none => ([], parent)
  | some kept => ([.child parent kept], (listener.child parent kept state).2.1)

/-- The calls from the moment on that a node is complete, and its parent behind them. -/
def completion (state : σ) (parent : Branch) (node : Node) : List Call × Branch :=
  let attached := listener.attachment (listener.hear state (.exit node)) parent
    (listener.close node state).2.2
  (.exit node :: attached.1, attached.2)

end Listener

/-- Calls fill a branch. Each node in it is told of from its beginning to its completion, with
what fills it in between, and is attached at once. Besides some productions are told of in
vain, of which only the beginning is heard. -/
inductive Nested {σ : Type} (listener : Listener σ) :
    (vain : Nat) → (state : σ) → (parent : Branch) → List Call → Branch → Prop where
  | nothing (state : σ) (parent : Branch) : Nested listener 0 state parent [] parent
  | leaf {vain : Nat} {state : σ} {parent branch last : Branch} {calls more : List Call}
      (before : Nested listener vain state parent calls branch) (token : Token) (name : String)
      (closes : listener.completion (listener.heard state (calls ++ [.enter (.leaf token name)]))
        branch (.leaf token name) = (more, last)) :
      Nested listener vain state parent (calls ++ .enter (.leaf token name) :: more) last
  | branch {vain within : Nat} {state : σ} {parent branch filled last : Branch}
      {calls inner more : List Call} (before : Nested listener vain state parent calls branch)
      (id : RuleId) (name : String)
      (inside : Nested listener within
        (listener.heard state (calls ++ [.enter (.branch id name [])])) ⟨id, name, []⟩ inner filled)
      (closes : listener.completion
        (listener.heard state (calls ++ .enter (.branch id name []) :: inner)) branch
          filled.toNode = (more, last)) :
      Nested listener (vain + within) state parent
        (calls ++ .enter (.branch id name []) :: (inner ++ more)) last
  | givenUp {vain : Nat} {state : σ} {parent branch : Branch} {calls : List Call}
      (before : Nested listener vain state parent calls branch) (id : RuleId) (name : String) :
      Nested listener (vain + 1) state parent (calls ++ [.enter (.branch id name [])]) branch

namespace Call

/-- Whether a node begins. -/
def isEnter : Call → Bool
  | .enter _ => true
  | _ => false

/-- Whether a node is complete. -/
def isExit : Call → Bool
  | .exit _ => true
  | _ => false

end Call

section

variable {σ : Type} {listener : Listener σ} {vain within : Nat} {state : σ}
  {parent branch last : Branch} {calls more : List Call}

theorem Nested.trans (first : Nested listener vain state parent calls branch)
    (later : Nested listener within (listener.heard state calls) branch more last) :
    Nested listener (vain + within) state parent (calls ++ more) last := by
  generalize start : listener.heard state calls = middle at later
  induction later with
  | nothing =>
      rw [List.append_nil]
      exact first
  | leaf _ token name closes ih =>
      subst start
      rw [← listener.heard_append, ← List.append_assoc] at closes
      rw [← List.append_assoc]
      exact (ih first rfl).leaf token name closes
  | branch _ id name inside closes ih _ =>
      subst start
      rw [← listener.heard_append, ← List.append_assoc] at inside closes
      rw [← List.append_assoc, ← Nat.add_assoc]
      exact (ih first rfl).branch id name inside closes
  | givenUp _ id name ih =>
      rw [← List.append_assoc, ← Nat.add_assoc]
      exact (ih first start).givenUp id name

theorem count_completion (node : Node)
    (closes : listener.completion state parent node = (more, last)) :
    more.countP Call.isEnter = 0 ∧ more.countP Call.isExit = 1 := by
  obtain ⟨rfl, _⟩ := Prod.mk.inj closes
  cases (listener.close node state).2.2 with
  | none => exact ⟨rfl, rfl⟩
  | some kept => exact ⟨rfl, rfl⟩

theorem count_enter (node : Node) : (Call.enter node :: more).countP Call.isEnter =
      more.countP Call.isEnter + 1 ∧
    (Call.enter node :: more).countP Call.isExit = more.countP Call.isExit :=
  ⟨List.countP_cons_of_pos rfl, List.countP_cons_of_neg (by simp [Call.isExit])⟩

/-- More nodes begin than are complete: those that are told of in vain. -/
theorem Nested.count (nested : Nested listener vain state parent calls branch) :
    calls.countP Call.isEnter = calls.countP Call.isExit + vain := by
  induction nested with
  | nothing => rfl
  | leaf _ token name closes ih =>
      obtain ⟨enters, exits⟩ := count_completion _ closes
      rw [List.countP_append, List.countP_append, (count_enter _).1, (count_enter _).2]
      omega
  | branch _ id name _ closes ih inner =>
      obtain ⟨enters, exits⟩ := count_completion _ closes
      rw [List.countP_append, List.countP_append, (count_enter _).1, (count_enter _).2,
        List.countP_append, List.countP_append]
      omega
  | givenUp _ id name ih =>
      rw [List.countP_append, List.countP_append, (count_enter _).1, (count_enter _).2,
        List.countP_nil, List.countP_nil]
      omega

end

namespace Parser

variable {σ α : Type} {setting : Setting σ} {before middle after : Parser σ}

/-! ## The calls among the acts -/

/-- The call that an act is, if it is one. -/
def Act.call? : Act → Option Call
  | .enter node => some (.enter node)
  | .exit node => some (.exit node)
  | .child parent node => some (.child parent node)
  | _ => none

/-- The calls among some acts. -/
def callsOf (acts : List Act) : List Call := acts.filterMap Act.call?

theorem callsOf_append (acts more : List Act) :
    callsOf (acts ++ more) = callsOf acts ++ callsOf more := List.filterMap_append

theorem callsOf_onInput {acts : List Act} (onInput : ∀ act ∈ acts, act.OnInput) :
    callsOf acts = [] := by
  refine List.filterMap_eq_nil_iff.mpr fun act member => ?_
  cases onInput act member <;> rfl

theorem listener_heed (answer : Except Diagnostic α) (parser : Parser σ) :
    (heed answer parser).listener = parser.listener := by
  cases answer <;> rfl

theorem listener_scanned (vocabulary : Vocabulary) (parser : Parser σ) :
    (scanned vocabulary parser).listener = parser.listener := by
  unfold scanned
  dsimp only
  split <;> rfl

/-- A listener hears the calls, and of nothing else. -/
theorem Run.listener_eq {acts : List Act} (run : Run setting before acts after) :
    after.listener = setting.listener.heard before.listener (callsOf acts) := by
  induction run with
  | done => rfl
  | @act before _ act _ _ _ ih =>
      rw [ih]
      cases act with
      | scan => exact congrArg (setting.listener.heard · _) (listener_scanned _ _)
      | enter node => exact congrArg (setting.listener.heard · _) (listener_heed _ _)
      | exit node => exact congrArg (setting.listener.heard · _) (listener_heed _ _)
      | child parent node => exact congrArg (setting.listener.heard · _) (listener_heed _ _)
      | mismatch => rfl
      | fail => rfl
      | consume => rfl
      | skip => rfl
      | openRule => rfl
      | closeRule => rfl
      | decide => rfl

/-! ## Calls that are kept -/

theorem heard_recorded (listener : Listener σ) (state : σ × List Call) (calls : List Call) :
    listener.recorded.heard state calls = (listener.heard state.1 calls, state.2 ++ calls) := by
  induction calls generalizing state with
  | nil => exact Prod.ext rfl (List.append_nil _).symm
  | cons call rest ih =>
      have step : listener.recorded.hear state call =
          (listener.hear state.1 call, state.2 ++ [call]) := by
        cases call <;> rfl
      refine (ih (listener.recorded.hear state call)).trans ?_
      rw [step, List.append_assoc]
      rfl

theorem close_recorded (listener : Listener σ) (state : σ × List Call) (node : Node) :
    (listener.recorded.close node state).2.2 = (listener.close node state.1).2.2 := by
  unfold Listener.close
  simp only [Listener.recorded]
  generalize listener.exit node state.1 = told
  obtain ⟨_, answer⟩ := told
  cases answer <;> rfl

theorem completion_recorded (listener : Listener σ) (state : σ × List Call) (parent : Branch)
    (node : Node) : listener.recorded.completion state parent node =
      listener.completion state.1 parent node := by
  unfold Listener.completion
  rw [close_recorded]
  cases (listener.close node state.1).2.2 <;> rfl

theorem nested_of_recorded {listener : Listener σ} {vain : Nat} {state : σ × List Call}
    {parent branch : Branch} {calls : List Call}
    (nested : Nested listener.recorded vain state parent calls branch) :
    Nested listener vain state.1 parent calls branch := by
  induction nested with
  | nothing state parent => exact .nothing state.1 parent
  | leaf _ token name closes ih =>
      rw [completion_recorded, heard_recorded] at closes
      exact ih.leaf token name closes
  | branch _ id name _ closes ih inner =>
      rw [completion_recorded, heard_recorded] at closes
      rw [heard_recorded] at inner
      exact ih.branch id name inner closes
  | givenUp _ id name ih => exact ih.givenUp id name

end Parser

end StrongLL
