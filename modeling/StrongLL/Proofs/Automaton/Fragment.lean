import StrongLL.Proofs.Automaton.Path
import StrongLL.Proofs.Prelude
import StrongLL.Proofs.Regex.Language

/-!
# The languages of fragments

A fragment spans a region of the graph. What is spelled on the way from its entry to its
exit depends on the region only, and not on the moves that its exit gets later. Each
operator on fragments is an operator on their languages.
-/

open scoped Computability

namespace StrongLL

namespace Graph

variable {graph : Graph} {id : Nat}

/-! ## Changes of a graph -/

@[simp] theorem size_addState (graph : Graph) : graph.addState.1.size = graph.size + 1 := by
  simp [addState, size]

@[simp] theorem addState_id (graph : Graph) : graph.addState.2 = graph.size := rfl

/-- A state that is added is as one that is not there. -/
@[simp] theorem state_addState (graph : Graph) (id : Nat) :
    graph.addState.1.state id = graph.state id := by
  simp only [addState, state, Array.getD_eq_getD_getElem?, Array.getElem?_push]
  split
  · rename_i last
    rw [last, Array.getElem?_eq_none (Nat.le_refl _)]
    rfl
  · rfl

theorem state_modify (states : Array State) (source : Nat) (change : State → State) (id : Nat) :
    Graph.state ⟨states.modify source change⟩ id =
      if id = source ∧ source < states.size then change (Graph.state ⟨states⟩ id)
      else Graph.state ⟨states⟩ id := by
  simp only [state, Array.getD_eq_getD_getElem?, Array.getElem?_modify]
  by_cases same : source = id
  · subst same
    cases found : states[source]? with
    | none =>
        have outside := Array.getElem?_eq_none_iff.mp found
        simp [Nat.not_lt.mpr outside]
    | some here =>
        obtain ⟨inside, _⟩ := Array.getElem?_eq_some_iff.mp found
        simp [inside]
  · simp [same, Ne.symm same]

@[simp] theorem size_addEpsilon (graph : Graph) (source target : Nat) :
    (graph.addEpsilon source target).size = graph.size := by
  simp [addEpsilon, size]

@[simp] theorem size_addTransition (graph : Graph) (source : Nat) (charClass : CharClass)
    (target : Nat) : (graph.addTransition source charClass target).size = graph.size := by
  simp [addTransition, size]

@[simp] theorem size_accept (graph : Graph) (source pattern : Nat) :
    (graph.accept source pattern).size = graph.size := by
  simp [accept, size]

theorem state_addEpsilon {source : Nat} (inside : source < graph.size) (target id : Nat) :
    (graph.addEpsilon source target).state id = if id = source then
      { graph.state id with epsilons := (graph.state id).epsilons ++ [target] }
    else graph.state id := by
  rw [addEpsilon, state_modify]
  simp only [show source < graph.states.size from inside, and_true]

theorem state_addTransition {source : Nat} (inside : source < graph.size)
    (charClass : CharClass) (target id : Nat) :
    (graph.addTransition source charClass target).state id = if id = source then
      { graph.state id with
        transitions := (graph.state id).transitions ++ [⟨charClass, target⟩] }
    else graph.state id := by
  rw [addTransition, state_modify]
  simp only [show source < graph.states.size from inside, and_true]

theorem state_accept {source : Nat} (inside : source < graph.size) (pattern id : Nat) :
    (graph.accept source pattern).state id = if id = source then
      { graph.state id with accept := some pattern }
    else graph.state id := by
  rw [accept, state_modify]
  simp only [show source < graph.states.size from inside, and_true]

end Graph

namespace Fragment

/-! ## Fragments in a region -/

/-- The states of a region apart from the exit, which is the only way out. -/
def Inner (first bound exit id : Nat) : Prop := first ≤ id ∧ id < bound ∧ id ≠ exit

/-- In a graph a fragment is left by its exit only, with a text of its language, and each
text of its language leads there. -/
structure Runs (graph : Graph) (fragment : Fragment) (inner : Nat → Prop)
    (language : Language Char) : Prop where
  leaves : ∀ {moves text last}, ¬ inner last → graph.Walk moves fragment.entry text last →
    ∃ front rest fewer, fewer ≤ moves ∧ front ++ rest = text ∧ front ∈ language ∧
      graph.Walk fewer fragment.exit rest last
  passes : ∀ text ∈ language, graph.Path fragment.entry text fragment.exit

/-- A state leads to states of a region only, and accepts nothing. -/
structure Confined (first bound : Nat) (state : State) : Prop where
  silent : ∀ next ∈ state.epsilons, first ≤ next ∧ next < bound
  reading : ∀ transition ∈ state.transitions,
    first ≤ transition.target ∧ transition.target < bound
  accept : state.accept = none

/-- The states from `first` up to `bound` are a fragment for a language, also in a graph that
differs from this one outside of the region or in the moves of the exit. -/
structure Spans (graph : Graph) (first bound : Nat) (fragment : Fragment)
    (language : Language Char) : Prop where
  entry : first ≤ fragment.entry ∧ fragment.entry < bound
  exit : first ≤ fragment.exit ∧ fragment.exit < bound
  room : bound ≤ graph.size
  final : graph.state fragment.exit = {}
  confined : ∀ id, first ≤ id → id < bound → Confined first bound (graph.state id)
  runs : ∀ other : Graph,
    (∀ id, Inner first bound fragment.exit id → other.state id = graph.state id) →
      Runs other fragment (Inner first bound fragment.exit) language

/-- Fragments in neighbouring regions. -/
inductive SpansAll (graph : Graph) :
    (first bound : Nat) → List Fragment → List (Language Char) → Prop where
  | nil {first : Nat} (room : first ≤ graph.size) : SpansAll graph first first [] []
  | cons {first middle bound : Nat} {fragment : Fragment} {fragments : List Fragment}
      {language : Language Char} {languages : List (Language Char)}
      (spans : Spans graph first middle fragment language)
      (others : SpansAll graph middle bound fragments languages) :
      SpansAll graph first bound (fragment :: fragments) (language :: languages)

/-- A graph that got larger, with the states below `first` as they were. -/
structure Keeps (first : Nat) (before after : Graph) : Prop where
  size : before.size ≤ after.size
  state : ∀ id, id < first → after.state id = before.state id

/-- From `first` on there is now one fragment. -/
structure Builds (first : Nat) (before : Graph) (made : Graph × Fragment)
    (language : Language Char) : Prop where
  keeps : Keeps first before made.1
  spans : Spans made.1 first made.1.size made.2 language

/-- From `first` on there are now several fragments. -/
structure BuildsAll (first : Nat) (before : Graph) (made : Graph × List Fragment)
    (languages : List (Language Char)) : Prop where
  keeps : Keeps first before made.1
  spans : SpansAll made.1 first made.1.size made.2 languages

variable {graph before middle after : Graph} {first bound : Nat} {fragment left right : Fragment}
  {language leftLanguage rightLanguage : Language Char} {fragments : List Fragment}
  {languages : List (Language Char)}

theorem Keeps.refl (first : Nat) (graph : Graph) : Keeps first graph graph :=
  ⟨Nat.le_refl _, fun _ _ => rfl⟩

theorem Keeps.trans (former : Keeps first before middle) (latter : Keeps first middle after) :
    Keeps first before after :=
  ⟨Nat.le_trans former.size latter.size,
    fun id below => (latter.state id below).trans (former.state id below)⟩

theorem Keeps.mono {lower : Nat} (keeps : Keeps first before after) (le : lower ≤ first) :
    Keeps lower before after :=
  ⟨keeps.size, fun id below => keeps.state id (Nat.lt_of_lt_of_le below le)⟩

theorem Confined.mono {lower upper : Nat} {state : State} (confined : Confined first bound state)
    (below : lower ≤ first) (above : bound ≤ upper) : Confined lower upper state where
  silent next move := (confined.silent next move).imp (Nat.le_trans below)
    (Nat.lt_of_lt_of_le · above)
  reading transition move := (confined.reading transition move).imp (Nat.le_trans below)
    (Nat.lt_of_lt_of_le · above)
  accept := confined.accept

theorem confined_silent {targets : List Nat}
    (inside : ∀ next ∈ targets, first ≤ next ∧ next < bound) :
    Confined first bound { epsilons := targets } :=
  ⟨inside, fun _ move => (nomatch move), rfl⟩

/-- What is confined stays so where states are added behind. -/
theorem confined_wider {id upper : Nat}
    (confined : ∀ id, first ≤ id → id < graph.size → Confined first graph.size (graph.state id))
    (atLeast : first ≤ id) (room : graph.size ≤ upper) : Confined first upper (graph.state id) := by
  rcases Nat.lt_or_ge id graph.size with inside | outside
  · exact (confined id atLeast inside).mono (Nat.le_refl _) room
  · rw [Graph.state_of_size_le outside]
    exact confined_silent (by simp)

theorem Spans.of_same (spans : Spans before first bound fragment language)
    (room : bound ≤ after.size)
    (same : ∀ id, first ≤ id → id < bound → after.state id = before.state id) :
    Spans after first bound fragment language where
  entry := spans.entry
  exit := spans.exit
  room := room
  final := (same _ spans.exit.1 spans.exit.2).trans spans.final
  confined id atLeast below := same id atLeast below ▸ spans.confined id atLeast below
  runs other agrees := spans.runs other fun id inner =>
    (agrees id inner).trans (same id inner.1 inner.2.1)

theorem Spans.lt_bound (spans : Spans graph first bound fragment language) : first < bound :=
  Nat.lt_of_le_of_lt spans.entry.1 spans.entry.2

theorem SpansAll.le_bound (spans : SpansAll graph first bound fragments languages) :
    first ≤ bound := by
  induction spans with
  | nil => exact Nat.le_refl _
  | cons spans _ ih => exact Nat.le_trans (Nat.le_of_lt spans.lt_bound) ih

theorem SpansAll.room (spans : SpansAll graph first bound fragments languages) :
    bound ≤ graph.size := by
  induction spans with
  | nil room => exact room
  | cons _ _ ih => exact ih

theorem SpansAll.confined (spans : SpansAll graph first bound fragments languages) (id : Nat)
    (atLeast : first ≤ id) (below : id < bound) : Confined first bound (graph.state id) := by
  induction spans with
  | nil => omega
  | @cons first middle _ _ _ _ _ spans others ih =>
      have start := spans.lt_bound
      rcases Nat.lt_or_ge id middle with inside | outside
      · exact (spans.confined id atLeast inside).mono (Nat.le_refl _) others.le_bound
      · exact (ih outside below).mono (Nat.le_of_lt start) (Nat.le_refl _)

theorem SpansAll.of_same (spans : SpansAll before first bound fragments languages)
    (room : bound ≤ after.size)
    (same : ∀ id, first ≤ id → id < bound → after.state id = before.state id) :
    SpansAll after first bound fragments languages := by
  induction spans with
  | nil => exact .nil room
  | cons spans others ih =>
      have middle := others.le_bound
      have start := spans.lt_bound
      refine .cons (spans.of_same (by omega) fun id atLeast below => ?_)
        (ih room fun id atLeast below => ?_)
      · exact same id atLeast (by omega)
      · exact same id (by omega) below

/-! ## One character or none -/

theorem builds_epsilon (graph : Graph) : Builds graph.size graph (epsilon graph) 1 where
  keeps := ⟨by simp [epsilon], fun id _ => Graph.state_addState graph id⟩
  spans := by
    have whole : epsilon graph = (graph.addState.1, ⟨graph.size, graph.size⟩) := rfl
    have fresh : graph.state graph.size = {} := Graph.state_of_size_le (Nat.le_refl _)
    rw [whole]
    refine ⟨by simp, by simp, Nat.le_refl _, by simpa using fresh, fun id atLeast below => ?_,
      fun other _ => ⟨fun {moves text last} _ walk => ?_, fun text empty => ?_⟩⟩
    · obtain rfl : id = graph.size := by simp at below; omega
      rw [Graph.state_addState, fresh]
      exact confined_silent (by simp)
    · exact ⟨[], text, moves, Nat.le_refl _, rfl, rfl, walk⟩
    · obtain rfl := (Language.mem_one text).mp empty
      exact .here _

theorem builds_ofClass (charClass : CharClass) (graph : Graph) :
    Builds graph.size graph (ofClass charClass graph) (Regex.Expr.oneOf charClass) := by
  let after := (graph.addState.1.addState.1).addTransition graph.size charClass (graph.size + 1)
  have whole : ofClass charClass graph = (after, ⟨graph.size, graph.size + 1⟩) := by
    simp [ofClass, after]
  have size : after.size = graph.size + 2 := by simp [after]
  have shape : ∀ id, after.state id = if id = graph.size then
      { transitions := [⟨charClass, graph.size + 1⟩] } else graph.state id := by
    intro id
    rw [Graph.state_addTransition (by simp only [Graph.size_addState]; omega)]
    split
    · rename_i same
      simp [same, Graph.state_of_size_le (Nat.le_refl graph.size)]
    · simp
  rw [whole]
  refine ⟨⟨by simp only; omega, fun id below => ?_⟩, by simp only; omega, by simp only; omega,
    Nat.le_refl _, ?_, fun id atLeast below => ?_, fun other agrees => ?_⟩
  · rw [shape, if_neg (by omega)]
  · rw [shape, if_neg (by simp), Graph.state_of_size_le (by simp)]
  · rw [shape]
    split
    · refine ⟨fun _ move => (nomatch move), fun transition move => ?_, rfl⟩
      obtain rfl := List.mem_singleton.mp move
      simp only
      omega
    · rw [Graph.state_of_size_le (by omega)]
      exact confined_silent (by simp)
  · have entry : other.state graph.size = { transitions := [⟨charClass, graph.size + 1⟩] } := by
      rw [agrees graph.size ⟨Nat.le_refl _, by simp only; omega, by simp⟩, shape, if_pos rfl]
    refine ⟨fun {moves text last} outside walk => ?_, fun text member => ?_⟩
    · cases walk with
      | here => exact (outside ⟨Nat.le_refl _, by simp only; omega, by simp⟩).elim
      | silent move =>
          rw [entry] at move
          cases move
      | @read _ _ _ char text _ move inClass rest =>
          rw [entry] at move
          obtain rfl := List.mem_singleton.mp move
          exact ⟨[char], text, _, Nat.le_succ _, rfl,
            Regex.Expr.mem_oneOf.mpr ⟨char, inClass, rfl⟩, rest⟩
    · obtain ⟨char, inClass, rfl⟩ := Regex.Expr.mem_oneOf.mp member
      exact .read (by rw [entry]; exact List.mem_singleton_self _) inClass (.here _)

/-! ## Fragments in a row -/

/-- When the exit of one fragment leads to the entry of the next, both are one fragment. -/
theorem Spans.append {join : Nat} (former : Spans graph first join left leftLanguage)
    (latter : Spans graph join bound right rightLanguage) :
    Spans (graph.addEpsilon left.exit right.entry) first bound ⟨left.entry, right.exit⟩
      (leftLanguage * rightLanguage) := by
  have ⟨entryLeft, exitLeft⟩ := (⟨former.entry, former.exit⟩ : _ ∧ _)
  have ⟨entryRight, exitRight⟩ := (⟨latter.entry, latter.exit⟩ : _ ∧ _)
  have room := latter.room
  have shape : ∀ id, (graph.addEpsilon left.exit right.entry).state id =
      if id = left.exit then { epsilons := [right.entry] } else graph.state id := by
    intro id
    rw [Graph.state_addEpsilon (by omega)]
    split
    · rename_i same
      rw [same, former.final]
      rfl
    · rfl
  refine ⟨?_, ?_, by simpa using room, ?_, fun id atLeast below => ?_, fun other agrees => ?_⟩
  · simp only
    omega
  · simp only
    omega
  · rw [shape, if_neg (by simp only; omega), latter.final]
  · rw [shape]
    split
    · exact confined_silent (by simp; omega)
    · rcases Nat.lt_or_ge id join with inLeft | inRight
      · exact (former.confined id atLeast inLeft).mono (Nat.le_refl _) (by omega)
      · exact (latter.confined id inRight below).mono (by omega) (Nat.le_refl _)
  · have runsLeft := former.runs other fun id inner => by
      unfold Inner at inner
      rw [agrees id ⟨inner.1, by omega, by simp only; omega⟩, shape, if_neg inner.2.2]
    have runsRight := latter.runs other fun id inner => by
      unfold Inner at inner
      rw [agrees id ⟨by omega, inner.2.1, inner.2.2⟩, shape, if_neg (by omega)]
    have joint : other.state left.exit = { epsilons := [right.entry] } := by
      rw [agrees left.exit ⟨exitLeft.1, by omega, by simp only; omega⟩, shape, if_pos rfl]
    refine ⟨fun {moves text last} outside walk => ?_, fun text member => ?_⟩
    · unfold Inner at outside
      simp only at outside
      obtain ⟨front, rest, fewer, le, rfl, inLeft, walk⟩ :=
        runsLeft.leaves (by unfold Inner; omega) walk
      obtain ⟨next, member, even, lt, walk⟩ := walk.of_silent (by omega) joint
      obtain rfl := List.mem_singleton.mp member
      obtain ⟨more, others, least, le', rfl, inRight, walk⟩ :=
        runsRight.leaves (by unfold Inner; omega) walk
      exact ⟨front ++ more, others, least, by omega, by simp,
        Language.append_mem_mul inLeft inRight, walk⟩
    · obtain ⟨front, inLeft, rest, inRight, rfl⟩ := Language.mem_mul.mp member
      exact (runsLeft.passes front inLeft).append
        (.silent (by rw [joint]; exact List.mem_singleton_self _) (runsRight.passes rest inRight))

theorem spans_chain {join : Nat} {head : Fragment}
    (former : Spans graph first join head language)
    (others : SpansAll graph join bound fragments languages) :
    Spans (chain graph head.exit fragments).1 first bound
        ⟨head.entry, (chain graph head.exit fragments).2⟩ (language * languages.prod) ∧
      (chain graph head.exit fragments).1.size = graph.size ∧
        ∀ id, id < first → (chain graph head.exit fragments).1.state id = graph.state id := by
  induction fragments generalizing graph join head language languages with
  | nil =>
      cases others
      exact ⟨by simpa [chain] using former, rfl, fun _ _ => rfl⟩
  | cons next rest ih =>
      cases others with
      | @cons _ middle _ _ _ nextLanguage _ spans others =>
          have exit := former.exit
          have room := former.room
          have start := spans.lt_bound
          have same : ∀ id, id ≠ head.exit →
              (graph.addEpsilon head.exit next.entry).state id = graph.state id := by
            intro id differs
            rw [Graph.state_addEpsilon (by omega), if_neg differs]
          have boundRoom : bound ≤ (graph.addEpsilon head.exit next.entry).size := by
            rw [Graph.size_addEpsilon]
            exact others.room
          obtain ⟨whole, size, below⟩ := ih (former.append spans)
            (others.of_same boundRoom fun id atLeast _ => same id (by omega))
          refine ⟨?_, by simpa [chain] using size, fun id less => ?_⟩
          · rw [List.prod_cons, ← mul_assoc]
            exact whole
          · exact (below id less).trans (same id (by omega))

/-- A row of fragments is one fragment. -/
theorem builds_sequence (made : BuildsAll first before (graph, fragments) languages) :
    Builds first before (sequence graph fragments) languages.prod := by
  obtain ⟨keeps, spans⟩ := made
  simp only at keeps spans
  cases fragments with
  | nil =>
      cases spans
      obtain ⟨more, spans⟩ := builds_epsilon graph
      exact ⟨keeps.trans more, spans⟩
  | cons head rest =>
      cases spans with
      | cons former others =>
          obtain ⟨whole, size, below⟩ := spans_chain former others
          rw [List.prod_cons]
          exact ⟨keeps.trans ⟨Nat.le_of_eq size.symm, below⟩, size ▸ whole⟩

/-! ## Choices and repetitions -/

/-- Leaving a fragment that may begin again at its exit. -/
theorem leaves_loop {other : Graph} {inner : Nat → Prop} {body : Fragment} {exit : Nat}
    (runs : Runs other body inner language)
    (joint : other.state body.exit = { epsilons := [body.entry, exit] }) {last : Nat}
    (outside : ¬ inner last) (moved : body.exit ≠ last) {moves : Nat} {text : List Char}
    (walk : other.Walk moves body.entry text last) :
    ∃ front rest fewer, fewer ≤ moves ∧ front ++ rest = text ∧ front ∈ language * language∗ ∧
      other.Walk fewer exit rest last := by
  induction moves using Nat.strong_induction_on generalizing text with
  | _ moves ih =>
      obtain ⟨front, rest, fewer, le, rfl, member, walk⟩ := runs.leaves outside walk
      obtain ⟨next, target, even, lt, walk⟩ := walk.of_silent moved joint
      rcases List.mem_cons.mp target with rfl | target
      · obtain ⟨more, others, least, le', rfl, members, walk⟩ :=
          ih even (Nat.lt_of_lt_of_le lt le) walk
        refine ⟨front ++ more, others, least, by omega, by simp, ?_, walk⟩
        rw [← Language.one_add_self_mul_kstar_eq_kstar]
        exact Language.append_mem_mul member (.inr members)
      · obtain rfl := List.mem_singleton.mp target
        refine ⟨front, rest, even, by omega, rfl, ?_, walk⟩
        simpa using Language.append_mem_mul member (Language.nil_mem_kstar language)

/-- Passing a fragment that may begin again at its exit. -/
theorem passes_loop {other : Graph} {inner : Nat → Prop} {body : Fragment} {exit : Nat}
    (runs : Runs other body inner language)
    (joint : other.state body.exit = { epsilons := [body.entry, exit] }) {text : List Char}
    (member : text ∈ language * language∗) : other.Path body.entry text exit := by
  have again : ∀ parts : List (List Char), (∀ part ∈ parts, part ∈ language) →
      other.Path body.exit parts.flatten exit := by
    intro parts
    induction parts with
    | nil => exact fun _ => .silent (by rw [joint]; simp) (.here exit)
    | cons part rest ih =>
        intro members
        have first := runs.passes part (members part (by simp))
        have others := ih fun other inside => members other (by simp [inside])
        exact .silent (by rw [joint]; simp) (first.append others)
  obtain ⟨front, inside, rest, members, rfl⟩ := Language.mem_mul.mp member
  obtain ⟨parts, rfl, each⟩ := Language.mem_kstar.mp members
  exact (runs.passes front inside).append (again parts each)

/-- A fragment at least once. -/
theorem builds_plus {body : Fragment} (made : Builds first before (graph, body) language) :
    Builds first before (plus graph body) (language * language∗) := by
  obtain ⟨keeps, spans⟩ := made
  simp only at keeps spans
  have entry := spans.entry
  have exit := spans.exit
  let after := (graph.addState.1.addEpsilon body.exit body.entry).addEpsilon body.exit graph.size
  have whole : plus graph body = (after, ⟨body.entry, graph.size⟩) := by simp [plus, after]
  have size : after.size = graph.size + 1 := by simp [after]
  have shape : ∀ id, after.state id = if id = body.exit then
      { epsilons := [body.entry, graph.size] } else graph.state id := by
    intro id
    simp only [after]
    rw [Graph.state_addEpsilon (by simp; omega), Graph.state_addEpsilon (by simp; omega),
      Graph.state_addState]
    split
    · rename_i same
      rw [same, spans.final]
      rfl
    · rfl
  rw [whole]
  refine ⟨keeps.trans ⟨by simp only; omega, fun id below => ?_⟩, by simp only; omega,
    by simp only; omega, Nat.le_refl _, ?_, fun id atLeast below => ?_, fun other agrees => ?_⟩
  · rw [shape, if_neg (by omega)]
  · rw [shape, if_neg (by simp only; omega), Graph.state_of_size_le (Nat.le_refl _)]
  · rw [shape]
    split
    · exact confined_silent (by simp; omega)
    · exact confined_wider spans.confined atLeast (by simp only; omega)
  · have runs := spans.runs other fun id inner => by
      unfold Inner at inner
      rw [agrees id ⟨inner.1, by simp only; omega, by simp only; omega⟩, shape, if_neg inner.2.2]
    have joint : other.state body.exit = { epsilons := [body.entry, graph.size] } := by
      rw [agrees body.exit ⟨exit.1, by simp only; omega, by simp only; omega⟩, shape, if_pos rfl]
    refine ⟨fun {moves text last} outside walk => ?_, fun text => passes_loop runs joint⟩
    unfold Inner at outside
    simp only [size] at outside
    exact leaves_loop runs joint (by unfold Inner; omega) (by omega) walk

/-- What an operator leaves that surrounds a fragment with an entry and an exit of its own. -/
theorem builds_around {body : Fragment} (made : Builds first before (graph, body) language)
    (targets : List Nat) (known : ∀ target ∈ targets, target = body.entry ∨ target = graph.size + 1)
    (shape : ∀ id, after.state id = if id = body.exit then { epsilons := targets }
      else if id = graph.size then { epsilons := [body.entry, graph.size + 1] }
      else graph.state id)
    (size : after.size = graph.size + 2) {around : Language Char}
    (runs : ∀ other : Graph, Runs other body (Inner first graph.size body.exit) language →
      other.state body.exit = { epsilons := targets } →
      other.state graph.size = { epsilons := [body.entry, graph.size + 1] } →
      Runs other ⟨graph.size, graph.size + 1⟩ (Inner first (graph.size + 2) (graph.size + 1))
        around) : Builds first before (after, ⟨graph.size, graph.size + 1⟩) around := by
  obtain ⟨keeps, spans⟩ := made
  simp only at keeps spans
  have entry := spans.entry
  have exit := spans.exit
  refine ⟨keeps.trans ⟨by simp only; omega, fun id below => ?_⟩, by simp only; omega,
    by simp only; omega, Nat.le_refl _, ?_, fun id atLeast below => ?_, fun other agrees => ?_⟩
  · rw [shape, if_neg (by omega), if_neg (by omega)]
  · rw [shape, if_neg (by simp only; omega), if_neg (by simp),
      Graph.state_of_size_le (Nat.le_succ _)]
  · rw [shape]
    split
    · refine confined_silent fun target member => ?_
      rcases known target member with rfl | rfl
      · simp only
        omega
      · simp only
        omega
    · split
      · exact confined_silent (by simp; omega)
      · exact confined_wider spans.confined atLeast (by simp only; omega)
  · simp only [size] at agrees ⊢
    refine runs other (spans.runs other fun id inner => ?_) ?_ ?_
    · unfold Inner at inner
      rw [agrees id ⟨inner.1, by omega, by omega⟩, shape, if_neg inner.2.2, if_neg (by omega)]
    · rw [agrees body.exit ⟨exit.1, by omega, by omega⟩, shape, if_pos rfl]
    · rw [agrees graph.size ⟨by omega, by omega, by omega⟩, shape, if_neg (by omega), if_pos rfl]

/-- A fragment or nothing. -/
theorem builds_optional {body : Fragment} (made : Builds first before (graph, body) language) :
    Builds first before (optional graph body) (1 + language) := by
  have entry := made.spans.entry
  have exit := made.spans.exit
  have final := made.spans.final
  simp only at entry exit final
  have fresh := Graph.state_of_size_le (Nat.le_refl graph.size)
  let after := ((graph.addState.1.addState.1.addEpsilon graph.size body.entry).addEpsilon graph.size
    (graph.size + 1)).addEpsilon body.exit (graph.size + 1)
  have whole : optional graph body = (after, ⟨graph.size, graph.size + 1⟩) := by
    simp [optional, after]
  rw [whole]
  refine builds_around made [graph.size + 1] (by simp) (fun id => ?_) (by simp [after])
    fun other runs joint start => ⟨fun {moves text last} outside walk => ?_, fun text member => ?_⟩
  · have grown : graph.addState.1.addState.1.size = graph.size + 2 := by simp
    simp only [after]
    rw [Graph.state_addEpsilon (by simp only [Graph.size_addEpsilon]; omega),
      Graph.state_addEpsilon (by simp only [Graph.size_addEpsilon]; omega),
      Graph.state_addEpsilon (by omega), Graph.state_addState, Graph.state_addState]
    grind
  · unfold Inner at outside
    obtain ⟨next, target, fewer, lt, walk⟩ := walk.of_silent (by simp only; omega) start
    rcases List.mem_cons.mp target with rfl | target
    · obtain ⟨front, rest, even, le, rfl, member, walk⟩ :=
        runs.leaves (by unfold Inner; omega) walk
      obtain ⟨next, target, least, lt', walk⟩ := walk.of_silent (by omega) joint
      obtain rfl := List.mem_singleton.mp target
      exact ⟨front, rest, least, by omega, rfl, .inr member, walk⟩
    · obtain rfl := List.mem_singleton.mp target
      exact ⟨[], text, fewer, by omega, rfl, .inl rfl, walk⟩
  · rcases member with empty | member
    · obtain rfl := (Language.mem_one text).mp empty
      exact .silent (by rw [start]; simp) (.here _)
    · have leave : other.Path body.exit [] (graph.size + 1) :=
        .silent (by rw [joint]; simp) (.here _)
      have path := (runs.passes text member).append leave
      rw [List.append_nil] at path
      exact .silent (by rw [start]; simp) path

/-- A fragment any number of times. -/
theorem builds_star {body : Fragment} (made : Builds first before (graph, body) language) :
    Builds first before (star graph body) language∗ := by
  have entry := made.spans.entry
  have exit := made.spans.exit
  have final := made.spans.final
  simp only at entry exit final
  have fresh := Graph.state_of_size_le (Nat.le_refl graph.size)
  let after := (((graph.addState.1.addState.1.addEpsilon graph.size body.entry).addEpsilon
    graph.size (graph.size + 1)).addEpsilon body.exit body.entry).addEpsilon body.exit
      (graph.size + 1)
  have whole : star graph body = (after, ⟨graph.size, graph.size + 1⟩) := by
    simp [star, after]
  rw [whole]
  refine builds_around made [body.entry, graph.size + 1] (by simp) (fun id => ?_)
    (by simp [after])
    fun other runs joint start => ⟨fun {moves text last} outside walk => ?_, fun text member => ?_⟩
  · have grown : graph.addState.1.addState.1.size = graph.size + 2 := by simp
    simp only [after]
    rw [Graph.state_addEpsilon (by simp only [Graph.size_addEpsilon]; omega),
      Graph.state_addEpsilon (by simp only [Graph.size_addEpsilon]; omega),
      Graph.state_addEpsilon (by simp only [Graph.size_addEpsilon]; omega),
      Graph.state_addEpsilon (by omega), Graph.state_addState, Graph.state_addState]
    grind
  · unfold Inner at outside
    obtain ⟨next, target, fewer, lt, walk⟩ := walk.of_silent (by simp only; omega) start
    rcases List.mem_cons.mp target with rfl | target
    · obtain ⟨front, rest, even, le, rfl, member, walk⟩ :=
        leaves_loop runs joint (by unfold Inner; omega) (by omega) walk
      refine ⟨front, rest, even, by omega, rfl, ?_, walk⟩
      rw [← Language.one_add_self_mul_kstar_eq_kstar]
      exact .inr member
    · obtain rfl := List.mem_singleton.mp target
      exact ⟨[], text, fewer, by omega, rfl, Language.nil_mem_kstar language, walk⟩
  · rw [← Language.one_add_self_mul_kstar_eq_kstar] at member
    rcases member with empty | member
    · obtain rfl := (Language.mem_one text).mp empty
      exact .silent (by rw [start]; simp) (.here _)
    · exact .silent (by rw [start]; simp) (passes_loop runs joint member)

/-- A fragment among others. No other one is left within its region. -/
def PartOf (graph : Graph) (fragments : List Fragment) (first bound : Nat) (fragment : Fragment)
    (language : Language Char) : Prop :=
  ∃ lower upper, first ≤ lower ∧ upper ≤ bound ∧ Spans graph lower upper fragment language ∧
    ∀ other ∈ fragments, ¬ Inner lower upper fragment.exit other.exit

theorem SpansAll.exit_lt (spans : SpansAll graph first bound fragments languages) :
    ∀ fragment ∈ fragments, first ≤ fragment.exit ∧ fragment.exit < bound := by
  induction spans with
  | nil => simp
  | cons spans others ih =>
      have middle := others.le_bound
      have start := spans.lt_bound
      have exit := spans.exit
      intro fragment member
      rcases List.mem_cons.mp member with rfl | member
      · omega
      · have := ih fragment member
        omega

theorem SpansAll.nodup (spans : SpansAll graph first bound fragments languages) :
    (fragments.map Fragment.exit).Nodup := by
  induction spans with
  | nil => exact List.nodup_nil
  | cons spans others ih =>
      refine List.nodup_cons.mpr ⟨fun member => ?_, ih⟩
      obtain ⟨other, inside, same⟩ := List.mem_map.mp member
      have := others.exit_lt other inside
      have := spans.exit
      omega

theorem SpansAll.parts (spans : SpansAll graph first bound fragments languages) :
    List.Forall₂ (PartOf graph fragments first bound) fragments languages := by
  induction spans with
  | nil => exact .nil
  | @cons first middle _ head _ _ _ spans others ih =>
      have start := spans.lt_bound
      have exit := spans.exit
      refine .cons ⟨first, middle, Nat.le_refl _, others.le_bound, spans, fun other member => ?_⟩
        (ih.imp fun fragment language part => ?_)
      · unfold Inner
        rcases List.mem_cons.mp member with rfl | member
        · omega
        · have := others.exit_lt other member
          omega
      · obtain ⟨lower, upper, atLeast, atMost, spans, apart⟩ := part
        refine ⟨lower, upper, by omega, atMost, spans, fun other member => ?_⟩
        rcases List.mem_cons.mp member with rfl | member
        · unfold Inner
          omega
        · exact apart other member

theorem mem_sum {text : List Char} :
    text ∈ languages.sum ↔ ∃ language ∈ languages, text ∈ language := by
  induction languages with
  | nil => simp
  | cons first rest ih => rw [List.sum_cons, Language.mem_add, ih, List.exists_mem_cons_iff]

/-- A common entry leads to all branches, and they all lead to a common exit. -/
theorem state_join {entry exit : Nat} (entryRoom : entry < graph.size)
    (rooms : ∀ branch ∈ fragments, branch.exit < graph.size ∧ branch.exit ≠ entry)
    (finals : ∀ branch ∈ fragments, graph.state branch.exit = {})
    (nodup : (fragments.map Fragment.exit).Nodup) :
    (join entry exit graph fragments).size = graph.size ∧
      ∀ id, (join entry exit graph fragments).state id =
        if id = entry then { graph.state entry with
          epsilons := (graph.state entry).epsilons ++ fragments.map Fragment.entry }
        else if id ∈ fragments.map Fragment.exit then { epsilons := [exit] }
        else graph.state id := by
  induction fragments generalizing graph with
  | nil => exact ⟨rfl, fun id => by simp +contextual [join]⟩
  | cons head rest ih =>
      obtain ⟨headRoom, notEntry⟩ := rooms head (by simp)
      obtain ⟨single, nodup⟩ := List.nodup_cons.mp nodup
      have headFinal := finals head (by simp)
      let next := (graph.addEpsilon entry head.entry).addEpsilon head.exit exit
      have shape : ∀ id, next.state id = if id = head.exit then { epsilons := [exit] }
          else if id = entry then { graph.state entry with
            epsilons := (graph.state entry).epsilons ++ [head.entry] }
          else graph.state id := by
        intro id
        simp only [next]
        rw [Graph.state_addEpsilon (by simpa using headRoom), Graph.state_addEpsilon entryRoom]
        grind
      have size : next.size = graph.size := by simp [next]
      obtain ⟨sameSize, states⟩ := @ih next (size ▸ entryRoom)
        (fun branch member => size ▸ rooms branch (by simp [member]))
        (fun branch member => by
          have differs : branch.exit ≠ head.exit := fun same =>
            single (List.mem_map.mpr ⟨branch, member, same⟩)
          rw [shape, if_neg differs, if_neg (rooms branch (by simp [member])).2,
            finals branch (by simp [member])])
        nodup
      refine ⟨sameSize.trans size, fun id => ?_⟩
      rw [show join entry exit graph (head :: rest) = join entry exit next rest from rfl, states id,
        shape, shape]
      simp only [List.map_cons, List.mem_cons]
      grind

/-- A state that leads into several fragments, which all lead on to one state, makes them one
fragment for their texts together. -/
theorem runs_joined {other : Graph} {entry exit : Nat} {inner : Nat → Prop}
    (begin : other.state entry = { epsilons := fragments.map Fragment.entry })
    (finish : ∀ branch ∈ fragments, other.state branch.exit = { epsilons := [exit] })
    (runs : List.Forall₂ (fun branch language => ∃ part : Nat → Prop,
      (∀ id, part id → inner id) ∧ Runs other branch part language) fragments languages)
    (within : inner entry) (among : ∀ branch ∈ fragments, inner branch.exit) :
    Runs other ⟨entry, exit⟩ inner languages.sum := by
  refine ⟨fun {moves text last} outside walk => ?_, fun text member => ?_⟩
  · have moved : ∀ {id}, inner id → id ≠ last := fun inside same => outside (same ▸ inside)
    obtain ⟨next, target, fewer, lt, walk⟩ := walk.of_silent (moved within) begin
    obtain ⟨branch, inside, rfl⟩ := List.mem_map.mp target
    obtain ⟨language, listed, part, apart, runs⟩ := exists_of_mem_right runs.flip inside
    obtain ⟨front, rest, even, le, rfl, member, walk⟩ :=
      runs.leaves (outside ∘ apart last) walk
    obtain ⟨next, target, least, lt', walk⟩ :=
      walk.of_silent (moved (among branch inside)) (finish branch inside)
    rw [List.mem_singleton.mp target] at walk
    exact ⟨front, rest, least, by omega, rfl, mem_sum.mpr ⟨language, listed, member⟩, walk⟩
  · obtain ⟨language, listed, member⟩ := mem_sum.mp member
    obtain ⟨branch, inside, part, _, runs⟩ := exists_of_mem_right runs listed
    have leave : other.Path branch.exit [] exit :=
      .silent (by rw [finish branch inside]; simp) (.here _)
    have path := (runs.passes text member).append leave
    rw [List.append_nil] at path
    exact .silent (by rw [begin]; exact List.mem_map_of_mem inside) path

/-- One of several fragments. -/
theorem builds_alternation (made : BuildsAll first before (graph, fragments) languages) :
    Builds first before (alternation graph fragments) languages.sum := by
  obtain ⟨keeps, spans⟩ := made
  simp only at keeps spans
  have start := spans.le_bound
  have exits := spans.exit_lt
  let grown := graph.addState.1.addState.1
  let after := join graph.size (graph.size + 1) grown fragments
  have whole : alternation graph fragments = (after, ⟨graph.size, graph.size + 1⟩) := by
    simp [alternation, after, grown]
  have finals : ∀ branch ∈ fragments, grown.state branch.exit = {} := by
    intro branch member
    obtain ⟨language, _, lower, upper, _, _, spans, _⟩ :=
      exists_of_mem_right spans.parts.flip member
    simpa [grown] using spans.final
  obtain ⟨size, shape⟩ := @state_join grown fragments graph.size (graph.size + 1)
    (by simp only [grown, Graph.size_addState]; omega) (fun branch member => by
      have := exits branch member
      simp only [grown, Graph.size_addState]
      omega) finals spans.nodup
  have grownState : ∀ id, grown.state id = graph.state id := by simp [grown]
  have fresh := Graph.state_of_size_le (Nat.le_refl graph.size)
  simp only [grownState, fresh, List.nil_append] at shape
  have total : after.size = graph.size + 2 := by simp [after, size, grown]
  have exitOf : ∀ id, id ∈ fragments.map Fragment.exit → first ≤ id ∧ id < graph.size := by
    intro id member
    obtain ⟨branch, inside, rfl⟩ := List.mem_map.mp member
    exact exits branch inside
  rw [whole]
  refine ⟨keeps.trans ⟨by simp only; omega, fun id below => ?_⟩, by simp only; omega,
    by simp only; omega, Nat.le_refl _, ?_, fun id atLeast below => ?_, fun other agrees => ?_⟩
  · rw [shape, if_neg (by omega), if_neg fun member => by have := exitOf id member; omega]
  · simp only
    rw [shape, if_neg (by omega), if_neg fun member => by have := exitOf _ member; omega,
      Graph.state_of_size_le (Nat.le_succ _)]
  · rw [shape]
    split
    · refine confined_silent fun target member => ?_
      obtain ⟨branch, inside, rfl⟩ := List.mem_map.mp member
      obtain ⟨language, _, lower, upper, _, _, spans, _⟩ :=
        exists_of_mem_right spans.parts.flip inside
      have := spans.entry
      simp only
      omega
    · split
      · exact confined_silent (by simp; omega)
      · exact confined_wider spans.confined atLeast (by simp only; omega)
  · simp only [total] at agrees ⊢
    have begin : other.state graph.size = { epsilons := fragments.map Fragment.entry } := by
      rw [agrees graph.size ⟨start, by omega, by omega⟩, shape, if_pos rfl]
    have finish : ∀ branch ∈ fragments,
        other.state branch.exit = { epsilons := [graph.size + 1] } := by
      intro branch member
      have := exits branch member
      rw [agrees branch.exit ⟨this.1, by omega, by omega⟩, shape, if_neg (by omega),
        if_pos (List.mem_map_of_mem member)]
    have runs : List.Forall₂ (fun branch language => ∃ part : Nat → Prop,
        (∀ id, part id → Inner first (graph.size + 2) (graph.size + 1) id) ∧
          Runs other branch part language) fragments languages := by
      refine spans.parts.imp fun branch language part => ?_
      obtain ⟨lower, upper, atLeast, atMost, spans, apart⟩ := part
      have bounds : ∀ id, Inner lower upper branch.exit id → first ≤ id ∧ id < graph.size :=
        fun id inner => ⟨atLeast.trans inner.1, Nat.lt_of_lt_of_le inner.2.1 atMost⟩
      refine ⟨_, fun id inner => ?_, spans.runs other fun id inner => ?_⟩
      · have := bounds id inner
        unfold Inner
        omega
      have := bounds id inner
      rw [agrees id ⟨this.1, by omega, by omega⟩, shape, if_neg (by omega), if_neg]
      intro member
      obtain ⟨exited, inside, rfl⟩ := List.mem_map.mp member
      exact apart exited inside inner
    refine runs_joined begin finish runs (by unfold Inner; omega) fun branch member => ?_
    have := exits branch member
    unfold Inner
    omega

end Fragment

end StrongLL
