import StrongLL.Proofs.LookAhead.Moves

/-!
# Runs of the search

A run follows moves to the end of input and takes the tokens of a word on the
way. What a stack runs through is what its frames stand for, followed by what may
follow its production behind first copies: derivations are followed by runs, and
each move of a run undoes a step of a derivation. In particular the branches of a
decision run through what can be ahead of them.
-/

namespace StrongLL

namespace Occurs

/-- Counting one more copy leaves one copy less to come. -/
theorem admits_nextCount_add {occurs : Occurs} {count more : Nat} :
    occurs.Admits (occurs.nextCount count + more) ↔ occurs.Admits (count + (more + 1)) := by
  simp only [admits_iff, nextCount]
  cases bound : occurs.max with
  | none =>
      simp only [reduceCtorEq, false_implies, implies_true, and_true]
      have least : (count + 1).min occurs.min =
          if count + 1 ≤ occurs.min then count + 1 else occurs.min := Nat.min_def
      rw [least]
      split <;> omega
  | some max =>
      simp only [Option.some.injEq, forall_eq']
      omega

end Occurs

/-- The greatest number of copies of its first element that a frame counts. -/
def Frame.limit : Frame → Nat
  | ⟨[], _⟩ => 0
  | ⟨element :: _, _⟩ => element.occurs.max.getD element.occurs.min

namespace Search

open RuleTable

variable {table : RuleTable} {start : RuleId}

/-- A stack runs through a word up to the end of input. -/
inductive Runs (table : RuleTable) (start : RuleId) : Stack → List TokenId → Prop where
  | finish {stack : Stack} (move : Moves table start stack .finish) : Runs table start stack []
  | silent {stack target : Stack} {word : List TokenId}
      (move : Moves table start stack (.silent target)) (run : Runs table start target word) :
      Runs table start stack word
  | shift {stack target : Stack} {token : TokenId} {word : List TokenId}
      (move : Moves table start stack (.shift token target))
      (run : Runs table start target word) : Runs table start stack (token :: word)

/-! ## What stacks stand for -/

/-- What the rest of an alternative derives, given the copies that are there. -/
inductive FrameYields (table : RuleTable) : Frame → List TokenId → Prop where
  | nothing (count : Nat) : FrameYields table ⟨[], count⟩ []
  | element {element : Element} {rest : Alternative} {count more : Nat}
      {first others : List TokenId} (admitted : element.occurs.Admits (count + more))
      (copies : table.Derives (.copies element.symbol more) first)
      (back : table.Derives (.row rest) others) :
      FrameYields table ⟨element :: rest, count⟩ (first ++ others)

/-- What frames derive one after the other. -/
inductive FramesYield (table : RuleTable) : List Frame → List TokenId → Prop where
  | nil : FramesYield table [] []
  | cons {frame : Frame} {below : List Frame} {first others : List TokenId}
      (yields : FrameYields table frame first) (more : FramesYield table below others) :
      FramesYield table (frame :: below) (first ++ others)

/-- What a stack derives: its frames, then what may follow its production. -/
def StackYields (table : RuleTable) (start : RuleId) (stack : Stack) (word : List TokenId) :
    Prop :=
  ∃ inner outer, FramesYield table stack.frames inner ∧
    table.Follows (table.IsRoot start) firstCopy stack.owner outer ∧ word = inner ++ outer

/-- A frame before any copy yields what its elements derive. -/
theorem frameYields_zero {elements : Alternative} {word : List TokenId} :
    FrameYields table ⟨elements, 0⟩ word ↔ table.Derives (.row elements) word := by
  constructor
  · intro yields
    cases yields with
    | nothing => exact .nothing
    | element admitted copies back => exact .element (by simpa using admitted) copies back
  · intro derived
    cases derived with
    | nothing => exact .nothing 0
    | element admitted copies more => exact .element (by simpa using admitted) copies more

/-! ## Derivations are followed by runs -/

/-- How runs follow a derivation of a piece: from where the piece lies on top of a
stack to where it is gone. -/
def Followed (table : RuleTable) (start : RuleId) (word : List TokenId) : Form → Prop
  | .symbol symbol => ∀ (element : Element) rest count below owner others,
      element.symbol = symbol → element.occurs.isFull count = false →
      Runs table start ⟨⟨element :: rest, element.occurs.nextCount count⟩ :: below, owner⟩ others →
      Runs table start ⟨⟨element :: rest, count⟩ :: below, owner⟩ (word ++ others)
  | .copies symbol more => ∀ (element : Element) rest count below owner others,
      element.symbol = symbol → element.occurs.Admits (count + more) →
      Runs table start ⟨⟨rest, 0⟩ :: below, owner⟩ others →
      Runs table start ⟨⟨element :: rest, count⟩ :: below, owner⟩ (word ++ others)
  | .row elements => ∀ below owner others,
      Runs table start ⟨below, owner⟩ others →
      Runs table start ⟨⟨elements, 0⟩ :: below, owner⟩ (word ++ others)

theorem followed_of_derives {form : Form} {word : List TokenId}
    (derived : table.Derives form word) : Followed table start word form := by
  induction derived with
  | token id =>
      intro element rest count below owner others symbol notFull run
      exact .shift (.token notFull symbol) run
  | rule chosen _ ih =>
      intro element rest count below owner others symbol notFull run
      exact .silent (.rule notFull symbol chosen) (ih _ owner others run)
  | noCopy symbol =>
      intro element rest count below owner others same admitted run
      exact .silent (.pass (by simpa using admitted.1)) run
  | @oneMore symbol more first others _ _ copyIH moreIH =>
      intro element rest count below owner behind same admitted run
      rw [List.append_assoc]
      apply copyIH element rest count below owner _ same
      · apply Occurs.isFull_eq_false_iff.mpr
        intro max bound
        have atMost := (Occurs.admits_iff.mp admitted).2 max bound
        omega
      · exact moreIH element rest _ below owner behind same
          (Occurs.admits_nextCount_add.mpr admitted) run
  | nothing =>
      intro below owner others run
      exact .silent .leave run
  | element admitted _ _ copiesIH moreIH =>
      intro below owner others run
      rw [List.append_assoc]
      exact copiesIH _ _ 0 below owner _ rfl (by simpa using admitted) (moreIH below owner _ run)

theorem runs_frames {frames : List Frame} {owner : RuleId} {inner outer : List TokenId}
    (yields : FramesYield table frames inner) (run : Runs table start ⟨[], owner⟩ outer) :
    Runs table start ⟨frames, owner⟩ (inner ++ outer) := by
  induction yields with
  | nil => exact run
  | cons top _ ih =>
      rw [List.append_assoc]
      cases top with
      | nothing => exact .silent .leave ih
      | element admitted copies back =>
          rw [List.append_assoc]
          exact followed_of_derives copies _ _ _ _ _ _ rfl admitted
            (followed_of_derives back _ _ _ ih)

theorem runs_of_follows {owner : RuleId} {word : List TokenId}
    (known : owner ∈ table.map (·.id))
    (follows : table.Follows (table.IsRoot start) firstCopy owner word) :
    Runs table start ⟨[], owner⟩ word := by
  induction follows with
  | finish isRoot => exact .finish (.finish known isRoot)
  | @behind parent id before rest element earlier later _ _ _ _ _ use refers looked admitted _ _
      more back _ ih =>
      obtain rfl : earlier = 0 := looked
      obtain ⟨rule, found, _⟩ := exists_rule_of_mem_alternatives use
      obtain ⟨inTable, same⟩ := mem_of_rule? found
      have parentKnown : parent ∈ table.map (·.id) := same ▸ List.mem_map_of_mem inTable
      refine .silent (.behind use refers) ?_
      have yields : FramesYield table [⟨element :: rest, element.occurs.nextCount 0⟩] _ :=
        .cons (.element (Occurs.admits_nextCount_add.mpr (by
          simpa [Nat.add_comm] using admitted)) more back) .nil
      simpa using runs_frames yields (ih parentKnown)

/-- What a stack derives it runs through. -/
theorem runs_of_yields {stack : Stack} {word : List TokenId}
    (known : stack.owner ∈ table.map (·.id)) (yields : StackYields table start stack word) :
    Runs table start stack word := by
  obtain ⟨inner, outer, frames, follows, rfl⟩ := yields
  exact runs_frames frames (runs_of_follows known follows)

/-! ## Moves undo steps of derivations -/

/-- The elements of a frame come from a well-formed table, and no more copies of the
first are counted than its bounds need. -/
structure FrameSound (table : RuleTable) (frame : Frame) : Prop where
  bounded : ∀ element ∈ frame.rest, element.occurs.isValid = true
  resolved : ∀ element ∈ frame.rest, ∀ id, element.symbol = .rule id → id ∈ table.map (·.id)
  count : frame.count ≤ frame.limit

theorem FrameSound.count_le_max {element : Element} {rest : Alternative} {count : Nat}
    (sound : FrameSound table ⟨element :: rest, count⟩) {max : Nat}
    (bound : element.occurs.max = some max) : count ≤ max := by
  simpa [Frame.limit, bound] using sound.count

/-- All frames of a stack are sound, and it has a production of the table. -/
structure StackSound (table : RuleTable) (stack : Stack) : Prop where
  frames : ∀ frame ∈ stack.frames, FrameSound table frame
  owner : stack.owner ∈ table.map (·.id)

theorem frameSound_of_mem (wellFormed : table.WellFormed) {id : RuleId}
    {alternative : Alternative} (chosen : alternative ∈ table.alternatives id)
    (part : Alternative) (sub : ∀ element ∈ part, element ∈ alternative) :
    FrameSound table ⟨part, 0⟩ where
  bounded element member := (wellFormed.of_mem_alternatives chosen (sub element member)).1
  resolved element member := (wellFormed.of_mem_alternatives chosen (sub element member)).2
  count := Nat.zero_le _

/-- One more copy of an element that is not full keeps a frame sound. -/
theorem FrameSound.nextCount {element : Element} {rest : Alternative} {count : Nat}
    (sound : FrameSound table ⟨element :: rest, count⟩)
    (notFull : element.occurs.isFull count = false) :
    FrameSound table ⟨element :: rest, element.occurs.nextCount count⟩ where
  bounded := sound.bounded
  resolved := sound.resolved
  count := by
    simp only [Frame.limit, Occurs.nextCount]
    cases bound : element.occurs.max with
    | none => exact Nat.min_le_right _ _
    | some max => exact Occurs.isFull_eq_false_iff.mp notFull max bound

theorem FrameSound.tail {element : Element} {rest : Alternative} {count : Nat}
    (sound : FrameSound table ⟨element :: rest, count⟩) : FrameSound table ⟨rest, 0⟩ where
  bounded other member := sound.bounded other (List.mem_cons_of_mem _ member)
  resolved other member := sound.resolved other (List.mem_cons_of_mem _ member)
  count := Nat.zero_le _

theorem Moves.sound (wellFormed : table.WellFormed) {stack target : Stack} {move : Move}
    (step : Moves table start stack move)
    (leads : move = .silent target ∨ ∃ token, move = .shift token target)
    (sound : StackSound table stack) : StackSound table target := by
  obtain ⟨frames, owner⟩ := sound
  cases step with
  | finish => simp at leads
  | @behind parent id before rest element use refers =>
      obtain rfl : _ = target := by simpa using leads
      obtain ⟨rule, found, _⟩ := exists_rule_of_mem_alternatives use
      obtain ⟨inTable, same⟩ := mem_of_rule? found
      refine ⟨?_, same ▸ List.mem_map_of_mem inTable⟩
      intro frame member
      obtain rfl := List.mem_singleton.mp member
      have begun := frameSound_of_mem wellFormed use (element :: rest)
        (fun other member => List.mem_append_right before member)
      exact begun.nextCount (Occurs.isFull_zero (begun.bounded element (by simp)))
  | leave =>
      obtain rfl : _ = target := by simpa using leads
      exact ⟨fun frame member => frames frame (by simp [member]), owner⟩
  | @pass element rest count below owner reached =>
      obtain rfl : _ = target := by simpa using leads
      have top := frames ⟨element :: rest, count⟩ (by simp)
      refine ⟨fun frame member => ?_, owner⟩
      rcases List.mem_cons.mp member with rfl | member
      · exact top.tail
      · exact frames frame (by simp [member])
  | @token element rest count below owner id notFull symbol =>
      obtain rfl : _ = target := by simpa using leads
      have top := frames ⟨element :: rest, count⟩ (by simp)
      refine ⟨fun frame member => ?_, owner⟩
      rcases List.mem_cons.mp member with rfl | member
      · exact top.nextCount notFull
      · exact frames frame (by simp [member])
  | @rule element rest count below owner id alternative notFull symbol chosen =>
      obtain rfl : _ = target := by simpa using leads
      have top := frames ⟨element :: rest, count⟩ (by simp)
      refine ⟨fun frame member => ?_, owner⟩
      rcases List.mem_cons.mp member with rfl | member
      · exact frameSound_of_mem wellFormed chosen _ fun _ inside => inside
      · rcases List.mem_cons.mp member with rfl | member
        · exact top.nextCount notFull
        · exact frames frame (by simp [member])

/-- What a stack runs through it derives. -/
theorem yields_of_runs (wellFormed : table.WellFormed) (productive : table.Productive)
    {stack : Stack} {word : List TokenId} (sound : StackSound table stack)
    (run : Runs table start stack word) : StackYields table start stack word := by
  induction run with
  | finish move =>
      cases move with
      | finish known isRoot => exact ⟨[], [], .nil, .finish isRoot, rfl⟩
  | silent move _ ih =>
      obtain ⟨inner, outer, frames, follows, rfl⟩ := ih (move.sound wellFormed (.inl rfl) sound)
      cases move with
      | @behind parent id before rest element use refers =>
          cases frames with
          | cons top below =>
              cases below
              cases top with
              | @element _ _ _ more first others admitted copies back =>
                  obtain ⟨front, frontDerived⟩ := exists_derives_part wellFormed productive use
                    before (fun other member => by simp [member])
                  refine ⟨[], _, .nil, .behind use refers rfl ?_ frontDerived (.noCopy _) copies
                    back follows, by simp⟩
                  simpa [Nat.add_comm] using Occurs.admits_nextCount_add.mp admitted
      | leave => exact ⟨_, _, .cons (.nothing _) frames, follows, rfl⟩
      | @pass element rest count below owner reached =>
          have top := sound.frames ⟨element :: rest, count⟩ (by simp)
          have admitted : element.occurs.Admits (count + 0) :=
            Occurs.admits_iff.mpr ⟨reached, fun _ bound => top.count_le_max bound⟩
          cases frames with
          | cons rest below =>
              exact ⟨_, _, .cons (.element admitted (.noCopy _) (frameYields_zero.mp rest)) below,
                follows, rfl⟩
      | rule notFull symbol chosen =>
          cases frames with
          | cons top below =>
              cases below with
              | cons next below =>
                  cases next with
                  | element admitted copies back =>
                      have copy := Derives.rule chosen (frameYields_zero.mp top)
                      refine ⟨_, _, .cons (.element (Occurs.admits_nextCount_add.mp admitted)
                        (.oneMore (symbol ▸ copy) copies) back) below, follows, by simp⟩
  | @shift stack target token word move _ ih =>
      obtain ⟨inner, outer, frames, follows, rfl⟩ :=
        ih (move.sound wellFormed (.inr ⟨token, rfl⟩) sound)
      cases move with
      | token notFull symbol =>
          cases frames with
          | cons top below =>
              cases top with
              | element admitted copies back =>
                  have copy : table.Derives (.symbol (.token token)) [token] := .token token
                  refine ⟨_, _, .cons (.element (Occurs.admits_nextCount_add.mp admitted)
                    (.oneMore (symbol ▸ copy) copies) back) below, follows, by simp⟩

end Search

end StrongLL
