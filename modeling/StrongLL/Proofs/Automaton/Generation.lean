import Mathlib.Data.Finset.Card
import StrongLL.Automaton.LongestMatch
import StrongLL.Proofs.Automaton.GenerationQueue
import StrongLL.Proofs.Automaton.Path

/-!
# Generations of the simulation

A generation visits exactly the states that the characters read so far lead to, whatever
the matcher was used for before: no stamp is greater than that of the present generation,
so the stamps that were left behind never look like visits of the next one.
-/

namespace StrongLL

/-- All moves lead to states that are there. -/
structure Automaton.InRange (automaton : Automaton) : Prop where
  silent : ∀ id, ∀ next ∈ (automaton.state id).epsilons, next < automaton.size
  reading : ∀ id, ∀ transition ∈ (automaton.state id).transitions,
    transition.target < automaton.size

/-- Only states that are there have moves, so it is enough to look at these. -/
theorem Automaton.inRange_of_states {automaton : Automaton}
    (each : ∀ state ∈ automaton.states, (∀ next ∈ state.epsilons, next < automaton.size) ∧
      ∀ transition ∈ state.transitions, transition.target < automaton.size) :
    automaton.InRange := by
  have known : ∀ id, automaton.state id ∈ automaton.states ∨ automaton.state id = {} := by
    intro id
    rw [Graph.state, Array.getD_eq_getD_getElem?]
    cases found : automaton.states[id]? with
    | none => exact .inr rfl
    | some state => exact .inl (Array.mem_of_getElem? found)
  refine ⟨fun id next move => ?_, fun id transition move => ?_⟩
  · rcases known id with member | dead
    · exact (each _ member).1 next move
    · simp [dead] at move
  · rcases known id with member | dead
    · exact (each _ member).2 transition move
    · simp [dead] at move

/-- The least pattern that some of the states accept, if any. -/
def Automaton.Prefers (automaton : Automaton) (among : Nat → Prop) : Option Nat → Prop
  | none => ∀ id, among id → (automaton.state id).accept = none
  | some pattern => (∃ id, among id ∧ (automaton.state id).accept = some pattern) ∧
      ∀ id other, among id → (automaton.state id).accept = some other → pattern ≤ other

namespace Matcher

variable {automaton : Automaton} {matcher before after : Matcher} {accepted : Option Nat}

/-! ## Stamps -/

/-- The present generation has visited the state. -/
def Visited (matcher : Matcher) (id : Nat) : Prop := matcher.seen[id]? = some matcher.stamp

instance (matcher : Matcher) (id : Nat) : Decidable (matcher.Visited id) :=
  inferInstanceAs (Decidable (_ = _))

/-- No state was visited by a generation that is yet to come. -/
def Sound (matcher : Matcher) : Prop :=
  ∀ (id : Nat) (stamp : UInt32), matcher.seen[id]? = some stamp → stamp ≤ matcher.stamp

theorem Sound.withQueue (sound : matcher.Sound) (queue : GenerationQueue Nat) :
    Sound { matcher with queue } := sound

theorem sound_fresh : fresh.Sound := by
  intro id stamp found
  simp [fresh] at found

theorem Sound.reserve (sound : matcher.Sound) (size : Nat) : (matcher.reserve size).Sound := by
  intro id stamp found
  simp only [Matcher.reserve, Array.getElem?_append, Array.getElem?_replicate] at found
  split at found
  · exact sound id stamp found
  · obtain ⟨_, same⟩ := Option.ite_none_right_eq_some.mp found
    exact Option.some.inj same ▸ UInt32.zero_le

theorem size_reserve (matcher : Matcher) (size : Nat) :
    size ≤ (matcher.reserve size).seen.size := by
  simp only [Matcher.reserve, Array.size_append, Array.size_replicate]
  omega

/-- A generation that begins has visited nothing yet. When the stamps are used up, all
earlier visits are forgotten. -/
theorem Sound.nextStamp (sound : matcher.Sound) :
    matcher.nextStamp.Sound ∧ ∀ id, ¬ matcher.nextStamp.Visited id := by
  unfold Matcher.nextStamp
  simp only
  split
  · refine ⟨fun id stamp found => ?_, fun id visited => ?_⟩
    · rw [Array.getElem?_map] at found
      obtain ⟨_, _, rfl⟩ := Option.map_eq_some_iff.mp found
      exact UInt32.zero_le
    · rw [Visited, Array.getElem?_map] at visited
      obtain ⟨_, _, never⟩ := Option.map_eq_some_iff.mp visited
      cases never
  · rename_i notLast
    have grows : matcher.stamp < matcher.stamp + 1 := by
      have positive : (matcher.stamp + 1).toNat ≠ 0 := fun zero => notLast (UInt32.toNat.inj zero)
      have bound := matcher.stamp.toNat_lt
      rw [UInt32.toNat_add] at positive
      rw [UInt32.lt_iff_toNat_lt, UInt32.toNat_add]
      simp only [UInt32.toNat_one] at positive ⊢
      omega
    refine ⟨fun id stamp found => ?_, fun id visited => ?_⟩
    · exact UInt32.le_trans (sound id stamp found) (UInt32.le_of_lt grows)
    · exact absurd (sound id _ visited) (UInt32.not_le.mpr grows)

theorem size_nextStamp (matcher : Matcher) : matcher.nextStamp.seen.size = matcher.seen.size := by
  unfold Matcher.nextStamp
  simp only
  split <;> simp

theorem queue_nextStamp (matcher : Matcher) : matcher.nextStamp.queue = matcher.queue := by
  unfold Matcher.nextStamp
  simp only
  split <;> rfl

/-! ## Growing generations -/

/-- What visiting more states leaves as it is. -/
structure Grows (before after : Matcher) : Prop where
  stamp : after.stamp = before.stamp
  size : after.seen.size = before.seen.size
  current : after.queue.current = before.queue.current
  sound : before.Sound → after.Sound

theorem Grows.refl (matcher : Matcher) : Grows matcher matcher := ⟨rfl, rfl, rfl, id⟩

theorem Grows.trans {middle : Matcher} (first : Grows before middle) (others : Grows middle after) :
    Grows before after :=
  ⟨others.stamp.trans first.stamp, others.size.trans first.size,
    others.current.trans first.current, others.sound ∘ first.sound⟩

theorem grows_visit (matcher : Matcher) (id : Nat) (state : State) :
    Grows matcher (matcher.visit id state) := by
  refine ⟨rfl, by simp [visit], ?_, fun sound other stamp found => ?_⟩
  · simp only [visit]
    split <;> simp
  · simp only [visit, Array.set!_eq_setIfInBounds, Array.getElem?_setIfInBounds] at found
    split at found
    · obtain ⟨_, same⟩ := Option.ite_none_right_eq_some.mp found
      exact Option.some.inj same ▸ UInt32.le_refl _
    · exact sound other stamp found

theorem grows_close (automaton : Automaton) (fuel : Nat) (matcher : Matcher)
    (pending : List Nat) (accepted : Option Nat) :
    Grows matcher (close automaton fuel matcher pending accepted).1 := by
  induction fuel generalizing matcher pending accepted with
  | zero => exact .refl matcher
  | succ fuel ih =>
      unfold close
      split
      · exact .refl matcher
      · exact (grows_visit matcher _ _).trans (ih _ _ _)

theorem grows_enter (automaton : Automaton) (matcher : Matcher) (id : Nat)
    (accepted : Option Nat) : Grows matcher (enter automaton matcher id accepted).1 :=
  grows_close automaton _ matcher [id] accepted

theorem follow_cons (automaton : Automaton) (char : Char) (transition : Transition)
    (rest : List Transition) (matcher : Matcher) (accepted : Option Nat) :
    follow automaton char (transition :: rest) matcher accepted =
      if transition.charClass.contains char then
        follow automaton char rest (enter automaton matcher transition.target accepted).1
          (enter automaton matcher transition.target accepted).2
      else follow automaton char rest matcher accepted := rfl

theorem grows_follow (automaton : Automaton) (char : Char) (transitions : List Transition)
    (matcher : Matcher) (accepted : Option Nat) :
    Grows matcher (follow automaton char transitions matcher accepted).1 := by
  induction transitions generalizing matcher accepted with
  | nil => exact .refl matcher
  | cons transition rest ih =>
      rw [follow_cons]
      split
      · exact (grows_enter automaton matcher _ accepted).trans (ih _ _)
      · exact ih matcher accepted

theorem sound_move (automaton : Automaton) (char : Char) (count : Nat) {matcher : Matcher}
    (accepted : Option Nat) (sound : matcher.Sound) :
    (move automaton char count matcher accepted).1.Sound := by
  induction count generalizing matcher accepted with
  | zero => exact sound
  | succ count ih =>
      unfold move
      split
      · exact sound
      · exact ih _ ((grows_follow automaton char _ _ accepted).sound (sound.withQueue _))

theorem sound_generation (automaton : Automaton) (char : Char) (sound : matcher.Sound) :
    (matcher.generation automaton char).1.Sound :=
  sound_move automaton char _ none (sound.withQueue matcher.queue.markEnd).nextStamp.1

theorem sound_run (automaton : Automaton) (fuel : Nat) {matcher : Matcher} (cursor : Cursor)
    (length : Nat) (best : Option Match) (sound : matcher.Sound) :
    (run automaton fuel matcher cursor length best).1.Sound := by
  induction fuel generalizing matcher cursor length best with
  | zero => exact sound
  | succ fuel ih =>
      unfold run
      split
      · exact sound
      · split
        · exact sound
        · exact sound
        · exact ih _ _ _ (sound_generation automaton _ sound)

/-- A matcher that is about to enter the start of an automaton. -/
def opened (automaton : Automaton) (matcher : Matcher) : Matcher :=
  { (matcher.reserve automaton.size).nextStamp with
    queue := (matcher.reserve automaton.size).nextStamp.queue.clear }

theorem longestMatch_eq (automaton : Automaton) (matcher : Matcher) (cursor : Cursor) :
    longestMatch automaton matcher cursor = run automaton (cursor.remaining + 1)
      (enter automaton (matcher.opened automaton) automaton.start none).1 cursor 0 none := rfl

theorem sound_opened (automaton : Automaton) (sound : matcher.Sound) :
    (matcher.opened automaton).Sound ∧ ∀ id, ¬ (matcher.opened automaton).Visited id :=
  (sound.reserve automaton.size).nextStamp

/-- Whatever a matcher is used for, it can be used again. -/
theorem sound_longestMatch (automaton : Automaton) (cursor : Cursor) (sound : matcher.Sound) :
    (longestMatch automaton matcher cursor).1.Sound := by
  rw [longestMatch_eq]
  apply sound_run
  exact (grows_enter automaton _ _ none).sound (sound_opened automaton sound).1

/-! ## Silent moves -/

/-- The states of a generation that are not visited yet. -/
def unvisited (automaton : Automaton) (matcher : Matcher) : Finset Nat :=
  (Finset.range automaton.size).filter fun id => ¬ matcher.Visited id

/-- What is known of a generation while some states are pending: those that read characters
are queued, the least accepted pattern is at hand, and silent moves lead to no other
states. -/
structure Gathers (automaton : Automaton) (matcher : Matcher) (accepted : Option Nat)
    (pending : List Nat) : Prop where
  room : automaton.size ≤ matcher.seen.size
  queued : ∀ id, id ∈ matcher.queue.next ↔
    matcher.Visited id ∧ (automaton.state id).transitions ≠ []
  least : automaton.Prefers matcher.Visited accepted
  closed : ∀ id, matcher.Visited id → ∀ next ∈ (automaton.state id).epsilons,
    matcher.Visited next ∨ next ∈ pending

theorem hasSeen_iff {id : Nat} (inside : id < matcher.seen.size) :
    matcher.hasSeen id = true ↔ matcher.Visited id := by
  simp [hasSeen, Visited, Array.getElem?_eq_getElem inside]

theorem lt_size_of_not_hasSeen {id : Nat} (unseen : matcher.hasSeen id = false) :
    id < matcher.seen.size := by
  by_contra outside
  simp [hasSeen, Array.getElem?_eq_none (Nat.le_of_not_lt outside)] at unseen

/-- The pending states that are dropped were seen before. -/
theorem skipSeen_spec (matcher : Matcher) (pending : List Nat) :
    ∃ front, pending = front ++ matcher.skipSeen pending ∧
      (∀ id ∈ front, matcher.hasSeen id = true) ∧
        ∀ id rest, matcher.skipSeen pending = id :: rest → matcher.hasSeen id = false := by
  induction pending with
  | nil => exact ⟨[], rfl, by simp, by simp [skipSeen]⟩
  | cons first rest ih =>
      unfold skipSeen
      split
      · rename_i seen
        obtain ⟨front, shape, dropped, unseen⟩ := ih
        refine ⟨first :: front, by rw [List.cons_append, ← shape], ?_, unseen⟩
        simpa using ⟨seen, dropped⟩
      · rename_i unseen
        refine ⟨[], rfl, by simp, fun id others shape => ?_⟩
        obtain ⟨rfl, rfl⟩ := List.cons.inj shape
        simpa using unseen

theorem visited_visit {id : Nat} (inside : id < matcher.seen.size) (state : State) (other : Nat) :
    (matcher.visit id state).Visited other ↔ other = id ∨ matcher.Visited other := by
  simp only [Visited, visit, Array.set!_eq_setIfInBounds, Array.getElem?_setIfInBounds]
  by_cases same : id = other
  · subst same
    simp [inside]
  · simp [same, Ne.symm same]

/-- A state that is visited is queued if it reads characters. -/
theorem mem_next_visit {id other : Nat} {state : State} :
    other ∈ (matcher.visit id state).queue.next ↔
      (other = id ∧ state.transitions ≠ []) ∨ other ∈ matcher.queue.next := by
  simp only [visit, ne_eq, ← List.isEmpty_iff]
  split
  · simp [*]
  · simp [*, or_comm]

/-- One more state may accept a lesser pattern. -/
theorem prefers_visit {among among' : Nat → Prop} {id : Nat}
    (more : ∀ other, among' other ↔ other = id ∨ among other)
    (least : automaton.Prefers among accepted) :
    automaton.Prefers among' (Matcher.least accepted (automaton.state id).accept) := by
  cases accepted with
  | none =>
      cases here : (automaton.state id).accept with
      | none =>
          intro other member
          rcases (more other).mp member with rfl | member
          · exact here
          · exact least other member
      | some pattern =>
          refine ⟨⟨id, (more id).mpr (.inl rfl), here⟩, fun other found member accepts => ?_⟩
          rcases (more other).mp member with rfl | member
          · exact Nat.le_of_eq (Option.some.inj (here.symm.trans accepts))
          · simp [least other member] at accepts
  | some pattern =>
      obtain ⟨⟨holder, member, accepts⟩, smallest⟩ := least
      have kept : ∃ other, among' other ∧ (automaton.state other).accept = some pattern :=
        ⟨holder, (more holder).mpr (.inr member), accepts⟩
      cases here : (automaton.state id).accept with
      | none =>
          refine ⟨kept, fun other found member accepts => ?_⟩
          rcases (more other).mp member with rfl | member
          · simp [here] at accepts
          · exact smallest other found member accepts
      | some lesser =>
          refine ⟨?_, fun other found member accepts => ?_⟩
          · rcases Nat.le_total pattern lesser with order | order
            · rwa [Nat.min_eq_left order]
            · rw [Nat.min_eq_right order]
              exact ⟨id, (more id).mpr (.inl rfl), here⟩
          · rcases (more other).mp member with rfl | member
            · obtain rfl := Option.some.inj (here.symm.trans accepts)
              exact Nat.min_le_right _ _
            · exact Nat.le_trans (Nat.min_le_left _ _) (smallest other found member accepts)

/-- A pending state that is visited leaves its silent moves pending. -/
theorem Gathers.visit {front rest : List Nat} {id : Nat}
    (gathers : Gathers automaton matcher accepted (front ++ id :: rest))
    (seen : ∀ other ∈ front, matcher.Visited other) (unseen : matcher.hasSeen id = false) :
    Gathers automaton (matcher.visit id (automaton.state id))
      (Matcher.least accepted (automaton.state id).accept)
      ((automaton.state id).epsilons ++ rest) := by
  have inside := lt_size_of_not_hasSeen unseen
  have more := visited_visit inside (automaton.state id)
  have notVisited : ¬ matcher.Visited id := by
    rw [← hasSeen_iff inside, unseen]
    decide
  refine ⟨?_, fun other => ?_, prefers_visit more gathers.least, fun other visited next move => ?_⟩
  · rw [(grows_visit matcher id _).size]
    exact gathers.room
  · rw [more, mem_next_visit, gathers.queued]
    by_cases same : other = id
    · subst same
      simp [notVisited]
    · simp [same]
  · rcases (more other).mp visited with rfl | visited
    · exact .inr (List.mem_append_left _ move)
    · rcases gathers.closed other visited next move with visited | member
      · exact .inl ((more next).mpr (.inr visited))
      · rcases List.mem_append.mp member with member | member
        · exact .inl ((more next).mpr (.inr (seen next member)))
        · rcases List.mem_cons.mp member with rfl | member
          · exact .inl ((more next).mpr (.inl rfl))
          · exact .inr (List.mem_append_right _ member)

/-- Where nothing is pending, silent moves do not leave what is visited. -/
theorem Gathers.silently (gathers : Gathers automaton matcher accepted []) {source last : Nat}
    (visited : matcher.Visited source) (path : automaton.Silently source last) :
    matcher.Visited last := by
  induction path with
  | refl => exact visited
  | tail _ move ih => exact (gathers.closed _ ih _ move).resolve_right List.not_mem_nil

theorem unvisited_visit {id : Nat} (inside : id < automaton.size)
    (slot : id < matcher.seen.size) (notVisited : ¬ matcher.Visited id) (state : State) :
    (unvisited automaton (matcher.visit id state)).card < (unvisited automaton matcher).card := by
  apply Finset.card_lt_card
  rw [Finset.ssubset_iff_of_subset]
  · exact ⟨id, by simp [unvisited, inside, notVisited],
      by simp [unvisited, visited_visit slot state]⟩
  · intro other member
    simp only [unvisited, Finset.mem_filter, visited_visit slot state, not_or] at member ⊢
    exact ⟨member.1, member.2.2⟩

theorem Gathers.visited_of_hasSeen {pending : List Nat}
    (gathers : Gathers automaton matcher accepted pending) {id : Nat} (inside : id < automaton.size)
    (seen : matcher.hasSeen id = true) : matcher.Visited id :=
  (hasSeen_iff (Nat.lt_of_lt_of_le inside gathers.room)).mp seen

/-- Where all pending states are visited already, nothing is left to do. -/
theorem Gathers.finished {pending : List Nat}
    (gathers : Gathers automaton matcher accepted pending)
    (all : ∀ id ∈ pending, matcher.Visited id) :
    Gathers automaton matcher accepted [] ∧ ∀ id, matcher.Visited id ↔
      matcher.Visited id ∨ ∃ source ∈ pending, automaton.Silently source id := by
  have closed : Gathers automaton matcher accepted [] :=
    { gathers with
      closed := fun id visited next move =>
        .inl ((gathers.closed id visited next move).elim (fun found => found) (all next)) }
  refine ⟨closed, fun id => ⟨.inl, ?_⟩⟩
  rintro (visited | ⟨source, member, path⟩)
  · exact visited
  · exact closed.silently (all source member) path

/-- What is visited from behind a step is what is visited from in front of it. -/
theorem Gathers.of_step {last : Matcher} {id : Nat} {front rest : List Nat}
    {among : Nat → Prop} (closed : Gathers automaton last accepted [])
    (more : ∀ other, among other ↔ other = id ∨ matcher.Visited other)
    (seen : ∀ other ∈ front, matcher.Visited other)
    (visited : ∀ other, last.Visited other ↔ among other ∨
      ∃ source ∈ (automaton.state id).epsilons ++ rest, automaton.Silently source other)
    (other : Nat) : last.Visited other ↔
      matcher.Visited other ∨ ∃ source ∈ front ++ id :: rest, automaton.Silently source other := by
  constructor
  · intro found
    rcases (visited other).mp found with found | ⟨source, member, path⟩
    · rcases (more other).mp found with rfl | found
      · exact .inr ⟨other, by simp, .refl⟩
      · exact .inl found
    · rcases List.mem_append.mp member with move | member
      · exact .inr ⟨id, by simp, .head move path⟩
      · exact .inr ⟨source, by simp [member], path⟩
  · have early : ∀ {state}, matcher.Visited state → last.Visited state := fun found =>
      (visited _).mpr (.inl ((more _).mpr (.inr found)))
    rintro (found | ⟨source, member, path⟩)
    · exact early found
    · -- All that was pending is visited in the end, and so is what it leads to.
      refine closed.silently ?_ path
      rcases List.mem_append.mp member with member | member
      · exact early (seen source member)
      · rcases List.mem_cons.mp member with rfl | member
        · exact (visited source).mpr (.inl ((more source).mpr (.inl rfl)))
        · exact (visited source).mpr (.inr ⟨source, List.mem_append_right _ member, .refl⟩)

/-- Following silent moves visits all that they lead to, and nothing else. -/
theorem gathers_close (inRange : automaton.InRange) {fuel : Nat} {pending : List Nat}
    (gathers : Gathers automaton matcher accepted pending)
    (known : ∀ id ∈ pending, id < automaton.size)
    (enough : (unvisited automaton matcher).card ≤ fuel) :
    Gathers automaton (close automaton fuel matcher pending accepted).1
        (close automaton fuel matcher pending accepted).2 [] ∧
      ∀ id, (close automaton fuel matcher pending accepted).1.Visited id ↔
        matcher.Visited id ∨ ∃ source ∈ pending, automaton.Silently source id := by
  induction fuel generalizing matcher pending accepted with
  | zero =>
      have none : unvisited automaton matcher = ∅ := Finset.card_eq_zero.mp (Nat.le_zero.mp enough)
      apply gathers.finished
      intro id member
      by_contra notVisited
      have among : id ∈ unvisited automaton matcher := by
        simp [unvisited, known id member, notVisited]
      simp [none] at among
  | succ fuel ih =>
      obtain ⟨front, shape, dropped, unseen⟩ := skipSeen_spec matcher pending
      unfold close
      split
      · rename_i skipped
        rw [skipped, List.append_nil] at shape
        subst shape
        exact gathers.finished fun id member =>
          gathers.visited_of_hasSeen (known id member) (dropped id member)
      · rename_i id rest skipped
        rw [skipped] at shape
        subst shape
        have inside : id < automaton.size := known id (by simp)
        have slot := Nat.lt_of_lt_of_le inside gathers.room
        have fresh := unseen id rest skipped
        have notVisited : ¬ matcher.Visited id := by
          rw [← hasSeen_iff slot, fresh]
          decide
        have more := visited_visit slot (automaton.state id)
        have seen : ∀ other ∈ front, matcher.Visited other := fun other member =>
          gathers.visited_of_hasSeen (known other (List.mem_append_left _ member))
            (dropped other member)
        have knownNext : ∀ other ∈ (automaton.state id).epsilons ++ rest,
            other < automaton.size := by
          intro other member
          rcases List.mem_append.mp member with member | member
          · exact inRange.silent id other member
          · exact known other (by simp [member])
        have fewer := unvisited_visit inside slot notVisited (automaton.state id)
        obtain ⟨closed, visited⟩ := ih (gathers.visit seen fresh) knownNext (by omega)
        exact ⟨closed, closed.of_step more seen visited⟩

/-- A generation that has visited nothing is complete. -/
theorem gathers_nothing (room : automaton.size ≤ matcher.seen.size)
    (fresh : ∀ id, ¬ matcher.Visited id) (empty : matcher.queue.next = []) :
    Gathers automaton matcher none [] := by
  refine ⟨room, fun id => ?_, fun id visited => (fresh id visited).elim,
    fun id visited => (fresh id visited).elim⟩
  rw [empty]
  exact iff_of_false List.not_mem_nil fun found => fresh id found.1

theorem Gathers.weaken (gathers : Gathers automaton matcher accepted []) (pending : List Nat) :
    Gathers automaton matcher accepted pending :=
  { gathers with
    closed := fun id visited next move =>
      .inl ((gathers.closed id visited next move).resolve_right List.not_mem_nil) }

/-- Entering a state visits all that silent moves lead to from there. -/
theorem gathers_enter (inRange : automaton.InRange)
    (gathers : Gathers automaton matcher accepted []) {id : Nat} (inside : id < automaton.size) :
    Gathers automaton (enter automaton matcher id accepted).1
        (enter automaton matcher id accepted).2 [] ∧
      ∀ other, (enter automaton matcher id accepted).1.Visited other ↔
        matcher.Visited other ∨ automaton.Silently id other := by
  have enough : (unvisited automaton matcher).card ≤ automaton.size + 1 := by
    have bound := Finset.card_filter_le (Finset.range automaton.size) fun id => ¬ matcher.Visited id
    rw [Finset.card_range] at bound
    exact Nat.le_succ_of_le bound
  obtain ⟨closed, visited⟩ :=
    gathers_close inRange (gathers.weaken [id]) (by simpa using inside) enough
  exact ⟨closed, fun other => (visited other).trans (by simp)⟩

/-! ## Moves on a character -/

/-- Some transition of a state leads on a character, and then silent moves, to another one. -/
def StepsTo (automaton : Automaton) (char : Char) (source last : Nat) : Prop :=
  ∃ transition ∈ (automaton.state source).transitions,
    transition.charClass.contains char = true ∧ automaton.Silently transition.target last

theorem gathers_follow (inRange : automaton.InRange) (char : Char)
    {transitions : List Transition}
    (known : ∀ transition ∈ transitions, transition.target < automaton.size)
    (gathers : Gathers automaton matcher accepted []) :
    Gathers automaton (follow automaton char transitions matcher accepted).1
        (follow automaton char transitions matcher accepted).2 [] ∧
      ∀ id, (follow automaton char transitions matcher accepted).1.Visited id ↔
        matcher.Visited id ∨ ∃ transition ∈ transitions,
          transition.charClass.contains char = true ∧ automaton.Silently transition.target id := by
  induction transitions generalizing matcher accepted with
  | nil => exact ⟨gathers, by simp [follow]⟩
  | cons transition rest ih =>
      have knownRest : ∀ other ∈ rest, other.target < automaton.size :=
        fun other member => known other (List.mem_cons_of_mem _ member)
      rw [follow_cons]
      split
      · rename_i inClass
        obtain ⟨entered, visited⟩ := gathers_enter inRange gathers (known transition (by simp))
        obtain ⟨closed, others⟩ := ih knownRest entered
        refine ⟨closed, fun id => ?_⟩
        rw [others, visited]
        simp [inClass, or_assoc]
      · rename_i notInClass
        obtain ⟨closed, others⟩ := ih knownRest gathers
        refine ⟨closed, fun id => ?_⟩
        rw [others]
        simp [notInClass]

theorem Gathers.withQueue {pending : List Nat}
    (gathers : Gathers automaton matcher accepted pending) {queue : GenerationQueue Nat}
    (same : queue.next = matcher.queue.next) :
    Gathers automaton { matcher with queue } accepted pending :=
  ⟨gathers.room, fun id => same ▸ gathers.queued id, gathers.least, gathers.closed⟩

/-- The oldest state of the generation is taken off the queue and moves on the character. -/
theorem move_of_current {id : Nat} {rest : List Nat} (shape : matcher.queue.current = id :: rest)
    (automaton : Automaton) (char : Char) (count : Nat) (accepted : Option Nat) :
    ∃ queue : GenerationQueue Nat, queue.current = rest ∧ queue.next = matcher.queue.next ∧
      move automaton char (count + 1) matcher accepted =
        move automaton char count
          (follow automaton char (automaton.state id).transitions { matcher with queue } accepted).1
          (follow automaton char (automaton.state id).transitions
            { matcher with queue } accepted).2 := by
  obtain ⟨oldest, current, next⟩ := GenerationQueue.removeFirst_of_current shape
  refine ⟨_, current, next, ?_⟩
  have removed : matcher.queue.removeFirst = (some id, matcher.queue.removeFirst.2) := by
    rw [← oldest]
  rw [move, removed]

/-- When all states of a generation have moved on a character, the next generation has
visited all that they step to. -/
theorem gathers_move (inRange : automaton.InRange) (char : Char) {ids : List Nat}
    (shape : matcher.queue.current = ids) (gathers : Gathers automaton matcher accepted []) :
    Gathers automaton (move automaton char ids.length matcher accepted).1
        (move automaton char ids.length matcher accepted).2 [] ∧
      (move automaton char ids.length matcher accepted).1.queue.current = [] ∧
        ∀ id, (move automaton char ids.length matcher accepted).1.Visited id ↔
          matcher.Visited id ∨ ∃ source ∈ ids, StepsTo automaton char source id := by
  induction ids generalizing matcher accepted with
  | nil => exact ⟨gathers, shape, by simp [move]⟩
  | cons id rest ih =>
      obtain ⟨queue, current, next, moved⟩ :=
        move_of_current shape automaton char rest.length accepted
      rw [List.length_cons, moved]
      obtain ⟨followed, visited⟩ := gathers_follow inRange char (inRange.reading id)
        (gathers.withQueue next)
      have left := (grows_follow automaton char (automaton.state id).transitions
        { matcher with queue } accepted).current.trans current
      obtain ⟨closed, emptied, others⟩ := ih left followed
      refine ⟨closed, emptied, fun other => ?_⟩
      rw [others, visited]
      simp [StepsTo, Visited, or_assoc]

/-- A matcher has read a text: the states that the text leads to are queued, as far as they
read characters. -/
structure HasRead (automaton : Automaton) (text : List Char) (matcher : Matcher) : Prop where
  sound : matcher.Sound
  room : automaton.size ≤ matcher.seen.size
  queued : ∀ id, id ∈ matcher.queue.current ++ matcher.queue.next ↔
    automaton.Path automaton.start text id ∧ (automaton.state id).transitions ≠ []

theorem HasRead.stepsTo_iff {text : List Char} (read : HasRead automaton text matcher) {char : Char}
    {id : Nat} : (∃ source ∈ matcher.queue.current ++ matcher.queue.next,
        StepsTo automaton char source id) ↔
      automaton.Path automaton.start (text ++ [char]) id := by
  rw [Graph.path_snoc_iff]
  constructor
  · rintro ⟨source, member, steps⟩
    exact ⟨source, ((read.queued source).mp member).1, steps⟩
  · rintro ⟨source, path, transition, move, steps⟩
    exact ⟨source, (read.queued source).mpr ⟨path, List.ne_nil_of_mem move⟩, transition, move,
      steps⟩

/-- A generation reads one more character, and finds the least pattern that accepts what was
read. -/
theorem hasRead_generation (inRange : automaton.InRange) {text : List Char}
    (read : HasRead automaton text matcher) (char : Char) :
    HasRead automaton (text ++ [char]) (matcher.generation automaton char).1 ∧
      automaton.Prefers (automaton.Path automaton.start (text ++ [char]))
        (matcher.generation automaton char).2 := by
  let begun := Matcher.nextStamp { matcher with queue := matcher.queue.markEnd }
  have queue : begun.queue = matcher.queue.markEnd := queue_nextStamp _
  obtain ⟨sound, fresh⟩ := (read.sound.withQueue matcher.queue.markEnd).nextStamp
  have size : begun.seen.size = matcher.seen.size := size_nextStamp _
  have nothing : Gathers automaton begun none [] :=
    gathers_nothing (size ▸ read.room) fresh (by rw [queue, GenerationQueue.next_markEnd])
  have current : begun.queue.current = matcher.queue.current ++ matcher.queue.next := by
    rw [queue, GenerationQueue.current_markEnd]
  have whole : matcher.generation automaton char =
      move automaton char (matcher.queue.current ++ matcher.queue.next).length begun none := by
    rw [← current, GenerationQueue.length_current]
    rfl
  obtain ⟨closed, emptied, visited⟩ := gathers_move inRange char current nothing
  rw [← whole] at closed emptied visited
  have reached : ∀ id, (matcher.generation automaton char).1.Visited id ↔
      automaton.Path automaton.start (text ++ [char]) id := by
    intro id
    rw [visited, read.stepsTo_iff]
    exact or_iff_right (fresh id)
  refine ⟨⟨sound_generation automaton char read.sound, closed.room, fun id => ?_⟩, ?_⟩
  · rw [emptied, List.nil_append, closed.queued, reached]
  · have same : (matcher.generation automaton char).1.Visited =
        automaton.Path automaton.start (text ++ [char]) := funext fun id => propext (reached id)
    exact same ▸ closed.least

/-- To enter a state that is not there queues nothing. -/
theorem queue_enter_of_size_le {id : Nat} (outside : automaton.size ≤ id) (matcher : Matcher)
    (accepted : Option Nat) : (enter automaton matcher id accepted).1.queue = matcher.queue := by
  have finished : ∀ fuel (other : Matcher) accepted,
      close automaton fuel other [] accepted = (other, accepted) := by
    intro fuel other accepted
    cases fuel <;> rfl
  unfold enter close
  by_cases seen : matcher.hasSeen id = true
  · simp [skipSeen, seen]
  · simp [skipSeen, seen, Graph.state_of_size_le outside, finished, visit]

/-- What a matcher does first is to visit what silent moves lead to from the start. -/
theorem hasRead_enter (inRange : automaton.InRange) (sound : matcher.Sound) :
    HasRead automaton [] (enter automaton (matcher.opened automaton) automaton.start none).1 := by
  obtain ⟨opened, fresh⟩ := sound_opened automaton sound
  have grows := grows_enter automaton (matcher.opened automaton) automaton.start none
  have room : automaton.size ≤ (matcher.opened automaton).seen.size := by
    simp only [Matcher.opened, size_nextStamp]
    exact size_reserve matcher automaton.size
  refine ⟨grows.sound opened, grows.size ▸ room, fun id => ?_⟩
  have current : (matcher.opened automaton).queue.current = [] :=
    GenerationQueue.current_clear _
  rw [grows.current, current, List.nil_append, Graph.path_nil_iff]
  have empty : (matcher.opened automaton).queue.next = [] := GenerationQueue.next_clear _
  rcases Nat.lt_or_ge automaton.start automaton.size with inside | outside
  · obtain ⟨closed, visited⟩ := gathers_enter inRange (gathers_nothing room fresh empty) inside
    rw [closed.queued, visited, or_iff_right (fresh id)]
  · rw [queue_enter_of_size_le outside, empty]
    refine iff_of_false List.not_mem_nil ?_
    rintro ⟨path, reads⟩
    have dead := Graph.state_of_size_le outside
    rcases path.cases_head with rfl | ⟨next, move, _⟩
    · simp [dead] at reads
    · simp [dead] at move

end Matcher

end StrongLL
