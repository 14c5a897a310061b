import Mathlib.Algebra.Group.Nat.Defs
import StrongLL.Proofs.LookAhead.Branches
import StrongLL.Proofs.Prelude
import StrongLL.Proofs.Rules.LeftCorner

/-!
# Silent moves stay within bounds

Silent moves begin a production only behind elements that can be skipped. Without
left recursion the productions that are begun above each other rank ever lower, so
a stack grows by at most one frame more than there are productions. Frames are parts
of alternatives with bounded counts. There are thus finitely many stacks that silent
moves lead to, and their number is the fuel of the search.
-/

namespace StrongLL.Search

open RuleTable

variable {table : RuleTable} {start : RuleId}

/-- A move without a terminal. -/
def Silent (table : RuleTable) (start : RuleId) (stack target : Stack) : Prop :=
  Moves table start stack (.silent target)

/-! ## Height -/

/-- Frames that silent moves from stacks of at most `height` frames lead to: on top
of few frames stand productions that were begun, each by the element on top of the
frame below. -/
inductive Climbs (table : RuleTable) (height : Nat) : List Frame → Prop where
  | low {frames : List Frame} (short : frames.length ≤ height) : Climbs table height frames
  | begun {id : RuleId} {before rest after : Alternative} {count waiting : Nat}
      {element : Element} {below : List Frame}
      (use : before ++ rest ∈ table.alternatives id)
      (skipped : ∀ other ∈ before, other.isSkippable table.nullable = true)
      (refers : element.symbol = .rule id)
      (tall : below.length + 2 + table.rank id ≤ height + table.length + 1)
      (under : Climbs table height (⟨element :: after, waiting⟩ :: below)) :
      Climbs table height (⟨rest, count⟩ :: ⟨element :: after, waiting⟩ :: below)

/-- The copies that the frame on top counts are empty, unless it was there before. -/
def CopiesEmpty (table : RuleTable) (height : Nat) (frames : List Frame) : Prop :=
  frames.length ≤ height ∨ ∀ element rest count below,
    frames = ⟨element :: rest, count⟩ :: below →
      count = 0 ∨ ∃ id ∈ table.nullable, element.symbol = .rule id

/-- A frame that was just begun or gone on to counts no copies. -/
theorem copiesEmpty_fresh (height : Nat) (rest : Alternative) (below : List Frame) :
    CopiesEmpty table height (⟨rest, 0⟩ :: below) := by
  refine .inr fun _ _ _ _ same => ?_
  obtain ⟨same, _⟩ := List.cons.inj same
  exact .inl (Frame.mk.inj same).2.symm

/-- An element that is passed with copies that are empty, or with none, can be skipped. -/
theorem isSkippable_of_copiesEmpty {height : Nat} {element : Element} {rest : Alternative}
    {count : Nat} {below : List Frame}
    (empty : CopiesEmpty table height (⟨element :: rest, count⟩ :: below))
    (tall : ¬ (⟨element :: rest, count⟩ :: below : List Frame).length ≤ height)
    (reached : element.occurs.min ≤ count) : element.isSkippable table.nullable = true := by
  rcases (empty.resolve_left tall) element rest count below rfl with none | ⟨id, inNullable, symbol⟩
  · have optional : element.occurs.min = 0 := by omega
    simp [Element.isSkippable, optional]
  · simp [Element.isSkippable, symbol, inNullable]

theorem Climbs.length_le {height : Nat} {frames : List Frame}
    (climbs : Climbs table height frames) : frames.length ≤ height + table.length + 1 := by
  cases climbs with
  | low short => omega
  | begun _ _ _ tall _ =>
      simp only [List.length_cons]
      omega

theorem Climbs.silent (acyclic : WellFounded table.Begins)
    {height : Nat} (positive : 1 ≤ height) {stack target : Stack}
    (sound : StackSound table stack) (move : Silent table start stack target)
    (climbs : Climbs table height stack.frames)
    (empty : CopiesEmpty table height stack.frames) :
    Climbs table height target.frames ∧ CopiesEmpty table height target.frames := by
  cases move with
  | behind => exact ⟨.low positive, .inl positive⟩
  | @leave count below owner =>
      cases climbs with
      | low short =>
          have shorter : below.length ≤ height := by
            simp only [List.length_cons] at short
            omega
          exact ⟨.low shorter, .inl shorter⟩
      | begun use skipped refers _ under =>
          -- The production on top is left behind skipped elements alone.
          have inNullable := mem_nullable use (by simpa using skipped)
          refine ⟨under, .inr fun element rest count below same => ?_⟩
          cases same
          exact .inr ⟨_, inNullable, refers⟩
  | @pass element rest count below owner reached =>
      cases climbs with
      | low short => exact ⟨.low short, .inl short⟩
      | @begun id before _ after _ waiting caller lower use skipped refers tall under =>
          by_cases short : (⟨element :: rest, count⟩ ::
              ⟨caller :: after, waiting⟩ :: lower : List Frame).length ≤ height
          · exact ⟨.low short, .inl short⟩
          · have skippable := isSkippable_of_copiesEmpty empty short reached
            have passed : ∀ other ∈ before ++ [element],
                other.isSkippable table.nullable = true := by
              intro other member
              rcases List.mem_append.mp member with member | member
              · exact skipped other member
              · obtain rfl := List.mem_singleton.mp member
                exact skippable
            have use : (before ++ [element]) ++ rest ∈ table.alternatives id := by
              simpa using use
            exact ⟨.begun use passed refers tall under, copiesEmpty_fresh height rest _⟩
  | @rule element rest count below owner id alternative notFull symbol chosen =>
      have chosen : [] ++ alternative ∈ table.alternatives id := chosen
      refine ⟨?_, copiesEmpty_fresh height alternative _⟩
      cases climbs with
      | low short =>
          have bound := table.rank_le_length id
          simp only [List.length_cons] at short
          exact .begun chosen (by simp) symbol (by omega) (.low (by simpa using short))
      | @begun caller before _ after _ waiting waits lower use skipped refers tall under =>
          have known : id ∈ table.map (·.id) :=
            (sound.frames ⟨element :: rest, count⟩ (by simp)).resolved element (by simp) id symbol
          have ranks := rank_lt_rank acyclic known (begins_of_skippable use skipped symbol)
          exact .begun chosen (by simp) symbol
            (by simp only [List.length_cons]; omega) (.begun use skipped refers tall under)

/-! ## Finitely many stacks -/

/-- The lists of at most `size` items. -/
def listsUpTo {α : Type} (items : List α) : (size : Nat) → List (List α)
  | 0 => [[]]
  | size + 1 => [] :: items.flatMap fun item => (listsUpTo items size).map (item :: ·)

theorem mem_listsUpTo {α : Type} {items : List α} {size : Nat} {list : List α}
    (short : list.length ≤ size) (known : ∀ item ∈ list, item ∈ items) :
    list ∈ listsUpTo items size := by
  induction size generalizing list with
  | zero =>
      obtain rfl : list = [] := List.length_eq_zero_iff.mp (Nat.le_zero.mp short)
      simp [listsUpTo]
  | succ size ih =>
      cases list with
      | nil => simp [listsUpTo]
      | cons item rest =>
          have shorter : rest.length ≤ size := by simpa using short
          have restMember := ih shorter (fun other member => known other (by simp [member]))
          simp only [listsUpTo, List.mem_cons, reduceCtorEq, List.mem_flatMap, List.mem_map,
            false_or]
          exact ⟨item, known item (by simp), rest, restMember, rfl⟩

theorem length_listsUpTo_le {α : Type} (items : List α) (size : Nat) :
    (listsUpTo items size).length ≤ (items.length + 1) ^ size := by
  induction size with
  | zero => simp [listsUpTo]
  | succ size ih =>
      have power : 1 ≤ (items.length + 1) ^ size := Nat.one_le_pow _ _ (by omega)
      calc (listsUpTo items (size + 1)).length
          = items.length * (listsUpTo items size).length + 1 := by
            simp [listsUpTo, List.length_flatMap]
        _ ≤ items.length * (items.length + 1) ^ size + (items.length + 1) ^ size :=
            Nat.add_le_add (Nat.mul_le_mul_left _ ih) power
        _ = (items.length + 1) ^ (size + 1) := by
            rw [Nat.pow_succ, Nat.mul_succ, Nat.mul_comm]

/-- The frames that alternatives can leave with at most `copies` copies counted. -/
def framesOf (copies : Nat) (alternatives : List Alternative) : List Frame :=
  alternatives.flatMap fun alternative =>
    alternative.tails.flatMap fun rest => (List.range (copies + 1)).map fun count => ⟨rest, count⟩

theorem mem_framesOf {copies : Nat} {alternatives : List Alternative} {frame : Frame} :
    frame ∈ framesOf copies alternatives ↔
      frame.count ≤ copies ∧ ∃ alternative ∈ alternatives, frame.rest <:+ alternative := by
  obtain ⟨rest, count⟩ := frame
  simp only [framesOf, List.mem_flatMap, List.mem_tails, List.mem_map, List.mem_range,
    Frame.mk.injEq]
  constructor
  · rintro ⟨alternative, member, _, suffix, _, bound, rfl, rfl⟩
    exact ⟨by omega, alternative, member, suffix⟩
  · rintro ⟨bound, alternative, member, suffix⟩
    exact ⟨alternative, member, rest, suffix, count, by omega, rfl, rfl⟩

theorem length_framesOf_le (copies : Nat) (alternatives : List Alternative) :
    (framesOf copies alternatives).length ≤ frameCount copies alternatives := by
  unfold framesOf frameCount
  induction alternatives with
  | nil => simp
  | cons alternative rest ih =>
      have first : (alternative.tails.flatMap fun rest =>
          (List.range (copies + 1)).map fun count => (⟨rest, count⟩ : Frame)).length ≤
            (alternative.length + 1) * (copies + 2) := by
        simp only [List.length_flatMap, List.length_map, List.length_range, List.map_const',
          List.sum_replicate_nat, List.length_tails]
        exact Nat.mul_le_mul_left _ (by omega)
      simp only [List.flatMap_cons, List.length_append, List.map_cons, List.foldr_cons]
      exact Nat.add_le_add first ih

theorem le_greatestBound {alternatives : List Alternative} {alternative : Alternative}
    (member : alternative ∈ alternatives) {element : Element} (inside : element ∈ alternative) :
    element.occurs.max.getD element.occurs.min ≤ greatestBound alternatives :=
  (le_foldl_max fun element : Element => element.occurs.max.getD element.occurs.min).2 element
    (List.mem_flatten.mpr ⟨_, member, inside⟩)

/-- What silent moves preserve: stacks stay sound and low, and their frames are parts
of known alternatives. -/
structure Within (table : RuleTable) (alternatives : List Alternative) (height : Nat)
    (stack : Stack) : Prop where
  sound : StackSound table stack
  parts : ∀ frame ∈ stack.frames, ∃ alternative ∈ alternatives, frame.rest <:+ alternative
  climbs : Climbs table height stack.frames
  empty : CopiesEmpty table height stack.frames

theorem Within.silent (wellFormed : table.WellFormed) (acyclic : WellFounded table.Begins)
    {alternatives : List Alternative} {height : Nat} (positive : 1 ≤ height)
    (all : ∀ id, ∀ alternative ∈ table.alternatives id, alternative ∈ alternatives)
    {stack target : Stack} (move : Silent table start stack target)
    (within : Within table alternatives height stack) :
    Within table alternatives height target := by
  obtain ⟨climbs, empty⟩ :=
    within.climbs.silent acyclic positive within.sound move within.empty
  refine ⟨move.sound wellFormed (.inl rfl) within.sound, ?_, climbs, empty⟩
  have parts := within.parts
  intro frame member
  cases move with
  | @behind owner id before rest element use refers =>
      obtain rfl := List.mem_singleton.mp member
      exact ⟨_, all _ _ use, List.suffix_append before (element :: rest)⟩
  | leave => exact parts frame (by simp [member])
  | pass reached =>
      rcases List.mem_cons.mp member with rfl | member
      · obtain ⟨alternative, known, suffix⟩ := parts _ (List.mem_cons_self ..)
        exact ⟨alternative, known, (List.suffix_cons _ _).trans suffix⟩
      · exact parts frame (by simp [member])
  | @rule element rest count below owner id alternative notFull symbol chosen =>
      rcases List.mem_cons.mp member with rfl | member
      · exact ⟨_, all _ _ chosen, List.suffix_refl _⟩
      · rcases List.mem_cons.mp member with rfl | member
        · exact parts ⟨element :: rest, count⟩ (List.mem_cons_self ..)
        · exact parts frame (by simp [member])

/-- Stacks that are low stay within bounds when more height is allowed. -/
theorem Within.raise {alternatives : List Alternative} {height greater : Nat} {stack : Stack}
    (within : Within table alternatives height stack)
    (higher : height + table.length + 1 ≤ greater) : Within table alternatives greater stack := by
  have short := within.climbs.length_le.trans higher
  exact ⟨within.sound, within.parts, .low short, .inl short⟩

/-- Behind a terminal stacks may climb anew. -/
theorem Within.shift (wellFormed : table.WellFormed) {alternatives : List Alternative}
    {height greater : Nat} {stack target : Stack} {token : TokenId}
    (move : Moves table start stack (.shift token target))
    (within : Within table alternatives height stack)
    (higher : height + table.length + 1 ≤ greater) :
    Within table alternatives greater target := by
  have sound := move.sound wellFormed (.inr ⟨token, rfl⟩) within.sound
  have parts := within.parts
  have short := within.climbs.length_le.trans higher
  cases move with
  | @token element rest count below owner _ notFull symbol =>
      refine ⟨sound, fun frame member => ?_, .low short, .inl short⟩
      rcases List.mem_cons.mp member with rfl | member
      · exact parts ⟨element :: rest, count⟩ (List.mem_cons_self ..)
      · exact parts frame (List.mem_cons_of_mem _ member)

/-- All stacks within bounds, and more. -/
def stacksWithin (table : RuleTable) (alternatives : List Alternative) (height : Nat) :
    List Stack :=
  (table.map (·.id)).flatMap fun owner =>
    (listsUpTo (framesOf (greatestBound alternatives) alternatives)
      (height + table.length + 1)).map fun frames => ⟨frames, owner⟩

theorem Within.mem_stacksWithin {alternatives : List Alternative} {height : Nat} {stack : Stack}
    (within : Within table alternatives height stack) :
    stack ∈ stacksWithin table alternatives height := by
  refine List.mem_flatMap.mpr ⟨stack.owner, within.sound.owner,
    List.mem_map.mpr ⟨stack.frames, mem_listsUpTo within.climbs.length_le ?_, rfl⟩⟩
  intro frame member
  obtain ⟨alternative, known, suffix⟩ := within.parts frame member
  have counted := (within.sound.frames frame member).count
  refine mem_framesOf.mpr ⟨counted.trans ?_, alternative, known, suffix⟩
  obtain ⟨rest, count⟩ := frame
  cases rest with
  | nil => exact Nat.zero_le _
  | cons element rest => exact le_greatestBound known (suffix.subset (by simp))

theorem length_stacksWithin_le (alternatives : List Alternative) (height : Nat) :
    (stacksWithin table alternatives height).length ≤
      table.length * (frameCount (greatestBound alternatives) alternatives + 1) ^
        (height + table.length + 1) := by
  have frames := length_framesOf_le (greatestBound alternatives) alternatives
  have lists := length_listsUpTo_le (framesOf (greatestBound alternatives) alternatives)
    (height + table.length + 1)
  have power := Nat.pow_le_pow_left (Nat.add_le_add_right frames 1) (height + table.length + 1)
  simp only [stacksWithin, List.length_flatMap, List.length_map, List.map_const',
    List.sum_replicate_nat]
  exact Nat.mul_le_mul_left _ (lists.trans power)

end StrongLL.Search
