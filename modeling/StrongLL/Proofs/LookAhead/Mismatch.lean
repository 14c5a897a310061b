import StrongLL.Proofs.LookAhead.Plain

/-!
# Where look-ahead goes wrong

A decision that picks no branch stopped at a terminal up to which some branches share the input
and with which none of them goes on. Its levels agree on that place, although most of them hold
extensions of shared sequences only: the input up to there begins a sequence of some level, no
more of it does, and what some level has behind it is what the branches can have there. Since
branches cannot share the end of input, one of them goes on with a token.
-/

namespace StrongLL

/-! ## Common beginnings -/

theorem take_commonLength_prefix (sequence input : Terminals) :
    Terminals.commonLength sequence input ≤ input.length ∧
      input.take (Terminals.commonLength sequence input) <+: sequence := by
  fun_induction Terminals.commonLength sequence input with
  | case1 first sequence input ih =>
      rw [List.length_cons, List.take_succ_cons]
      exact ⟨Nat.succ_le_succ ih.1, List.cons_prefix_cons.mpr ⟨rfl, ih.2⟩⟩
  | case2 => simp
  | case3 => simp

theorem le_commonLength {sequence input : Terminals} {length : Nat} (inside : length ≤ input.length)
    (begins : input.take length <+: sequence) : length ≤ Terminals.commonLength sequence input := by
  fun_induction Terminals.commonLength sequence input generalizing length with
  | case1 first sequence input ih =>
      cases length with
      | zero => exact Nat.zero_le _
      | succ length =>
          rw [List.take_succ_cons] at begins
          exact Nat.succ_le_succ (ih (Nat.le_of_succ_le_succ inside)
            (List.cons_prefix_cons.mp begins).2)
  | case2 first sequence other input different =>
      cases length with
      | zero => exact Nat.le_refl 0
      | succ length =>
          rw [List.take_succ_cons] at begins
          exact absurd (List.cons_prefix_cons.mp begins).1.symm different
  | case3 sequence input short =>
      cases length with
      | zero => exact Nat.le_refl 0
      | succ length =>
          cases input with
          | nil => cases inside
          | cons other input =>
              obtain ⟨rest, rfl⟩ := begins
              exact (short other _ other input rfl rfl).elim

namespace SequenceSet

theorem follower?_eq_some {lead sequence : Terminals} {terminal : Terminal} :
    follower? lead sequence = some terminal ↔ lead ++ [terminal] <+: sequence := by
  fun_induction follower? lead sequence with
  | case1 first sequence => simp [eq_comm]
  | case2 first lead sequence ih =>
      rw [ih, List.cons_append, List.cons_prefix_cons]
      simp
  | case3 first lead other sequence different => simp [different]
  | case4 lead => simp

theorem mem_nextAfter {set : SequenceSet} {lead : Terminals} {terminal : Terminal} :
    terminal ∈ set.nextAfter lead ↔ ∃ sequence ∈ set, lead ++ [terminal] <+: sequence := by
  unfold nextAfter
  rw [List.mem_flatten]
  constructor
  · rintro ⟨sequence, member, inside⟩
    obtain ⟨next, found, rfl⟩ := List.mem_map.mp (mem_ofList.mp member)
    obtain rfl := List.mem_singleton.mp inside
    obtain ⟨sequence, member, follows⟩ := List.mem_filterMap.mp found
    exact ⟨sequence, member, follower?_eq_some.mp follows⟩
  · rintro ⟨sequence, member, begins⟩
    have found : terminal ∈ set.members.filterMap (follower? lead) :=
      List.mem_filterMap.mpr ⟨sequence, member, follower?_eq_some.mpr begins⟩
    exact ⟨[terminal], mem_ofList.mpr (List.mem_map.mpr ⟨_, found, rfl⟩), List.mem_singleton_self _⟩

/-- Some sequence of several sets begins with `lead`. -/
def AnyBegins (sets : List SequenceSet) (lead : Terminals) : Prop :=
  ∃ set ∈ sets, ∃ sequence ∈ set, lead <+: sequence

theorem AnyBegins.shorten {sets : List SequenceSet} {lead shorter : Terminals}
    (begins : AnyBegins sets lead) (less : shorter <+: lead) : AnyBegins sets shorter := by
  obtain ⟨set, inside, sequence, member, isPrefix⟩ := begins
  exact ⟨set, inside, sequence, member, less.trans isPrefix⟩

/-- The greatest of the common lengths is that of the longest beginning. -/
theorem foldl_longestPrefix_eq {sets : List SequenceSet} {input : Terminals} {length : Nat}
    (greatest : IsGreatest {length | length ≤ input.length ∧ AnyBegins sets (input.take length)}
      length) :
    sets.foldl (fun longest set => max longest (set.longestPrefix input)) 0 = length := by
  apply Nat.le_antisymm
  · refine (foldl_max_le_iff _).mpr ⟨Nat.zero_le _, fun set inside => ?_⟩
    refine (foldl_max_le_iff _).mpr ⟨Nat.zero_le _, fun sequence member => ?_⟩
    obtain ⟨atMost, begins⟩ := take_commonLength_prefix sequence input
    exact greatest.2 ⟨atMost, set, inside, sequence, member, begins⟩
  · obtain ⟨atMost, set, inside, sequence, member, begins⟩ := greatest.1
    have inSet : Terminals.commonLength sequence input ≤ set.longestPrefix input :=
      (le_foldl_max fun sequence => Terminals.commonLength sequence input).2 sequence member
    calc length ≤ Terminals.commonLength sequence input := le_commonLength atMost begins
      _ ≤ set.longestPrefix input := inSet
      _ ≤ _ := (le_foldl_max fun set : SequenceSet => set.longestPrefix input).2 set inside

theorem mem_flatMap_nextAfter {sets : List SequenceSet} {lead : Terminals} {terminal : Terminal} :
    terminal ∈ sets.flatMap (fun set => set.nextAfter lead) ↔
      AnyBegins sets (lead ++ [terminal]) := by
  simp only [List.mem_flatMap, mem_nextAfter, AnyBegins]

end SequenceSet

/-! ## One terminal more -/

theorem length_firstTerminals_le (depth : Nat) (word : List TokenId) :
    (firstTerminals depth word).length ≤ depth :=
  List.length_take_le _ _

/-- Fewer terminals than are asked for reach the end of input. -/
theorem getLast?_firstTerminals {depth : Nat} {word : List TokenId}
    (short : (firstTerminals depth word).length < depth) :
    (firstTerminals depth word).getLast? = some .eof := by
  unfold firstTerminals at short ⊢
  rw [List.length_take] at short
  rw [List.take_of_length_le (by omega), List.getLast?_append_of_ne_nil _ (by simp),
    List.getLast?_singleton]

/-- A token among the first terminals stands at the same place of the text. -/
theorem getElem?_of_firstTerminals {depth place : Nat} {word : List TokenId} {token : TokenId}
    (found : (firstTerminals depth word)[place]? = some (.token token)) :
    word[place]? = some token := by
  obtain ⟨inside, found⟩ := List.getElem?_eq_some_iff.mp found
  simp only [firstTerminals, List.getElem_take, List.getElem_append] at found
  split at found
  · rename_i shorter
    rw [List.getElem_map, Terminal.token.injEq] at found
    exact List.getElem?_eq_some_iff.mpr ⟨by simpa using shorter, found⟩
  · rw [List.getElem_singleton] at found
    cases found

/-- Terminals that do not reach the end of input go on. -/
theorem firstTerminals_succ {depth : Nat} {word : List TokenId}
    (goesOn : (firstTerminals depth word).getLast? ≠ some .eof) :
    ∃ terminal, firstTerminals (depth + 1) word = firstTerminals depth word ++ [terminal] := by
  have whole : (firstTerminals depth word).length = depth := by
    apply Nat.le_antisymm (length_firstTerminals_le depth word)
    by_contra short
    exact goesOn (getLast?_firstTerminals (Nat.lt_of_not_le short))
  have longer : depth < (firstTerminals (depth + 1) word).length := by
    by_contra short
    have same : firstTerminals (depth + 1) word = firstTerminals depth word := by
      rw [← take_firstTerminals (Nat.le_succ depth),
        List.take_of_length_le (Nat.le_of_not_lt short)]
    exact goesOn (same ▸ getLast?_firstTerminals (by omega))
  refine ⟨(firstTerminals (depth + 1) word)[depth], ?_⟩
  rw [← take_firstTerminals (Nat.le_succ depth), List.take_append_getElem longer,
    List.take_of_length_le (length_firstTerminals_le _ _)]

section

variable {ahead : Nat → List TokenId → Prop}

/-- What is ahead of a branch goes on behind terminals that do not reach the end of input. -/
theorem Heads.next {depth branch : Nat} {lead : Terminals} (heads : Heads ahead depth branch lead)
    (goesOn : lead.getLast? ≠ some .eof) :
    ∃ terminal, Heads ahead (depth + 1) branch (lead ++ [terminal]) := by
  obtain ⟨word, isAhead, rfl⟩ := heads
  obtain ⟨terminal, longer⟩ := firstTerminals_succ goesOn
  exact ⟨terminal, word, isAhead, longer.symm⟩

/-- The tokens of what is ahead of a branch come from a word that is ahead of it. -/
theorem Heads.exists_word {depth branch : Nat} {sequence : Terminals} {token : TokenId}
    (heads : Heads ahead depth branch sequence) (member : .token token ∈ sequence) :
    ∃ word, ahead branch word ∧ token ∈ word := by
  obtain ⟨word, isAhead, rfl⟩ := heads
  have inside := List.mem_of_mem_take member
  exact ⟨word, isAhead, by simpa using inside⟩

/-- Terminals that begin what is ahead of a branch are ahead of it at their own depth. -/
theorem Heads.shorten {depth branch : Nat} {lead sequence : Terminals}
    (heads : Heads ahead depth branch sequence) (begins : lead <+: sequence) :
    Heads ahead lead.length branch lead := by
  have inside : lead.length ≤ depth := by
    obtain ⟨word, _, rfl⟩ := heads
    exact Nat.le_trans begins.length_le (length_firstTerminals_le depth word)
  have taken := heads.take inside
  rwa [← List.prefix_iff_eq_take.mp begins] at taken

end

namespace Decision

open SequenceSet

variable {ahead : Nat → List TokenId → Prop} {count : Nat} {decision : Decision}
  {input lead : Terminals} {stop : Nat}

/-! ## Where a decision stops -/

/-- An input goes wrong at a place: branches share what is before it, and none of them can have
the terminal that is there. -/
structure Stops (ahead : Nat → List TokenId → Prop) (decision : Decision) (input : Terminals)
    (stop : Nat) : Prop where
  less : stop < decision.depth
  shared : Shared ahead stop (input.take stop)
  unmatched : ∀ branch, ¬ Heads ahead (stop + 1) branch (input.take (stop + 1))

/-- Where no branch is picked the input goes wrong somewhere. -/
theorem Decides.stops (decides : Decides ahead count decision)
    (inside : ∀ branch word, ahead branch word → branch < count) (several : Shared ahead 0 [])
    (unpicked : decision.select input = none) : ∃ stop, Stops ahead decision input stop := by
  obtain ⟨stop, less, agrees, picks⟩ := decides.exists_stop inside input
  have unmatched : ∀ branch, ¬ Heads ahead (stop + 1) branch (input.take (stop + 1)) := by
    intro branch heads
    rw [picks, unpicked] at heads
    cases heads
  cases agrees with
  | inl first =>
      subst first
      exact ⟨0, less, several, unmatched⟩
  | inr shared => exact ⟨stop, less, shared, unmatched⟩

/-- The levels have behind what is shared just what branches can have there. -/
theorem Decides.anyBegins_iff (decides : Decides ahead count decision)
    (inside : ∀ branch word, ahead branch word → branch < count) (length : lead.length = stop)
    (less : stop < decision.depth) (shared : Shared ahead stop lead) {terminal : Terminal} :
    AnyBegins decision.levels.flatten (lead ++ [terminal]) ↔
      ∃ branch, Heads ahead (stop + 1) branch (lead ++ [terminal]) := by
  subst length
  constructor
  · rintro ⟨set, member, sequence, inSet, begins⟩
    obtain ⟨sets, atSets, inSets⟩ := List.mem_flatten.mp member
    obtain ⟨lesser, atLesser⟩ := List.mem_iff_getElem?.mp atSets
    obtain ⟨branch, atBranch⟩ := List.mem_iff_getElem?.mp inSets
    have heads := (((decides.level lesser sets atLesser).found branch set atBranch sequence).mp
      inSet).1
    have longer := heads.shorten begins
    rw [List.length_append, List.length_singleton] at longer
    exact ⟨branch, longer⟩
  · rintro ⟨branch, heads⟩
    have atLevel : decision.levels[lead.length]? = some decision.levels[lead.length] :=
      List.getElem?_eq_getElem less
    have level := decides.level _ _ atLevel
    have known : branch < decision.levels[lead.length].length := by
      obtain ⟨word, isAhead, _⟩ := heads
      rw [level.length]
      exact inside branch word isAhead
    have agrees : (lead ++ [terminal]).take lead.length <+: lead := by simp
    have found := (level.found branch _ (List.getElem?_eq_getElem known) _).mpr
      ⟨heads, .inr ⟨lead, shared, agrees⟩⟩
    refine ⟨_, List.mem_flatten.mpr ⟨_, List.getElem_mem less, List.getElem_mem known⟩, _, found,
      ?_⟩
    exact List.prefix_refl _

namespace Stops

variable {word : List TokenId}
  (stops : Stops ahead decision (firstTerminals decision.depth word) stop)

include stops

/-- The input goes wrong at one of its terminals, for what branches share up to the end of input
they share at any depth. -/
theorem lt_length : stop < (firstTerminals decision.depth word).length := by
  by_contra short
  have short := Nat.le_of_not_lt short
  have ended := getLast?_firstTerminals (Nat.lt_of_le_of_lt short stops.less)
  have shared := stops.shared
  have unmatched := stops.unmatched
  rw [List.take_of_length_le short] at shared
  rw [List.take_of_length_le (Nat.le_succ_of_le short)] at unmatched
  obtain ⟨branch, _, _, heads, _⟩ := shared.of_ended (Nat.le_succ stop) ended
  exact unmatched branch heads

theorem length_lead : ((firstTerminals decision.depth word).take stop).length = stop :=
  List.length_take_of_le (Nat.le_of_lt stops.lt_length)

theorem lead_goesOn : ((firstTerminals decision.depth word).take stop).getLast? ≠ some .eof := by
  intro ended
  rw [take_firstTerminals (Nat.le_of_lt stops.less)] at ended
  have inside := stops.lt_length
  rw [firstTerminals_of_getLast?_eof (Nat.le_of_lt stops.less) ended] at inside
  exact Nat.not_le.mpr inside (length_firstTerminals_le stop word)

/-- The terminal at which the input goes wrong. -/
theorem unmatched_getElem {terminal : Terminal}
    (found : (firstTerminals decision.depth word)[stop]? = some terminal) (branch : Nat) :
    ¬ Heads ahead (stop + 1) branch
      ((firstTerminals decision.depth word).take stop ++ [terminal]) := by
  have unmatched := stops.unmatched branch
  rwa [List.take_add_one, found, Option.toList_some] at unmatched

/-- Some branch goes on with a token: if all went on with the end of input they would share all
that is ahead of them. -/
theorem exists_token (disjoint : ∀ sequence, ¬ Shared ahead decision.depth sequence) :
    ∃ branch token, Heads ahead (stop + 1) branch
      ((firstTerminals decision.depth word).take stop ++ [.token token]) := by
  obtain ⟨left, right, order, inLeft, inRight⟩ := stops.shared
  obtain ⟨first, leftNext⟩ := inLeft.next stops.lead_goesOn
  obtain ⟨second, rightNext⟩ := inRight.next stops.lead_goesOn
  cases first with
  | token id => exact ⟨left, id, leftNext⟩
  | eof =>
      cases second with
      | token id => exact ⟨right, id, rightNext⟩
      | eof =>
          have shared : Shared ahead (stop + 1) _ := ⟨left, right, order, leftNext, rightNext⟩
          exact (disjoint _ (shared.of_ended stops.less (by simp))).elim

end Stops

/-- The place at which an input goes wrong is where all levels leave it. -/
theorem Stops.isGreatest {word : List TokenId}
    (stops : Stops ahead decision (firstTerminals decision.depth word) stop)
    (decides : Decides ahead count decision)
    (inside : ∀ branch word, ahead branch word → branch < count) :
    IsGreatest {length | length ≤ (firstTerminals decision.depth word).length ∧
      AnyBegins decision.levels.flatten ((firstTerminals decision.depth word).take length)} stop := by
  have goesOn {terminal : Terminal} :
      AnyBegins decision.levels.flatten
          ((firstTerminals decision.depth word).take stop ++ [terminal]) ↔
        ∃ branch, Heads ahead (stop + 1) branch
          ((firstTerminals decision.depth word).take stop ++ [terminal]) :=
    decides.anyBegins_iff inside stops.length_lead stops.less stops.shared
  constructor
  · refine ⟨Nat.le_of_lt stops.lt_length, ?_⟩
    obtain ⟨branch, token, heads⟩ := stops.exists_token decides.disjoint
    exact (goesOn.mpr ⟨branch, heads⟩).shorten (List.prefix_append _ _)
  · rintro length ⟨atMost, begins⟩
    by_contra further
    have further : stop + 1 ≤ length := Nat.lt_of_not_le further
    have found := List.getElem?_eq_getElem stops.lt_length
    have shorter := begins.shorten (List.take_prefix_take_left further)
    rw [List.take_add_one, found, Option.toList_some] at shorter
    obtain ⟨branch, heads⟩ := goesOn.mp shorter
    exact stops.unmatched_getElem found branch heads

/-! ## What could be there -/

variable {search : Search} {branches : List Stack}

/-- What begins a sequence of the plain look-ahead of some branch. -/
theorem Describes.begins_iff (describes : Describes search branches ahead)
    (length : lead.length = stop) {terminal : Terminal} :
    (∃ stack ∈ branches, ∃ sequence ∈ search.lookAhead (stop + 1) none stack,
        lead ++ [terminal] <+: sequence) ↔
      ∃ branch, Heads ahead (stop + 1) branch (lead ++ [terminal]) := by
  subst length
  constructor
  · rintro ⟨stack, member, sequence, found, begins⟩
    obtain ⟨branch, atBranch⟩ := List.mem_iff_getElem?.mp member
    have longer := ((describes.mem_plain atBranch).mp found).shorten begins
    rw [List.length_append, List.length_singleton] at longer
    exact ⟨branch, longer⟩
  · rintro ⟨branch, heads⟩
    have known : branch < branches.length := by
      obtain ⟨word, isAhead, _⟩ := heads
      exact describes.inside branch word isAhead
    exact ⟨_, List.getElem_mem known, _,
      (describes.mem_plain (List.getElem?_eq_getElem known)).mpr heads, List.prefix_refl _⟩

/-- Two branches share at least that something is ahead of them. -/
theorem Describes.shared_nil (describes : Describes search branches ahead)
    (several : 1 < branches.length) : Shared ahead 0 [] := by
  have nothing {branch : Nat} (known : branch < branches.length) : Heads ahead 0 branch [] := by
    apply (describes.mem_plain (List.getElem?_eq_getElem known)).mp
    exact SequenceSet.mem_ofList.mpr (List.mem_singleton_self [])
  exact ⟨0, 1, Nat.zero_lt_one, nothing (Nat.lt_of_succ_lt several), nothing several⟩

end Decision

end StrongLL
