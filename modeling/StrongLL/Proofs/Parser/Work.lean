import StrongLL.Proofs.Parser.Pace
import StrongLL.Proofs.Parser.Termination

/-!
# The work of a parse is linear

Before its first token a call enters productions of lesser and lesser ranks only, and what
it parses to nothing it repeats a bounded number of times. Each token that is consumed or
skipped lets all of that begin anew. So each token pays for a fixed amount of work, however
many errors are recovered from.

Tests of loops over single tokens are not recorded. Behind such a test a token is taken, or
the loop is left; so these are bounded by the tokens and the elements of the alternatives
that are entered.
-/

namespace StrongLL

namespace Grammar

/-! ## Bounds on the work -/

/-- The work of a call that takes no token, or of its part before the first one, if only
productions of ranks below this one can be entered. -/
def idle (grammar : Grammar) : (rank : Nat) → Nat
  | 0 => 0
  | rank + 1 =>
      Parser.widest grammar * ((Parser.mostCopies grammar + 1) * (idle grammar rank + 1)) +
        idle grammar rank + 1

/-- A rank above those of all productions. -/
def topRank (grammar : Grammar) : Nat := grammar.rules.length + 1

/-- The work at an element that takes no token, if only productions of ranks below this one
can be entered. -/
def idleVisit (grammar : Grammar) (rank : Nat) : Nat :=
  (Parser.mostCopies grammar + 1) * (grammar.idle rank + 1)

/-- The work at an element that comes behind a token. -/
def visit (grammar : Grammar) : Nat := grammar.idleVisit grammar.topRank + 1

/-- The work of a call that takes one token, if productions of ranks below this one are
entered before it: behind the token each of them may have all of its elements left. -/
def busy (grammar : Grammar) (rank : Nat) : Nat :=
  grammar.idle grammar.topRank + rank * (Parser.widest grammar * grammar.visit + 1)

/-- The work that each token pays for. -/
def pace (grammar : Grammar) : Nat :=
  grammar.busy grammar.topRank + (Parser.widest grammar + 1) * grammar.visit +
    grammar.idle grammar.topRank

section

variable (grammar : Grammar) {rank other : Nat}

theorem idle_mono : Monotone grammar.idle := by
  apply monotone_nat_of_le_succ
  intro rank
  rw [idle]
  omega

theorem idle_le_busy (inRange : rank ≤ grammar.topRank) (other : Nat) :
    grammar.idle rank ≤ grammar.busy other :=
  (grammar.idle_mono inRange).trans (Nat.le_add_right _ _)

theorem busy_mono (less : rank ≤ other) : grammar.busy rank ≤ grammar.busy other :=
  Nat.add_le_add_left (Nat.mul_le_mul_right _ less) _

theorem busy_succ (rank : Nat) : grammar.busy (rank + 1) =
    grammar.busy rank + Parser.widest grammar * grammar.visit + 1 := by
  rw [busy, busy, Nat.succ_mul]
  omega

/-- A token pays for all that it lets begin anew. -/
theorem busy_le_pace (inRange : rank ≤ grammar.topRank) :
    grammar.busy rank + Parser.widest grammar * grammar.visit + grammar.visit +
      grammar.idle grammar.topRank ≤ grammar.pace := by
  have bound := grammar.busy_mono inRange
  rw [pace, Nat.succ_mul]
  omega

theorem copies_le_idleVisit {copies : Nat} (few : copies ≤ Parser.mostCopies grammar)
    (rank : Nat) : (copies + 1) * (grammar.idle rank + 1) ≤ grammar.idleVisit rank :=
  Nat.mul_le_mul_right _ (Nat.succ_le_succ few)

theorem idleVisit_lt_visit (inRange : rank ≤ grammar.topRank) :
    grammar.idleVisit rank < grammar.visit :=
  Nat.lt_succ_of_le (Nat.mul_le_mul_left _ (Nat.succ_le_succ (grammar.idle_mono inRange)))

/-- The copies at an element that comes behind a token. -/
theorem copies_le_visit {copies : Nat} (few : copies ≤ Parser.mostCopies grammar) :
    (copies + 1) * (grammar.idle grammar.topRank + 1) + 1 ≤ grammar.visit :=
  Nat.succ_le_succ (grammar.copies_le_idleVisit few _)

end

end Grammar

namespace Parser

open Grammar

variable {σ α : Type} {setting : Setting σ} {before middle after : Parser σ}

/-- How a call ends that parses one symbol. -/
def SymbolPays (setting : Setting σ) (rank : Nat) (before : Parser σ) (outcome : Except Halt α)
    (after : Parser σ) : Prop :=
  Pays setting.grammar.pace (setting.grammar.idle rank)
    (charge setting.grammar.pace (setting.grammar.idle rank) (setting.grammar.busy rank))
    before outcome after

/-- How a call ends that may parse several symbols: `nothing` is its work if it takes no
token, and `further` what it adds to the work at the symbol that takes the first one. -/
def SeveralPay (setting : Setting σ) (rank nothing further : Nat) (before : Parser σ)
    (outcome : Except Halt α) (after : Parser σ) : Prop :=
  Pays setting.grammar.pace (nothing + setting.grammar.idle rank)
    (charge setting.grammar.pace nothing (setting.grammar.busy rank + further))
    before outcome after

/-- How a call ends that parses the copies of an element of which `count` are there. -/
def CopiesPay (setting : Setting σ) (element : ResolvedElement) (rank count : Nat)
    (before : Parser σ) (outcome : Except Halt α) (after : Parser σ) : Prop :=
  SeveralPay setting rank
    ((element.occurs.max.getD 0 - count + 1) * (setting.grammar.idle rank + 1))
    ((element.occurs.max.getD 0 - count + 1) *
      (setting.grammar.idle setting.grammar.topRank + 1) + 1) before outcome after

/-- What holds of all calls with some fuel: they keep to the pace of the grammar. -/
structure PacedAt (setting : Setting σ) (fuel : Nat) : Prop where
  rule : ∀ {id found}, setting.grammar.rule? id = some found → ∀ before,
    Ensures (rule setting fuel id) before
      (SymbolPays setting (setting.grammar.table.rank id + 1) before)
  alternatives : ∀ {id found}, setting.grammar.rule? id = some found → ∀ parent before,
    Ensures (alternatives setting fuel found parent) before
      (SymbolPays setting (setting.grammar.table.rank id + 1) before)
  elements : ∀ row, (∀ element ∈ row, setting.grammar.TameElement element) →
    row.length ≤ widest setting.grammar → ∀ rank ≤ setting.grammar.topRank,
      setting.grammar.Near rank row → ∀ parent before,
        Ensures (elements setting fuel row parent) before
          (SeveralPay setting rank (row.length * setting.grammar.idleVisit rank)
            (row.length * setting.grammar.visit) before)
  copies : ∀ element, setting.grammar.TameElement element →
    ∀ rank ≤ setting.grammar.topRank,
      (∀ next, element.symbol = .rule next → setting.grammar.table.rank next < rank) →
        ∀ count parent before, Ensures (copies setting fuel element count parent) before
          (CopiesPay setting element rank count before)
  symbol : ∀ target, (∀ id, target = .token id →
      ∃ pattern, setting.grammar.vocabulary.find? id = some pattern) →
    ∀ rank, (∀ next, target = .rule next → setting.grammar.table.rank next < rank) →
      ∀ parent before, Ensures (symbol setting fuel target parent) before
        (SymbolPays setting rank before)

theorem SymbolPays.mono {rank other : Nat} {outcome : Except Halt α}
    (pays : SymbolPays setting rank before outcome after) (less : rank ≤ other) :
    SymbolPays setting other before outcome after :=
  Pays.mono pays (setting.grammar.idle_mono less)
    (charge_mono (setting.grammar.idle_mono less) (setting.grammar.busy_mono less))

section

variable {fuel : Nat} (paces : PacedAt setting fuel)

include paces

section

variable (element : ResolvedElement) (tameElement : setting.grammar.TameElement element)
  {rank : Nat} (inRange : rank ≤ setting.grammar.topRank) (count : Nat)

include tameElement inRange

/-- Another copy is parsed, and then the others. -/
theorem paced_again {parent branch : Branch} {tried : Parser σ}
    (near : ∀ next, element.symbol = .rule next → setting.grammar.table.rank next < rank)
    (room : ∀ max, element.occurs.max = some max → count < max)
    (tested : Paid setting.grammar.pace (1 + setting.grammar.idle rank) 1 0 before middle)
    (pays : SymbolPays setting rank middle (.ok branch) tried)
    (parsed : Parsed setting True middle parent (setting.grammar.Derived (.symbol element.symbol))
      (setting.grammar.Guided (.symbol element.symbol)) (.ok branch) tried) :
    Ensures (copies setting fuel element (count + 1) branch) tried
      (CopiesPay setting element rank count before) := by
  obtain ⟨items, nodes, adds, built, _⟩ := parsed
  cases items with
  | nil =>
      -- The copy was empty, so there is an upper bound that has come nearer.
      obtain ⟨max, bound⟩ := exists_max_of_empty tameElement built adds.leaves.symm
      have fewer := room max bound
      have nearer : element.occurs.max.getD 0 - count =
          element.occurs.max.getD 0 - (count + 1) + 1 := by
        rw [bound, Option.getD_some]
        omega
      have idles := setting.grammar.idle_mono inRange
      have copied := tested.trans (pays.paid_idle adds.course) (Nat.le_add_right _ _)
      apply (paces.copies element tameElement rank inRange near (count + 1) branch tried).mono
      intro outcome after more
      rw [CopiesPay, nearer, Nat.succ_mul (_ + 1), Nat.succ_mul (_ + 1)]
      exact Pays.behind_idle (copied.mono (by omega)) more (by omega) (by omega) (by omega)
  | cons item items =>
      have anyRank := fun next (_ : element.symbol = .rule next) => setting.grammar.rank_lt next
      have paid := setting.grammar.busy_le_pace inRange
      have paidLater := setting.grammar.busy_le_pace (Nat.le_refl _)
      have share := setting.grammar.copies_le_visit
        ((Nat.sub_le (element.occurs.max.getD 0) count).trans tameElement.copies)
      have fewer : (element.occurs.max.getD 0 - (count + 1) + 1) *
          (setting.grammar.idle setting.grammar.topRank + 1) ≤
            (element.occurs.max.getD 0 - count + 1) *
              (setting.grammar.idle setting.grammar.topRank + 1) :=
        Nat.mul_le_mul_right _ (by omega)
      have least : setting.grammar.idle rank + 1 ≤
          (element.occurs.max.getD 0 - count + 1) * (setting.grammar.idle rank + 1) :=
        Nat.le_mul_of_pos_left _ (Nat.succ_pos _)
      have copied := tested.trans (pays.paid_busy adds.course) (Nat.le_add_right _ _)
      rw [Nat.zero_add, Nat.add_left_comm] at copied
      apply (paces.copies element tameElement _ (Nat.le_refl _) anyRank (count + 1) branch
        tried).mono
      intro outcome after more
      exact Pays.behind_busy (copied.mono (by omega)) more (by omega) (by omega) (by omega)

/-- A token is skipped behind a copy that did not fit, and the copy is tried again. -/
theorem paced_retry {parent : Branch} {tried : Parser σ} (diagnostic : Diagnostic)
    (failed : Paid setting.grammar.pace (1 + setting.grammar.idle rank)
      (1 + setting.grammar.idle rank) 0 before tried) :
    Ensures (do recover setting diagnostic; copies setting fuel element count parent) tried
      (CopiesPay setting element rank count before) := by
  have anyRank := fun next (_ : element.symbol = .rule next) => setting.grammar.rank_lt next
  have idles := setting.grammar.idle_mono inRange
  have works := setting.grammar.idle_le_busy (Nat.le_refl _) rank
  have paid := setting.grammar.busy_le_pace (Nat.le_refl _)
  have share := setting.grammar.copies_le_visit
    ((Nat.sub_le (element.occurs.max.getD 0) count).trans tameElement.copies)
  have least : setting.grammar.idle rank + 1 ≤
      (element.occurs.max.getD 0 - count + 1) * (setting.grammar.idle rank + 1) :=
    Nat.le_mul_of_pos_left _ (Nat.succ_pos _)
  apply ((light_recover diagnostic tried).and (ensures_recover diagnostic)).bind
  · rintro ⟨⟩ recovered ⟨counted, token, course⟩
    have skipped := failed.skip counted course (Nat.le_refl _)
    apply (paces.copies element tameElement _ (Nat.le_refl _) anyRank count parent recovered).mono
    intro outcome after more
    exact Pays.behind_busy (skipped.mono (by omega)) more (by omega) (by omega) (by omega)
  · rintro halt after ⟨counted, _⟩
    have ended : Pays setting.grammar.pace 0 (charge setting.grammar.pace 0 0) tried
        (.error halt : Except Halt Branch) after :=
      counted.pays (Nat.le_refl 0) fun _ => Nat.zero_le _
    exact Pays.behind_idle (failed.mono (by omega)) ended (by omega) (by omega) (by omega)

end

theorem paced_rule {id : RuleId} {found : ResolvedRule}
    (lookup : setting.grammar.rule? id = some found) (before : Parser σ) :
    Ensures (rule setting (fuel + 1) id) before
      (SymbolPays setting (setting.grammar.table.rank id + 1) before) := by
  obtain ⟨member, _⟩ := Grammar.mem_of_rule? lookup
  unfold rule
  rw [lookup]
  dsimp only
  apply ((light_enter _ before).and (ensures_enter _)).bind
  · rintro _ entered ⟨counted, rests⟩
    have started : Paid setting.grammar.pace
        (setting.grammar.idle (setting.grammar.table.rank id + 1)) 0 0 before entered :=
      counted.paid rests.course (Nat.zero_le _)
    have whole : ∀ parent, Ensures (alternatives setting fuel found parent) entered
        (SymbolPays setting (setting.grammar.table.rank id + 1) before) := by
      intro parent
      apply (paces.alternatives lookup parent entered).mono
      intro outcome after pays
      exact Pays.behind_idle started pays (by omega) (by omega) (by omega)
    apply (whole _).bind
    · intro branch parsed pays
      apply ((light_exit _ parsed).and (ensures_exit branch.toNode)).mono
      rintro outcome after ⟨left, rests⟩
      exact Pays.ahead pays left rests.course fun _ _ => ⟨branch, rfl⟩
    · intro halt after pays
      exact pays.error
  · rintro halt after ⟨counted, _⟩
    exact counted.pays (Nat.zero_le _) fun _ => Nat.zero_le _

variable (tame : setting.grammar.Tame)

include tame

theorem paced_copies (element : ResolvedElement)
    (tameElement : setting.grammar.TameElement element) (rank : Nat)
    (inRange : rank ≤ setting.grammar.topRank)
    (near : ∀ next, element.symbol = .rule next → setting.grammar.table.rank next < rank)
    (count : Nat) (parent : Branch) (before : Parser σ) :
    Ensures (copies setting (fuel + 1) element count parent) before
      (CopiesPay setting element rank count before) := by
  have least : setting.grammar.idle rank + 1 ≤
      (element.occurs.max.getD 0 - count + 1) * (setting.grammar.idle rank + 1) :=
    Nat.le_mul_of_pos_left _ (Nat.succ_pos _)
  unfold copies
  apply ((light_wantsMore element count before).and (ensures_wantsMore element count)).bind
  · rintro wanted middle ⟨counted, reads⟩
    have answer := reads.only wanted rfl
    subst answer
    split
    · rename_i goesOn
      -- The loop test is the first work, and the copy may do some in advance.
      have tested : Paid setting.grammar.pace (1 + setting.grammar.idle rank) 1 0 before middle :=
        counted.paid reads.course (Nat.le_add_right _ _)
      rw [ensures_bind, ensures_attempt]
      refine ((paces.symbol element.symbol tameElement.usable.token rank near parent
        middle).and ((soundAt tame.allUsable fuel).symbol element.symbol tameElement.usable.token
          parent middle)).mono ?_
      rintro outcome tried ⟨pays, parsed⟩
      have halted : ∀ halt, outcome = .error halt →
          CopiesPay setting element rank count before (.error halt : Except Halt Branch) tried := by
        rintro halt rfl
        exact Pays.behind_idle (tested.mono (by omega)) pays (by omega) (by omega) (by omega)
      cases outcome with
      | ok branch =>
          exact paced_again paces element tameElement inRange count near
            (ResolvedElement.lt_max_of_wants goesOn) tested pays parsed
      | error halt =>
          cases halt with
          | mismatch diagnostic =>
              exact paced_retry paces element tameElement inRange count diagnostic
                (tested.trans (pays.paid_nothing parsed.2) (Nat.le_add_right _ _))
          | abort => exact halted _ rfl
          | unfinished => exact halted _ rfl
    · exact counted.pays (by omega) (le_charge (by omega) (by omega))
  · rintro halt middle ⟨counted, _⟩
    exact counted.pays (by omega) (le_charge (by omega) (by omega))

theorem paced_elements (row : List ResolvedElement)
    (tameRow : ∀ element ∈ row, setting.grammar.TameElement element)
    (width : row.length ≤ widest setting.grammar) (rank : Nat)
    (inRange : rank ≤ setting.grammar.topRank) (near : setting.grammar.Near rank row)
    (parent : Branch) (before : Parser σ) :
    Ensures (elements setting (fuel + 1) row parent) before
      (SeveralPay setting rank (row.length * setting.grammar.idleVisit rank)
        (row.length * setting.grammar.visit) before) := by
  cases row with
  | nil =>
      unfold elements
      exact (within_of_eq rfl (Nat.le_refl _)).pays (Nat.zero_le _) fun _ => Nat.zero_le _
  | cons element rest =>
      have tameElement := tameRow element (List.mem_cons_self ..)
      have tameRest : ∀ other ∈ rest, setting.grammar.TameElement other :=
        fun other member => tameRow other (List.mem_cons_of_mem _ member)
      have few := (Nat.sub_le (element.occurs.max.getD 0) 0).trans tameElement.copies
      have skips := setting.grammar.copies_le_idleVisit few rank
      have visits := setting.grammar.copies_le_visit few
      have idles := setting.grammar.idleVisit_lt_visit inRange
      rw [List.length_cons] at width ⊢
      rw [Nat.succ_mul, Nat.succ_mul]
      unfold elements
      apply ((paces.copies element tameElement rank inRange near.head 0 parent before).and
        ((soundAt tame.allUsable fuel).copies element tameElement.usable 0 parent before)).bind
      · rintro branch middle ⟨pays, items, nodes, adds, derived, _⟩
        cases items with
        | nil =>
            have skippable := isSkippable_of_derived derived adds.leaves.symm
            have skipped := pays.paid_idle adds.course
            apply (paces.elements rest tameRest (Nat.le_of_succ_le width) rank inRange
              (near.tail skippable) branch middle).mono
            intro outcome after more
            exact Pays.behind_idle (skipped.mono (by omega)) more (by omega) (by omega) (by omega)
        | cons item items =>
            have anyRow : setting.grammar.Near setting.grammar.topRank rest :=
              fun _ _ _ _ _ next _ => setting.grammar.rank_lt next
            have paid := setting.grammar.busy_le_pace inRange
            have paidLater := setting.grammar.busy_le_pace (Nat.le_refl _)
            have passed := setting.grammar.idleVisit_lt_visit (Nat.le_refl _)
            have restIdles : rest.length * setting.grammar.idleVisit setting.grammar.topRank ≤
                rest.length * setting.grammar.visit :=
              Nat.mul_le_mul_left _ (Nat.le_of_lt passed)
            have restVisits : rest.length * setting.grammar.visit ≤
                widest setting.grammar * setting.grammar.visit :=
              Nat.mul_le_mul_right _ (Nat.le_of_succ_le width)
            have taken := pays.paid_busy adds.course
            apply (paces.elements rest tameRest (Nat.le_of_succ_le width) _ (Nat.le_refl _) anyRow
              branch middle).mono
            intro outcome after more
            exact Pays.behind_busy (taken.mono (by omega)) more (by omega) (by omega) (by omega)
      · rintro halt middle ⟨pays, _⟩
        exact Pays.mono pays (by omega) (charge_mono (by omega) (by omega))

theorem paced_alternatives {id : RuleId} {found : ResolvedRule}
    (lookup : setting.grammar.rule? id = some found) (parent : Branch) (before : Parser σ) :
    Ensures (alternatives setting (fuel + 1) found parent) before
      (SymbolPays setting (setting.grammar.table.rank id + 1) before) := by
  obtain ⟨member, _⟩ := Grammar.mem_of_rule? lookup
  have inRange : setting.grammar.table.rank id ≤ setting.grammar.topRank :=
    Nat.le_of_lt (setting.grammar.rank_lt id)
  have inside : ∀ entered, Ensures
      (choose setting found >>= chosenRow setting fuel found parent) entered
      (SeveralPay setting (setting.grammar.table.rank id)
        (widest setting.grammar * setting.grammar.idleVisit (setting.grammar.table.rank id))
        (widest setting.grammar * setting.grammar.visit) entered) := by
    intro entered
    apply ((light_choose found entered).and (ensures_choose found)).bind
    · rintro ⟨index, depth⟩ middle ⟨counted, course, _⟩
      unfold chosenRow
      dsimp only
      cases present : found.alternatives[index]? with
      | none =>
          apply (light_fail _ middle).mono
          intro outcome after failed
          exact (counted.trans failed).pays (Nat.zero_le _) fun _ => Nat.zero_le _
      | some row =>
          have chosen : row ∈ found.alternatives := List.mem_of_getElem? present
          have width := tame.width found member row chosen
          have near : setting.grammar.Near (setting.grammar.table.rank id) row := by
            intro front element rest shape skippable next symbol
            exact tame.ranks id found lookup front element rest (shape ▸ chosen) skippable next
              symbol
          have recorded : Within 0 entered { middle with
              trace := middle.trace.push (.alternative found.id index depth) } :=
            counted.trans (within_push rfl (Nat.le_refl _) (Nat.le_refl _))
          have still : Course setting.grammar.vocabulary entered ([] ++ []) { middle with
              trace := middle.trace.push (.alternative found.id index depth) } :=
            course.trans (Quiet.course (quiet_record _ rfl))
          have idles : row.length * setting.grammar.idleVisit (setting.grammar.table.rank id) ≤
              widest setting.grammar *
                setting.grammar.idleVisit (setting.grammar.table.rank id) :=
            Nat.mul_le_mul_right _ width
          have visits : row.length * setting.grammar.visit ≤
              widest setting.grammar * setting.grammar.visit := Nat.mul_le_mul_right _ width
          rw [ensures_bind, ensures_record]
          apply (paces.elements row (tame.elements found member row chosen) width _ inRange near
            parent _).mono
          intro outcome after pays
          exact Pays.behind_idle (recorded.paid still (Nat.zero_le _)) pays (by omega) (by omega)
            (by omega)
    · rintro halt middle ⟨counted, _⟩
      exact counted.pays (Nat.zero_le _) fun _ => Nat.zero_le _
  rw [alternatives_succ]
  apply (ensures_inside_pays inside).mono
  intro outcome after pays
  refine Pays.mono pays (Nat.le_refl _) (charge_mono ?_ ?_)
  · rw [idle]
    exact Nat.succ_le_succ (Nat.le_add_right _ _)
  · rw [setting.grammar.busy_succ]

theorem paced_symbol (target : Symbol) (known : ∀ id, target = .token id →
      ∃ pattern, setting.grammar.vocabulary.find? id = some pattern) (rank : Nat)
    (near : ∀ next, target = .rule next → setting.grammar.table.rank next < rank)
    (parent : Branch) (before : Parser σ) :
    Ensures (symbol setting (fuel + 1) target parent) before
      (SymbolPays setting rank before) := by
  cases target with
  | token id =>
      unfold symbol
      apply (light_token id parent before).mono
      intro outcome after counted
      exact counted.pays (Nat.zero_le _) fun _ => Nat.zero_le _
  | rule id =>
      unfold symbol
      cases lookup : setting.grammar.rule? id with
      | none =>
          apply (light_fail _ before).mono
          intro outcome after counted
          exact counted.pays (Nat.zero_le _) fun _ => Nat.zero_le _
      | some found =>
          dsimp only
          split
          · apply (paces.alternatives lookup parent before).mono
            intro outcome after pays
            exact pays.mono (near id rfl)
          · rename_i isDeclared
            have declared := Bool.eq_false_iff.mpr isDeclared
            apply ((paces.rule lookup before).and
              ((soundAt tame.allUsable fuel).rule lookup declared before)).bind
            · rintro kept middle ⟨pays, items, node, _, _, keeps, _⟩
              apply ((light_attach parent kept middle).and
                (ensures_attach parent node kept keeps)).mono
              rintro outcome after ⟨left, rests⟩
              exact Pays.ahead (pays.mono (near id rfl)) left rests.course fun _ _ => ⟨kept, rfl⟩
            · rintro halt middle ⟨pays, _⟩
              exact Pays.error (pays.mono (near id rfl))

end

/-- All calls keep to the pace of the grammar. -/
theorem pacedAt (tame : setting.grammar.Tame) (fuel : Nat) : PacedAt setting fuel := by
  induction fuel with
  | zero =>
      have halted : ∀ {α : Type} {advance : Nat} {bill : Nat → Nat} (before : Parser σ),
          Pays setting.grammar.pace advance bill before
            (.error .unfinished : Except Halt α) before :=
        fun before => (within_of_eq rfl (Nat.le_refl _)).pays (Nat.zero_le _)
          fun _ => Nat.zero_le _
      exact ⟨fun _ => halted, fun _ _ => halted, fun _ _ _ _ _ _ _ => halted,
        fun _ _ _ _ _ _ _ => halted, fun _ _ _ _ _ => halted⟩
  | succ fuel ih =>
      exact ⟨paced_rule ih, paced_alternatives ih tame, paced_elements ih tame,
        paced_copies ih tame, paced_symbol ih tame⟩

/-! ## Whole parses -/

theorem light_checkEnd : Light 0 (checkEnd setting) := by
  refine (light_peek 0).bind fun found => ?_
  cases found with
  | none => exact light_pure _
  | some token => exact light_report _ true

/-- The token that is skipped before the start production is tried again pays for that. -/
theorem paced_root (tame : setting.grammar.Tame) {found : ResolvedRule}
    (lookup : setting.grammar.rule? setting.grammar.start = some found)
    (isDeclared : found.isAuxiliary = false) (steps fuel : Nat) (before : Parser σ) :
    Ensures (root setting steps fuel) before
      (Pays setting.grammar.pace (setting.grammar.idle setting.grammar.topRank)
        (charge setting.grammar.pace (setting.grammar.idle setting.grammar.topRank)
          setting.grammar.pace) before) := by
  have inRange : setting.grammar.table.rank setting.grammar.start + 1 ≤ setting.grammar.topRank :=
    setting.grammar.rank_lt setting.grammar.start
  have paid := setting.grammar.busy_le_pace (Nat.le_refl _)
  have works := setting.grammar.idle_le_busy (Nat.le_refl _) setting.grammar.topRank
  induction fuel generalizing before with
  | zero => exact (within_of_eq rfl (Nat.le_refl _)).pays (Nat.zero_le _) fun _ => Nat.zero_le _
  | succ fuel ih =>
      unfold root
      rw [ensures_bind, ensures_attempt]
      refine (((pacedAt tame steps).rule lookup before).and
        ((soundAt tame.allUsable steps).rule lookup isDeclared before)).mono ?_
      rintro outcome middle ⟨pays, parsed⟩
      have pays := pays.mono inRange
      cases outcome with
      | ok kept =>
          dsimp only
          rw [ensures_bind, ensures_discard]
          apply ((light_checkEnd middle).and ensures_checkEnd).mono
          rintro _ after ⟨counted, still, _⟩
          have whole : SymbolPays setting setting.grammar.topRank before
              (.ok kept : Except Halt (Option Node)) after :=
            Pays.ahead pays counted still fun _ _ => ⟨kept, rfl⟩
          exact Pays.mono whole (Nat.le_refl _) (charge_mono (Nat.le_refl _) (by omega))
      | error halt =>
          cases halt with
          | mismatch diagnostic =>
              have failed := pays.paid_nothing parsed
              apply ((light_recover diagnostic middle).and (ensures_recover diagnostic)).bind
              · rintro ⟨⟩ recovered ⟨counted, token, course⟩
                have skipped := failed.skip counted course (Nat.le_refl _)
                apply (ih recovered).mono
                intro outcome after more
                exact Pays.behind_busy skipped more (by omega) (by omega) (by omega)
              · rintro halt after ⟨counted, _⟩
                have ended : Pays setting.grammar.pace 0 (charge setting.grammar.pace 0 0) middle
                    (.error halt : Except Halt (Option Node)) after :=
                  counted.pays (Nat.le_refl 0) fun _ => Nat.zero_le _
                exact Pays.behind_idle failed ended (by omega) (by omega) (by omega)
          | abort => exact Pays.error pays
          | unfinished => exact Pays.error pays

theorem trace_parse (parser : Parser σ) : (parse setting parser).1.trace =
    ((root setting (parser.prepare.stepBound setting.grammar)
      (parser.prepare.tokenBound + 2)).run.run parser.prepare).2.trace := by
  unfold parse
  dsimp only
  generalize (root setting _ _).run.run parser.prepare = result
  obtain ⟨outcome, last⟩ := result
  match outcome with
  | .ok node => rfl
  | .error .unfinished => rfl
  | .error (.mismatch _) => rfl
  | .error .abort => rfl

/-- A copy of a token takes a token, and so does a copy of an element without an upper
bound. -/
theorem taken_of_copy (tame : setting.grammar.Tame) {element : ResolvedElement}
    (tameElement : setting.grammar.TameElement element)
    (takes : element.occurs.max = none ∨ ∃ id, element.symbol = .token id)
    (fuel : Nat) (parent : Branch) (before : Parser σ) :
    Ensures (symbol setting fuel element.symbol parent) before fun outcome after =>
      ∀ branch, outcome = .ok branch →
        ∃ item items, after.taken = before.taken ++ item :: items := by
  apply ((soundAt tame.allUsable fuel).symbol element.symbol tameElement.usable.token parent
    before).mono
  rintro outcome after parsed branch rfl
  obtain ⟨items, nodes, adds, built, _⟩ := parsed
  cases items with
  | nil =>
      have empty : Node.leavesOf nodes = [] := adds.leaves.symm
      rcases takes with unbounded | ⟨id, isToken⟩
      · obtain ⟨max, bound⟩ := exists_max_of_empty tameElement built empty
        rw [unbounded] at bound
        cases bound
      · have word := RuleTable.Builds.derives built
        rw [empty, isToken] at word
        cases word
  | cons item items => exact ⟨item, items, adds.course.taken⟩

/-- A parse comes to its end, whatever the input, the listener and the limits: it takes no
more tokens than there can be in the input, and each token that it takes lets it enter a
fixed number of productions and test a fixed number of loops. A copy of an element without
an upper bound takes a token, and so does a copy of a token. An error is followed by another
try only where it made a token be skipped. -/
theorem parse_paced {declaration : Ebnf.Declaration} {grammar : Grammar}
    (built : Grammar.build declaration = .ok grammar) (same : setting.grammar = grammar)
    (parser : Parser σ) :
    (parse setting parser).2 ≠ .unfinished ∧
      (∃ events, (parse setting parser).1.trace.toList = parser.trace.toList ++ events ∧
        takes events ≤ parser.tokenBound ∧
          ∀ part, part <+: events → work part ≤ grammar.pace * (takes part + 1)) ∧
      (∀ rule ∈ grammar.rules, ∀ row ∈ rule.alternatives, ∀ element ∈ row,
        (element.occurs.max = none ∨ ∃ id, element.symbol = .token id) → ∀ fuel parent before,
          Ensures (symbol setting fuel element.symbol parent) before fun outcome after =>
            ∀ branch, outcome = .ok branch →
              ∃ item items, after.taken = before.taken ++ item :: items) ∧
      ∀ diagnostic before, Ensures (recover setting diagnostic) before fun outcome after =>
        outcome = .ok () → ∃ token, after.taken = before.taken ++ [.skipped token] ∧
          before.upcoming grammar.vocabulary = token :: after.upcoming grammar.vocabulary := by
  have from' := Grammar.builtFrom_of_build built
  subst same
  obtain ⟨found, lookup, isDeclared⟩ := exists_start from'
  refine ⟨parse_ne_unfinished from' rfl parser, ?_, ?_, ?_⟩
  · obtain ⟨events, recorded, paced, _⟩ := paced_root from'.tame lookup isDeclared
      (parser.prepare.stepBound setting.grammar) (parser.prepare.tokenBound + 2) parser.prepare
    refine ⟨events, ?_, (Nat.le_add_left _ _).trans recorded.tokens, ?_⟩
    · rw [trace_parse]
      exact recorded.trace
    · intro part isPart
      have paid := setting.grammar.busy_le_pace (Nat.le_refl _)
      have bound := paced part isPart
      rw [Nat.mul_succ]
      omega
  · intro rule member row chosen element inside takes
    exact taken_of_copy from'.tame (from'.tame.elements rule member row chosen element inside)
      takes
  · intro diagnostic before
    apply (ensures_recover diagnostic).mono
    rintro outcome after skipped rfl
    obtain ⟨token, course⟩ := skipped
    exact ⟨token, course.taken, course.upcoming⟩

/-- `S = ("a" "b")*` -/
def tokenPairs : Ebnf.Declaration where
  patterns := [{ id := 0, name := "A", kind := .literal, text := "a" },
    { id := 1, name := "B", kind := .literal, text := "b" }]
  productions := [{ id := 0, name := "S", alternatives :=
    [[.group [[.token 0 .once, .token 1 .once]] ⟨0, none⟩]] }]

theorem tokenPairs_paced : ∃ grammar, Grammar.build tokenPairs = .ok grammar ∧
    let ended := parse ({ grammar, listener := treeBuilder, limits := ⟨none, none, none⟩ } :
      Setting Unit) (.ofSource (.ofString "aab") ())
    ended.2 ≠ .unfinished ∧ takes ended.1.trace.toList ≤ 3 ∧
      work ended.1.trace.toList ≤ grammar.pace * (takes ended.1.trace.toList + 1) := by
  have succeeds : (Grammar.build tokenPairs).toOption.any (fun _ => true) = true := rfl
  obtain ⟨grammar, built, _⟩ := exists_ok_of_any succeeds
  obtain ⟨finished, ⟨events, recorded, few, paced⟩, _⟩ := parse_paced built
    (show ({ grammar, listener := treeBuilder, limits := ⟨none, none, none⟩ } :
      Setting Unit).grammar = grammar from rfl) (.ofSource (.ofString "aab") ())
  have nothing : (Parser.ofSource (.ofString "aab") ()).trace.toList = [] := rfl
  have bound : (Parser.ofSource (.ofString "aab") ()).tokenBound = 3 := by decide
  rw [nothing, List.nil_append] at recorded
  rw [bound] at few
  refine ⟨grammar, built, finished, ?_⟩
  rw [recorded]
  exact ⟨few, paced events List.prefix_rfl⟩

end Parser

end StrongLL
