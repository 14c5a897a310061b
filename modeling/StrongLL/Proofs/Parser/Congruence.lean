import StrongLL.Proofs.Parser.Descent

/-!
# Relations that the descent keeps

The descent is put together of a few kinds of steps. A relation between steps under two
limits that holds of these steps, and is kept where steps are put together, holds of the
whole descent. With the limits the same on both sides, this covers properties of one run.
-/

namespace StrongLL

namespace Parser

variable {σ α β : Type}

/-! ## Steps that are put together -/

/-- What looks at the outcome of a step goes on in any case. -/
theorem attempt_bind_run {before : Parser σ} {step : Parse σ α}
    {next : Except Halt α → Parse σ β} : (attempt step >>= next).run.run before =
      (next (step.run.run before).1).run.run (step.run.run before).2 := rfl

/-- Go on behind a step, and deal with a mismatch in it. -/
def rescue (step : Parse σ α) (next : α → Parse σ β) (handler : Diagnostic → Parse σ β) :
    Parse σ β := do
  match ← attempt step with
  | .ok value => next value
  | .error (.mismatch diagnostic) => handler diagnostic
  | .error halt => throw halt

theorem rescue_run {before : Parser σ} {step : Parse σ α} {next : α → Parse σ β}
    {handler : Diagnostic → Parse σ β} : (rescue step next handler).run.run before =
      match step.run.run before with
      | (.ok value, middle) => (next value).run.run middle
      | (.error (.mismatch diagnostic), middle) => (handler diagnostic).run.run middle
      | (.error halt, middle) => (.error halt, middle) := by
  rw [rescue, attempt_bind_run]
  generalize (step.run.run before : Except Halt α × Parser σ) = result
  match result with
  | (.ok value, middle) => rfl
  | (.error (.mismatch diagnostic), middle) => rfl
  | (.error .abort, middle) => rfl
  | (.error .unfinished, middle) => rfl

/-- The copies of an element, one step of the way. -/
theorem copies_succ (setting : Setting σ) (fuel : Nat) (element : ResolvedElement) (count : Nat)
    (parent : Branch) : copies setting (fuel + 1) element count parent = (do
      if ← wantsMore setting element count then
        rescue (symbol setting fuel element.symbol parent)
          (fun branch => copies setting fuel element (count + 1) branch)
          fun diagnostic => do
            recover setting diagnostic
            copies setting fuel element count parent
      else return parent) := by
  rw [copies]
  refine bind_congr fun wanted => ?_
  cases wanted with
  | false => rfl
  | true =>
      refine bind_congr fun tried => ?_
      cases tried with
      | ok branch => rfl
      | error halt =>
          cases halt with
          | mismatch diagnostic => rfl
          | abort => rfl
          | unfinished => rfl

/-! ## Compatible relations -/

/-- What has to be shown of a relation between steps under two limits where no decision is
made. -/
structure CompatibleSteps (setting : Setting σ) (limits : Limits)
    (rel : ∀ {α : Type}, Parse σ α → Parse σ α → Prop) : Prop where
  pure : ∀ {α : Type} (value : α), rel (pure value) (pure value)
  unfinished : ∀ {α : Type}, rel (throw .unfinished : Parse σ α) (throw .unfinished)
  fail : ∀ {α : Type} (fault : Fault), fault = .unknownRule ∨ fault = .noSuchAlternative →
    rel (fail fault : Parse σ α) (fail fault)
  bind : ∀ {α β : Type} {step step' : Parse σ α} {next next' : α → Parse σ β},
    rel step step' → (∀ value, rel (next value) (next' value)) →
      rel (step >>= next) (step' >>= next')
  rescue : ∀ {α β : Type} {step step' : Parse σ α} {next next' : α → Parse σ β}
    {handler handler' : Diagnostic → Parse σ β}, rel step step' →
      (∀ value, rel (next value) (next' value)) →
        (∀ diagnostic, rel (handler diagnostic) (handler' diagnostic)) →
          rel (rescue step next handler) (rescue step' next' handler')
  inside : ∀ {α : Type} (rule : RuleId) {step step' : Parse σ α}, rel step step' →
    rel (inside setting rule step) (inside { setting with limits } rule step')
  alternative : ∀ rule index depth, rel (record (.alternative rule index depth))
    (record (.alternative rule index depth))
  enter : ∀ node, rel (enter setting node) (enter { setting with limits } node)
  exit : ∀ node, rel (exit setting node) (exit { setting with limits } node)
  attach : ∀ parent kept,
    rel (attach setting parent kept) (attach { setting with limits } parent kept)
  token : ∀ id parent, rel (token setting id parent) (token { setting with limits } id parent)
  recover : ∀ diagnostic,
    rel (recover setting diagnostic) (recover { setting with limits } diagnostic)

/-- What has to be shown of a relation between steps under two limits, so that it holds of
the descent. -/
structure Compatible (setting : Setting σ) (limits : Limits)
    (rel : ∀ {α : Type}, Parse σ α → Parse σ α → Prop) : Prop
    extends CompatibleSteps setting limits rel where
  choose : ∀ rule, rel (choose setting rule) (choose { setting with limits } rule)
  wantsMore : ∀ element count,
    rel (wantsMore setting element count) (wantsMore { setting with limits } element count)

/-- What has to be shown where only decisions of a kind are made. -/
structure CompatibleOn (fits : Option Decision → Prop) (setting : Setting σ) (limits : Limits)
    (rel : ∀ {α : Type}, Parse σ α → Parse σ α → Prop) : Prop
    extends CompatibleSteps setting limits rel where
  choose : ∀ rule : ResolvedRule, fits rule.decision →
    rel (choose setting rule) (choose { setting with limits } rule)
  wantsMore : ∀ (element : ResolvedElement) count, fits element.decision →
    rel (wantsMore setting element count) (wantsMore { setting with limits } element count)

/-- All decisions at the elements of a row are of a kind. -/
def RowFits (fits : Option Decision → Prop) (row : List ResolvedElement) : Prop :=
  ∀ element ∈ row, fits element.decision

/-- All decisions in a production are of a kind. -/
def RuleFits (fits : Option Decision → Prop) (found : ResolvedRule) : Prop :=
  fits found.decision ∧ ∀ row ∈ found.alternatives, RowFits fits row

/-- What holds of all calls with some fuel where only decisions of a kind are made. -/
structure RelatedOn (fits : Option Decision → Prop) (setting : Setting σ) (limits : Limits)
    (rel : ∀ {α : Type}, Parse σ α → Parse σ α → Prop) (fuel : Nat) : Prop where
  rule : ∀ id, rel (rule setting fuel id) (rule { setting with limits } fuel id)
  alternatives : ∀ found parent, RuleFits fits found → rel (alternatives setting fuel found parent)
    (alternatives { setting with limits } fuel found parent)
  elements : ∀ row parent, RowFits fits row →
    rel (elements setting fuel row parent) (elements { setting with limits } fuel row parent)
  copies : ∀ (element : ResolvedElement) count parent, fits element.decision →
    rel (copies setting fuel element count parent)
      (copies { setting with limits } fuel element count parent)
  symbol : ∀ target parent,
    rel (symbol setting fuel target parent) (symbol { setting with limits } fuel target parent)

section

variable {fits : Option Decision → Prop} {setting : Setting σ} {limits : Limits}
  {rel : ∀ {α : Type}, Parse σ α → Parse σ α → Prop}
  (compatible : CompatibleOn fits setting limits rel) {fuel : Nat}
  (related : RelatedOn fits setting limits rel fuel)

include compatible related

theorem related_elements (row : List ResolvedElement) (parent : Branch)
    (rowFits : RowFits fits row) : rel (elements setting (fuel + 1) row parent)
      (elements { setting with limits } (fuel + 1) row parent) := by
  cases row with
  | nil => exact compatible.pure parent
  | cons element rest =>
      obtain ⟨first, others⟩ := List.forall_mem_cons.mp rowFits
      apply compatible.bind (related.copies element 0 parent first)
      intro branch
      exact related.elements rest branch others

theorem related_copies (element : ResolvedElement) (count : Nat) (parent : Branch)
    (elementFits : fits element.decision) : rel (copies setting (fuel + 1) element count parent)
      (copies { setting with limits } (fuel + 1) element count parent) := by
  rw [copies_succ, copies_succ]
  apply compatible.bind (compatible.wantsMore element count elementFits)
  intro wanted
  cases wanted with
  | false => exact compatible.pure parent
  | true =>
      simp only [if_true]
      apply compatible.rescue (related.symbol element.symbol parent)
      · intro branch
        exact related.copies element (count + 1) branch elementFits
      · intro diagnostic
        apply compatible.bind (compatible.recover diagnostic)
        intro _
        exact related.copies element count parent elementFits

theorem related_alternatives (found : ResolvedRule) (parent : Branch)
    (ruleFits : RuleFits fits found) : rel (alternatives setting (fuel + 1) found parent)
      (alternatives { setting with limits } (fuel + 1) found parent) := by
  obtain ⟨choiceFits, rowsFit⟩ := ruleFits
  unfold alternatives
  apply compatible.inside
  apply compatible.bind (compatible.choose found choiceFits)
  rintro ⟨index, depth⟩
  dsimp only
  cases present : found.alternatives[index]? with
  | none => exact compatible.fail _ (.inr rfl)
  | some chosen =>
      apply compatible.bind (compatible.alternative found.id index depth)
      intro _
      exact related.elements chosen parent (rowsFit chosen (List.mem_of_getElem? present))

variable (allFit : ∀ id found, setting.grammar.rule? id = some found → RuleFits fits found)

include allFit

theorem related_rule (id : RuleId) :
    rel (rule setting (fuel + 1) id) (rule { setting with limits } (fuel + 1) id) := by
  unfold rule
  dsimp only
  cases lookup : setting.grammar.rule? id with
  | none => exact compatible.fail _ (.inl rfl)
  | some found =>
      apply compatible.bind (compatible.enter _)
      intro _
      apply compatible.bind (related.alternatives found _ (allFit id found lookup))
      intro branch
      exact compatible.exit branch.toNode

theorem related_symbol (target : Symbol) (parent : Branch) :
    rel (symbol setting (fuel + 1) target parent)
      (symbol { setting with limits } (fuel + 1) target parent) := by
  cases target with
  | token id => exact compatible.token id parent
  | rule id =>
      unfold symbol
      dsimp only
      cases lookup : setting.grammar.rule? id with
      | none => exact compatible.fail _ (.inl rfl)
      | some found =>
          cases isAuxiliary : found.isAuxiliary with
          | true =>
              simp only [isAuxiliary, if_true]
              exact related.alternatives found parent (allFit id found lookup)
          | false =>
              simp only [isAuxiliary, Bool.false_eq_true, if_false]
              apply compatible.bind (related.rule id)
              intro kept
              exact compatible.attach parent kept

end

/-- A relation that is compatible with all kinds of steps holds of the descent. -/
theorem CompatibleOn.relatedOn {fits : Option Decision → Prop} {setting : Setting σ}
    {limits : Limits} {rel : ∀ {α : Type}, Parse σ α → Parse σ α → Prop}
    (compatible : CompatibleOn fits setting limits rel)
    (allFit : ∀ id found, setting.grammar.rule? id = some found → RuleFits fits found)
    (fuel : Nat) : RelatedOn fits setting limits rel fuel := by
  induction fuel with
  | zero =>
      constructor
      · exact fun _ => compatible.unfinished
      · exact fun _ _ _ => compatible.unfinished
      · exact fun _ _ _ => compatible.unfinished
      · exact fun _ _ _ _ => compatible.unfinished
      · exact fun _ _ => compatible.unfinished
  | succ fuel ih =>
      exact ⟨related_rule compatible ih allFit, related_alternatives compatible ih,
        related_elements compatible ih, related_copies compatible ih,
        related_symbol compatible ih allFit⟩

/-- What holds of all calls with some fuel. -/
structure RelatedAt (setting : Setting σ) (limits : Limits)
    (rel : ∀ {α : Type}, Parse σ α → Parse σ α → Prop) (fuel : Nat) : Prop where
  rule : ∀ id, rel (rule setting fuel id) (rule { setting with limits } fuel id)
  alternatives : ∀ found parent, rel (alternatives setting fuel found parent)
    (alternatives { setting with limits } fuel found parent)
  elements : ∀ row parent,
    rel (elements setting fuel row parent) (elements { setting with limits } fuel row parent)
  copies : ∀ element count parent, rel (copies setting fuel element count parent)
    (copies { setting with limits } fuel element count parent)
  symbol : ∀ target parent,
    rel (symbol setting fuel target parent) (symbol { setting with limits } fuel target parent)

/-- Where all decisions are allowed for there is no condition on them. -/
theorem Compatible.relatedAt {setting : Setting σ} {limits : Limits}
    {rel : ∀ {α : Type}, Parse σ α → Parse σ α → Prop}
    (compatible : Compatible setting limits rel) (fuel : Nat) :
    RelatedAt setting limits rel fuel := by
  have always : CompatibleOn (fun _ => True) setting limits rel :=
    { compatible with
      choose := fun rule _ => compatible.choose rule
      wantsMore := fun element count _ => compatible.wantsMore element count }
  have row (elements : List ResolvedElement) : RowFits (fun _ => True) elements :=
    fun _ _ => trivial
  have rule (found : ResolvedRule) : RuleFits (fun _ => True) found :=
    ⟨trivial, fun elements _ => row elements⟩
  have related := always.relatedOn (fun _ found _ => rule found) fuel
  exact ⟨related.rule, fun found parent => related.alternatives found parent (rule found),
    fun elements parent => related.elements elements parent (row elements),
    fun element count parent => related.copies element count parent trivial, related.symbol⟩

end Parser

end StrongLL
