import Mathlib.Data.List.Range
import StrongLL.Proofs.Ebnf.Validity
import StrongLL.Proofs.Rules.Language
import StrongLL.Rules.Flatten

/-!
# Flattening keeps the shape of a grammar

Every declared element has a symbol in the flattened table that stands for it: its own
token or production, or an auxiliary production made for it. Auxiliary productions are
numbered one after the other from behind the declared ones on, so that none is
overwritten, and all that the table refers to is there.
-/

namespace StrongLL

/-- What flattening promises of an element: bounds that can be met, and references to a
known token, a declared production, or an auxiliary one that is made already. -/
structure Element.Fits (vocabulary : Vocabulary) (rules : List RuleId) (free next : RuleId)
    (element : Element) : Prop where
  bounded : element.occurs.isValid = true
  token : ∀ id, element.symbol = .token id → (vocabulary.find? id).isSome = true
  rule : ∀ id, element.symbol = .rule id → id ∈ rules ∨ (free ≤ id ∧ id < next)

theorem Element.Fits.mono {vocabulary : Vocabulary} {rules : List RuleId}
    {free next later : RuleId} {element : Element} (less : next ≤ later)
    (fits : element.Fits vocabulary rules free next) :
    element.Fits vocabulary rules free later where
  bounded := fits.bounded
  token := fits.token
  rule id symbol := (fits.rule id symbol).imp_right fun bounds => ⟨bounds.1, Nat.lt_of_lt_of_le bounds.2 less⟩

namespace Flatten

/-! ## Supplies -/

section

variable {vocabulary : Vocabulary} {rules : List RuleId} {free : RuleId}
  {origin : Ebnf.Production}

/-- All elements of several alternatives fit. -/
def AllFit (vocabulary : Vocabulary) (rules : List RuleId) (free next : RuleId)
    (alternatives : List Alternative) : Prop :=
  ∀ alternative ∈ alternatives, ∀ element ∈ alternative,
    element.Fits vocabulary rules free next

theorem AllFit.mono {next later : RuleId} {alternatives : List Alternative}
    (less : next ≤ later) (fit : AllFit vocabulary rules free next alternatives) :
    AllFit vocabulary rules free later alternatives :=
  fun alternative member element inside => (fit alternative member element inside).mono less

/-- The auxiliary productions made so far are numbered in a row, and all that they refer
to is there. -/
structure Supply.Sound (vocabulary : Vocabulary) (rules : List RuleId) (free : RuleId)
    (supply : Supply) : Prop where
  low : free ≤ supply.next
  ids : supply.rules.map (·.id) = (List.range' free (supply.next - free)).reverse
  auxiliary : ∀ rule ∈ supply.rules, rule.isAuxiliary = true
  fits : ∀ rule ∈ supply.rules, AllFit vocabulary rules free supply.next rule.alternatives

/-- What a part of flattening does to a supply. -/
structure Grown (vocabulary : Vocabulary) (rules : List RuleId) (free : RuleId)
    (before after : Supply) : Prop where
  sound : after.Sound vocabulary rules free
  less : before.next ≤ after.next
  kept : before.rules <:+ after.rules

theorem Grown.refl {supply : Supply} (sound : supply.Sound vocabulary rules free) :
    Grown vocabulary rules free supply supply :=
  ⟨sound, Nat.le_refl _, List.suffix_refl _⟩

theorem Grown.trans {first second third : Supply}
    (left : Grown vocabulary rules free first second)
    (right : Grown vocabulary rules free second third) :
    Grown vocabulary rules free first third :=
  ⟨right.sound, Nat.le_trans left.less right.less, left.kept.trans right.kept⟩

theorem grown_auxiliary {occurs : Occurs} {alternatives : List Alternative} {supply : Supply}
    (sound : supply.Sound vocabulary rules free) (bounds : occurs.isValid = true)
    (fit : AllFit vocabulary rules free supply.next alternatives) :
    Grown vocabulary rules free supply (auxiliary origin occurs alternatives supply).1 ∧
      (auxiliary origin occurs alternatives supply).2.Fits vocabulary rules free
        (auxiliary origin occurs alternatives supply).1.next := by
  have low := sound.low
  refine ⟨⟨⟨?_, ?_, ?_, ?_⟩, Nat.le_succ _, List.suffix_cons _ _⟩, ⟨bounds, ?_, ?_⟩⟩
  · exact Nat.le_succ_of_le low
  · have count : supply.next + 1 - free = supply.next - free + 1 := Nat.succ_sub low
    simp only [auxiliary, List.map_cons, sound.ids, count, List.range'_concat,
      List.reverse_append, List.reverse_singleton, List.singleton_append]
    rw [Nat.one_mul, Nat.add_sub_cancel' low]
  · intro rule member
    rcases List.mem_cons.mp member with rfl | member
    · rfl
    · exact sound.auxiliary rule member
  · intro rule member
    rcases List.mem_cons.mp member with rfl | member
    · exact fit.mono (Nat.le_succ _)
    · exact (sound.fits rule member).mono (Nat.le_succ _)
  · intro id symbol
    cases symbol
  · intro id symbol
    obtain rfl : supply.next = id := Symbol.rule.inj symbol
    exact .inr ⟨low, Nat.lt_succ_self _⟩

theorem grown_repeated {symbol : Symbol} {occurs : Occurs} {supply : Supply}
    (sound : supply.Sound vocabulary rules free) (bounds : occurs.isValid = true)
    (fits : ({ symbol } : Element).Fits vocabulary rules free supply.next) :
    Grown vocabulary rules free supply (repeated origin symbol occurs supply).1 ∧
      (repeated origin symbol occurs supply).2.Fits vocabulary rules free
        (repeated origin symbol occurs supply).1.next := by
  unfold repeated
  split
  · exact ⟨.refl sound, fits⟩
  · refine grown_auxiliary sound bounds fun alternative member element inside => ?_
    obtain rfl := List.mem_singleton.mp member
    obtain rfl := List.mem_singleton.mp inside
    exact fits

mutual
theorem grown_element : (declared : Ebnf.Element) → declared.Valid vocabulary rules →
    (supply : Supply) → supply.Sound vocabulary rules free →
      Grown vocabulary rules free supply (element origin declared supply).1 ∧
        (element origin declared supply).2.Fits vocabulary rules free
          (element origin declared supply).1.next
  | .token id occurs, valid, supply, sound => by
      cases valid with
      | token bounds known =>
          refine grown_repeated sound bounds ⟨rfl, fun other same => ?_, fun _ other => ?_⟩
          · obtain rfl := Symbol.token.inj same
            exact known
          · cases other
  | .rule id occurs, valid, supply, sound => by
      cases valid with
      | rule bounds known =>
          refine grown_repeated sound bounds ⟨rfl, fun _ other => ?_, fun other same => ?_⟩
          · cases other
          · obtain rfl := Symbol.rule.inj same
            exact .inl known
  | .group declared occurs, valid, supply, sound => by
      cases valid with
      | group bounds inner =>
          obtain ⟨grown, fit⟩ := grown_alternatives declared inner supply sound
          obtain ⟨further, fits⟩ := grown_auxiliary grown.sound bounds fit
          exact ⟨grown.trans further, fits⟩

theorem grown_alternatives : (declared : List (List Ebnf.Element)) →
    (∀ elements ∈ declared, ∀ element ∈ elements, element.Valid vocabulary rules) →
    (supply : Supply) → supply.Sound vocabulary rules free →
      Grown vocabulary rules free supply (alternatives origin declared supply).1 ∧
        AllFit vocabulary rules free (alternatives origin declared supply).1.next
          (alternatives origin declared supply).2
  | [], _, supply, sound => ⟨.refl sound, by simp [alternatives, AllFit]⟩
  | first :: rest, valid, supply, sound => by
      obtain ⟨grown, fits⟩ := grown_elements first (valid first (by simp)) supply sound
      obtain ⟨further, fit⟩ := grown_alternatives rest
        (fun elements member => valid elements (by simp [member])) _ grown.sound
      refine ⟨grown.trans further, fun alternative member => ?_⟩
      rcases List.mem_cons.mp member with rfl | member
      · exact fun element inside => (fits element inside).mono further.less
      · exact fit alternative member

theorem grown_elements : (declared : List Ebnf.Element) →
    (∀ element ∈ declared, element.Valid vocabulary rules) →
    (supply : Supply) → supply.Sound vocabulary rules free →
      Grown vocabulary rules free supply (elements origin declared supply).1 ∧
        ∀ element ∈ (elements origin declared supply).2,
          element.Fits vocabulary rules free (elements origin declared supply).1.next
  | [], _, supply, sound => ⟨.refl sound, by simp [elements]⟩
  | first :: rest, valid, supply, sound => by
      obtain ⟨grown, fits⟩ := grown_element first (valid first (by simp)) supply sound
      obtain ⟨further, others⟩ := grown_elements rest
        (fun element member => valid element (by simp [member])) _ grown.sound
      refine ⟨grown.trans further, fun element member => ?_⟩
      rcases List.mem_cons.mp member with rfl | member
      · exact fits.mono further.less
      · exact others element member
end

theorem grown_productions {declared : List Ebnf.Production}
    (valid : ∀ production ∈ declared, ∀ elements ∈ production.alternatives,
      ∀ element ∈ elements, element.Valid vocabulary rules)
    {supply : Supply} (sound : supply.Sound vocabulary rules free) :
    Grown vocabulary rules free supply (productions declared supply).1 ∧
      (productions declared supply).2.map (·.id) = declared.map (·.id) ∧
        ∀ rule ∈ (productions declared supply).2,
          AllFit vocabulary rules free (productions declared supply).1.next rule.alternatives := by
  induction declared generalizing supply with
  | nil => exact ⟨.refl sound, rfl, by simp [productions]⟩
  | cons first rest ih =>
      have fresh : Supply.Sound vocabulary rules free { supply with made := 0 } :=
        ⟨sound.low, sound.ids, sound.auxiliary, sound.fits⟩
      obtain ⟨grown, fit⟩ := @grown_alternatives vocabulary rules free first first.alternatives
        (valid first (by simp)) _ fresh
      obtain ⟨further, ids, others⟩ := ih
        (fun production member => valid production (by simp [member])) grown.sound
      refine ⟨⟨further.sound, Nat.le_trans grown.less further.less,
        grown.kept.trans further.kept⟩, ?_, fun rule member => ?_⟩
      · exact congrArg (first.id :: ·) ids
      · rcases List.mem_cons.mp member with rfl | member
        · exact fit.mono further.less
        · exact others rule member

end

/-! ## The flattened table -/

theorem lt_firstFree {declared : List Ebnf.Production} {production : Ebnf.Production}
    (member : production ∈ declared) : production.id < firstFree declared :=
  (le_foldl_max fun production : Ebnf.Production => production.id + 1).2 production member

section

variable {vocabulary : Vocabulary} {declared : List Ebnf.Production}

/-- All supplies are sound from the beginning. -/
theorem sound_start : Supply.Sound vocabulary (declared.map (·.id)) (firstFree declared)
    { next := firstFree declared } :=
  ⟨Nat.le_refl _, by simp, by simp, by simp⟩

/-- The auxiliary productions follow the declared ones, under new numbers. -/
theorem table_ids (sound : Ebnf.Sound vocabulary declared) :
    ∃ count, (table declared).map (·.id) =
      declared.map (·.id) ++ List.range' (firstFree declared) count := by
  obtain ⟨grown, ids, _⟩ := grown_productions sound.valid sound_start
  refine ⟨(productions declared { next := firstFree declared }).1.next - firstFree declared, ?_⟩
  simp only [table, List.map_append, List.map_reverse, ids, grown.sound.ids, List.reverse_reverse]

theorem distinct_table (sound : Ebnf.Sound vocabulary declared) :
    ((table declared).map (·.id)).Nodup := by
  obtain ⟨count, ids⟩ := table_ids sound
  rw [ids]
  refine List.nodup_append.mpr ⟨sound.distinct, List.nodup_range', ?_⟩
  rintro id inDeclared other inRange rfl
  obtain ⟨production, member, rfl⟩ := List.mem_map.mp inDeclared
  exact Nat.lt_irrefl _ (Nat.lt_of_lt_of_le (lt_firstFree member) (List.mem_range'_1.mp inRange).1)

/-- All elements of a flattened table fit. -/
theorem fits_table (sound : Ebnf.Sound vocabulary declared) {rule : Rule}
    (member : rule ∈ table declared) {alternative : Alternative}
    (chosen : alternative ∈ rule.alternatives) {element : Element}
    (inside : element ∈ alternative) :
    element.Fits vocabulary (declared.map (·.id)) (firstFree declared)
      (productions declared { next := firstFree declared }).1.next := by
  obtain ⟨grown, _, fit⟩ := grown_productions sound.valid sound_start
  rcases List.mem_append.mp member with member | member
  · exact fit rule member alternative chosen element inside
  · exact grown.sound.fits rule (List.mem_reverse.mp member) alternative chosen element inside

/-- All tokens that a flattened table names have patterns. -/
theorem find?_of_names (sound : Ebnf.Sound vocabulary declared) {token : TokenId}
    (named : (table declared).Names token) : (vocabulary.find? token).isSome = true := by
  obtain ⟨id, alternative, chosen, element, inside, symbol⟩ := named
  obtain ⟨rule, found, inRule⟩ := RuleTable.exists_rule_of_mem_alternatives chosen
  exact (fits_table sound (RuleTable.mem_of_rule? found).1 inRule inside).token token symbol

/-- What a valid declaration is flattened to is well formed. -/
theorem wellFormed_table (sound : Ebnf.Sound vocabulary declared) :
    (table declared).WellFormed := by
  obtain ⟨grown, ids, _⟩ := grown_productions sound.valid sound_start
  refine ⟨distinct_table sound, ?_, ?_⟩
  · intro rule member alternative chosen element inside id symbol
    have known := (fits_table sound member chosen inside).rule id symbol
    simp only [table, List.map_append, List.map_reverse, ids, grown.sound.ids,
      List.reverse_reverse, List.mem_append, List.mem_range'_1]
    exact known.imp_right fun bounds => ⟨bounds.1, by
      rw [Nat.add_sub_cancel' grown.sound.low]
      exact bounds.2⟩
  · intro rule member alternative chosen element inside
    exact (fits_table sound member chosen inside).bounded

end

end Flatten

end StrongLL
