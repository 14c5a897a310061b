import StrongLL.Proofs.Rules.Origin

/-!
# Flattening is faithful

The table of a valid declaration is the declared grammar in another form. A declared
production has the children there that it was declared to have, if the children of
auxiliary productions are taken for those of the production around them. No number is
given away twice, all references resolve, only auxiliary productions have bounds, and each
of them belongs to the one declared production in which it is written.
-/

namespace StrongLL

namespace Flatten

open RuleTable

variable {vocabulary : Vocabulary} {declared : List Ebnf.Production}

/-! ## Entries of a flattened table -/

/-- All auxiliary productions that are made come into the table. -/
theorem present_table (sound : Ebnf.Sound vocabulary declared) :
    (productions declared { next := firstFree declared }).1.In (table declared) :=
  fun _ member => rule?_of_mem (distinct_table sound)
    (List.mem_append_right _ (List.mem_reverse.mpr member))

/-- An entry was made of a declared production, or is an auxiliary one. -/
theorem entry_cases (sound : Ebnf.Sound vocabulary declared) {rule : Rule}
    (member : rule ∈ table declared) :
    (Hosts (table declared) rule ∧ rule.id ∈ declared.map (·.id)) ∨
      (rule.isAuxiliary = true ∧ firstFree declared ≤ rule.id ∧
        (∃ entry ∈ table declared, Hosts (table declared) entry ∧
          entry.id ∈ declared.map (·.id) ∧
          ∃ alternative ∈ entry.alternatives, ∃ element ∈ alternative,
            (table declared).Under element.symbol rule.id) ∧
        ∀ alternative ∈ rule.alternatives, ∀ element ∈ alternative,
          (table declared).Wrapped element) := by
  obtain ⟨hosts, made⟩ := hosts_productions (tableStands sound) sound.valid sound_start
    (present_table sound)
  obtain ⟨grown, ids, _⟩ := grown_productions sound.valid (@sound_start vocabulary declared)
  have declaredId : ∀ entry ∈ (productions declared { next := firstFree declared }).2,
      entry.id ∈ declared.map (·.id) :=
    fun entry among => ids ▸ List.mem_map_of_mem among
  rcases List.mem_append.mp member with among | among
  · exact .inl ⟨hosts rule among, declaredId rule among⟩
  · have among := List.mem_reverse.mp among
    have number : rule.id ∈ List.range' (firstFree declared)
        ((productions declared { next := firstFree declared }).1.next - firstFree declared) := by
      rw [← List.mem_reverse, ← grown.sound.ids]
      exact List.mem_map_of_mem among
    rcases made rule among with earlier | ⟨⟨entry, inside, written⟩, wrapped⟩
    · simp at earlier
    · exact .inr ⟨grown.sound.auxiliary rule among, (List.mem_range'_1.mp number).1,
        ⟨entry, List.mem_append_left _ inside, hosts entry inside, declaredId entry inside, written⟩,
        wrapped⟩

/-- The origin of an auxiliary production is the one production it is written in. -/
theorem writtenIn_iff (sound : Ebnf.Sound vocabulary declared) {rule : Rule}
    (member : rule ∈ table declared) (isAuxiliary : rule.isAuxiliary = true) (id : RuleId) :
    (table declared).WrittenIn id rule.id ↔ id = rule.origin := by
  have distinct := distinct_table sound
  have own : ∀ entry ∈ table declared, Hosts (table declared) entry →
      ∀ alternative ∈ entry.alternatives, ∀ element ∈ alternative,
        (table declared).Under element.symbol rule.id → entry.id = rule.origin := by
    intro entry _ hosts alternative chosen element inside under
    obtain ⟨other, found, origin⟩ := hosts.origin alternative chosen element inside rule.id under
    obtain rfl := Option.some.inj (found.symm.trans (rule?_of_mem distinct member))
    exact origin.symm
  constructor
  · rintro ⟨entry, found, isDeclared, alternative, chosen, element, inside, under⟩
    obtain ⟨among, rfl⟩ := mem_of_rule? found
    rcases entry_cases sound among with ⟨hosts, _⟩ | ⟨auxiliary, _⟩
    · exact own entry among hosts alternative chosen element inside under
    · rw [isDeclared] at auxiliary
      cases auxiliary
  · rintro rfl
    rcases entry_cases sound member with ⟨hosts, _⟩ | ⟨_, _, made, _⟩
    · rw [hosts.isDeclared] at isAuxiliary
      cases isAuxiliary
    · obtain ⟨entry, among, hosts, _, alternative, chosen, element, inside, under⟩ := made
      refine ⟨entry, ?_, hosts.isDeclared, alternative, chosen, element, inside, under⟩
      rw [← own entry among hosts alternative chosen element inside under]
      exact rule?_of_mem distinct among

/-- Where bounds are other than once, an element refers to an auxiliary production. -/
theorem wrapped_table (sound : Ebnf.Sound vocabulary declared) {rule : Rule}
    (member : rule ∈ table declared) : ∀ alternative ∈ rule.alternatives,
      ∀ element ∈ alternative, (table declared).Wrapped element := by
  rcases entry_cases sound member with ⟨hosts, _⟩ | ⟨_, _, _, wrapped⟩
  · exact hosts.wrapped
  · exact wrapped

/-- The entry of a declared production belongs to itself. -/
theorem origin_of_declared (sound : Ebnf.Sound vocabulary declared) {rule : Rule}
    (member : rule ∈ table declared) (isDeclared : rule.isAuxiliary = false) :
    rule.origin = rule.id := by
  rcases entry_cases sound member with ⟨hosts, _⟩ | ⟨auxiliary, _⟩
  · exact hosts.own
  · rw [isDeclared] at auxiliary
    cases auxiliary

/-- The origin of an entry is a declared production. -/
theorem origin_mem (sound : Ebnf.Sound vocabulary declared) {rule : Rule}
    (member : rule ∈ table declared) : rule.origin ∈ declared.map (·.id) := by
  rcases entry_cases sound member with ⟨hosts, known⟩ | ⟨auxiliary, _, made, _⟩
  · exact hosts.own ▸ known
  · obtain ⟨entry, among, hosts, known, written⟩ := made
    have entryFound := rule?_of_mem (distinct_table sound) among
    have same := (writtenIn_iff sound member auxiliary entry.id).mp
      ⟨entry, entryFound, hosts.isDeclared, written⟩
    exact same ▸ known

/-! ## The declared grammar in another form -/

/-- A production has the same trees in the table as in the declaration. -/
theorem isTree_iff (sound : Ebnf.Sound vocabulary declared) {production : Ebnf.Production}
    (member : production ∈ declared) (node : Node) :
    Ebnf.IsTree { patterns := vocabulary.patterns, productions := declared } production.id node ↔
      (table declared).Builds vocabulary (.symbol (.rule production.id)) [node] := by
  let declaration : Ebnf.Declaration :=
    { patterns := vocabulary.patterns, productions := declared }
  have stand : TableStands (table declared) declaration.productions := tableStands sound
  have stands : Stands (table declared) declared (.rule production.id .once)
      (.rule production.id) := .plain (.rule (List.mem_map_of_mem member))
  have patterns : vocabulary.patterns = declaration.patterns := rfl
  exact ⟨fun tree => builds_of_declared stand patterns tree _ stands,
    fun builds => declared_of_builds stand patterns builds _ stands⟩

/-- A symbol refers to a token of a vocabulary, or to an entry of a table. -/
def Resolves (vocabulary : Vocabulary) (table : RuleTable) : Symbol → Prop
  | .token id => ∃ pattern, vocabulary.find? id = some pattern
  | .rule id => ∃ rule, table.rule? id = some rule

/-- A table is the declared grammar in another form. -/
structure Faithful (vocabulary : Vocabulary) (declared : List Ebnf.Production)
    (table : RuleTable) : Prop where
  /-- Whatever stands for tokens and productions, the children of a declared production
  are the same. -/
  children : ∀ production ∈ declared, ∃ entry, table.rule? production.id = some entry ∧
    entry.name = production.name ∧ entry.isAuxiliary = false ∧
      ∀ (child : Symbol → Node → Prop) (nodes : List Node),
        (∃ elements ∈ production.alternatives, Ebnf.Reads child (.row elements) nodes) ↔
          ∃ alternative ∈ entry.alternatives, table.Reads child (.row alternative) nodes
  trees : ∀ production ∈ declared, ∀ node,
    Ebnf.IsTree { patterns := vocabulary.patterns, productions := declared } production.id node ↔
      table.Builds vocabulary (.symbol (.rule production.id)) [node]
  fresh : ∀ rule ∈ table, rule.isAuxiliary = true →
    ∀ production ∈ declared, production.id < rule.id
  distinct : (table.map (·.id)).Nodup
  kept : ∀ rule ∈ table, table.rule? rule.id = some rule
  resolved : ∀ rule ∈ table, ∀ alternative ∈ rule.alternatives, ∀ element ∈ alternative,
    Resolves vocabulary table element.symbol
  wrapped : ∀ rule ∈ table, ∀ alternative ∈ rule.alternatives, ∀ element ∈ alternative,
    table.Wrapped element
  /-- An auxiliary production is written in the declared production that it records, and
  in no other. -/
  origin : ∀ rule ∈ table, rule.isAuxiliary = true → rule.origin ∈ declared.map (·.id) ∧
    ∀ id, table.WrittenIn id rule.id ↔ id = rule.origin
  /-- All other entries are those of declared productions. -/
  others : ∀ rule ∈ table, rule.isAuxiliary = false →
    rule.id ∈ declared.map (·.id) ∧ rule.origin = rule.id

/-- Flattening what passes the check keeps the declared grammar. -/
theorem table_faithful {vocabulary : Vocabulary} {declared : List Ebnf.Production}
    (valid : Ebnf.validate vocabulary declared = .ok ()) :
    Faithful vocabulary declared (table declared) := by
  have sound := Ebnf.sound_of_validate valid
  have wellFormed := wellFormed_table sound
  have stands := tableStands sound
  refine
    { children := fun production member => ?_
      trees := fun production member node => isTree_iff sound member node
      fresh := fun rule member isAuxiliary production inside => ?_
      distinct := wellFormed.distinct
      kept := fun rule member => rule?_of_mem wellFormed.distinct member
      resolved := fun rule member alternative chosen element inside => ?_
      wrapped := fun rule member => wrapped_table sound member
      origin := fun rule member isAuxiliary =>
        ⟨origin_mem sound member, writtenIn_iff sound member isAuxiliary⟩
      others := fun rule member isDeclared => ?_ }
  · obtain ⟨entry, found, isDeclared, name, rows⟩ := stands production member
    exact ⟨entry, found, name, isDeclared, fun child nodes => rows.reads_iff stands⟩
  · rcases entry_cases sound member with ⟨hosts, _⟩ | ⟨_, above, _⟩
    · rw [hosts.isDeclared] at isAuxiliary
      cases isAuxiliary
    · exact Nat.lt_of_lt_of_le (lt_firstFree inside) above
  · have fits := fits_table sound member chosen inside
    cases same : element.symbol with
    | token id => exact Option.isSome_iff_exists.mp (fits.token id same)
    | rule id =>
        obtain ⟨other, among, rfl⟩ := List.mem_map.mp
          (wellFormed.resolved rule member alternative chosen element inside id same)
        exact ⟨other, rule?_of_mem wellFormed.distinct among⟩
  · have origin := origin_of_declared sound member isDeclared
    exact ⟨origin ▸ origin_mem sound member, origin⟩

/-- `S = ("a" | ("b" T?){2,3})* T` and `T = "b"+` -/
def nestedGroups : List Ebnf.Production := [
  { id := 0, name := "S", alternatives := [[
    .group [[.token 0 .once],
      [.group [[.token 1 .once, .rule 7 .optional]] ⟨2, some 3⟩]] .zeroOrMore,
    .rule 7 .once]] },
  { id := 7, name := "T", alternatives := [[.token 1 .oneOrMore]] }]

theorem nestedGroups_faithful : ∃ vocabulary,
    Vocabulary.ofPatterns [{ id := 0, name := "A", kind := .literal, text := "a" },
      { id := 1, name := "B", kind := .literal, text := "b" }] false = .ok vocabulary ∧
    Ebnf.validate vocabulary nestedGroups = .ok () ∧
    Faithful vocabulary nestedGroups (table nestedGroups) := by
  have succeeds : (Vocabulary.ofPatterns
      [{ id := 0, name := "A", kind := .literal, text := "a" },
        { id := 1, name := "B", kind := .literal, text := "b" }] false).toOption.any
      (fun vocabulary => (Ebnf.validate vocabulary nestedGroups).toOption.isSome) = true := rfl
  obtain ⟨vocabulary, compiled, passed⟩ := exists_ok_of_any succeeds
  obtain ⟨⟨⟩, found⟩ := Option.isSome_iff_exists.mp passed
  have valid := toOption_eq_some.mp found
  exact ⟨vocabulary, compiled, valid, table_faithful valid⟩

end Flatten

end StrongLL
