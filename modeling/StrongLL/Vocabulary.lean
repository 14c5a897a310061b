import StrongLL.Automaton.Compile
import StrongLL.Automaton.LongestMatch

/-!
# Vocabularies

A vocabulary holds the token patterns of a language in the order declared, and
one automaton that recognises them all. Of patterns that match equally much, the
one declared first wins.
-/

namespace StrongLL

/-- Token patterns with their automaton. -/
structure Vocabulary where
  patterns : List Pattern
  automaton : Automaton

namespace Vocabulary

/-- The first thing that is wrong with the declarations of `patterns`, of which
those in `declared` come before. -/
def checkDeclarations (declared : List TokenId) : List Pattern → Except Defect Unit
  | [] => .ok ()
  | pattern :: rest => do
      if pattern.name.isEmpty then
        throw (.pattern ("#" ++ toString pattern.id) .missingName)
      if pattern.text.isEmpty then throw (.pattern pattern.name .matchesEmpty)
      if declared.contains pattern.id then
        throw (.pattern pattern.name (.duplicateId pattern.id))
      checkDeclarations (pattern.id :: declared) rest

/-- Add the automata of patterns, numbered from `index` on, to a graph whose
state `start` leads to them all. -/
def addPatterns (caseInsensitive : Bool) (start : Nat) :
    (index : Nat) → List Pattern → Graph → Except Defect Graph
  | _, [], graph => .ok graph
  | index, pattern :: rest, graph => do
      match Fragment.ofPattern caseInsensitive pattern graph with
      | .error flaw => throw (.pattern pattern.name flaw)
      | .ok (graph, fragment) =>
          let graph := (graph.addEpsilon start fragment.entry).accept fragment.exit index
          addPatterns caseInsensitive start (index + 1) rest graph

/-- Compile a list of patterns. -/
def ofPatterns (patterns : List Pattern) (caseInsensitive : Bool) :
    Except Defect Vocabulary := do
  checkDeclarations [] patterns
  if patterns.isEmpty then throw (.setup .noPatterns)
  let (graph, start) := Graph.empty.addState
  let graph ← addPatterns caseInsensitive start 0 patterns graph
  return { patterns, automaton := graph.finish start }

/-- The pattern with an identifier. -/
def find? (vocabulary : Vocabulary) (id : TokenId) : Option Pattern :=
  vocabulary.patterns.find? (·.id == id)

/-- The pattern at a place in the order declared. -/
def at? (vocabulary : Vocabulary) (index : Nat) : Option Pattern :=
  vocabulary.patterns[index]?

/-- The place of a pattern in the order declared. -/
def indexOf? (vocabulary : Vocabulary) (id : TokenId) : Option Nat :=
  vocabulary.patterns.findIdx? (·.id == id)

/-- Number of patterns. -/
def size (vocabulary : Vocabulary) : Nat := vocabulary.patterns.length

/-- How messages name a token; an unknown one by its number. -/
def describe (vocabulary : Vocabulary) (id : TokenId) : String :=
  match vocabulary.find? id with
  | some pattern => pattern.description
  | none => "#" ++ toString id

end Vocabulary

end StrongLL
