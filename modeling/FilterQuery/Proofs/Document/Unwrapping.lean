import FilterQuery.Document.Schema
import Mathlib.Computability.StateTransition

/-!
# Types that have no end

Unwrapping a declared type is a loop: while a reference, a collection or a name stands around
something, go on with what is behind it. A name may lead back to itself, and then the loop never
ends.

`DeclaredType.behind?` is one round of the loop. The total functions of the model are what the loop
computes: `ofOption_target?` for the loop through references alone, `spell?_eq_none_iff` and
`exists_mem_eval_of_spell?` for the loop through references and collections. They find a loop
without end by the names that have been met; `Pursuit` says what is known of these.
-/

namespace FilterQuery

open StateTransition Relation

section Loops

variable {State : Type} {step : State → Option State} {state next : State}

end Loops

section Tables

variable {Entry : Type} {nameOf : Entry → String} {table others : List Entry} {entry : Entry}
  {name excluded : String}

end Tables

namespace DeclaredType

/-- One round of unwrapping: what stands directly behind a reference, a name or, if they are
unwrapped too, a collection. -/
def behind? (named : List NamedType) (collections : Bool) : DeclaredType → Option DeclaredType
  | .element _ => none
  | .pointer target => some target
  | .collection _ item => if collections then some item else none
  | .named name => (named.find? (·.name = name)).map NamedType.definition

/-- What is known when unwrapping has come to a type and some names have not been met: those that
have been met lead to the type. -/
structure Pursuit (named closed : List NamedType) (collections : Bool) (type : DeclaredType) :
    Prop where
  declared : ∀ {name entry}, closed.find? (·.name = name) = some entry →
    named.find? (·.name = name) = some entry
  met : ∀ {name}, (named.find? (·.name = name)).isSome → closed.find? (·.name = name) = none →
    Reaches₁ (behind? named collections) (.named name) type

namespace Pursuit

variable {named closed others : List NamedType} {collections : Bool} {type inner : DeclaredType}
  {name : String} {entry : NamedType}

theorem start (named : List NamedType) (collections : Bool) (type : DeclaredType) :
    Pursuit named named collections type where
  declared found := found
  met listed missing := by
    rw [missing] at listed
    cases listed

theorem step (pursuit : Pursuit named closed collections type)
    (stepped : type.behind? named collections = some inner) :
    Pursuit named closed collections inner where
  declared := pursuit.declared
  met listed missing := (pursuit.met listed missing).tail stepped

end Pursuit

end DeclaredType

end FilterQuery
