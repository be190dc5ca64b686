import OpenClHash.Library.History

/-!
Owns the lifetimes of named objects in a record of events: an object is alive once it was
created and while it has not been released, and a record uses only live objects when
every event names objects that are alive at that point.
-/

namespace OpenClHash.Library.Lifetime

open OpenClHash.Library.History

/-- What an event creates, releases and uses. -/
structure Vocabulary (ε ι : Type) where
  creates : ε → Option ι
  releases : ε → Option ι
  uses : ε → List ι

variable {ε ι : Type} (vocabulary : Vocabulary ε ι)

def Created (record : List ε) (name : ι) : Prop :=
  ∃ event ∈ record, vocabulary.creates event = some name

def Released (record : List ε) (name : ι) : Prop :=
  ∃ event ∈ record, vocabulary.releases event = some name

def Alive (record : List ε) (name : ι) : Prop :=
  Created vocabulary record name ∧ ¬ Released vocabulary record name

def UsesAlive : List ε → Prop :=
  Throughout fun event older => ∀ name ∈ vocabulary.uses event, Alive vocabulary older name

section Results

variable {vocabulary} {record : List ε} {event : ε} {name : ι}

@[simp] theorem created_cons : Created vocabulary (event :: record) name ↔
    vocabulary.creates event = some name ∨ Created vocabulary record name := by
  simp [Created]

@[simp] theorem released_cons : Released vocabulary (event :: record) name ↔
    vocabulary.releases event = some name ∨ Released vocabulary record name := by
  simp [Released]

@[simp] theorem not_created_nil : ¬ Created vocabulary [] name := by simp [Created]

@[simp] theorem not_released_nil : ¬ Released vocabulary [] name := by simp [Released]

@[simp] theorem usesAlive_nil : UsesAlive vocabulary [] := trivial

@[simp] theorem usesAlive_cons : UsesAlive vocabulary (event :: record) ↔
    (∀ name ∈ vocabulary.uses event, Alive vocabulary record name) ∧
      UsesAlive vocabulary record := Iff.rfl

theorem Created.older (created : Created vocabulary (event :: record) name)
    (creates : vocabulary.creates event = none) : Created vocabulary record name := by
  rcases created_cons.mp created with now | before
  · rw [creates] at now
    cases now
  · exact before

theorem Released.older (released : Released vocabulary (event :: record) name)
    (releases : vocabulary.releases event = none) : Released vocabulary record name := by
  rcases released_cons.mp released with now | before
  · rw [releases] at now
    cases now
  · exact before

/-- An event that releases something else leaves an object alive. -/
theorem Alive.cons (alive : Alive vocabulary record name)
    (other : vocabulary.releases event ≠ some name) : Alive vocabulary (event :: record) name := by
  constructor
  · exact created_cons.mpr (.inr alive.1)
  · rw [released_cons]
    rintro (released | released)
    · exact other released
    · exact alive.2 released

/-- A created object is alive if its name was never released. -/
theorem alive_of_creates (creates : vocabulary.creates event = some name)
    (keeps : vocabulary.releases event ≠ some name) (fresh : ¬ Released vocabulary record name) :
    Alive vocabulary (event :: record) name := by
  constructor
  · exact created_cons.mpr (.inl creates)
  · rw [released_cons]
    rintro (released | released)
    · exact keeps released
    · exact fresh released

theorem Released.append (released : Released vocabulary record name) (newer : List ε) :
    Released vocabulary (newer ++ record) name := by
  rcases released with ⟨event, member, releases⟩
  exact ⟨event, List.mem_append_right _ member, releases⟩

theorem Released.not_alive (released : Released vocabulary record name) :
    ¬ Alive vocabulary record name := fun alive => alive.2 released

end Results

end OpenClHash.Library.Lifetime
