import OpenClHash.Library.History

/-!
Owns stores of values by position, one store for each key, that are filled anew in rounds:
a `use` of a key ends its round, and what was set stays until it is set again. If every
value is set at the position that counts the values set before it in the round, the store
holds the values of the round in their order, whatever happens to other keys.
-/

namespace OpenClHash.Library.Rounds

open OpenClHash.Library.History

/-- An entry of a record, newest first. -/
inductive Entry (Key Value : Type) where
  | set (key : Key) (index : Nat) (value : Value)
  | use (key : Key)
deriving DecidableEq, Repr

variable {Key Value : Type} [DecidableEq Key]

namespace Entry

def key : Entry Key Value → Key
  | .set key _ _ | .use key => key

end Entry

/-- What the store of a key holds at a position: the value set there last. -/
def held (key : Key) (index : Nat) : List (Entry Key Value) → Option Value
  | [] => none
  | .set other position value :: older =>
      if other = key ∧ position = index then some value else held key index older
  | .use _ :: older => held key index older

/-- A value that the store holds was set. -/
theorem mem_of_held {key : Key} {index : Nat} {value : Value} {entries : List (Entry Key Value)}
    (holds : held key index entries = some value) : .set key index value ∈ entries := by
  induction entries with
  | nil => cases holds
  | cons entry older inductionHypothesis =>
      cases entry with
      | set other position stored =>
          rw [held] at holds
          split at holds
          · rename_i here
            obtain ⟨rfl, rfl⟩ := here
            cases holds
            exact List.mem_cons_self
          · exact List.mem_cons_of_mem _ (inductionHypothesis holds)
      | use other => exact List.mem_cons_of_mem _ (inductionHypothesis holds)

/-- The values set for a key since its last use, in the order in which they were set. -/
def round (key : Key) : List (Entry Key Value) → List Value
  | [] => []
  | .set other _ value :: older =>
      if other = key then round key older ++ [value] else round key older
  | .use other :: older => if other = key then [] else round key older

/-- Every value is set right behind those of its round. -/
def Positional : List (Entry Key Value) → Prop :=
  Throughout fun entry older => ∀ key index value, entry = .set key index value →
    index = (round key older).length

variable {key : Key} {index : Nat} {value : Value} {older entries : List (Entry Key Value)}

@[simp] theorem round_set (key : Key) (index : Nat) (value : Value)
    (older : List (Entry Key Value)) :
    round key (.set key index value :: older) = round key older ++ [value] := if_pos rfl

@[simp] theorem round_use (key : Key) (older : List (Entry Key Value)) :
    round key (.use key :: older) = [] := if_pos rfl

/-- The entries of other keys do not count. -/
theorem round_other (entry : Entry Key Value) (other : entry.key ≠ key) :
    round key (entry :: older) = round key older := by
  cases entry with
  | set otherKey position value => exact if_neg other
  | use otherKey => exact if_neg other

theorem round_of_unknown (unknown : ∀ entry ∈ entries, entry.key ≠ key) :
    round key entries = [] := by
  induction entries with
  | nil => rfl
  | cons entry older inductionHypothesis =>
      rw [List.forall_mem_cons] at unknown
      rw [round_other entry unknown.1, inductionHypothesis unknown.2]

theorem Positional.set (positional : Positional older) (key : Key) (value : Value) :
    Positional (.set key (round key older).length value :: older) := by
  refine ⟨?_, positional⟩
  intro other index stored same
  cases same
  rfl

theorem Positional.use (positional : Positional older) (key : Key) :
    Positional (.use key :: older) :=
  ⟨nofun, positional⟩

/-- The store of a key holds the values of its round. -/
theorem Positional.held_eq_some (positional : Positional entries) {position : Nat}
    (inRound : (round key entries)[position]? = some value) :
    held key position entries = some value := by
  induction entries generalizing value with
  | nil => cases inRound
  | cons entry older inductionHypothesis =>
      rcases positional with ⟨counts, positional⟩
      cases entry with
      | set other index stored =>
          have next := counts other index stored rfl
          by_cases same : other = key
          · subst same
            rw [round_set] at inRound
            by_cases last : index = position
            · rw [← last, next, List.getElem?_concat_length] at inRound
              rw [Rounds.held, if_pos ⟨rfl, last⟩, inRound]
            · have inOlder : (round other older)[position]? = some value := by
                have below : position < (round other older ++ [stored]).length :=
                  (List.getElem?_eq_some_iff.mp inRound).1
                rw [List.length_append, List.length_singleton] at below
                rwa [List.getElem?_append_left (by omega)] at inRound
              rw [Rounds.held, if_neg fun both => last both.2]
              exact inductionHypothesis positional inOlder
          · rw [round_other (.set other index stored) same] at inRound
            rw [Rounds.held, if_neg fun both => same both.1]
            exact inductionHypothesis positional inRound
      | use other =>
          by_cases same : other = key
          · rw [same, round_use] at inRound
            cases inRound
          · rw [round_other (.use other) same] at inRound
            exact inductionHypothesis positional inRound

/-- The same for the whole round. -/
theorem Positional.held_round (positional : Positional entries) (key : Key) :
    (List.range (round key entries).length).map (fun position => held key position entries) =
      (round key entries).map some := by
  apply List.ext_getElem?
  intro position
  by_cases below : position < (round key entries).length
  · have value : (round key entries)[position]? = some (round key entries)[position] :=
      List.getElem?_eq_getElem below
    rw [List.getElem?_map, List.getElem?_map, List.getElem?_range below, value, Option.map_some,
      Option.map_some, positional.held_eq_some value]
  · rw [List.getElem?_eq_none (by simpa using below), List.getElem?_eq_none (by simpa using below)]

end OpenClHash.Library.Rounds
