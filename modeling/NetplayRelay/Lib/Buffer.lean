import Mathlib.Data.List.AList

/-!
# Buffers by number

Entries wait under a number, in the order they came in, until everything that waits under that
number is taken out at once.
-/

namespace NetplayRelay.Lib

variable {α : Type}

/-- Entries by number. -/
abbrev Buffer (α : Type) := AList fun _ : Nat => List α

namespace Buffer

/-- What waits under a number. -/
def held (buffer : Buffer α) (key : Nat) : List α := (buffer.lookup key).getD []

/-- One more entry. -/
def add (buffer : Buffer α) (key : Nat) (entry : α) : Buffer α :=
  buffer.insert key (buffer.held key ++ [entry])

/-- Take out everything under a number. -/
def takeOut (buffer : Buffer α) (key : Nat) : List α × Buffer α :=
  (buffer.held key, buffer.erase key)

theorem held_add (buffer : Buffer α) (key other : Nat) (entry : α) :
    (buffer.add key entry).held other
      = if other = key then buffer.held key ++ [entry] else buffer.held other := by
  unfold held add
  by_cases h : other = key
  · rw [if_pos h, h, AList.lookup_insert, Option.getD_some]
    rfl
  · rw [if_neg h, AList.lookup_insert_ne h]

theorem held_takeOut (buffer : Buffer α) (key other : Nat) :
    (buffer.takeOut key).2.held other = if other = key then [] else buffer.held other := by
  unfold held takeOut
  by_cases h : other = key
  · rw [if_pos h, h, AList.lookup_erase, Option.getD_none]
  · rw [if_neg h, AList.lookup_erase_ne h]

end Buffer

end NetplayRelay.Lib
