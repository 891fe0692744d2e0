import Mathlib.Data.List.AList

/-!
# Keyed stores

A store keeps one value under each key. Beside the operations on single keys it can rewrite all
values in place and drop several keys at once.

An intake fills a store in two steps. The key and a draft of the value are fixed first; the value is
completed and stored when an answer from outside has come, and until then other things may happen
to the store. Storing is a plain insertion: `keeps_finish` says exactly when it disturbs nothing.
-/

namespace NetplayRelay.Lib

variable {κ α β δ : Type} [DecidableEq κ]

/-- Values by key. -/
abbrev Store (κ α : Type) := AList fun _ : κ => α

namespace Store

/-- Rewrite every value in place. -/
def mapValues (f : α → α) (m : Store κ α) : Store κ α :=
  ⟨m.entries.map (.map id fun _ => f), List.NodupKeys.map₂ _ _ m.nodupKeys⟩

theorem lookup_mapValues (f : α → α) (m : Store κ α) (key : κ) :
    (mapValues f m).lookup key = (m.lookup key).map f :=
  List.dlookup_map₂ key

/-- Drop several keys. -/
def eraseAll (keys : List κ) (m : Store κ α) : Store κ α := keys.foldl (fun m key => m.erase key) m

theorem lookup_eraseAll (keys : List κ) (m : Store κ α) (key : κ) :
    (eraseAll keys m).lookup key = if key ∈ keys then none else m.lookup key := by
  induction keys generalizing m with
  | nil => rfl
  | cons first rest ih =>
    rw [eraseAll, List.foldl_cons, ← eraseAll, ih]
    by_cases hrest : key ∈ rest
    · rw [if_pos hrest, if_pos (List.mem_cons_of_mem _ hrest)]
    rw [if_neg hrest]
    by_cases hfirst : key = first
    · rw [hfirst, AList.lookup_erase, if_pos List.mem_cons_self]
    · rw [AList.lookup_erase_ne hfirst, if_neg (by simp [hfirst, hrest])]

/-- The keys of the values that pass a test. -/
def keysWhere (test : α → Bool) (m : Store κ α) : List κ :=
  (m.entries.filter fun entry => test entry.2).map (·.1)

theorem mem_keysWhere {test : α → Bool} {m : Store κ α} {key : κ} :
    key ∈ keysWhere test m ↔ ∃ a, m.lookup key = some a ∧ test a := by
  simp only [keysWhere, List.mem_map, List.mem_filter]
  constructor
  · rintro ⟨⟨key', a⟩, ⟨hmem, htest⟩, rfl⟩
    exact ⟨a, AList.mem_lookup_iff.mpr hmem, htest⟩
  · rintro ⟨a, ha, htest⟩
    exact ⟨⟨key, a⟩, ⟨AList.mem_lookup_iff.mp ha, htest⟩, rfl⟩

/-- Everything stored in the one is stored in the other. -/
def Keeps (m m' : Store κ α) : Prop := ∀ key a, m.lookup key = some a → m'.lookup key = some a

/-- An insertion disturbs what else is stored under its key, and nothing beside it. -/
theorem keeps_insert {m : Store κ α} {key : κ} {new : α} :
    Keeps m (m.insert key new) ↔ ∀ old, m.lookup key = some old → old = new := by
  constructor
  · intro h old hold
    have hkept := h key old hold
    rw [AList.lookup_insert] at hkept
    exact (Option.some.inj hkept).symm
  · intro h key' a ha
    by_cases hkey : key' = key
    · subst hkey
      rw [AList.lookup_insert, h a ha]
    · rw [AList.lookup_insert_ne hkey]
      exact ha

end Store

/-! ## Filling a store in two steps -/

/-- A store, and the values that are being made for it. -/
structure Intake (κ δ α : Type) where
  stored : Store κ α
  awaited : List (κ × δ)

namespace Intake

/-- Nothing yet. -/
def empty : Intake κ δ α := ⟨∅, []⟩

/-- A key and a draft are fixed. Nothing is stored yet, and the key is not reserved. -/
def begin (key : κ) (draft : δ) (s : Intake κ δ α) : Intake κ δ α :=
  { s with awaited := s.awaited ++ [(key, draft)] }

/-- The answer for the draft in place `i` has come. -/
def finish (complete : δ → β → α) (i : Nat) (answer : β) (s : Intake κ δ α) : Intake κ δ α :=
  match s.awaited[i]? with
  | none => s
  | some (key, draft) =>
    { stored := s.stored.insert key (complete draft answer), awaited := s.awaited.eraseIdx i }

/-- **Storing disturbs nothing** exactly if nothing else is stored under the key by then. -/
theorem keeps_finish {complete : δ → β → α} {i : Nat} {answer : β} {s : Intake κ δ α} :
    s.stored.Keeps (s.finish complete i answer).stored
      ↔ ∀ key draft, s.awaited[i]? = some (key, draft) →
        ∀ old, s.stored.lookup key = some old → old = complete draft answer := by
  unfold finish
  cases h : s.awaited[i]? with
  | none => exact ⟨fun _ _ _ h => absurd h (by simp), fun _ _ _ ha => ha⟩
  | some entry =>
    obtain ⟨key, draft⟩ := entry
    refine Store.keeps_insert.trans ⟨fun hall key' draft' heq => ?_, fun hall => hall key draft rfl⟩
    obtain ⟨rfl, rfl⟩ := Prod.mk.inj (Option.some.inj heq)
    exact hall

end Intake

end NetplayRelay.Lib
