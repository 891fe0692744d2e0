import Mathlib.Data.List.Forall2
import Mathlib.Data.List.Nodup
import Mathlib.Data.List.Perm.Subperm

/-!
# Editing the entries of a fixed table

A table is a list of entries that is never resized: an edit rewrites the first entry that
satisfies a test, or all of them. The lemmas say what an edit does to the entry a test selects, to
a relation between the old and the new table entry by entry, and to a relation between the
entries of one table.
-/

namespace NetplayRelay.Lib

variable {α : Type} {β : Type} {k : α → β} {R : α → α → Prop} {bs : List α}

/-- Rewrite the first entry that satisfies `p`. -/
def updateFirst (p : α → Bool) (f : α → α) : List α → List α
  | [] => []
  | a :: as => if p a then f a :: as else a :: updateFirst p f as

/-- Rewrite every entry that satisfies `p`. -/
def updateWhere (p : α → Bool) (f : α → α) (as : List α) : List α :=
  as.map fun a => if p a then f a else a

variable {p q : α → Bool} {f g : α → α} {as : List α} {a : α}

/-! ## The selected entry -/

/-- The entry an edit selects is found again where the rewrite keeps the test. -/
theorem find?_updateFirst (h : as.find? p = some a) (hf : p (f a)) :
    (updateFirst p f as).find? p = some (f a) := by
  induction as with
  | nil => exact absurd h (by simp)
  | cons b as ih =>
    rw [List.find?_cons] at h
    rw [updateFirst]
    cases hb : p b with
    | true =>
      rw [hb] at h
      obtain rfl := Option.some.inj h
      rw [if_pos rfl, List.find?_cons, hf]
    | false =>
      rw [hb] at h
      rw [if_neg Bool.false_ne_true, List.find?_cons, hb]
      exact ih h

/-- The rewritten entry is in the table. -/
theorem mem_updateFirst (h : as.find? p = some a) : f a ∈ updateFirst p f as := by
  induction as with
  | nil => exact absurd h (by simp)
  | cons b as ih =>
    rw [List.find?_cons] at h
    rw [updateFirst]
    cases hb : p b with
    | true =>
      rw [hb] at h
      obtain rfl := Option.some.inj h
      exact List.mem_cons_self
    | false =>
      rw [hb] at h
      exact List.mem_cons_of_mem _ (ih h)

/-- A key without repetitions selects its entry. -/
theorem find?_key [DecidableEq β] (hnd : (as.map k).Nodup) (ha : a ∈ as) :
    as.find? (fun b => k b = k a) = some a := by
  induction as with
  | nil => exact absurd ha (by simp)
  | cons b as ih =>
    rw [List.map_cons, List.nodup_cons] at hnd
    rw [List.find?_cons]
    rcases List.mem_cons.mp ha with rfl | ha
    · simp
    have hne : k b ≠ k a := by
      intro hba
      exact hnd.1 (hba ▸ List.mem_map_of_mem ha)
    simp only [hne, decide_false]
    exact ih hnd.2 ha

/-- Two tests that select the same entry edit it alike. -/
theorem updateFirst_congr (hp : as.find? p = some a) (hq : as.find? q = some a) :
    updateFirst p f as = updateFirst q f as := by
  induction as with
  | nil => rfl
  | cons b as ih =>
    rw [List.find?_cons] at hp hq
    rw [updateFirst, updateFirst]
    cases hpb : p b <;> cases hqb : q b <;> rw [hpb] at hp <;> rw [hqb] at hq
    · rw [if_neg Bool.false_ne_true, if_neg Bool.false_ne_true, ih hp hq]
    · -- the second test takes `b`, which the first one has passed over
      obtain rfl := Option.some.inj hq
      exact absurd (List.find?_some hp) (by rw [hpb]; simp)
    · obtain rfl := Option.some.inj hp
      exact absurd (List.find?_some hq) (by rw [hqb]; simp)
    · rfl

/-- Two edits of the same entry are one. -/
theorem updateFirst_updateFirst (h : ∀ a, p (f a) = p a) :
    updateFirst p g (updateFirst p f as) = updateFirst p (g ∘ f) as := by
  induction as with
  | nil => rfl
  | cons b as ih =>
    rw [updateFirst, updateFirst]
    cases hb : p b with
    | true => rw [if_pos rfl, if_pos rfl, updateFirst, h, hb, if_pos rfl, Function.comp_apply]
    | false =>
      rw [if_neg Bool.false_ne_true, if_neg Bool.false_ne_true, updateFirst, hb,
        if_neg Bool.false_ne_true, ih]

/-- Under a key without repetitions at most one entry is rewritten. -/
theorem updateFirst_key [DecidableEq β] {key : β} (hnd : (as.map k).Nodup) :
    updateFirst (fun b => k b = key) f as = updateWhere (fun b => k b = key) f as := by
  induction as with
  | nil => rfl
  | cons a as ih =>
    rw [List.map_cons, List.nodup_cons] at hnd
    rw [updateFirst, updateWhere, List.map_cons, ← updateWhere]
    by_cases ha : k a = key
    · -- no later entry has the key
      have hrest : updateWhere (fun b => k b = key) f as = as := by
        rw [updateWhere, List.map_congr_left (g := id), List.map_id]
        intro b hb
        have hne : k b ≠ key := by
          intro hbkey
          exact hnd.1 (ha ▸ hbkey ▸ List.mem_map_of_mem hb)
        simp [hne]
      simp [ha, hrest]
    · simp [ha, ih hnd.2]

/-- What is in the table after an edit by key. -/
theorem mem_updateFirst_key [DecidableEq β] {key : β} {b : α} (hnd : (as.map k).Nodup)
    (h : b ∈ updateFirst (fun a => k a = key) f as) :
    ∃ a ∈ as, b = if k a = key then f a else a := by
  rw [updateFirst_key hnd, updateWhere] at h
  obtain ⟨a, ha, rfl⟩ := List.mem_map.mp h
  exact ⟨a, ha, by simp only [decide_eq_true_eq]⟩

/-! ## Old and new entries -/

/-- An edit relates the two tables entry by entry when the rewrite of the selected entry does. -/
theorem forall₂_updateFirst (hrefl : ∀ a, R a a) (hf : ∀ a, as.find? p = some a → R a (f a)) :
    List.Forall₂ R as (updateFirst p f as) := by
  induction as with
  | nil => exact .nil
  | cons a as ih =>
    rw [updateFirst]
    cases ha : p a with
    | true =>
      refine .cons (hf a ?_) (List.forall₂_same.mpr fun b _ => hrefl b)
      rw [List.find?_cons, ha]
    | false =>
      refine .cons (hrefl a) (ih fun b hb => hf b ?_)
      rw [List.find?_cons, ha]
      exact hb

/-- What relates the two tables relates the selected entry and its rewrite. -/
theorem rel_of_forall₂_updateFirst (ha : as.find? p = some a)
    (h : List.Forall₂ R as (updateFirst p f as)) : R a (f a) := by
  induction as with
  | nil => exact absurd ha (by simp)
  | cons b as ih =>
    rw [List.find?_cons] at ha
    rw [updateFirst] at h
    cases hb : p b with
    | true =>
      rw [hb] at ha h
      obtain rfl := Option.some.inj ha
      exact (List.forall₂_cons.mp h).1
    | false =>
      rw [hb] at ha h
      exact ih ha (List.forall₂_cons.mp h).2

theorem forall₂_updateWhere (hrefl : ∀ a, R a a) (hf : ∀ a ∈ as, p a → R a (f a)) :
    List.Forall₂ R as (updateWhere p f as) := by
  rw [updateWhere, List.forall₂_map_right_iff, List.forall₂_same]
  intro a ha
  split
  · rename_i hp
    exact hf a ha hp
  · exact hrefl a

/-- Two changes of the table, one after the other. -/
theorem forall₂_comp {S T : α → α → Prop} {cs : List α} (h : List.Forall₂ R as bs)
    (h' : List.Forall₂ S bs cs) (hR : ∀ a b c, R a b → S b c → T a c) : List.Forall₂ T as cs := by
  induction h generalizing cs with
  | nil =>
    cases h'
    exact .nil
  | cons hab _ ih =>
    cases h' with
    | cons hbc hrest => exact .cons (hR _ _ _ hab hbc) (ih hrest)

theorem forall₂_trans {cs : List α} (hR : ∀ {a b c}, R a b → R b c → R a c)
    (h : List.Forall₂ R as bs) (h' : List.Forall₂ R bs cs) : List.Forall₂ R as cs :=
  forall₂_comp h h' fun _ _ _ => hR

/-- Every new entry comes from an old one. -/
theorem forall₂_mem {b : α} (h : List.Forall₂ R as bs) (hb : b ∈ bs) : ∃ a ∈ as, R a b := by
  induction h with
  | nil => exact absurd hb (by simp)
  | @cons a' b' as bs hab _ ih =>
    rcases List.mem_cons.mp hb with rfl | hb
    · exact ⟨a', List.mem_cons_self, hab⟩
    · obtain ⟨a, ha, hR⟩ := ih hb
      exact ⟨a, List.mem_cons_of_mem _ ha, hR⟩

/-- What no entry changes is the same projection of the table. -/
theorem map_eq_of_forall₂ (h : List.Forall₂ (fun a b => k b = k a) as bs) :
    bs.map k = as.map k := by
  induction h with
  | nil => rfl
  | cons hab _ ih => rw [List.map_cons, List.map_cons, hab, ih]

/-- A test that no entry changes finds the same thing in both tables. -/
theorem find?_map_of_forall₂ (h : List.Forall₂ R as bs) (hp : ∀ a b, R a b → p b = p a)
    (hk : ∀ a b, R a b → k b = k a) : (bs.find? p).map k = (as.find? p).map k := by
  induction h with
  | nil => rfl
  | @cons a b _ _ hab _ ih =>
    rw [List.find?_cons, List.find?_cons, hp a b hab]
    cases p a with
    | true => exact congrArg some (hk a b hab)
    | false => exact ih

/-- Two tests that agree entry by entry. -/
theorem any_of_forall₂ (h : List.Forall₂ R as bs) (hp : ∀ a b, R a b → q b = p a) :
    bs.any q = as.any p := by
  induction h with
  | nil => rfl
  | @cons a b _ _ hab _ ih => rw [List.any_cons, List.any_cons, hp a b hab, ih]

theorem all_of_forall₂ (h : List.Forall₂ R as bs) (hp : ∀ a b, R a b → q b = p a) :
    bs.all q = as.all p := by
  rw [List.all_eq_not_any_not, List.all_eq_not_any_not]
  refine congrArg (!·) (any_of_forall₂ h fun a b hab => ?_)
  rw [hp a b hab]

/-! ## Entries of one table -/

/-- A relation between any two entries survives a change of the table that keeps it. -/
theorem pairwise_forall₂ {S : α → α → Prop} (hS : ∀ {a a' b b'}, S a a' → S b b' → R a b → R a' b')
    (h : List.Forall₂ S as bs) (hR : as.Pairwise R) : bs.Pairwise R := by
  induction h with
  | nil => exact .nil
  | @cons a a' as bs ha hrest ih =>
    obtain ⟨hhead, htail⟩ := List.pairwise_cons.mp hR
    refine List.pairwise_cons.mpr ⟨fun b' hb' => ?_, ih htail⟩
    obtain ⟨b, hb, hbb'⟩ := forall₂_mem hrest hb'
    exact hS ha hbb' (hhead b hb)

/-- A symmetric relation between any two entries survives an edit that keeps the selected entry
related to all others. -/
theorem pairwise_updateFirst (hsymm : ∀ {a b}, R a b → R b a)
    (hf : ∀ a b, as.find? p = some a → b ∈ as → R a b → R (f a) b) (hR : as.Pairwise R) :
    (updateFirst p f as).Pairwise R := by
  induction as with
  | nil => exact .nil
  | cons a as ih =>
    obtain ⟨hhead, htail⟩ := List.pairwise_cons.mp hR
    rw [updateFirst]
    cases ha : p a with
    | true =>
      refine List.pairwise_cons.mpr ⟨fun b hb => ?_, htail⟩
      refine hf a b ?_ (List.mem_cons_of_mem _ hb) (hhead b hb)
      rw [List.find?_cons, ha]
    | false =>
      have hskip : ∀ b, as.find? p = some b → (a :: as).find? p = some b := by
        intro b hb
        rw [List.find?_cons, ha]
        exact hb
      refine List.pairwise_cons.mpr ⟨fun b' hb' => ?_, ?_⟩
      · -- the edited entry, if it is this one, was related to `a` before
        have hrel : List.Forall₂ (fun b c => c = b ∨ as.find? p = some b ∧ c = f b) as
            (updateFirst p f as) :=
          forall₂_updateFirst (fun _ => .inl rfl) fun b hb => .inr ⟨hb, rfl⟩
        obtain ⟨b, hb, rfl | ⟨hfind, rfl⟩⟩ := forall₂_mem hrel hb'
        · exact hhead b' hb
        · exact hsymm (hf b a (hskip b hfind) List.mem_cons_self (hsymm (hhead b hb)))
      · exact ih (fun b c hb hc => hf b c (hskip b hb) (List.mem_cons_of_mem _ hc)) htail

/-- An entry is the only one exactly if there is one entry. -/
theorem length_eq_one_iff_forall (hnodup : as.Nodup) (ha : a ∈ as) :
    as.length = 1 ↔ ∀ b ∈ as, b = a := by
  constructor
  · intro hone b hb
    obtain ⟨c, rfl⟩ := List.length_eq_one_iff.mp hone
    rw [List.mem_singleton] at ha hb
    rw [ha, hb]
  · intro honly
    have hle : as.length ≤ [a].length :=
      (List.Nodup.subperm hnodup fun b hb => List.mem_singleton.mpr (honly b hb)).length_le
    have hpos := List.length_pos_of_mem ha
    exact Nat.le_antisymm hle hpos

end NetplayRelay.Lib
