import Mathlib.Data.List.Basic

/-!
# Sliding windows

A limiter lets something happen at most so often within any window of a given width. It keeps a log
of the times at which it happened and, when it is asked again, drops what has left the window and
counts the rest. The log forgets, the bound is about everything that ever happened: `Remembers`
says that the log still has every event that can matter, and `windowCount_append` that one more
event keeps the bound.

Where time does not go backwards the log can be a queue that expires from its front. `QueueLog` is
what such a queue keeps; from it comes when the next event is let through, and how long one that is
not has to wait.
-/

namespace NetplayRelay.Lib

variable {width now now' limit : Nat} {history log times : List Nat} {oldest : Nat}
  {rest : List Nat}

/-- The events of the last `width` units before `now`. -/
def recent (width now : Nat) (times : List Nat) : List Nat :=
  times.filter fun time => now - time < width

/-- How many events fall into the half-open window of `width` units from `start` on. -/
def windowCount (width start : Nat) (times : List Nat) : Nat :=
  times.countP fun time => start ≤ time && time < start + width

/-- The log has the recent events of the whole history. -/
def Remembers (width now : Nat) (history log : List Nat) : Prop :=
  recent width now log = recent width now history

/-- What is recent later was recent before. -/
theorem recent_recent (h : now ≤ now') :
    recent width now' (recent width now times) = recent width now' times := by
  rw [recent, recent, List.filter_filter, recent]
  refine List.filter_congr fun time _ => ?_
  by_cases htime : now' - time < width
  · have hbefore : now - time < width := by omega
    simp [htime, hbefore]
  · simp [htime]

namespace Remembers

theorem later (h : Remembers width now history log) (hle : now ≤ now') :
    Remembers width now' history log := by
  rw [Remembers, ← recent_recent hle, h, recent_recent hle]

/-- The log may drop what is no longer recent. -/
theorem pruned (h : Remembers width now history log) :
    Remembers width now history (recent width now log) := by
  rw [Remembers, recent_recent (Nat.le_refl now), h]

theorem record (h : Remembers width now history log) (time : Nat) :
    Remembers width now (history ++ [time]) (log ++ [time]) := by
  rw [Remembers, recent, recent, List.filter_append, List.filter_append]
  exact congrArg (· ++ _) h

end Remembers

/-- **The bound.** Where fewer than `limit` events are recent, one more keeps every window at
`limit`. -/
theorem windowCount_append (hrecent : (recent width now times).length < limit)
    (h : ∀ start, windowCount width start times ≤ limit) (start : Nat) :
    windowCount width start (times ++ [now]) ≤ limit := by
  rw [windowCount, List.countP_append]
  by_cases hnow : start ≤ now ∧ now < start + width
  · -- whatever shares a window with `now` is recent
    have hshared : times.countP (fun time => start ≤ time && time < start + width)
        ≤ times.countP fun time => now - time < width := by
      refine List.countP_mono_left fun time _ htime => ?_
      simp only [Bool.and_eq_true, decide_eq_true_eq] at htime ⊢
      omega
    rw [List.countP_eq_length_filter, List.countP_eq_length_filter] at hshared
    rw [recent] at hrecent
    rw [List.countP_eq_length_filter]
    simp only [List.countP_singleton, decide_eq_true_eq, Bool.and_eq_true, hnow, and_self, if_true]
    omega
  · have hout : [now].countP (fun time => start ≤ time && time < start + width) = 0 := by
      simp only [List.countP_singleton, decide_eq_true_eq, Bool.and_eq_true, hnow, if_false]
    rw [hout]
    exact h start

/-- The window that ends at `now`, with `now` in it. -/
theorem countP_le_windowCount (now : Nat) (times : List Nat) :
    times.countP (fun time => now < time + width && time ≤ now)
      ≤ windowCount width (now + 1 - width) times := by
  refine List.countP_mono_left fun time _ htime => ?_
  simp only [Bool.and_eq_true, decide_eq_true_eq] at htime ⊢
  omega

/-! ## Queues -/

/-- A queue drops what has left the window from its front. -/
def expire (width now : Nat) (queue : List Nat) : List Nat :=
  queue.dropWhile fun time => time + width ≤ now

theorem expire_cons_of_le (h : oldest + width ≤ now) :
    expire width now (oldest :: rest) = expire width now rest :=
  List.dropWhile_cons_of_pos (by simpa using h)

theorem expire_cons_of_lt (h : now < oldest + width) :
    expire width now (oldest :: rest) = oldest :: rest :=
  List.dropWhile_cons_of_neg (by simpa using h)

/-- In a queue in order nothing recent stands behind something expired. -/
theorem expire_eq_recent (hwidth : 0 < width) {queue : List Nat}
    (hsorted : queue.Pairwise (· ≤ ·)) : expire width now queue = recent width now queue := by
  induction queue with
  | nil => rfl
  | cons oldest rest ih =>
    obtain ⟨hfirst, hrest⟩ := List.pairwise_cons.mp hsorted
    by_cases hold : oldest + width ≤ now
    · rw [expire_cons_of_le hold, ih hrest, recent, recent, List.filter_cons_of_neg]
      simp only [decide_eq_true_eq]
      omega
    · rw [expire_cons_of_lt (by omega)]
      refine (List.filter_eq_self.mpr fun time htime => ?_).symm
      rw [decide_eq_true_eq]
      rcases List.mem_cons.mp htime with rfl | hlater
      · omega
      · have := hfirst time hlater
        omega

/-- The oldest entry is the first to go. -/
theorem expire_length_lt_iff :
    (expire width now (oldest :: rest)).length < (oldest :: rest).length
      ↔ oldest + width ≤ now := by
  by_cases hold : oldest + width ≤ now
  · rw [expire_cons_of_le hold]
    have := (List.dropWhile_sublist (l := rest) fun time => time + width ≤ now).length_le
    refine iff_of_true ?_ hold
    rw [expire, List.length_cons]
    omega
  · rw [expire_cons_of_lt (by omega)]
    exact iff_of_false (Nat.lt_irrefl _) hold

/-- How long the oldest entry still stays. -/
theorem expire_wait_iff {wait : Nat} (hold : oldest ≤ now) :
    (expire width (now + wait) (oldest :: rest)).length < (oldest :: rest).length
      ↔ width - (now - oldest) ≤ wait := by
  rw [expire_length_lt_iff]
  omega

/-- The queue stands for the whole history at time `now`. -/
structure QueueLog (width limit now : Nat) (history queue : List Nat) : Prop where
  sorted : queue.Pairwise (· ≤ ·)
  past : ∀ time ∈ queue, time ≤ now
  remembers : Remembers width now history queue
  short : queue.length ≤ limit

namespace QueueLog

theorem empty : QueueLog width limit now [] [] :=
  ⟨.nil, by simp, rfl, Nat.zero_le _⟩

theorem later (h : QueueLog width limit now history log) (hle : now ≤ now') :
    QueueLog width limit now' history log :=
  ⟨h.sorted, fun time htime => Nat.le_trans (h.past time htime) hle, h.remembers.later hle, h.short⟩

theorem expired (h : QueueLog width limit now history log) (hwidth : 0 < width) :
    QueueLog width limit now history (expire width now log) := by
  have hsub : (expire width now log).Sublist log := List.dropWhile_sublist _
  refine ⟨h.sorted.sublist hsub, fun time htime => h.past time (hsub.subset htime), ?_,
    Nat.le_trans hsub.length_le h.short⟩
  rw [expire_eq_recent hwidth h.sorted]
  exact h.remembers.pruned

/-- What is left after expiry is what is recent in the history. -/
theorem expire_eq (h : QueueLog width limit now history log) (hwidth : 0 < width) :
    expire width now log = recent width now history := by
  rw [expire_eq_recent hwidth h.sorted, h.remembers]

theorem record (h : QueueLog width limit now history log) (hroom : log.length < limit) :
    QueueLog width limit now (history ++ [now]) (log ++ [now]) := by
  refine ⟨?_, ?_, h.remembers.record now, ?_⟩
  · refine List.pairwise_append.mpr ⟨h.sorted, List.pairwise_singleton _ _, ?_⟩
    intro time htime last hlast
    rw [List.mem_singleton.mp hlast]
    exact h.past time htime
  · intro time htime
    rcases List.mem_append.mp htime with hbefore | hlast
    · exact h.past time hbefore
    · obtain rfl := List.mem_singleton.mp hlast
      exact Nat.le_refl time
  · rw [List.length_append, List.length_singleton]
    omega

end QueueLog

end NetplayRelay.Lib
