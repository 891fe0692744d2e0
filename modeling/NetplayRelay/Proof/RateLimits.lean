import Mathlib.Data.List.Dedup
import Mathlib.Data.List.Induction
import Mathlib.Order.Bounds.Defs
import NetplayRelay.Lib.Window
import NetplayRelay.RateLimit.WindowLimiter

/-!
# The rate limiter over whole histories

A check looks at the queue of its own pair and writes no other. So the limiter is one sliding window
per pair, and the queue of a pair is a `QueueLog` of the requests that were let through: whether
the next one is, and how long it has to wait otherwise, is a matter of the last minute.

The same fact has a downside. Nothing ever looks at the queue of a pair that is not checked again,
so it stays for as long as the process runs.
-/

namespace NetplayRelay.Proof

open Lib Protocol RateLimit

/-- One request to the limiter. -/
structure RateLimitCheck where
  action : RateLimitAction
  key : Text
  now : Instant

namespace RateLimitCheck

def bucket (check : RateLimitCheck) : RateLimitBucket := ⟨check.action, check.key⟩

/-- The check lies in the minute that ends at `now`. -/
def within (check : RateLimitCheck) (now : Instant) : Bool :=
  now < check.now + rateLimitWindow && check.now ≤ now

end RateLimitCheck

variable {limiter limiter' : InMemoryRateLimiter} {check : RateLimitCheck}
  {bucket : RateLimitBucket} {policy : RateLimitPolicy} {checks : List RateLimitCheck}
  {now : Instant}

/-- A check and the limiter after it. -/
def answer (limiter : InMemoryRateLimiter) (check : RateLimitCheck) :
    Except RateLimitExceeded Unit × InMemoryRateLimiter :=
  limiter.checkAt check.action check.key check.now

/-- The limiter after some checks. -/
def afterChecks (limiter : InMemoryRateLimiter) (checks : List RateLimitCheck) :
    InMemoryRateLimiter :=
  checks.foldl (fun limiter check => (answer limiter check).2) limiter

/-- Those of the checks that are let through. -/
def acceptedChecks (limiter : InMemoryRateLimiter) : List RateLimitCheck → List RateLimitCheck
  | [] => []
  | check :: checks =>
    let later := acceptedChecks (answer limiter check).2 checks
    if (answer limiter check).1.isOk then check :: later else later

theorem afterChecks_concat (limiter : InMemoryRateLimiter) (checks : List RateLimitCheck)
    (check : RateLimitCheck) :
    afterChecks limiter (checks ++ [check]) = (answer (afterChecks limiter checks) check).2 := by
  rw [afterChecks, List.foldl_append]
  rfl

theorem acceptedChecks_concat (limiter : InMemoryRateLimiter) (checks : List RateLimitCheck)
    (check : RateLimitCheck) :
    acceptedChecks limiter (checks ++ [check]) = acceptedChecks limiter checks
      ++ if (answer (afterChecks limiter checks) check).1.isOk then [check] else [] := by
  induction checks generalizing limiter with
  | nil => rfl
  | cons first checks ih =>
    have hfirst : afterChecks limiter (first :: checks)
        = afterChecks (answer limiter first).2 checks := rfl
    rw [List.cons_append, acceptedChecks, ih, acceptedChecks, hfirst]
    by_cases hok : (answer limiter first).1.isOk
    · simp only [if_pos hok, List.cons_append]
    · simp only [if_neg hok]

/-! ## One pair at a time -/

/-- The times stored for a pair. -/
def queueOf (limiter : InMemoryRateLimiter) (bucket : RateLimitBucket) : List Instant :=
  (limiter.buckets.lookup bucket).getD []

/-- The queue of a check's pair, without what has left the window. -/
def liveQueue (limiter : InMemoryRateLimiter) (check : RateLimitCheck) : List Instant :=
  expire rateLimitWindow check.now (queueOf limiter check.bucket)

/-- What a check can do. -/
inductive LimiterAnswer (limiter : InMemoryRateLimiter) (check : RateLimitCheck) :
    Except RateLimitExceeded Unit × InMemoryRateLimiter → Prop
  | off (hlimit : limiter.policy.limitFor check.action = 0) :
      LimiterAnswer limiter check (.error ⟨check.action, rateLimitWindow⟩, limiter)
  | rejected {oldest : Instant} {rest : List Instant}
      (hlimit : 0 < limiter.policy.limitFor check.action)
      (hlive : liveQueue limiter check = oldest :: rest)
      (hfull : limiter.policy.limitFor check.action ≤ (oldest :: rest).length) :
      LimiterAnswer limiter check (.error ⟨check.action, rateLimitWindow - (check.now - oldest)⟩,
        { limiter with buckets := limiter.buckets.insert check.bucket (oldest :: rest) })
  | accepted (hlimit : 0 < limiter.policy.limitFor check.action)
      (hroom : (liveQueue limiter check).length < limiter.policy.limitFor check.action) :
      LimiterAnswer limiter check (.ok (), { limiter with
        buckets := limiter.buckets.insert check.bucket (liveQueue limiter check ++ [check.now]) })

theorem answer_cases (limiter : InMemoryRateLimiter) (check : RateLimitCheck) :
    LimiterAnswer limiter check (answer limiter check) := by
  unfold answer InMemoryRateLimiter.checkAt
  have hentries : ((limiter.buckets.lookup ⟨check.action, check.key⟩).getD []).dropWhile
      (fun entry => entry + rateLimitWindow ≤ check.now) = liveQueue limiter check := rfl
  simp only [hentries]
  by_cases hoff : limiter.policy.limitFor check.action = 0
  · rw [if_pos hoff]
    exact .off hoff
  rw [if_neg hoff]
  have hlimit : 0 < limiter.policy.limitFor check.action := Nat.pos_of_ne_zero hoff
  by_cases hfull : limiter.policy.limitFor check.action ≤ (liveQueue limiter check).length
  · rw [if_pos hfull]
    -- a full queue is not empty, so there is an oldest entry
    cases hlive : liveQueue limiter check with
    | nil =>
      rw [hlive, List.length_nil] at hfull
      omega
    | cons oldest rest =>
      rw [hlive] at hfull
      exact .rejected hlimit hlive hfull
  · rw [if_neg hfull]
    exact .accepted hlimit (by omega)

/-- An action that is switched off leaves everything as it is. -/
theorem answer_off (hoff : limiter.policy.limitFor check.action = 0) :
    (answer limiter check).2 = limiter := by
  have hcases := answer_cases limiter check
  generalize answer limiter check = result at hcases ⊢
  cases hcases with
  | off => rfl
  | rejected hlimit | accepted hlimit => omega

theorem answer_policy (limiter : InMemoryRateLimiter) (check : RateLimitCheck) :
    (answer limiter check).2.policy = limiter.policy := by
  cases hanswer : answer limiter check with
  | mk result next =>
    have hcases := answer_cases limiter check
    rw [hanswer] at hcases
    cases hcases <;> rfl

@[simp] theorem afterChecks_policy (limiter : InMemoryRateLimiter) (checks : List RateLimitCheck) :
    (afterChecks limiter checks).policy = limiter.policy := by
  induction checks generalizing limiter with
  | nil => rfl
  | cons check checks ih => exact (ih _).trans (answer_policy limiter check)

theorem answer_lookup_ne (limiter : InMemoryRateLimiter) (h : bucket ≠ check.bucket) :
    (answer limiter check).2.buckets.lookup bucket = limiter.buckets.lookup bucket := by
  have hcases := answer_cases limiter check
  generalize answer limiter check = result at hcases ⊢
  cases hcases with
  | off => rfl
  | rejected | accepted => exact AList.lookup_insert_ne h

theorem answer_queueOf_ne (limiter : InMemoryRateLimiter) (h : bucket ≠ check.bucket) :
    queueOf (answer limiter check).2 bucket = queueOf limiter bucket := by
  rw [queueOf, answer_lookup_ne limiter h, queueOf]

theorem queueOf_insert (limiter : InMemoryRateLimiter) (bucket : RateLimitBucket)
    (entries : List Instant) :
    queueOf { limiter with buckets := limiter.buckets.insert bucket entries } bucket = entries := by
  rw [queueOf, AList.lookup_insert, Option.getD_some]

theorem answer_isOk_iff (hlimit : 0 < limiter.policy.limitFor check.action) :
    (answer limiter check).1.isOk
      ↔ (liveQueue limiter check).length < limiter.policy.limitFor check.action := by
  have hcases := answer_cases limiter check
  generalize answer limiter check = result at hcases ⊢
  cases hcases with
  | off hoff => omega
  | rejected _ hlive hfull =>
    rw [hlive]
    exact iff_of_false (by simp [Except.isOk, Except.toBool]) (by omega)
  | accepted _ hroom => exact iff_of_true rfl hroom

/-- The answer depends on the queue of the pair alone, and so does the queue afterwards. -/
theorem answer_congr (hpolicy : limiter.policy = limiter'.policy)
    (hqueue : queueOf limiter check.bucket = queueOf limiter' check.bucket) :
    (answer limiter check).1 = (answer limiter' check).1
      ∧ queueOf (answer limiter check).2 check.bucket
        = queueOf (answer limiter' check).2 check.bucket := by
  have hlive : liveQueue limiter check = liveQueue limiter' check := by
    rw [liveQueue, hqueue, liveQueue]
  have hcases := answer_cases limiter check
  have hcases' := answer_cases limiter' check
  generalize answer limiter check = result at hcases ⊢
  generalize answer limiter' check = result' at hcases' ⊢
  cases hcases with
  | off hoff =>
    rw [hpolicy] at hoff
    cases hcases' with
    | off => exact ⟨rfl, hqueue⟩
    | rejected hlimit | accepted hlimit => omega
  | rejected hlimit hfirst hfull =>
    rw [hpolicy] at hlimit hfull
    rw [hlive] at hfirst
    cases hcases' with
    | off hoff => omega
    | rejected _ hfirst' =>
      obtain ⟨rfl, rfl⟩ := List.cons.inj (hfirst.symm.trans hfirst')
      exact ⟨rfl, by rw [queueOf_insert, queueOf_insert]⟩
    | accepted _ hroom =>
      rw [hfirst] at hroom
      omega
  | accepted hlimit hroom =>
    rw [hpolicy] at hlimit hroom
    rw [hlive] at hroom
    cases hcases' with
    | off hoff => omega
    | rejected _ hfirst' hfull =>
      rw [hfirst'] at hroom
      omega
    | accepted => exact ⟨rfl, by rw [queueOf_insert, queueOf_insert, hlive]⟩

/-- The queue of a pair is what the checks of this pair made of it. -/
theorem queueOf_afterChecks_filter (limiter : InMemoryRateLimiter) (checks : List RateLimitCheck)
    (bucket : RateLimitBucket) :
    queueOf (afterChecks limiter checks) bucket
      = queueOf (afterChecks limiter (checks.filter (·.bucket = bucket))) bucket := by
  induction checks using List.reverseRec with
  | nil => rfl
  | append_singleton checks check ih =>
    rw [List.filter_append, afterChecks_concat]
    by_cases hown : check.bucket = bucket
    · rw [List.filter_singleton, decide_eq_true hown, cond_true, afterChecks_concat]
      subst hown
      exact (answer_congr (by simp) ih).2
    · rw [List.filter_singleton, decide_eq_false hown, cond_false, List.append_nil,
        answer_queueOf_ne _ (Ne.symm hown)]
      exact ih

/-! ## Sliding windows -/

/-- The times at which a pair was let through. -/
def acceptedTimes (limiter : InMemoryRateLimiter) (checks : List RateLimitCheck)
    (bucket : RateLimitBucket) : List Instant :=
  ((acceptedChecks limiter checks).filter (·.bucket = bucket)).map (·.now)

theorem rateLimitWindow_pos : 0 < rateLimitWindow := by decide

theorem acceptedTimes_concat (limiter : InMemoryRateLimiter) (checks : List RateLimitCheck)
    (check : RateLimitCheck) (bucket : RateLimitBucket) :
    acceptedTimes limiter (checks ++ [check]) bucket = acceptedTimes limiter checks bucket
      ++ if check.bucket = bucket ∧ (answer (afterChecks limiter checks) check).1.isOk
        then [check.now] else [] := by
  rw [acceptedTimes, acceptedChecks_concat, List.filter_append, List.map_append, acceptedTimes]
  congr 1
  by_cases hok : (answer (afterChecks limiter checks) check).1.isOk
  · by_cases hown : check.bucket = bucket
    · simp [hok, hown]
    · simp [hok, hown]
  · simp [hok]

theorem queueLog_answer {history : List Instant}
    (h : QueueLog rateLimitWindow (limiter.policy.limitFor check.action) check.now history
      (queueOf limiter check.bucket)) :
    QueueLog rateLimitWindow (limiter.policy.limitFor check.action) check.now
      (history ++ if (answer limiter check).1.isOk then [check.now] else [])
      (queueOf (answer limiter check).2 check.bucket) := by
  have hexpired := h.expired rateLimitWindow_pos
  have hcases := answer_cases limiter check
  generalize answer limiter check = result at hcases ⊢
  cases hcases with
  | off =>
    rw [if_neg (by simp [Except.isOk, Except.toBool]), List.append_nil]
    exact h
  | rejected _ hlive =>
    rw [if_neg (by simp [Except.isOk, Except.toBool]), List.append_nil, queueOf_insert, ← hlive]
    exact hexpired
  | accepted _ hroom =>
    rw [if_pos (by rfl), queueOf_insert]
    exact hexpired.record hroom

/-- Time does not go backwards from check to check. -/
def ClockForward (checks : List RateLimitCheck) : Prop :=
  checks.Pairwise fun earlier later => earlier.now ≤ later.now

theorem ClockForward.concat (h : ClockForward (checks ++ [check])) :
    ClockForward checks ∧ ∀ earlier ∈ checks, earlier.now ≤ check.now := by
  obtain ⟨hchecks, _, hlast⟩ := List.pairwise_append.mp h
  exact ⟨hchecks, fun earlier hearlier => hlast earlier hearlier check List.mem_cons_self⟩

/-- **Each queue stands for the history of its pair.** -/
theorem queueLog_afterChecks (policy : RateLimitPolicy) (bucket : RateLimitBucket)
    (hclock : ClockForward checks) (hpast : ∀ check ∈ checks, check.now ≤ now) :
    QueueLog rateLimitWindow (policy.limitFor bucket.action) now
      (acceptedTimes (.new policy) checks bucket)
      (queueOf (afterChecks (.new policy) checks) bucket) := by
  induction checks using List.reverseRec generalizing now with
  | nil => exact .empty
  | append_singleton checks check ih =>
    obtain ⟨hchecks, hbefore⟩ := hclock.concat
    have hlog := ih hchecks hbefore
    refine QueueLog.later ?_ (hpast check (by simp))
    rw [acceptedTimes_concat, afterChecks_concat]
    by_cases hown : check.bucket = bucket
    · subst hown
      have hpolicy := afterChecks_policy (.new policy) checks
      have hstart : QueueLog rateLimitWindow
          ((afterChecks (.new policy) checks).policy.limitFor check.action) check.now
          (acceptedTimes (.new policy) checks check.bucket)
          (queueOf (afterChecks (.new policy) checks) check.bucket) := by
        rw [hpolicy]
        exact hlog
      have hstep := queueLog_answer hstart
      rw [hpolicy] at hstep
      simp only [true_and]
      exact hstep
    · rw [answer_queueOf_ne _ (Ne.symm hown), if_neg (by simp [hown]), List.append_nil]
      exact hlog

/-- A check is let through if there is room in its last minute. -/
theorem answer_isOk_iff_recent (policy : RateLimitPolicy)
    (hlimit : 0 < policy.limitFor check.action) (hclock : ClockForward (checks ++ [check])) :
    (answer (afterChecks (.new policy) checks) check).1.isOk
      ↔ (recent rateLimitWindow check.now
          (acceptedTimes (.new policy) checks check.bucket)).length
        < policy.limitFor check.action := by
  obtain ⟨hchecks, hbefore⟩ := hclock.concat
  have hlog := queueLog_afterChecks policy check.bucket hchecks hbefore
  have hpolicy := afterChecks_policy (.new policy) checks
  rw [answer_isOk_iff (by rw [hpolicy]; exact hlimit), hpolicy, liveQueue,
    hlog.expire_eq rateLimitWindow_pos]
  rfl

theorem windowCount_acceptedTimes (policy : RateLimitPolicy) (bucket : RateLimitBucket)
    (hclock : ClockForward checks) (start : Instant) :
    windowCount rateLimitWindow start (acceptedTimes (.new policy) checks bucket)
      ≤ policy.limitFor bucket.action := by
  induction checks using List.reverseRec generalizing start with
  | nil => exact Nat.zero_le _
  | append_singleton checks check ih =>
    have hbound := ih hclock.concat.1
    rw [acceptedTimes_concat]
    split
    · rename_i hadded
      obtain ⟨rfl, hok⟩ := hadded
      refine windowCount_append ?_ hbound start
      by_cases hlimit : 0 < policy.limitFor check.action
      · exact (answer_isOk_iff_recent policy hlimit hclock).mp hok
      -- an action that is switched off lets nothing through
      have hcases := answer_cases (afterChecks (.new policy) checks) check
      have hpolicy := afterChecks_policy (.new policy) checks
      generalize answer (afterChecks (.new policy) checks) check = result at hcases hok
      cases hcases with
      | off | rejected => exact absurd hok (by simp [Except.isOk, Except.toBool])
      | accepted hpos =>
        rw [hpolicy] at hpos
        exact absurd hpos hlimit
    · rw [List.append_nil]
      exact hbound start

theorem acceptedChecks_sublist (limiter : InMemoryRateLimiter) (checks : List RateLimitCheck) :
    (acceptedChecks limiter checks).Sublist checks := by
  induction checks generalizing limiter with
  | nil => exact .slnil
  | cons check checks ih =>
    rw [acceptedChecks]
    split
    · exact (ih _).cons_cons check
    · exact (ih _).cons check

/-- Up to now, the last minute is what is recent. -/
theorem length_recent_acceptedTimes (hpast : ∀ check ∈ checks, check.now ≤ now)
    (bucket : RateLimitBucket) :
    (recent rateLimitWindow now (acceptedTimes limiter checks bucket)).length
      = (((acceptedChecks limiter checks).filter (·.bucket = bucket)).filter
          (·.within now)).length := by
  rw [recent, acceptedTimes, List.filter_map, List.length_map]
  congr 1
  refine List.filter_congr fun check hcheck => ?_
  have hmem := (acceptedChecks_sublist limiter checks).subset (List.mem_filter.mp hcheck).1
  have hle := hpast check hmem
  rw [Function.comp_apply, RateLimitCheck.within, decide_eq_true hle, Bool.and_true,
    decide_eq_decide]
  exact Nat.sub_lt_iff_lt_add' hle

/-- No minute has more than the limit. -/
theorem length_within_le (policy : RateLimitPolicy) (bucket : RateLimitBucket)
    (hclock : ClockForward checks) (now : Instant) :
    (((acceptedChecks (.new policy) checks).filter (·.bucket = bucket)).filter
      (·.within now)).length ≤ policy.limitFor bucket.action := by
  have hbound := windowCount_acceptedTimes policy bucket hclock (now + 1 - rateLimitWindow)
  have hcount := le_trans (countP_le_windowCount now (acceptedTimes (.new policy) checks bucket))
    hbound
  rw [acceptedTimes, List.countP_map, List.countP_eq_length_filter] at hcount
  exact hcount

/-- A request that was turned away is let through again exactly from its retry time on. -/
theorem answer_retry (policy : RateLimitPolicy) {exceeded : RateLimitExceeded}
    (hlimit : 0 < policy.limitFor check.action) (hclock : ClockForward (checks ++ [check]))
    (hrejected : (answer (afterChecks (.new policy) checks) check).1 = .error exceeded)
    (wait : Duration) :
    (answer (answer (afterChecks (.new policy) checks) check).2
      { check with now := check.now + wait }).1.isOk ↔ exceeded.retryAfter ≤ wait := by
  obtain ⟨hchecks, hbefore⟩ := hclock.concat
  have hpolicy := afterChecks_policy (.new policy) checks
  have hlog := (queueLog_afterChecks policy check.bucket hchecks hbefore).expired
    rateLimitWindow_pos
  have hcases := answer_cases (afterChecks (.new policy) checks) check
  generalize answer (afterChecks (.new policy) checks) check = result at hcases hrejected ⊢
  cases hcases with
  | off hoff =>
    rw [hpolicy] at hoff
    exact absurd hlimit (by rw [show policy.limitFor check.action = 0 from hoff]; omega)
  | accepted => exact absurd hrejected (by simp)
  | @rejected oldest rest hpos hlive hfull =>
    obtain rfl := Except.error.inj hrejected
    have hqueue : expire rateLimitWindow check.now
        (queueOf (afterChecks (.new policy) checks) check.bucket) = oldest :: rest := hlive
    rw [hqueue] at hlog
    -- the queue was exactly full, so there is room as soon as its oldest entry is gone
    have hlength : (oldest :: rest).length = policy.limitFor check.action := by
      rw [hpolicy] at hfull
      exact le_antisymm hlog.short hfull
    have hold : oldest ≤ check.now := hlog.past oldest List.mem_cons_self
    rw [answer_isOk_iff (by exact hpos), liveQueue]
    dsimp only [RateLimitCheck.bucket]
    rw [queueOf_insert, hpolicy]
    have hroom : (expire rateLimitWindow (check.now + wait) (oldest :: rest)).length
        < (oldest :: rest).length ↔ rateLimitWindow - (check.now - oldest) ≤ wait :=
      expire_wait_iff hold
    rw [hlength] at hroom
    exact hroom

/-- **The limiter is one sliding window per pair.** A check is let through exactly if its pair has
room in the last minute; no minute ever has more than the limit; other pairs do not matter; and the
retry time of a rejected check is the shortest wait that helps. -/
theorem limiter_slides (policy : RateLimitPolicy) (past : List RateLimitCheck)
    (check : RateLimitCheck) (hlimit : 0 < policy.limitFor check.action)
    (hclock : ClockForward (past ++ [check])) :
    let limiter := afterChecks (.new policy) past
    ((answer limiter check).1.isOk
        ↔ (((acceptedChecks (.new policy) past).filter (·.bucket = check.bucket)).filter
          (·.within check.now)).length < policy.limitFor check.action)
      ∧ (∀ bucket now, (((acceptedChecks (.new policy) (past ++ [check])).filter
          (·.bucket = bucket)).filter (·.within now)).length ≤ policy.limitFor bucket.action)
      ∧ (answer limiter check).1
        = (answer (afterChecks (.new policy) (past.filter (·.bucket = check.bucket))) check).1
      ∧ ∀ exceeded, (answer limiter check).1 = .error exceeded →
        IsLeast { wait | (answer (answer limiter check).2
          { check with now := check.now + wait }).1.isOk } exceeded.retryAfter := by
  intro limiter
  refine ⟨?_, fun bucket now => length_within_le policy bucket hclock now, ?_, ?_⟩
  · rw [answer_isOk_iff_recent policy hlimit hclock,
      length_recent_acceptedTimes hclock.concat.2 check.bucket]
  · exact (answer_congr (by simp) (queueOf_afterChecks_filter _ _ _)).1
  · intro exceeded hrejected
    have hretry := answer_retry policy hlimit hclock hrejected
    exact ⟨(hretry _).mpr le_rfl, fun wait hwait => (hretry wait).mp hwait⟩

/-- A room was created at the start and another one is asked for ten seconds later, with one allowed
per minute: the answer is to come back after fifty seconds. -/
theorem limiter_slides_turns_away :
    let check : RateLimitCheck := ⟨.createRoom, [], secs 10⟩
    let limiter := afterChecks (.new ⟨1, 1, 1⟩) [⟨.createRoom, [], 0⟩]
    IsLeast { wait | (answer (answer limiter check).2
      { check with now := check.now + wait }).1.isOk } (secs 50) := by
  intro check limiter
  have hclock : ClockForward ([⟨.createRoom, [], 0⟩] ++ [check]) :=
    List.pairwise_pair.mpr (Nat.zero_le _)
  obtain ⟨_, _, _, hretry⟩ := limiter_slides ⟨1, 1, 1⟩ _ check (by decide) hclock
  exact hretry ⟨.createRoom, secs 50⟩ (by decide +kernel)

/-! ## What stays behind -/

/-- Every stored bucket has something in it that has not expired. -/
def NoStaleBuckets (limiter : InMemoryRateLimiter) (now : Instant) : Prop :=
  ∀ bucket entries, limiter.buckets.lookup bucket = some entries →
    entries ≠ [] ∧ ¬∀ time ∈ entries, time + rateLimitWindow ≤ now

/-- The pairs with a request let through in the last minute. -/
def activeBuckets (accepted : List RateLimitCheck) (now : Instant) : List RateLimitBucket :=
  ((accepted.filter fun check => now < check.now + rateLimitWindow).map (·.bucket)).dedup

/-- Nothing expired is stored, and no more buckets than there are active pairs. -/
def Tidy (limiter : InMemoryRateLimiter) (accepted : List RateLimitCheck) (now : Instant) : Prop :=
  NoStaleBuckets limiter now ∧ limiter.buckets.keys.length ≤ (activeBuckets accepted now).length

/-- Some entry has not expired. -/
def Fresh (entries : List Instant) (now : Instant) : Prop :=
  ∃ time ∈ entries, now < time + rateLimitWindow

theorem noStaleBuckets_iff :
    NoStaleBuckets limiter now
      ↔ ∀ bucket entries, limiter.buckets.lookup bucket = some entries → Fresh entries now := by
  refine forall₃_congr fun bucket entries _ => ?_
  constructor
  · intro h
    by_contra hstale
    refine h.2 fun time htime => ?_
    by_contra hfresh
    exact hstale ⟨time, htime, Nat.lt_of_not_le hfresh⟩
  · rintro ⟨time, htime, hfresh⟩
    exact ⟨List.ne_nil_of_mem htime, fun hall => absurd (hall time htime) (Nat.not_le.mpr hfresh)⟩

theorem fresh_expire {oldest : Instant} {queue rest : List Instant}
    (h : expire rateLimitWindow now queue = oldest :: rest) : now < oldest + rateLimitWindow := by
  have hhead := List.head?_dropWhile_not (fun time => decide (time + rateLimitWindow ≤ now)) queue
  rw [expire] at h
  rw [h, List.head?_cons] at hhead
  simpa using hhead

/-- The checked pair's own bucket is always in order. -/
theorem answer_fresh {entries : List Instant} (hlimit : 0 < limiter.policy.limitFor check.action)
    (h : (answer limiter check).2.buckets.lookup check.bucket = some entries) :
    Fresh entries check.now := by
  have hcases := answer_cases limiter check
  generalize answer limiter check = result at hcases h
  cases hcases with
  | off hoff => omega
  | @rejected oldest rest _ hlive =>
    rw [AList.lookup_insert] at h
    obtain rfl := Option.some.inj h
    exact ⟨oldest, List.mem_cons_self, fresh_expire hlive⟩
  | accepted =>
    rw [AList.lookup_insert] at h
    obtain rfl := Option.some.inj h
    refine ⟨check.now, by simp, ?_⟩
    exact Nat.lt_add_of_pos_right rateLimitWindow_pos

/-- A check leaves nothing stale behind exactly if the other buckets were fresh. -/
theorem answer_noStaleBuckets_iff (limiter : InMemoryRateLimiter) (check : RateLimitCheck) :
    NoStaleBuckets (answer limiter check).2 check.now
      ↔ ∀ bucket entries, limiter.buckets.lookup bucket = some entries →
        (limiter.policy.limitFor check.action = 0 ∨ bucket ≠ check.bucket) →
        Fresh entries check.now := by
  rw [noStaleBuckets_iff]
  constructor
  · intro h bucket entries hentries hother
    refine h bucket entries ?_
    rcases hother with hoff | hne
    · rw [answer_off hoff]
      exact hentries
    · rw [answer_lookup_ne limiter hne]
      exact hentries
  · intro h bucket entries hentries
    by_cases hoff : limiter.policy.limitFor check.action = 0
    · rw [answer_off hoff] at hentries
      exact h bucket entries hentries (.inl hoff)
    by_cases hown : bucket = check.bucket
    · subst hown
      exact answer_fresh (Nat.pos_of_ne_zero hoff) hentries
    · rw [answer_lookup_ne limiter hown] at hentries
      exact h bucket entries hentries (.inr hown)

/-- Only requests that were let through are stored. -/
theorem queueOf_subset (policy : RateLimitPolicy) (bucket : RateLimitBucket)
    (checks : List RateLimitCheck) :
    queueOf (afterChecks (.new policy) checks) bucket
      ⊆ acceptedTimes (.new policy) checks bucket := by
  induction checks using List.reverseRec with
  | nil => exact List.Subset.refl _
  | append_singleton checks check ih =>
    rw [afterChecks_concat, acceptedTimes_concat]
    by_cases hown : check.bucket = bucket
    · subst hown
      have hlive : liveQueue (afterChecks (.new policy) checks) check
          ⊆ acceptedTimes (.new policy) checks check.bucket :=
        List.Subset.trans (List.dropWhile_sublist _).subset ih
      have hcases := answer_cases (afterChecks (.new policy) checks) check
      generalize answer (afterChecks (.new policy) checks) check = result at hcases ⊢
      cases hcases with
      | off => exact List.Subset.trans ih (List.subset_append_left _ _)
      | rejected _ hfirst =>
        rw [queueOf_insert, ← hfirst]
        exact List.Subset.trans hlive (List.subset_append_left _ _)
      | accepted =>
        rw [queueOf_insert, if_pos ⟨rfl, rfl⟩]
        exact List.append_subset.mpr ⟨List.Subset.trans hlive (List.subset_append_left _ _),
          List.subset_append_right _ _⟩
    · rw [answer_queueOf_ne _ (Ne.symm hown)]
      exact List.Subset.trans ih (List.subset_append_left _ _)

/-- A pair has a bucket once it was checked, and for ever after. -/
theorem stored_iff (policy : RateLimitPolicy) (bucket : RateLimitBucket)
    (checks : List RateLimitCheck) :
    ((afterChecks (.new policy) checks).buckets.lookup bucket).isSome
      ↔ ∃ check ∈ checks, check.bucket = bucket ∧ 0 < policy.limitFor check.action := by
  induction checks using List.reverseRec with
  | nil => simp [afterChecks, InMemoryRateLimiter.new]
  | append_singleton checks check ih =>
    have hpolicy := afterChecks_policy (.new policy) checks
    simp only [List.mem_append, List.mem_singleton, or_and_right, exists_or, exists_eq_left]
    rw [afterChecks_concat, ← ih]
    by_cases hown : check.bucket = bucket
    · subst hown
      have hcases := answer_cases (afterChecks (.new policy) checks) check
      generalize answer (afterChecks (.new policy) checks) check = result at hcases ⊢
      cases hcases with
      | off hoff =>
        rw [hpolicy] at hoff
        have hoff : policy.limitFor check.action = 0 := hoff
        simp [hoff]
      | rejected hlimit | accepted hlimit =>
        rw [hpolicy] at hlimit
        exact iff_of_true (by simp) (.inr ⟨rfl, hlimit⟩)
    · rw [answer_lookup_ne _ (Ne.symm hown)]
      simp [hown]

/-- Where nothing is stale there are no more buckets than active pairs. -/
theorem keys_le_activeBuckets (policy : RateLimitPolicy)
    (h : NoStaleBuckets (afterChecks (.new policy) checks) now) :
    (afterChecks (.new policy) checks).buckets.keys.length
      ≤ (activeBuckets (acceptedChecks (.new policy) checks) now).length := by
  refine (List.subperm_of_subset (AList.keys_nodup _) fun bucket hbucket => ?_).length_le
  obtain ⟨entries, hentries⟩ := Option.isSome_iff_exists.mp
    (AList.lookup_isSome.mpr (AList.mem_keys.mp hbucket))
  obtain ⟨time, htime, hfresh⟩ := noStaleBuckets_iff.mp h bucket entries hentries
  have hstored : time ∈ queueOf (afterChecks (.new policy) checks) bucket := by
    rw [queueOf, hentries]
    exact htime
  obtain ⟨check, hcheck, rfl⟩ := List.mem_map.mp (queueOf_subset policy bucket checks hstored)
  obtain ⟨haccepted, hown⟩ := List.mem_filter.mp hcheck
  rw [activeBuckets, List.mem_dedup, List.mem_map]
  exact ⟨check, List.mem_filter.mpr ⟨haccepted, by simpa using hfresh⟩, by simpa using hown⟩

theorem tidy_iff (policy : RateLimitPolicy) :
    Tidy (afterChecks (.new policy) checks) (acceptedChecks (.new policy) checks) now
      ↔ NoStaleBuckets (afterChecks (.new policy) checks) now :=
  ⟨fun h => h.1, fun h => ⟨h, keys_le_activeBuckets policy h⟩⟩

/-- With a clock that goes forward a bucket is fresh exactly if its pair was let through in the last
minute. -/
theorem fresh_queueOf_iff (policy : RateLimitPolicy) (bucket : RateLimitBucket)
    (hclock : ClockForward checks) (hpast : ∀ check ∈ checks, check.now ≤ now) :
    Fresh (queueOf (afterChecks (.new policy) checks) bucket) now
      ↔ ∃ accepted ∈ acceptedChecks (.new policy) checks,
        accepted.bucket = bucket ∧ now < accepted.now + rateLimitWindow := by
  have hlog := queueLog_afterChecks policy bucket hclock hpast
  constructor
  · rintro ⟨time, htime, hfresh⟩
    obtain ⟨check, hcheck, rfl⟩ := List.mem_map.mp (queueOf_subset policy bucket checks htime)
    obtain ⟨haccepted, hown⟩ := List.mem_filter.mp hcheck
    exact ⟨check, haccepted, by simpa using hown, hfresh⟩
  · rintro ⟨accepted, haccepted, hown, hfresh⟩
    have hmem : accepted.now ∈ acceptedTimes (.new policy) checks bucket :=
      List.mem_map.mpr ⟨accepted, List.mem_filter.mpr ⟨haccepted, by simpa using hown⟩, rfl⟩
    have hle := hpast accepted ((acceptedChecks_sublist _ checks).subset haccepted)
    -- what is recent was not forgotten
    have hrecent : accepted.now ∈ recent rateLimitWindow now
        (queueOf (afterChecks (.new policy) checks) bucket) := by
      rw [hlog.remembers]
      refine List.mem_filter.mpr ⟨hmem, ?_⟩
      rw [decide_eq_true_eq]
      exact (Nat.sub_lt_iff_lt_add' hle).mpr hfresh
    exact ⟨accepted.now, (List.mem_filter.mp hrecent).1, hfresh⟩

/-- **When a check leaves the limiter tidy.** Exactly if no other pair's bucket had expired: with a
clock that goes forward, if every pair that was ever checked was let through in the last minute. -/
theorem check_leaves_tidy_iff (policy : RateLimitPolicy) (past : List RateLimitCheck)
    (check : RateLimitCheck) :
    let before := afterChecks (.new policy) past
    let checks := past ++ [check]
    let tidy := Tidy (afterChecks (.new policy) checks) (acceptedChecks (.new policy) checks)
      check.now
    (tidy ↔ ∀ bucket entries, before.buckets.lookup bucket = some entries →
        (policy.limitFor check.action = 0 ∨ bucket ≠ check.bucket) →
        ∃ time ∈ entries, check.now < time + rateLimitWindow)
      ∧ (ClockForward checks →
        (tidy ↔ ∀ earlier ∈ past, 0 < policy.limitFor earlier.action →
          ∃ accepted ∈ acceptedChecks (.new policy) checks,
            accepted.bucket = earlier.bucket ∧ check.now < accepted.now + rateLimitWindow)) := by
  intro before checks tidy
  have hpolicy := afterChecks_policy (.new policy) past
  have hafter : (answer before check).2 = afterChecks (.new policy) checks :=
    (afterChecks_concat _ _ _).symm
  have hstep : tidy ↔ NoStaleBuckets (answer before check).2 check.now := by
    rw [hafter]
    exact tidy_iff policy
  refine ⟨?_, fun hclock => ?_⟩
  · rw [hstep, answer_noStaleBuckets_iff, hpolicy]
    rfl
  · have hpast : ∀ earlier ∈ checks, earlier.now ≤ check.now := by
      intro earlier hearlier
      rcases List.mem_append.mp hearlier with hbefore | hlast
      · exact hclock.concat.2 earlier hbefore
      · rw [List.mem_singleton.mp hlast]
    have hfresh := fun bucket => fresh_queueOf_iff policy bucket hclock hpast
    rw [hstep, noStaleBuckets_iff]
    constructor
    · intro h earlier hearlier hlimit
      obtain ⟨entries, hentries⟩ := Option.isSome_iff_exists.mp
        ((stored_iff policy earlier.bucket checks).mpr
          ⟨earlier, List.mem_append_left _ hearlier, rfl, hlimit⟩)
      rw [← hfresh, queueOf, hentries]
      exact h earlier.bucket entries (hafter ▸ hentries)
    · intro h bucket entries hentries
      obtain ⟨other, hother, rfl, hlimit⟩ := (stored_iff policy bucket checks).mp
        (by rw [← hafter, hentries]; rfl)
      rcases List.mem_append.mp hother with hbefore | hlast
      · have hqueue := (hfresh other.bucket).mpr (h other hbefore hlimit)
        rw [queueOf, ← hafter, hentries] at hqueue
        exact hqueue
      · obtain rfl := List.mem_singleton.mp hlast
        refine answer_fresh ?_ hentries
        rw [hpolicy]
        exact hlimit

/-- A key that is used once leaves its bucket behind: a minute later, after a check of another key,
it is still stored. -/
theorem check_leaves_stale_bucket :
    ∃ past check, ClockForward (past ++ [check])
      ∧ ¬Tidy (afterChecks (.new .default) (past ++ [check]))
        (acceptedChecks (.new .default) (past ++ [check])) check.now := by
  refine ⟨[⟨.createRoom, ['a'], 0⟩], ⟨.createRoom, ['b'], secs 60⟩, ?_, fun htidy => ?_⟩
  · exact List.pairwise_pair.mpr (Nat.zero_le _)
  · have hstale := htidy.1 ⟨.createRoom, ['a']⟩ [0] (by decide +kernel)
    exact hstale.2 (by decide)

/-- Two keys within one minute are both stored rightly. -/
theorem check_leaves_tidy_two_keys :
    let checks : List RateLimitCheck := [⟨.createRoom, ['a'], 0⟩, ⟨.createRoom, ['b'], secs 59⟩]
    Tidy (afterChecks (.new .default) checks) (acceptedChecks (.new .default) checks)
      (secs 59) := by
  have hiff := (check_leaves_tidy_iff .default [⟨.createRoom, ['a'], 0⟩]
    ⟨.createRoom, ['b'], secs 59⟩).2 (List.pairwise_pair.mpr (Nat.zero_le _))
  refine hiff.mpr fun earlier hearlier _ => ?_
  rw [List.mem_singleton.mp hearlier]
  refine ⟨⟨.createRoom, ['a'], 0⟩, ?_, rfl, by decide⟩
  exact List.mem_of_getElem? (i := 0) (by rfl)

end NetplayRelay.Proof
