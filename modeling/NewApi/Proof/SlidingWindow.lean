import Mathlib.Algebra.Order.Ring.Int
import Mathlib.Data.List.Basic
import NewApi.Common.RateLimit
import NewApi.Library.Run

/-!
# The limiter in memory is a sliding window

The queue of a key is the end of the log of its accepted requests; what is missing from it has left the window.
-/

namespace NewApi.Proof
open Library Common LimiterStore List

def queueOf (store : LimiterStore) (key : String) : List Int := (store key).getD []

def recentCount (d now : Int) (log : List Int) : Nat := log.countP fun time => now - d < time ∧ time ≤ now

structure WindowKept (m d now : Int) (queue log : List Int) : Prop where
  split : ∃ dropped, log = dropped ++ queue ∧ ∀ time ∈ dropped, time + d ≤ now
  sorted : log.Pairwise (· ≤ ·)
  past : ∀ time ∈ log, time ≤ now
  size : queue.length ≤ m

variable {m d now : Int} {queue log : List Int} {store : LimiterStore} {key : String}

theorem kept_later {after} (kept : WindowKept m d now queue log) (later : now ≤ after) :
    WindowKept m d after queue log := by
  obtain ⟨⟨dropped, whole, old⟩, sorted, past, size⟩ := kept
  exact ⟨⟨dropped, whole, fun time mem => (old time mem).trans later⟩, sorted, fun time mem =>
    (past time mem).trans later, size⟩

theorem kept_drop {gone rest} (kept : WindowKept m d now (gone ++ rest) log) (left : ∀ time ∈ gone, time + d ≤ now) :
    WindowKept m d now rest log := by
  obtain ⟨⟨dropped, rfl, old⟩, sorted, past, size⟩ := kept
  exact ⟨⟨dropped ++ gone, by simp, forall_mem_append.mpr ⟨old, left⟩⟩, sorted, past, by simp at size; omega⟩

theorem kept_accept (kept : WindowKept m d now queue log) (room : queue.length < m) :
    WindowKept m d now (queue ++ [now]) (log ++ [now]) := by
  obtain ⟨⟨dropped, rfl, old⟩, sorted, past, -⟩ := kept
  refine ⟨⟨dropped, by simp, old⟩, ?_, forall_mem_append.mpr ⟨past, by simp⟩, by simp; omega⟩
  exact pairwise_append.mpr ⟨sorted, pairwise_singleton _ _, fun time mem _ last =>
    mem_singleton.mp last ▸ past time mem⟩

theorem recentCount_eq (kept : WindowKept m d now queue log) : recentCount d now log = recentCount d now queue := by
  obtain ⟨⟨dropped, rfl, old⟩, -⟩ := kept
  have none : dropped.countP (fun time => decide (now - d < time ∧ time ≤ now)) = 0 := by
    refine countP_eq_zero.mpr fun time mem => ?_
    have := old time mem
    simp only [decide_eq_true_eq]
    omega
  rw [recentCount, countP_append, none, Nat.zero_add, recentCount]

theorem request_kept (pos : 1 ≤ m) (kept : WindowKept m d now (queueOf store key) log) :
    ((recentCount d now log < m) ∧ (store.request key m d now).1 = .accepted ∧
        WindowKept m d now (queueOf (store.request key m d now).2 key) (log ++ [now])) ∨
      ¬(recentCount d now log < m) ∧ store.request key m d now = (.rejected, store) := by
  have count := recentCount_eq kept
  have few : recentCount d now (queueOf store key) ≤ (queueOf store key).length := countP_le_length
  have size := kept.size
  unfold queueOf at *
  unfold LimiterStore.request
  cases found : store key with
  | none =>
    rw [found] at kept few count
    simp only [if_neg (show ¬m < 0 by omega), Function.update_self, Option.getD_some, true_and]
    have empty : recentCount d now (Option.getD none []) = 0 := rfl
    exact .inl ⟨by omega, kept_accept kept (by simp; omega)⟩
  | some queue =>
    rw [found, Option.getD_some] at kept few count size
    dsimp only
    by_cases room : (queue.length : Int) < m
    · simp only [if_pos room, Function.update_self, Option.getD_some, true_and]
      exact .inl ⟨by omega, kept_accept kept room⟩
    · rw [if_neg room]
      cases queue with
      | nil => simp at room; omega
      | cons oldest rest =>
        dsimp only
        rw [length_cons] at size room
        by_cases left : now - oldest ≥ d
        · have less : recentCount d now (oldest :: rest) ≤ rest.length := by
            rw [recentCount, countP_cons_of_neg (by simp; omega)]
            exact countP_le_length
          simp only [if_pos left, Function.update_self, Option.getD_some, true_and]
          exact .inl ⟨by omega, kept_accept (@kept_drop _ _ _ _ [oldest] rest kept (by simp; omega)) (by omega)⟩
        · rw [if_neg left]
          -- the oldest is in the window, and with it the whole queue
          have all : recentCount d now (oldest :: rest) = (oldest :: rest).length := by
            obtain ⟨⟨dropped, rfl, -⟩, sorted, past, -⟩ := kept
            refine countP_eq_length.mpr fun time mem => ?_
            have newest := past time (mem_append_right _ mem)
            have order : oldest ≤ time := by
              rcases mem_cons.mp mem with rfl | later
              · exact le_rfl
              · exact (pairwise_cons.mp (pairwise_append.mp sorted).2.1).1 time later
            simp only [decide_eq_true_eq]
            omega
          rw [length_cons] at all
          exact .inr ⟨by omega, rfl⟩

theorem request_other {other maxRequestNum duration} (apart : other ≠ key) :
    queueOf (store.request other maxRequestNum duration now).2 key = queueOf store key := by
  have elsewhere (queue : Option (List Int)) : queueOf (Function.update store other queue) key = queueOf store key := by
    rw [queueOf, Function.update_of_ne apart.symm, queueOf]
  unfold LimiterStore.request
  repeat' split
  all_goals first | exact elsewhere _ | rfl

theorem clear_kept {expiration} (lasting : d ≤ expiration) (kept : WindowKept m d now (queueOf store key) log) :
    WindowKept m d now (queueOf (store.clearExpiredItems expiration now) key) log := by
  unfold queueOf clearExpiredItems at *
  cases found : store key with
  | none => rwa [found] at kept
  | some queue =>
    rw [found, Option.getD_some] at kept
    by_cases fresh : queue.getLast?.any (fun last => decide (now - last ≤ expiration)) = true
    · rwa [Option.filter_some, if_pos fresh]
    · rw [Option.filter_some, if_neg fresh]
      refine @kept_drop _ _ _ _ queue [] (by rwa [append_nil]) fun time mem => ?_
      -- the newest of the queue has expired, and nothing in it is newer
      obtain ⟨⟨dropped, rfl, -⟩, sorted, -⟩ := kept
      rcases eq_nil_or_concat' queue with rfl | ⟨front, last, rfl⟩
      · cases mem
      · have expired : expiration + last < now := by simpa using fresh
        have order : time ≤ last := by
          rcases mem_append.mp mem with before | same
          · exact (pairwise_append.mp (pairwise_append.mp sorted).2.1).2.2 time before last (by simp)
          · exact (mem_singleton.mp same).le
        omega

theorem runs_kept {expiration t events other} (pos : 1 ≤ m) (lasting : d ≤ expiration)
    (fixed : ∀ m' d' now', .request key m' d' now' ∈ events → m' = m ∧ d' = d)
    (ordered : (events.map LimiterEvent.now ++ [t]).Pairwise (· ≤ ·))
    (kept : ∀ now ∈ events.map LimiterEvent.now ++ [t], WindowKept m d now (queueOf store key) log ∧
    WindowKept m d now (queueOf other key) log) :
    ∃ log' store' other', run (limiterStep expiration key) (store, log) events = (store', log') ∧
      run (limiterStep expiration key) (other, log) (events.filter LimiterEvent.isRequest) = (other', log') ∧
      WindowKept m d t (queueOf store' key) log' ∧ WindowKept m d t (queueOf other' key) log' := by
  induction events generalizing store other log with
  | nil => exact ⟨log, store, other, rfl, rfl, kept t (by simp)⟩
  | cons event events ih =>
    obtain ⟨first, ordered⟩ := pairwise_cons.mp ordered
    obtain ⟨here, here'⟩ := kept event.now (by simp)
    have next {store other : LimiterStore} {log : List Int} (kept : WindowKept m d event.now (queueOf store key) log)
        (kept' : WindowKept m d event.now (queueOf other key) log) :=
      ih (fun m' d' now' mem => fixed m' d' now' (mem_cons_of_mem _ mem)) ordered
        fun now mem => ⟨kept_later kept (first now mem), kept_later kept' (first now mem)⟩
    cases event with
    | clear time => exact next (clear_kept lasting here) here'
    | request asked m' d' time =>
      dsimp only [LimiterEvent.now] at here here' next
      rw [filter_cons_of_pos rfl, run, run, limiterStep, limiterStep]
      by_cases own : asked = key
      · subst own
        obtain ⟨rfl, rfl⟩ := fixed m' d' time mem_cons_self
        rcases request_kept pos here with ⟨room, accepted, after⟩ | ⟨full, rejected⟩
        · obtain ⟨-, accepted', after'⟩ := (request_kept pos here').resolve_right fun rejects => rejects.1 room
          simpa [accepted, accepted'] using next after after'
        · obtain ⟨-, rejected'⟩ := (request_kept pos here').resolve_left fun accepts => full accepts.1
          simpa [rejected, rejected'] using next here here'
      · simp only [own, false_and, if_false]
        exact next (by rwa [request_other own]) (by rwa [request_other own])

theorem limiter_exact_window (expiration m d t : Int) (key : String) (events : List LimiterEvent) (positive : 1 ≤ m)
    (lasting : d ≤ expiration) (fixed : ∀ m' d' now', .request key m' d' now' ∈ events → m' = m ∧ d' = d)
    (ordered : (events.map LimiterEvent.now ++ [t]).Pairwise (· ≤ ·)) :
    let reached := run (limiterStep expiration key) (fun _ => none, []) events
    let unevicted := run (limiterStep expiration key) (fun _ => none, []) (events.filter LimiterEvent.isRequest)
    (reached.1.request key m d t).1 = (if recentCount d t reached.2 < m then .accepted else .rejected) ∧
      (unevicted.1.request key m d t).1 = (reached.1.request key m d t).1 := by
  have start (now : Int) : WindowKept m d now (queueOf (fun _ => none) key) [] :=
    ⟨⟨[], rfl, by simp⟩, .nil, by simp, by simp [queueOf]; omega⟩
  obtain ⟨log, store, other, ran, ran', kept, kept'⟩ :=
    runs_kept positive lasting fixed ordered fun now _ => ⟨start now, start now⟩
  have verdict {store : LimiterStore} (kept : WindowKept m d t (queueOf store key) log) :
      (store.request key m d t).1 = if recentCount d t log < m then .accepted else .rejected := by
    rcases request_kept positive kept with ⟨room, accepted, -⟩ | ⟨full, rejected⟩
    · rw [if_pos room, accepted]
    · rw [if_neg full, rejected]
  rw [ran, ran']
  exact ⟨verdict kept, (verdict kept').trans (verdict kept).symm⟩

theorem limiter_exact_window_evicted :
    ((run (limiterStep 60 "k") (fun _ => none, []) [.request "k" 1 60 0, .clear 61]).1.request "k" 1
      60 61).1 = .accepted :=
  (limiter_exact_window 60 1 60 61 "k" [.request "k" 1 60 0, .clear 61] le_rfl le_rfl
    (by simp; omega) (by decide)).1.trans (by decide)

theorem request_length {bound : Int} (pos : 1 ≤ bound) (limit : m ≤ bound)
    (short : (queueOf store key).length ≤ bound) :
    (queueOf (store.request key m d now).2 key).length ≤ bound := by
  unfold queueOf LimiterStore.request at *
  cases found : store key with dsimp only
  | none => split_ifs <;> simp_all
  | some queue =>
    cases queue with dsimp only
    | nil => split_ifs <;> simp_all
    | cons => split_ifs <;> simp_all; omega

theorem clear_length {expiration : Int} :
    (queueOf (store.clearExpiredItems expiration now) key).length ≤ (queueOf store key).length := by
  unfold queueOf clearExpiredItems
  cases store key with
  | none => exact le_rfl
  | some => rw [Option.filter_some]; split_ifs <;> simp

/-- Whatever the clock says, a key keeps no more times than its largest limit. -/
theorem limiter_bounded {expiration bound : Int} (pos : 1 ≤ bound) (events : List LimiterEvent)
    (limits : ∀ m d now, .request key m d now ∈ events → m ≤ bound) :
    (queueOf (run (limiterStep expiration key) (fun _ => none, []) events).1 key).length ≤ bound := by
  refine @run_invariant _ _ _ (fun _ event => event ∈ events) _ _
    (fun state : _ × List Int => (queueOf state.1 key).length ≤ bound) ?_ (Int.le_of_lt pos)
    (along_of_forall fun _ mem _ => mem)
  rintro state (⟨other, m, d, now⟩ | now) short mem
  · by_cases own : other = key
    · subst own
      exact request_length pos (limits m d now mem) short
    · rwa [limiterStep, request_other own]
  · exact (Int.ofNat_le.mpr clear_length).trans short

theorem limiter_bounded_once :
    (queueOf (run (limiterStep 60 "k") (fun _ => none, [])
    [.request "k" 1 9 0, .request "k" 1 9 9]).1 "k").length ≤ (1 : Int) :=
  limiter_bounded le_rfl _ (by simp; omega)

end NewApi.Proof
