import NewApi.Proof.SessionLedger

/-! # Settlement and refund exclude each other -/

namespace NewApi.Proof
open Library Model Service BillingSession SessionState

def SettlesEstimate (state : SessionState) (event : SessionEvent) : Prop :=
  state.session.refunded = true → ∀ actualQuota, event.call = .settle actualQuota →
    actualQuota = state.session.preConsumedQuota

def Applied (env : BillingEnv) (start : SessionState) (history : List SessionEvent)
    (kind : SessionCall → Prop) : Prop :=
  ∃ earlier event later, history = earlier ++ event :: later ∧ kind event.call ∧
    ((run (step env) start earlier).step env event).store ≠
      (run (step env) start earlier).store

def Settles (call : SessionCall) : Prop := ∃ actualQuota, call = .settle actualQuota

section Steps
variable {env : BillingEnv} {state : SessionState} {event : SessionEvent}

def JobRefunded (state : SessionState) : Prop := state.job ≠ none → state.session.refunded = true

theorem refunded_step (event) (refunded : state.session.refunded = true) :
    (state.step env event).session.refunded = true := by
  obtain ⟨call, faults⟩ := event
  unfold step perform
  cases call with
  | reserve => simpa only [reserve_closed (.inr refunded)] using refunded
  | settle actualQuota =>
    rcases ran : state.session.settle env actualQuota faults state.store with ⟨_, _⟩
    rcases settle_cases ran with ⟨-, rfl, -⟩ | ⟨-, -, rfl, -⟩ | ⟨reason, rfl, -⟩ | ⟨_, answer,
      _, -, -, -, -, rfl, -, kept⟩
    · simpa only [ran] using refunded
    · simpa only [ran] using refunded
    · simpa only [ran] using refunded
    · rcases answer with reason | ⟨⟩
      · simpa only [ran, kept] using refunded
      · simpa only [ran, kept] using refunded
  | refund => simpa only [refund_closed (.inr refunded)] using refunded
  | refundWork =>
    cases running : state.job with
    | none => simpa only [running] using refunded
    | some job =>
      simp only
      rcases job.step env faults state.store with ⟨halt | ⟨reason | ⟨⟩, job'⟩, after⟩ <;> exact refunded

theorem refunded_run (history : List SessionEvent) (refunded : state.session.refunded = true) :
    (run (step env) state history).session.refunded = true :=
  run_preserves (fun state : SessionState => state.session.refunded = true)
    (fun _ event => refunded_step event) refunded history

theorem jobRefunded_step (event) (known : JobRefunded state) : JobRefunded (state.step env event) := by
  intro running
  by_cases refunded : state.session.refunded = true
  · exact refunded_step event refunded
  have idle : state.job = none := by_contra fun running => refunded (known running)
  obtain ⟨call, _⟩ := event
  unfold step perform at running ⊢
  cases call with
  | reserve targetQuota | settle actualQuota =>
    exfalso
    revert running
    simp only
    split <;> simp [idle]
  | refund =>
    simp only at running ⊢
    unfold refund at running ⊢
    split_ifs at running ⊢ with closed
    · exact absurd idle running
    · rfl
  | refundWork => simp [idle] at running

theorem jobRefunded_run (history : List SessionEvent) (known : JobRefunded state) :
    JobRefunded (run (step env) state history) :=
  run_preserves JobRefunded (fun _ event => jobRefunded_step event) known history

theorem settle_refunded (exactly : SettlesEstimate state event) (refunded : state.session.refunded = true)
    (settles : Settles event.call) : (state.step env event).store = state.store := by
  obtain ⟨actualQuota, called⟩ := settles
  obtain rfl := exactly refunded actualQuota called
  unfold step perform
  rw [called]
  rcases ran : state.session.settle env state.session.preConsumedQuota event.faults state.store with ⟨_, _⟩
  rcases settle_cases ran with ⟨-, rfl, rfl⟩ | ⟨-, -, rfl, rfl⟩ | ⟨_, rfl, rfl⟩ | ⟨_, _, _, -, ne, -⟩
  · simp only [ran]
  · simp only [ran]
  · simp only [ran]
  · exact absurd rfl ne

theorem refund_settled (settled : state.session.settled = true) (called : event.call = .refund) :
    state.step env event = state := by
  unfold step perform
  rw [called]
  simp only [refund_closed (.inl settled)]

theorem settled_of_changed (settles : Settles event.call) (changed : (state.step env event).store ≠ state.store) :
    (state.step env event).session.settled = true ∧ (state.step env event).session.refunded = state.session.refunded ∧
      (state.step env event).job = state.job := by
  obtain ⟨actualQuota, called⟩ := settles
  unfold step perform at changed ⊢
  rw [called] at changed ⊢
  rcases ran : state.session.settle env actualQuota event.faults state.store with ⟨_, _⟩
  rcases settle_cases ran with ⟨-, rfl, rfl⟩ | ⟨-, -, rfl, rfl⟩ | ⟨reason, rfl, rfl⟩ | ⟨_, answer,
    _, -, -, -, -, rfl, settled, kept⟩
  · simp [ran] at changed
  · simp [ran] at changed
  · simp [ran] at changed
  · rcases answer with reason | ⟨⟩
    · simpa only [ran] using ⟨settled, kept, trivial⟩
    · simpa only [ran] using ⟨settled, kept, trivial⟩

theorem refunded_of_worked (known : JobRefunded state) (called : event.call = .refundWork)
    (changed : (state.step env event).store ≠ state.store) : state.session.refunded = true := by
  refine known fun idle => changed ?_
  unfold step perform
  rw [called]
  simp only [idle]

end Steps

/-- If only the estimate is settled after an accepted refund, such a settlement changes nothing, no
refund is accepted after a settlement, and no history applies both. -/
theorem settlement_refund_exclusive (env : BillingEnv) (session : BillingSession)
    (store : BillingStore) (history : List SessionEvent)
    (exactly : Along (step env) SettlesEstimate (.start session store) history) :
    (∀ earlier event later, history = earlier ++ event :: later →
      let state := run (step env) (.start session store) earlier
      (state.session.refunded = true → Settles event.call → (state.step env event).store = state.store) ∧
        (state.session.settled = true → event.call = .refund → state.step env event = state)) ∧
      ¬(Applied env (.start session store) history Settles ∧
        Applied env (.start session store) history (· = .refundWork)) := by
  have exactly_at : ∀ {earlier event later}, history = earlier ++ event :: later →
      SettlesEstimate (run (step env) (.start session store) earlier) event :=
    fun place => along_at (place ▸ exactly)
  refine ⟨fun earlier _ _ place => ⟨settle_refunded (exactly_at place), refund_settled⟩, ?_⟩
  rintro ⟨⟨earlier, _, _, place, settles, changed⟩, ⟨earlier', _, _, place', called, worked⟩⟩
  have known : JobRefunded (run (step env) (.start session store) earlier') :=
    jobRefunded_run earlier' fun running => absurd rfl running
  have refunded' := refunded_of_worked known called worked
  have kept : (run (step env) (.start session store) earlier).session.refunded ≠ true :=
    fun refunded => changed (settle_refunded (exactly_at place) refunded settles)
  -- The two events stand at different places; whichever is first closes the session to the other.
  rcases List.append_eq_append_iff.mp (place.symm.trans place') with ⟨between, split, rest⟩ | ⟨between, split, rest⟩
  · cases between with
    | nil =>
      obtain ⟨_, settled⟩ := settles
      obtain ⟨rfl, -⟩ := List.cons.inj rest
      exact SessionCall.noConfusion (settled.symm.trans called)
    | cons =>
      obtain ⟨rfl, -⟩ := List.cons.inj rest
      obtain ⟨closed, same, sameJob⟩ := settled_of_changed settles changed
      have idle : (run (step env) (.start session store) earlier).job = none :=
        by_contra fun running => kept (jobRefunded_run earlier (fun running => absurd rfl running) running)
      rw [split, run_append, run, run_settled closed (sameJob.trans idle), same] at refunded'
      exact kept refunded'
  · rw [split, run_append] at kept
    exact kept (refunded_run between refunded')

def refundThenSettle (actualQuota : Int) : List SessionEvent :=
  [⟨.refund, fun _ => none⟩, ⟨.refundWork, fun _ => none⟩, ⟨.refundWork, fun _ => none⟩, ⟨.refundWork, fun _ => none⟩,
    ⟨.settle actualQuota, fun _ => none⟩]

theorem settlement_refund_exclusive_estimate : ∃ session opened,
    newBillingSession plainEnv walletRequest 10 (fun _ => none) walletStore =
        (.ok (.ok session), opened) ∧ session.preConsumedQuota = 10 ∧
      ¬(Applied plainEnv (.start session opened) (refundThenSettle 10) Settles ∧
        Applied plainEnv (.start session opened) (refundThenSettle 10) (· = .refundWork)) := by
  obtain ⟨session, opened, ran, amount, unchanged⟩ := wallet_opens
    (fun session opened => session.preConsumedQuota = 10 ∧
      (run (step plainEnv) (.start session opened)
        ((refundThenSettle 10).take 4)).session.preConsumedQuota = 10) (by decide +kernel)
  refine ⟨session, opened, ran, amount, (settlement_refund_exclusive plainEnv session opened _ ?_).2⟩
  refine ⟨fun _ _ called => (nomatch called), fun _ _ called => (nomatch called), fun _ _ called => (nomatch called),
    fun _ _ called => (nomatch called), fun _ _ called => ?_, trivial⟩
  cases called
  exact unchanged.symm

theorem settle_after_refund : ∃ session opened, newBillingSession plainEnv walletRequest 10
    (fun _ => none) walletStore =
        (.ok (.ok session), opened) ∧ session.preConsumedQuota = 10 ∧
      let refunded := run (step plainEnv) (.start session opened) ((refundThenSettle 15).take 4)
      refunded.session.refunded = true ∧ walletStore.fundingDebit refunded.store session.accounts.funding = 0 ∧
        walletStore.tokenDebit refunded.store session.accounts.tokenId = 0 ∧
        let settled := refunded.step plainEnv ⟨.settle 15, fun _ => none⟩
        walletStore.fundingDebit settled.store session.accounts.funding = 5 ∧
          walletStore.tokenDebit settled.store session.accounts.tokenId = 5 := by
  exact wallet_opens _ (by decide +kernel)

end NewApi.Proof
