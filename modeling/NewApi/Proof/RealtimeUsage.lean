import NewApi.Proof.RealtimeBilling

/-! # The usage of a realtime session -/

namespace NewApi.Proof
open Library Model Service Db RealtimeState

theorem changeUserQuota_terminates (env) (id quota change : Int) :
    Db.Terminates (changeUserQuota env id quota change false) := by
  intro _ _ _ ran
  rcases changeUserQuota_cases ran with ⟨bad, -⟩ | ⟨⟨reason, bad⟩, -⟩ <;> cases bad

theorem changeTokenQuota_terminates (env) (id quota change : Int) :
    Db.Terminates (changeTokenQuota env id quota change) := by
  intro _ _ _ ran
  rcases changeTokenQuota_cases ran with ⟨bad, -⟩ | ⟨⟨reason, bad⟩, -⟩ <;> cases bad

theorem postConsumeQuota_returns (env relayInfo) (quota : Int) :
    Db.Returns (fun _ => True) (postConsumeQuota env relayInfo quota) := by
  have funding : Db.Returns (fun _ => True) (consumeFunding env relayInfo quota) := by
    unfold consumeFunding
    split_ifs
    · exact returns_pure trivial
    · exact returns_pure trivial
    · refine returns_bind
        (returns_attempt (onSubscriptions_terminates (postConsumeUserSubscriptionDelta_terminates _ _))) ?_
      rintro (reason | ⟨⟩) - <;> exact returns_pure trivial
    all_goals
      refine returns_bind (returns_attempt (onAccounts_terminates ?_)) fun _ _ => returns_pure trivial
      exact changeUserQuota_terminates _ _ _ _
  have token (relayInfo : RelayInfo) : Db.Returns (fun _ => True) (consumeToken env relayInfo quota) := by
    unfold consumeToken
    split_ifs
    · exact returns_pure trivial
    all_goals exact returns_attempt (onAccounts_terminates (changeTokenQuota_terminates _ _ _ _))
  refine returns_bind funding fun ⟨charged, relayInfo⟩ _ => ?_
  cases charged with
  | error => exact returns_pure trivial
  | ok => exact returns_bind (token relayInfo) fun _ _ => returns_pure trivial

def counts (state : RealtimeState) : RealtimeUsage × RealtimeUsage × RealtimeUsage :=
    (state.usage, state.localUsage, state.sumUsage)

section Handler
variable {env : RealtimeEnv} {state : RealtimeState}

theorem preWssConsumeQuota_returns (usage) :
    Db.Returns (fun result => counts result.2 = counts state) (state.preWssConsumeQuota env usage) := by
  unfold preWssConsumeQuota
  split_ifs
  · exact returns_pure rfl
  refine returns_bind (returns_attempt (onAccounts_terminates (getUserQuota_terminates _ _))) fun found _ => ?_
  cases found with
  | error => exact returns_pure rfl
  | ok =>
    refine returns_bind (returns_attempt (onAccounts_terminates (getTokenByKey_terminates _ _))) fun token _ => ?_
    cases token with
    | error => exact returns_pure rfl
    | ok =>
      dsimp only
      split_ifs
      · exact returns_pure rfl
      · exact returns_pure rfl
      · exact returns_bind (postConsumeQuota_returns _ _ _) fun _ _ => returns_pure rfl

theorem preConsumeUsage_returns (usage) :
    Db.Returns (fun result => counts result.2 = (state.usage, state.localUsage,
      state.sumUsage.add usage)) (state.preConsumeUsage env usage) :=
  preWssConsumeQuota_returns usage

theorem responseDone_returns (clean : state.usage = {} ∧ state.localUsage = {}) (usage)
    (counted : Except String (Int × Int)) :
    Db.Returns (fun result => counts result.2 = (match result.1 with
      | .ok () => {}
      | .error _ => usage, {}, state.sumUsage.add usage))
          (state.handleMessage env (.responseDone (some usage) counted)) := by
  refine returns_bind (preConsumeUsage_returns _) fun ⟨outcome, next⟩ same => ?_
  obtain ⟨kept, rest⟩ := Prod.mk.inj same
  obtain ⟨locals, sum⟩ := Prod.mk.inj rest
  dsimp only at kept locals sum
  rw [clean.1, add_empty] at kept sum
  rw [clean.2] at locals
  cases outcome with
  | error => exact returns_pure (by rw [counts, kept, locals, sum])
  | ok => exact returns_pure (by rw [counts, sum])

theorem chargeRest_returns (usage) : Db.Returns (fun next => next.localUsage = state.localUsage ∧
      next.sumUsage = if usage.totalTokens = 0 then state.sumUsage else state.sumUsage.add usage)
        (state.chargeRest env usage) := by
  unfold chargeRest
  split_ifs
  · exact returns_pure ⟨rfl, rfl⟩
  · refine returns_bind (preConsumeUsage_returns usage) fun ⟨outcome, next⟩ same => returns_pure ?_
    obtain ⟨-, rest⟩ := Prod.mk.inj same
    obtain ⟨locals, sum⟩ := Prod.mk.inj rest
    cases outcome <;> exact ⟨locals, sum⟩

end Handler

def responsesRead (env : RealtimeEnv) (faults : Faults RealtimeStatement String) :
    List (RealtimeUsage × Except String (Int × Int)) → Nat → RealtimeState → BillingStore →
      List RealtimeUsage × Option RealtimeUsage
  | [], _, _, _ => ([], none)
  | (usage, counted) :: rest, index, state, store =>
    match (state.handleMessage env (.responseDone (some usage) counted)).within (.message index) faults store with
    | (.ok (.ok (), next), after) =>
      let (read, failed) := responsesRead env faults rest (index + 1) next after
      (usage :: read, failed)
    | _ => ([usage], some usage)

theorem readMessages_counts (env faults) (events : List (RealtimeUsage × Except String (Int × Int)))
    (index : Nat) {state}
    (clean : state.usage = {} ∧ state.localUsage = {}) (store) :
    ∃ final after, readMessages env index state (responses events) faults store = (.ok final, after) ∧
      counts final = ((responsesRead env faults events index state store).2.getD {}, {},
        (responsesRead env faults events index state store).1.foldl RealtimeUsage.add state.sumUsage) := by
  induction events generalizing index state store with
  | nil => exact ⟨state, store, rfl, by rw [counts, clean.1, clean.2]; rfl⟩
  | cons event _ ih =>
    obtain ⟨usage, counted⟩ := event
    obtain ⟨⟨outcome, next⟩, after, ran, same⟩ := @responseDone_returns env state clean usage
      counted (fun label => faults (.message index label)) store
    have handled :
      ((state.handleMessage env (.responseDone (some usage) counted)).within (.message index))
      faults store =
        (.ok (outcome, next), after) := ran
    rw [responsesRead, handled]
    change ∃ final after', ((state.handleMessage env (.responseDone (some usage) counted)).within
      (.message index) >>= _) faults store = _ ∧ _
    rw [bind_of_ok handled]
    cases outcome with
    | error => exact ⟨_, after, rfl, same⟩
    | ok =>
      obtain ⟨used, others⟩ := Prod.mk.inj same
      obtain ⟨locals, sum⟩ := Prod.mk.inj others
      obtain ⟨final, last, went, counted⟩ := ih (index + 1) ⟨used, locals⟩ after
      exact ⟨final, last, went, by rw [counted, sum]; rfl⟩

theorem usage_accumulated_once_iff (env : RealtimeEnv) (info : RealtimeInfo) (session : BillingSession)
    (events : List (RealtimeUsage × Except String (Int × Int)))
    (faults : Faults RealtimeStatement String) (store : BillingStore) :
    let (read, failed) := responsesRead env faults events 0 { info := info, session := session } store
    ∃ final after, openaiRealtimeHandler env { info := info, session := session } (responses events) faults store =
        (.ok final, after) ∧ (final.sumUsage = sumOf read ↔ ∀ usage, failed = some usage → usage.totalTokens = 0) := by
  obtain ⟨state, middle, ran, counted⟩ := @readMessages_counts env faults events 0
    { info := info, session := session } ⟨rfl, rfl⟩ store
  generalize responsesRead env faults events 0 { info := info, session := session } store = outcome at counted ⊢
  obtain ⟨read, failed⟩ := outcome
  obtain ⟨used, others⟩ := Prod.mk.inj counted
  obtain ⟨locals, sum⟩ := Prod.mk.inj others
  obtain ⟨next, later, charged, same, nextSum⟩ := @chargeRest_returns env state state.usage
    (fun label => faults (.usage label)) middle
  obtain ⟨final, after, last, -, finalSum⟩ := @chargeRest_returns env next next.localUsage
    (fun label => faults (.localUsage label)) later
  refine ⟨final, after, ?_, ?_⟩
  · refine bind_eq_ok.mpr ⟨state, middle, ran, bind_eq_ok.mpr ⟨next, later, charged, last⟩⟩
  · rw [finalSum, same, locals, if_pos rfl, nextSum, used, sum]
    change (if (failed.getD {}).totalTokens = 0 then sumOf read else (sumOf read).add (failed.getD {})) = sumOf read ↔ _
    cases failed with
    | none => simp
    | some usage =>
      by_cases none : usage.totalTokens = 0
      · simp [none]
      · refine iff_of_false (fun twice => none ?_) (by simpa using none)
        -- the total tells them apart
        have totals := congrArg RealtimeUsage.totalTokens twice
        rw [Option.getD_some, if_neg none] at totals
        exact add_eq_left.mp totals

def plainSession : BillingSession where
  relayInfo := walletRequest
  funding := .wallet ⟨1, 0⟩

theorem failed_response_counted_twice :
    (openaiRealtimeHandler (realtimeEnv 1) { info := realtimeInfo 1, session := plainSession } (responses oneResponse)
      (fun label => if label = .message 0 .userQuota then some "timeout" else none)
        walletStore).1.toOption.map sumUsage =
        some (tenTokens.add tenTokens) ∧ tenTokens.add tenTokens ≠ sumOf [tenTokens] := by
  decide +kernel

end NewApi.Proof
