import NewApi.Proof.SessionLedger
import NewApi.Service.Realtime

/-! # What a realtime session costs -/

namespace NewApi.Proof
open Library Common Model Service BillingSession RealtimeState Db
variable {before store after : BillingStore} {account : FundingAccount} {start state state' : RealtimeState}
    {usages : List RealtimeUsage}

theorem calculateAudioQuota_nonneg {env info} (ratioBilled : info.usePrice = false) :
    0 ≤ (calculateAudioQuota env info).1 := by
  unfold calculateAudioQuota
  rw [if_neg (by simp [ratioBilled])]
  apply quotaFromDecimalChecked_nonneg
  split_ifs with tiny
  · norm_num
  · rcases eq_or_ne (info.groupRatio * info.modelRatio) 0 with zero | ne
    · rw [zero, mul_zero]
    · exact (lt_of_not_ge fun small => tiny ⟨ne, small⟩).le

/-! ## Charges beside the billing session -/

def Synced (s : BillingSession) : Prop :=
  match s.funding with
  | .wallet funding => s.relayInfo.billingSource ≠ some .subscription ∧ s.relayInfo.userId = funding.userId
  | .subscription funding => s.relayInfo.billingSource = some .subscription ∧
      s.relayInfo.subscriptionId = funding.subscriptionId

structure Charging (before : BillingStore) (account : FundingAccount) (charged : Int) (s : BillingSession)
    (store : BillingStore) : Prop where
  synced : Synced s
  funded : s.funding.account = account
  nonnegative : 0 ≤ s.preConsumedQuota
  fundingSettled : s.fundingSettled = false
  settled : s.settled = false
  debited : Debited before (s.preConsumedQuota + charged) store account

section Charges
variable {env : BillingEnv} {charged quota : Int} {s : BillingSession} {faults : Faults ConsumeStatement String}
    {relayInfo : RelayInfo}

theorem synced_opened {request} (opened : Opened env request before after s) : Synced s := by
  have source := opened.billingSource
  have filled := opened.filled
  have subscriptionId := opened.subscriptionId
  unfold Synced
  cases kind : s.funding with
  | wallet =>
    rw [kind] at source filled
    exact ⟨by simp [source, FundingSource.source], opened.userId.trans filled.1.symm⟩
  | subscription funding =>
    rw [kind] at source
    exact ⟨source, subscriptionId funding kind⟩

theorem consumeFunding_cases (synced : Synced s)
    (ran : consumeFunding env s.relayInfo quota faults store = (.ok (.ok (), relayInfo), after)) :
    (∃ postDelta, relayInfo = { s.relayInfo with subscriptionPostDelta := postDelta }) ∧
      ((quota = 0 ∧ after = store) ∨ FundingMoved env quota store after s.funding) := by
  unfold consumeFunding at ran
  unfold Synced at synced
  cases kind : s.funding with
  | wallet =>
    rw [kind] at synced
    rw [if_neg synced.1, synced.2] at ran
    obtain ⟨_, _, tried, ret⟩ := bind_eq_ok.mp ran
    obtain ⟨same, rfl⟩ := pure_eq.mp ret
    cases same
    refine ⟨⟨_, rfl⟩, .inr ?_⟩
    rcases attempt_eq_ok.mp tried with ⟨⟨⟩, -, changed⟩ | ⟨_, bad, -⟩
    · split_ifs at changed with charges
      · rcases walletDelta_cases changed with ⟨-, moved⟩ | ⟨⟨_, bad⟩, -⟩
        · exact moved
        · cases bad
      · rcases walletDelta_cases changed with ⟨-, moved⟩ | ⟨⟨_, bad⟩, -⟩
        · exact moved
        · cases bad
    · cases bad
  | subscription =>
    rw [kind] at synced
    rw [if_pos synced.1] at ran
    split_ifs at ran with missing free
    · cases (pure_eq.mp ran).1
    · obtain ⟨same, rfl⟩ := pure_eq.mp ran
      cases same
      exact ⟨⟨_, rfl⟩, .inl ⟨free, rfl⟩⟩
    · obtain ⟨_, _, tried, ret⟩ := bind_eq_ok.mp ran
      rcases attempt_eq_ok.mp tried with ⟨⟨⟩, rfl, changed⟩ | ⟨_, rfl, -⟩
      · obtain ⟨same, rfl⟩ := pure_eq.mp ret
        cases same
        refine ⟨⟨_, rfl⟩, .inr ?_⟩
        rw [synced.2] at changed
        rcases subscriptionDelta_cases free changed with ⟨-, moved⟩ | ⟨⟨_, bad⟩, -⟩
        · exact moved
        · cases bad
      · cases (pure_eq.mp ret).1

theorem consumeToken_cases {outcome} (ran : consumeToken env s.relayInfo quota faults store = (.ok outcome, after)) :
    after = store ∨ after = chargeToken env s.relayInfo quota store := by
  unfold consumeToken at ran
  split_ifs at ran with playground charges
  · exact .inl (pure_eq.mp ran).2
  all_goals
    have billed : s.relayInfo.isPlayground = false := by simpa using playground
    rcases attempt_cases _ (fun _ _ => onToken_cases billed) ran with ⟨_, -, changed⟩ | ⟨-, same⟩
    · exact .inr changed
    · exact .inl same

theorem charging_consumed (charging : Charging before account charged s store) (nonneg : 0 ≤ charged)
    (ran : postConsumeQuota env s.relayInfo quota faults store = (.ok (.ok (), relayInfo), after)) :
    Charging before account (charged + quota) { s with relayInfo := relayInfo } after := by
  obtain ⟨⟨answer, _⟩, middle, consumed, cont⟩ := bind_eq_ok.mp ran
  cases answer with
  | error => cases (pure_eq.mp cont).1
  | ok =>
    obtain ⟨⟨postDelta, rfl⟩, moved⟩ := consumeFunding_cases charging.synced consumed
    obtain ⟨_, _, token, ret⟩ := bind_eq_ok.mp cont
    obtain ⟨same, rfl⟩ := pure_eq.mp ret
    cases same
    have total : Debited before (s.preConsumedQuota + (charged + quota)) middle account := by
      have debited := charging.debited
      rcases moved with ⟨rfl, rfl⟩ | moved
      · rwa [add_zero]
      · rw [← charging.funded] at debited ⊢
        rw [← add_assoc]
        exact debited_moved moved (add_nonneg charging.nonnegative nonneg) debited
    refine ⟨charging.synced, charging.funded, charging.nonnegative, charging.fundingSettled, charging.settled, ?_⟩
    have token' : consumeToken env { s with
        relayInfo := { s.relayInfo with subscriptionPostDelta := postDelta } }.relayInfo quota faults middle =
        (.ok (.ok ()), after) := token
    rcases consumeToken_cases token' with rfl | rfl
    · exact total
    · exact debited_chargeToken total

theorem charging_settled {actualQuota faults s'} (charging : Charging before account charged s
    store) (nonneg : 0 ≤ charged)
    (ran : s.settle env actualQuota faults store = (.ok (.ok (), s'), after)) :
    Debited before (charged + actualQuota) after account := by
  have debited := charging.debited
  rcases settle_cases ran with ⟨settled, -⟩ | ⟨-, rfl, -, rfl⟩ | ⟨_, bad, -⟩ | ⟨_, _, _, -, -, moved, outcome, -⟩
  · rw [charging.settled] at settled
    cases settled
  · rwa [add_comm] at debited
  · cases bad
  · have total : s.preConsumedQuota + charged + (actualQuota - s.preConsumedQuota) = charged + actualQuota := by omega
    rw [← charging.funded] at debited ⊢
    have replaced := debited_moved (moved charging.fundingSettled) (add_nonneg charging.nonnegative nonneg) debited
    rw [total] at replaced
    rcases outcome with ⟨-, rfl⟩ | ⟨-, rfl⟩
    · exact debited_chargeToken replaced
    · exact replaced

end Charges

/-! ## Metering -/

structure SamePrices (env : RealtimeEnv) (start state : RealtimeState) : Prop where
  usePrice : state.info.usePrice = start.info.usePrice
  wssQuota : ∀ usage, state.wssQuota env usage = start.wssQuota env usage
  finalQuota : ∀ usage, state.finalQuota env usage = start.finalQuota env usage

def sumOf (usages : List RealtimeUsage) : RealtimeUsage := usages.foldl RealtimeUsage.add {}

def chargesOf (env : RealtimeEnv) (start : RealtimeState) (usages : List RealtimeUsage) : Int :=
  (usages.map fun usage => (start.wssQuota env usage).1).sum

structure Metered (env : RealtimeEnv) (before : BillingStore) (account : FundingAccount) (start : RealtimeState)
    (usages : List RealtimeUsage) (state : RealtimeState) (store : BillingStore) : Prop where
  prices : SamePrices env start state
  sum : state.sumUsage = sumOf usages
  charging : Charging before account (chargesOf env start usages) state.session store

section Metering
variable {env : RealtimeEnv} {usage : RealtimeUsage}

theorem chargesOf_nonneg (ratioBilled : start.info.usePrice = false) (usages) : 0 ≤ chargesOf env start usages := by
  refine List.sum_nonneg fun _ mem => ?_
  obtain ⟨usage, -, rfl⟩ := List.mem_map.mp mem
  exact calculateAudioQuota_nonneg ratioBilled

theorem samePrices_group {clamp}
    (changed : state'.info = noteQuotaClamp (state.chooseGroup env).1 clamp) : SamePrices env state state' where
  usePrice := by rw [changed]; rfl
  wssQuota usage := by
    have idempotent : state.info.autoGroup.getD (state.info.autoGroup.getD state.info.usingGroup) =
        state.info.autoGroup.getD state.info.usingGroup := by
      cases state.info.autoGroup <;> rfl
    simp [wssQuota, chooseGroup, changed, noteQuotaClamp, idempotent]
  finalQuota usage := by simp [finalQuota, finalQuotaInfo, chooseGroup, changed, noteQuotaClamp]

theorem samePrices_trans {middle} (first : SamePrices env start middle)
    (second : SamePrices env middle state) : SamePrices env start state where
  usePrice := second.usePrice.trans first.usePrice
  wssQuota usage := (second.wssQuota usage).trans (first.wssQuota usage)
  finalQuota usage := (second.finalQuota usage).trans (first.finalQuota usage)

theorem preWssConsumeQuota_ok {faults} (ran : state.preWssConsumeQuota env usage faults store =
    (.ok (.ok (), state'), after))
    (ratioBilled : state.info.usePrice = false) :
    ∃ relayInfo, postConsumeQuota env.billing state.session.relayInfo (state.wssQuota env usage).1 faults store =
        (.ok (.ok (), relayInfo), after) ∧ state' = { state with
        info := noteQuotaClamp (state.chooseGroup env).1 (state.wssQuota env usage).2
        session := { state.session with relayInfo := relayInfo } } := by
  unfold preWssConsumeQuota at ran
  rw [if_neg (by simp [ratioBilled])] at ran
  obtain ⟨found, middle, looked, ran⟩ := bind_eq_ok.mp ran
  obtain rfl : middle = store := readOnly_attempt (onAccounts_readOnly (getUserQuota_readOnly _ _)) _ _ _ _ looked
  cases found with
  | error => cases (pure_eq.mp ran).1
  | ok =>
    obtain ⟨token, middle', looked', ran⟩ := bind_eq_ok.mp ran
    obtain rfl : middle' = middle := readOnly_attempt (onAccounts_readOnly (getTokenByKey_readOnly _ _)) _ _ _ _ looked'
    cases token with
    | error => cases (pure_eq.mp ran).1
    | ok =>
      dsimp only at ran
      split_ifs at ran
      · cases (pure_eq.mp ran).1
      · cases (pure_eq.mp ran).1
      · obtain ⟨⟨_, relayInfo⟩, _, charged, ret⟩ := bind_eq_ok.mp ran
        obtain ⟨same, rfl⟩ := pure_eq.mp ret
        cases same
        exact ⟨relayInfo, charged, rfl⟩

theorem metered_consume {faults} (metered : Metered env before account start usages state store)
    (ratioBilled : start.info.usePrice = false)
    (ran : state.preConsumeUsage env usage faults store = (.ok (.ok (), state'), after)) :
    Metered env before account start (usages ++ [usage]) state' after ∧ state'.usage = state.usage ∧
      state'.localUsage = state.localUsage ∧ state'.errors = state.errors := by
  unfold preConsumeUsage at ran
  obtain ⟨_, consumed, rfl⟩ := preWssConsumeQuota_ok ran (metered.prices.usePrice.trans ratioBilled)
  have price : (wssQuota env { state with sumUsage := state.sumUsage.add usage } usage).1 =
      (start.wssQuota env usage).1 := congrArg Prod.fst (metered.prices.wssQuota usage)
  rw [price] at consumed
  refine ⟨⟨?_, ?_, ?_⟩, rfl, rfl, rfl⟩
  · exact samePrices_trans metered.prices (samePrices_group (by rfl))
  · simp [sumOf, metered.sum]
  · have charges : chargesOf env start (usages ++ [usage]) = chargesOf env start usages +
      (start.wssQuota env usage).1 := by
      simp [chargesOf]
    rw [charges]
    exact charging_consumed metered.charging (chargesOf_nonneg ratioBilled usages) consumed

end Metering

/-! ## The messages of a session -/

def uncharged (usage : RealtimeUsage) : List RealtimeUsage := if usage.totalTokens = 0 then [] else [usage]

def chargedUsages (usage localUsage : RealtimeUsage) : List RealtimeMessage → List RealtimeUsage
  | [] => uncharged usage ++ uncharged localUsage
  | .client (.ok (textToken, audioToken)) :: rest => chargedUsages usage (localUsage.addInput textToken audioToken) rest
  | .responseDone (some more) _ :: rest => usage.add more :: chargedUsages {} {} rest
  | .responseDone none (.ok (textToken, audioToken)) :: rest =>
    localUsage.addInput textToken audioToken :: chargedUsages usage {} rest
  | .session :: rest => chargedUsages usage localUsage rest
  | .target (.ok (textToken, audioToken)) :: rest => chargedUsages usage
      (localUsage.addOutput textToken audioToken) rest
  | .client (.error _) :: _ | .responseDone none (.error _) :: _ | .target (.error _) :: _ =>
    uncharged usage ++ uncharged localUsage

section Messages
variable {env : RealtimeEnv} (metered : Metered env before account start usages state store)
    (ratioBilled : start.info.usePrice = false)

include metered ratioBilled in
theorem handleMessage_metered {faults message}
    (ran : state.handleMessage env message faults store = (.ok (.ok (), state'), after)) :
    ∃ more, Metered env before account start (usages ++ more) state' after ∧ state'.errors = state.errors ∧
      ∀ rest, chargedUsages state.usage state.localUsage (message :: rest) = more ++
        chargedUsages state'.usage state'.localUsage rest := by
  have unchanged (usage localUsage : RealtimeUsage) : Metered env before account start (usages ++ [])
      { state with usage := usage, localUsage := localUsage } store := by
    rw [List.append_nil]
    exact ⟨⟨metered.prices.usePrice, metered.prices.wssQuota, metered.prices.finalQuota⟩, metered.sum, metered.charging⟩
  cases message with
  | session =>
    obtain ⟨same, rfl⟩ := pure_eq.mp ran
    cases same
    exact ⟨[], unchanged _ _, rfl, fun _ => rfl⟩
  | client counted | target counted =>
    rcases counted with reason | ⟨textToken, audioToken⟩
    · cases (pure_eq.mp ran).1
    · obtain ⟨same, rfl⟩ := pure_eq.mp ran
      cases same
      exact ⟨[], unchanged _ _, rfl, fun _ => rfl⟩
  | responseDone usage counted =>
    cases usage with
    | some more =>
      obtain ⟨⟨outcome, _⟩, _, consumed, cont⟩ := bind_eq_ok.mp ran
      cases outcome with
      | error => cases (pure_eq.mp cont).1
      | ok =>
        obtain ⟨same, rfl⟩ := pure_eq.mp cont
        cases same
        have counted : Metered env before account start usages
            { state with usage := state.usage.add more } store := List.append_nil usages ▸ unchanged _ _
        obtain ⟨charged, -, -, errors⟩ := metered_consume counted ratioBilled consumed
        refine ⟨[state.usage.add more], ⟨?_, charged.sum, charged.charging⟩, errors, fun _ => rfl⟩
        exact ⟨charged.prices.usePrice, charged.prices.wssQuota, charged.prices.finalQuota⟩
    | none =>
      rcases counted with reason | ⟨textToken, audioToken⟩
      · cases (pure_eq.mp ran).1
      · obtain ⟨⟨outcome, _⟩, _, consumed, cont⟩ := bind_eq_ok.mp ran
        cases outcome with
        | error => cases (pure_eq.mp cont).1
        | ok =>
          obtain ⟨same, rfl⟩ := pure_eq.mp cont
          cases same
          have counted : Metered env before account start usages
              { state with localUsage := state.localUsage.addInput textToken audioToken } store :=
            List.append_nil usages ▸ unchanged _ _
          obtain ⟨charged, usage, -, errors⟩ := metered_consume counted ratioBilled consumed
          refine ⟨[state.localUsage.addInput textToken audioToken],
            ⟨?_, charged.sum, charged.charging⟩, errors, fun _ => ?_⟩
          · exact ⟨charged.prices.usePrice, charged.prices.wssQuota, charged.prices.finalQuota⟩
          · rw [chargedUsages, usage]
            rfl

theorem noteError_clean {outcome} (clean : (state.noteError outcome).errors = []) :
    outcome = .ok () ∧ state.errors = [] := by
  cases outcome with
  | ok => exact ⟨rfl, clean⟩
  | error => simp [noteError] at clean

include metered ratioBilled in
theorem readMessages_metered {faults messages index}
    (ran : state.readMessages env index messages faults store = (.ok state', after)) (clean : state'.errors = []) :
    ∃ more, Metered env before account start (usages ++ more) state' after ∧
      chargedUsages state.usage state.localUsage messages =
        more ++ (uncharged state'.usage ++ uncharged state'.localUsage) := by
  induction messages generalizing index state usages store with
  | nil =>
    obtain ⟨rfl, rfl⟩ := pure_eq_ok.mp ran
    exact ⟨[], by rwa [List.append_nil], rfl⟩
  | cons _ _ ih =>
    obtain ⟨⟨outcome, _⟩, _, handled, cont⟩ := bind_eq_ok.mp ran
    cases outcome with
    | error =>
      obtain ⟨rfl, rfl⟩ := pure_eq_ok.mp cont
      cases (noteError_clean clean).1
    | ok =>
      rw [within_apply] at handled
      obtain ⟨first, metered', -, charged⟩ := handleMessage_metered metered ratioBilled handled
      obtain ⟨second, metered'', charged'⟩ := ih metered' cont
      refine ⟨first ++ second, List.append_assoc _ _ _ ▸ metered'', ?_⟩
      rw [charged, charged', List.append_assoc]

theorem preConsumeUsage_errors {faults usage} (ran : state.preConsumeUsage env usage faults store =
    (.ok (.ok (), state'), after)) :
    state'.errors = state.errors := by
  unfold preConsumeUsage at ran
  by_cases usePrice : state.info.usePrice = true
  · rw [preWssConsumeQuota, if_pos usePrice] at ran
    obtain ⟨same, -⟩ := pure_eq.mp ran
    cases same
    rfl
  · obtain ⟨_, -, rfl⟩ := preWssConsumeQuota_ok ran (by simpa using usePrice)
    rfl

theorem chargeRest_clean {faults usage}
    (ran : state.chargeRest env usage faults store = (.ok state', after))
    (clean : state'.errors = []) : state.errors = [] := by
  unfold chargeRest at ran
  split_ifs at ran
  · obtain ⟨rfl, rfl⟩ := pure_eq_ok.mp ran
    exact clean
  · obtain ⟨⟨_, _⟩, _, consumed, ret⟩ := bind_eq_ok.mp ran
    obtain ⟨rfl, rfl⟩ := pure_eq_ok.mp ret
    obtain ⟨rfl, errors⟩ := noteError_clean clean
    rw [← preConsumeUsage_errors consumed, errors]

include metered ratioBilled in
theorem chargeRest_metered {faults usage}
    (ran : state.chargeRest env usage faults store = (.ok state', after)) (clean : state'.errors = []) :
    Metered env before account start (usages ++ uncharged usage) state' after ∧
      state'.localUsage = state.localUsage := by
  unfold chargeRest at ran
  unfold uncharged
  split_ifs at ran ⊢
  · obtain ⟨rfl, rfl⟩ := pure_eq_ok.mp ran
    exact ⟨by rwa [List.append_nil], rfl⟩
  · obtain ⟨⟨_, _⟩, _, consumed, ret⟩ := bind_eq_ok.mp ran
    obtain ⟨rfl, rfl⟩ := pure_eq_ok.mp ret
    obtain ⟨rfl, -⟩ := noteError_clean clean
    obtain ⟨charged, -, localUsage, -⟩ := metered_consume metered ratioBilled consumed
    exact ⟨charged, localUsage⟩

theorem openaiRealtimeHandler_metered {faults messages}
    (metered : Metered env before account start [] start store) (ratioBilled : start.info.usePrice = false)
    (ran : start.openaiRealtimeHandler env messages faults store = (.ok state', after)) (clean : state'.errors = []) :
    Metered env before account start (chargedUsages start.usage start.localUsage messages) state' after := by
  obtain ⟨read, _, reading, cont⟩ := bind_eq_ok.mp ran
  obtain ⟨flushed, _, flushing, ended⟩ := bind_eq_ok.mp cont
  rw [within_apply] at flushing ended
  -- No error at the end means that there was none on the way.
  have cleanFlushed : flushed.errors = [] := chargeRest_clean ended clean
  have cleanRead : read.errors = [] := chargeRest_clean flushing cleanFlushed
  obtain ⟨_, charged, split⟩ := readMessages_metered metered ratioBilled reading cleanRead
  obtain ⟨withUsage, localUsage⟩ := chargeRest_metered charged ratioBilled flushing cleanFlushed
  obtain ⟨withLocal, -⟩ := chargeRest_metered withUsage ratioBilled ended clean
  rw [split, ← List.append_assoc]
  rwa [localUsage, List.nil_append] at withLocal

theorem wssHelper_debited {faults messages}
    (metered : Metered env before account start [] start store) (ratioBilled : start.info.usePrice = false)
    (ran : start.wssHelper env messages faults store = (.ok state', after)) (clean : state'.errors = []) :
    let usages := chargedUsages start.usage start.localUsage messages
    Debited before (chargesOf env start usages + start.finalQuota env (sumOf usages)) after account := by
  obtain ⟨_, _, handling, cont⟩ := bind_eq_ok.mp ran
  obtain ⟨⟨_, _⟩, _, settled, ret⟩ := bind_eq_ok.mp cont
  obtain ⟨rfl, rfl⟩ := pure_eq_ok.mp ret
  obtain ⟨rfl, cleanHandled⟩ := noteError_clean clean
  have charged := openaiRealtimeHandler_metered metered ratioBilled handling cleanHandled
  rw [within_apply, charged.sum, charged.prices.finalQuota] at settled
  exact charging_settled charged.charging (chargesOf_nonneg ratioBilled _) settled

end Messages

/-! ## From the opening of the session -/

section Opening
variable {env : RealtimeEnv} {opened : BillingStore} {session : BillingSession} {info : RealtimeInfo}

theorem metered_opened {relayInfo} (outcome : Opened env.billing relayInfo before opened session)
    (fresh : before.subscriptions.records.find? relayInfo.requestId = none) (wellFormed : WellFormed before)
    (noReset : NoResetDue env.billing before session) :
    Metered env before session.accounts.funding { info := info, session := session } []
      { info := info, session := session } opened := by
  have phase := openPhase_opened outcome fresh wellFormed noReset
  refine ⟨⟨rfl, fun _ => rfl, fun _ => rfl⟩, rfl, ?_⟩
  exact
    { synced := synced_opened outcome
      funded := rfl
      nonnegative := phase.nonnegative
      fundingSettled := phase.fundingSettled
      settled := phase.settled
      debited := by simpa [chargesOf] using phase.debited }

def responses (events : List (RealtimeUsage × Except String (Int × Int))) : List RealtimeMessage :=
  events.map fun event => .responseDone (some event.1) event.2

theorem add_empty (usage) : RealtimeUsage.add {} usage = usage := by
  simp [RealtimeUsage.add]

theorem chargedUsages_responses (events : List (RealtimeUsage × Except String (Int × Int))) :
    chargedUsages {} {} (responses events) = events.map Prod.fst := by
  induction events with
  | nil => rfl
  | cons event rest ih =>
    change RealtimeUsage.add {} event.1 :: chargedUsages {} {} (responses rest) = event.1 :: rest.map Prod.fst
    rw [add_empty, ih]

end Opening

/-- Each response is debited, and their sum on top: the debit of the sum, up to one per response,
just if the charges come to no more than that. -/
theorem realtime_charged_once_iff (env : RealtimeEnv) (relayInfo : RelayInfo) (preConsumedQuota : Int)
    (before opened after : BillingStore) (openFaults : Faults OpenStatement String) (session : BillingSession)
    (nonnegative : 0 ≤ preConsumedQuota)
    (fresh : before.subscriptions.records.find? relayInfo.requestId = none) (wellFormed : WellFormed before)
    (noReset : NoResetDue env.billing before session) (walletRollback : openFaults (.wallet .rollbackToken) = none)
    (subscriptionRollback : openFaults (.subscription .rollbackToken) = none)
    (returned : newBillingSession env.billing relayInfo preConsumedQuota openFaults before =
    (.ok (.ok session), opened))
    (info : RealtimeInfo) (ratioBilled : info.usePrice = false) (ratioSettled : info.priceData.usePrice = false)
    (untiered : ∀ usage, info.tieredSettle usage = none)
    (events : List (RealtimeUsage × Except String (Int × Int)))
    (faults : Faults RealtimeStatement String) (state : RealtimeState)
    (ran : wssHelper env { info := info, session := session } (responses events) faults opened = (.ok state, after))
    (succeeds : state.errors = []) :
    let start : RealtimeState := { info := info, session := session }
    let usages := events.map Prod.fst
    let charges := chargesOf env start usages
    let due := (calculateAudioQuota env (start.finalQuotaInfo (sumOf usages))).1
    let debit := before.fundingDebit after session.accounts.funding
    debit = charges + (if (sumOf usages).totalTokens = 0 then 0 else due) ∧ (|debit - due| ≤ events.length ↔
        if (sumOf usages).totalTokens = 0 then |charges - due| ≤ events.length else charges ≤ events.length) := by
  intro start usages charges due debit
  have outcome := newBillingSession_outcome env.billing nonnegative fresh walletRollback subscriptionRollback
  rw [returned] at outcome
  have debited := wssHelper_debited (metered_opened outcome.1 fresh wellFormed noReset) ratioBilled ran succeeds
  rw [chargedUsages_responses] at debited
  have chargesNonneg : 0 ≤ charges := chargesOf_nonneg ratioBilled usages
  have dueNonneg : 0 ≤ due := calculateAudioQuota_nonneg ratioSettled
  have final : start.finalQuota env (sumOf usages) = if (sumOf usages).totalTokens = 0 then 0 else due := by
    rw [finalQuota, untiered]
    rfl
  have total : debit = charges + (if (sumOf usages).totalTokens = 0 then 0 else due) := by
    rw [← final]
    refine fundingDebit_nonneg debited (add_nonneg chargesNonneg ?_)
    rw [final]
    split_ifs
    · rfl
    · exact dueNonneg
  refine ⟨total, ?_⟩
  rw [total]
  split_ifs
  · rw [add_zero]
  · rw [add_sub_cancel_right, abs_of_nonneg chargesNonneg]

def realtimeEnv (groupRatio : Rat) : RealtimeEnv where
  billing := plainEnv
  completionRatio _ := 1
  audioRatio _ := 1
  audioCompletionRatio _ := 1
  modelRatio _ := 1
  groupRatio _ := groupRatio
  groupGroupRatio _ _ := none
  tokenUnlimited _ := false

def realtimeInfo (groupRatio : Rat) : RealtimeInfo where
  usePrice := false
  originModelName := "gpt-4o-realtime-preview"
  upstreamModelName := "gpt-4o-realtime-preview"
  usingGroup := "default"
  userGroup := "default"
  autoGroup := none
  priceData := ⟨0, 1, groupRatio, false⟩
  tieredSettle _ := none

def tenTokens : RealtimeUsage where
  totalTokens := 10
  inputTokens := 10
  inputTokenDetails := { textTokens := 10 }

def oneResponse : List (RealtimeUsage × Except String (Int × Int)) := [(tenTokens, .ok (0, 0))]

def endsTo (check : BillingStore → Bool) : Except (Halt String) RealtimeState × BillingStore → Bool
  | (.ok state, after) => decide (state.errors = []) && check after
  | _ => false

theorem endsTo_state {check outcome} (ends : endsTo check outcome = true) :
    ∃ state after, outcome = (.ok state, after) ∧ state.errors = [] ∧ check after = true := by
  obtain ⟨_ | state, after⟩ := outcome
  · cases ends
  · obtain ⟨clean, passes⟩ := Bool.and_eq_true_iff.mp ends
    exact ⟨state, after, rfl, of_decide_eq_true clean, passes⟩

theorem realtime_charged_once_free_group : ∃ session opened state after,
      newBillingSession plainEnv walletRequest 10 (fun _ => none) walletStore = (.ok (.ok session), opened) ∧
      wssHelper (realtimeEnv 0) { info := realtimeInfo 0, session := session } (responses oneResponse)
        (fun _ => none) opened = (.ok state, after) ∧
      |walletStore.fundingDebit after session.accounts.funding - (calculateAudioQuota (realtimeEnv 0)
        (finalQuotaInfo { info := realtimeInfo 0, session := session } (sumOf [tenTokens]))).1| ≤ 1 := by
  obtain ⟨session, opened, ret, checked⟩ := wallet_opens (fun session opened =>
        endsTo (fun _ => decide (chargesOf (realtimeEnv 0)
          { info := realtimeInfo 0, session := session } [tenTokens] ≤ 1))
          (wssHelper (realtimeEnv 0) { info := realtimeInfo 0, session := session }
            (responses oneResponse) (fun _ => none) opened) = true) (by decide +kernel)
  obtain ⟨state, after, ran, clean, small⟩ := endsTo_state checked
  have charged := realtime_charged_once_iff (realtimeEnv 0) walletRequest 10 walletStore opened after (fun _ => none)
    session (by decide) rfl walletStore_wellFormed (walletStore_noResetDue session) rfl rfl ret
      (realtimeInfo 0) rfl rfl (fun _ => rfl)
    oneResponse (fun _ => none) state ran clean
  exact ⟨session, opened, state, after, ret, ran, charged.2.mpr (of_decide_eq_true small)⟩

theorem realtime_response_charged_twice : ∃ session opened state after,
      newBillingSession plainEnv walletRequest 10 (fun _ => none) walletStore = (.ok (.ok session), opened) ∧
      wssHelper (realtimeEnv 1) { info := realtimeInfo 1, session := session } (responses oneResponse)
        (fun _ => none) opened = (.ok state, after) ∧ state.errors = [] ∧
          (calculateAudioQuota (realtimeEnv 1) (finalQuotaInfo
        { info := realtimeInfo 1, session := session } (sumOf [tenTokens]))).1 = 10 ∧
      walletStore.fundingDebit after session.accounts.funding = 20 := by
  obtain ⟨session, opened, ret, checked⟩ := wallet_opens (fun session opened =>
        endsTo (fun after => decide ((calculateAudioQuota (realtimeEnv 1) (finalQuotaInfo
              { info := realtimeInfo 1, session := session } (sumOf [tenTokens]))).1 = 10 ∧
              walletStore.fundingDebit after session.accounts.funding = 20))
          (wssHelper (realtimeEnv 1) { info := realtimeInfo 1, session := session }
            (responses oneResponse) (fun _ => none) opened) = true) (by decide +kernel)
  obtain ⟨state, after, ran, clean, amounts⟩ := endsTo_state checked
  exact ⟨session, opened, state, after, ret, ran, clean, of_decide_eq_true amounts⟩

end NewApi.Proof
