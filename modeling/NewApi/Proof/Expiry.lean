import NewApi.Proof.SubscriptionRows

/-! # Expiry and the group of a user -/

namespace NewApi.Proof
open Library Common Model Db
variable {now : Int} {store after : OrderStore}

def restoreGroup (store : OrderStore) (userId now : Int) : OrderStore :=
  if store.subscriptions.hasUpgraded userId now then store
  else match store.subscriptions.lastExpired userId with
  | none => store
  | some last =>
    if expiryTarget last (groupName store userId) = "" ∨
        expiryTarget last (groupName store userId) = groupName store userId then store
    else store.updateUser userId id fun user => { user with group := expiryTarget last (groupName store userId) }

def expireStore (store : OrderStore) (userId now : Int) : OrderStore :=
  store.setSubscriptions (store.subscriptions.expireRows userId now)

def OnlyGroup (userId : Int) (before after : OrderStore) : Prop :=
  ∃ users, after = { before with users := users } ∧ ∀ other, other ≠ userId → users other = before.users other

section User
variable {userId : Int} {faults : Faults ExpireStatement String}

theorem onlyGroup_refl (userId : Int) (store) : OnlyGroup userId store store :=
  ⟨store.users, rfl, fun _ _ => rfl⟩

theorem onlyGroup_trans (userId : Int) (a b c : OrderStore) (first : OnlyGroup userId a b)
    (second : OnlyGroup userId b c) :
    OnlyGroup userId a c := by
  obtain ⟨_, rfl, frame⟩ := first
  obtain ⟨later, rfl, laterFrame⟩ := second
  exact ⟨later, rfl, fun other apart => (laterFrame other apart).trans (frame other apart)⟩

variable {κ α : Type} {count : Nat}

theorem onlyGroup_readOnly {m : Db κ String OrderStore α} (reads : Db.ReadOnly m) : Db.Relates (OnlyGroup userId) m :=
  relates_readOnly _ (onlyGroup_refl userId) reads

theorem onlyGroup_bind {β : Type} {m : Db κ String OrderStore α} {f : α → Db κ String OrderStore β}
    (first : Db.Relates (OnlyGroup userId) m) (second : ∀ a, Db.Relates (OnlyGroup userId) (f a)) :
    Db.Relates (OnlyGroup userId) (m >>= f) :=
  relates_bind _ (onlyGroup_trans userId) first second

theorem setUserGroup_onlyGroup (label : κ) (target currentGroup : String) :
    Db.Relates (OnlyGroup userId) (setUserGroup label userId target currentGroup) := by
  unfold setUserGroup
  split_ifs with keep
  · exact onlyGroup_readOnly (readOnly_pure _)
  · apply onlyGroup_bind
    · apply relates_statement _ (onlyGroup_refl userId)
      intro store
      exact ⟨_, updateUser_columns store userId _, fun _ apart => Function.update_of_ne apart _ _⟩
    · intro _
      exact onlyGroup_readOnly (readOnly_pure _)

theorem setUserGroup_ok {label : κ} {target currentGroup group : String} {faults}
    (ran : setUserGroup label userId target currentGroup faults store = (.ok group, after)) :
    after = if target = "" ∨ target = currentGroup then store
      else store.updateUser userId id fun user => { user with group := target } := by
  unfold setUserGroup at ran
  split_ifs at ran ⊢ with keep
  · exact (pure_eq.mp ran).2
  · exact (pure_eq.mp (execute_bind_eq_ok.mp ran).2).2

theorem getUserGroupByIdTx_readOnly (userId : Int) : Db.ReadOnly (getUserGroupByIdTx userId) :=
  readOnly_ite (readOnly_fail _) (readOnly_query _ _)

theorem downgradeExpiredUser_onlyGroup : Db.Relates (OnlyGroup userId) (downgradeExpiredUser userId now) := by
  apply onlyGroup_bind (onlyGroup_readOnly (readOnly_attempt (readOnly_query _ _)))
  intro _
  split
  · exact onlyGroup_readOnly (readOnly_pure _)
  · apply onlyGroup_bind (onlyGroup_readOnly (readOnly_attempt (readOnly_query _ _)))
    intro _
    split
    · apply onlyGroup_bind (onlyGroup_readOnly (readOnly_within (getUserGroupByIdTx_readOnly userId)))
      intro _
      apply onlyGroup_bind (setUserGroup_onlyGroup _ _ _)
      intro _
      exact onlyGroup_readOnly (readOnly_pure _)
    · exact onlyGroup_readOnly (readOnly_pure _)

theorem expireUserTx_downgrades (ran : expireUserTx userId now faults store = (.ok count, after)) :
    count = store.subscriptions.endedCount userId now ∧
      ∃ value, downgradeExpiredUser userId now faults (expireStore store userId now) = (.ok value, after) := by
  obtain ⟨_, _, expiring, cont⟩ := bind_eq_ok.mp ran
  obtain ⟨-, same⟩ := statement_eq_ok.mp expiring
  obtain ⟨rfl, rfl⟩ := Prod.mk.inj same
  obtain ⟨value, _, downgrading, ret⟩ := bind_eq_ok.mp cont
  obtain ⟨rfl, rfl⟩ := pure_eq_ok.mp ret
  exact ⟨rfl, value, downgrading⟩

theorem expireUserTx_ok (ran : expireUserTx userId now faults store = (.ok count, after)) :
    count = store.subscriptions.endedCount userId now ∧ OnlyGroup userId (expireStore store userId now) after := by
  obtain ⟨counted, _, downgrading⟩ := expireUserTx_downgrades ran
  exact ⟨counted, downgradeExpiredUser_onlyGroup _ _ _ _ downgrading⟩

theorem downgradeExpiredUser_ok (asked : faults (.active userId) = none)
    (searched : faults (.lastExpired userId) = none)
    {value : Unit} (ran : downgradeExpiredUser userId now faults store = (.ok value, after)) :
    after = restoreGroup store userId now := by
  rw [downgradeExpiredUser, bind_of_ok (attempt_query asked)] at ran
  unfold restoreGroup
  cases upgraded : store.subscriptions.hasUpgraded userId now with
  | true =>
    rw [upgraded] at ran
    exact (pure_eq.mp ran).2
  | false =>
    rw [upgraded] at ran
    dsimp only at ran
    rw [bind_of_ok (attempt_query searched)] at ran
    cases last : store.subscriptions.lastExpired userId with
    | none =>
      rw [last] at ran
      exact (pure_eq.mp ran).2
    | some =>
      rw [last] at ran
      obtain ⟨_, _, looking, setting⟩ := bind_eq_ok.mp ran
      rw [within_apply, getUserGroupByIdTx] at looking
      split_ifs at looking with nobody
      · cases (fail_eq.mp looking).1
      · obtain ⟨-, rfl, rfl⟩ := query_eq_ok.mp looking
        obtain ⟨_, _, wrote, ret⟩ := bind_eq_ok.mp setting
        rw [(pure_eq.mp ret).2, setUserGroup_ok wrote, if_neg Bool.false_ne_true]
        rfl

theorem expireUserTx_restores (asked : faults (.active userId) = none) (searched : faults (.lastExpired userId) = none)
    (ran : expireUserTx userId now faults store = (.ok count, after)) :
    after = restoreGroup (expireStore store userId now) userId now := by
  obtain ⟨-, _, downgrading⟩ := expireUserTx_downgrades ran
  exact downgradeExpiredUser_ok asked searched downgrading

end User

section Events
variable {env : SubscriptionEnv} {allowed : Int → RowWrite → Prop}

theorem onlyGroup_evolves {userId} (only : OnlyGroup userId store after) :
    StoreEvolves env now allowed store after := by
  obtain ⟨_, rfl, -⟩ := only
  exact storeEvolves_refl store

theorem expireUsers_evolves (may : ∀ id, allowed id .expire) (users : List Int) :
    Db.Relates (StoreEvolves env now allowed) (expireUsers now users) := by
  induction users with
  | nil => exact relates_readOnly _ storeEvolves_refl (readOnly_pure 0)
  | cons userId _ ih =>
    apply relates_bind _ storeEvolves_trans
    · apply relates_transaction _ storeEvolves_refl
      intro _ store _ _ ran
      have expired : StoreEvolves env now allowed store (expireStore store userId now) :=
        expireRows_evolves may store.subscriptions userId
      exact storeEvolves_trans _ _ _ expired (onlyGroup_evolves (expireUserTx_ok ran).2)
    · intro _
      apply relates_bind _ storeEvolves_trans ih
      intro _
      exact relates_readOnly _ storeEvolves_refl (readOnly_pure _)

theorem expireDue_evolves (may : ∀ id, allowed id .expire) (order) (limit : Int) :
    Db.Relates (StoreEvolves env now allowed) (expireDueSubscriptions order limit now) := by
  apply relates_bind _ storeEvolves_trans
  · exact relates_readOnly _ storeEvolves_refl (readOnly_query _ _)
  · intro _
    exact expireUsers_evolves may _

theorem downgradeUserGroup_onlyGroup (sub) (now : Int) :
    Db.Relates (OnlyGroup sub.userId) (downgradeUserGroupForSubscriptionTx sub now) := by
  unfold downgradeUserGroupForSubscriptionTx
  dsimp only
  by_cases nothing : trimSpace sub.downgradeGroup = "" ∧ trimSpace sub.upgradeGroup = ""
  · rw [if_pos nothing]
    exact onlyGroup_readOnly (readOnly_pure _)
  · rw [if_neg nothing]
    apply onlyGroup_bind (onlyGroup_readOnly (readOnly_within (getUserGroupByIdTx_readOnly sub.userId)))
    intro currentGroup
    apply onlyGroup_bind (onlyGroup_readOnly (readOnly_attempt (readOnly_query _ _)))
    intro _
    split
    · exact onlyGroup_readOnly (readOnly_pure _)
    · by_cases elsewhere : trimSpace sub.downgradeGroup = "" ∧ currentGroup ≠ trimSpace sub.upgradeGroup
      · rw [if_pos elsewhere]
        exact onlyGroup_readOnly (readOnly_pure _)
      · rw [if_neg elsewhere]
        exact setUserGroup_onlyGroup _ _ _

variable {id : Int} {state : SubscriptionState}

theorem lockSubscription_ok {sub faults} (ran : lockSubscription id faults store = (.ok sub, after)) :
    after = store ∧ store.subscriptions.subscriptions.find? id = some sub := by
  obtain ⟨-, ret⟩ := query_bind_eq_ok.mp ran
  cases row : store.subscriptions.subscriptions.find? id with
  | none =>
    rw [row] at ret
    cases (fail_eq.mp ret).1
  | some =>
    rw [row] at ret
    obtain ⟨rfl, rfl⟩ := pure_eq_ok.mp ret
    exact ⟨rfl, rfl⟩

theorem invalidate_evolves (may : allowed id .cancel) :
    Db.Relates (StoreEvolves env now allowed) (adminInvalidateUserSubscription id now) := by
  unfold adminInvalidateUserSubscription
  split_ifs with invalid
  · exact relates_readOnly _ storeEvolves_refl (readOnly_fail _)
  · apply relates_bind _ storeEvolves_trans
    · apply relates_transaction _ storeEvolves_refl
      intro _ _ _ _ ran
      obtain ⟨sub, locked, locking, cont⟩ := bind_eq_ok.mp ran
      obtain ⟨rfl, found⟩ := lockSubscription_ok locking
      obtain ⟨-, downgrading⟩ := execute_bind_eq_ok.mp cont
      obtain rfl := (Table.find?_eq_some.mp found).2
      have ended : StoreEvolves env now allowed locked
          (locked.setSubscriptions (locked.subscriptions.saveSubscription (RowWrite.cancel.apply env now sub))) :=
        evolves_save found may
      exact storeEvolves_trans _ _ _ ended (onlyGroup_evolves (downgradeUserGroup_onlyGroup _ _ _ _ _ _ downgrading))
    · intro _
      exact relates_readOnly _ storeEvolves_refl (readOnly_pure _)

def RowDeleted (id : Int) (before after : OrderStore) : Prop :=
  after.subscriptions = before.subscriptions ∨ after.subscriptions = before.subscriptions.deleteSubscription id

theorem delete_rows (id now : Int) : Db.Relates (RowDeleted id) (adminDeleteUserSubscription id now) := by
  have same : ∀ store, RowDeleted id store store := fun _ => .inl rfl
  unfold adminDeleteUserSubscription
  split_ifs with invalid
  · exact relates_readOnly _ same (readOnly_fail _)
  · intro faults store result after ran
    have inner : ∀ result after, (transaction EndStatement.start .commit do
        let sub ← lockSubscription id
        let target ← downgradeUserGroupForSubscriptionTx sub now
        execute .delete fun store => store.setSubscriptions (store.subscriptions.deleteSubscription id)
        pure target) faults store = (result, after) → RowDeleted id store after := by
      intro result _ ran
      apply transaction_store _ ran (same store)
      intro target middle body
      obtain ⟨_, _, locking, cont⟩ := bind_eq_ok.mp body
      obtain ⟨rfl, -⟩ := lockSubscription_ok locking
      obtain ⟨_, _, downgrading, deleting⟩ := bind_eq_ok.mp cont
      obtain ⟨_, rfl, -⟩ := downgradeUserGroup_onlyGroup _ _ _ _ _ _ downgrading
      rw [(pure_eq.mp (execute_bind_eq_ok.mp deleting).2).2]
      exact .inr rfl
    cases result with
    | ok =>
      obtain ⟨_, _, begun, ret⟩ := bind_eq_ok.mp ran
      rw [(pure_eq.mp ret).2]
      exact inner _ _ begun
    | error =>
      rcases bind_eq_error.mp ran with stopped | ⟨target, middle, -, ret⟩
      · exact inner _ _ stopped
      · cases (pure_eq.mp ret).1

theorem onSubscriptions_evolves {κ α : Type} {body : SubscriptionDb κ α} {faults : Faults κ String}
    (evolved : ∀ result after, body faults state.store.subscriptions = (result, after) →
      Evolves env now allowed state.store.subscriptions after) :
    Evolves env now allowed state.store.subscriptions (state.onSubscriptions body faults).store.subscriptions :=
  evolved _ _ rfl

theorem step_evolves {env event}
    (kept : ∀ userId plan source faults, event ≠ .purchase userId plan source faults)
    (undeleted : ∀ id faults, event ≠ .delete id faults) :
    Evolves env.subscriptions state.now (Writes env.subscriptions state event) state.store.subscriptions
      (state.step env event).store.subscriptions := by
  cases event with
  | tick => exact evolves_refl _
  | purchase userId plan source faults => exact absurd rfl (kept userId plan source faults)
  | preConsume =>
    exact onSubscriptions_evolves fun result after ran =>
      preConsume_evolves (fun _ _ checks => .inl checks) (fun _ => .inr rfl) ran
  | postConsume => exact onSubscriptions_evolves fun result after ran => postConsume_evolves ⟨rfl, rfl⟩ ran
  | refund =>
    exact onSubscriptions_evolves fun result after ran =>
      refund_evolves (fun record found consumed => ⟨record, found, consumed, rfl, rfl⟩) ran
  | resetDue => exact onSubscriptions_evolves fun result after ran => resetDue_evolves (fun _ _ checks => checks) ran
  | adminResetUser => exact onSubscriptions_evolves fun _ _ ran => adminResetUser_evolves (fun _ _ resets => resets) ran
  | adminResetPlan => exact onSubscriptions_evolves fun _ _ ran => adminResetPlan_evolves (fun _ _ resets => resets) ran
  | expire order limit faults =>
    have related : Db.Relates (StoreEvolves env.subscriptions state.now fun _ write => write = .expire)
        (expireDueSubscriptions order limit state.now) := by
      apply expireDue_evolves
      exact fun id => rfl
    exact relates_run related faults state.store
  | invalidate id faults =>
    have related : Db.Relates (StoreEvolves env.subscriptions state.now fun other write => other = id ∧ write = .cancel)
        (adminInvalidateUserSubscription id state.now) := invalidate_evolves ⟨rfl, rfl⟩
    exact relates_run related faults state.store
  | delete id faults => exact absurd rfl (undeleted id faults)

end Events
end NewApi.Proof
