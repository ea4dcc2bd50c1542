import NewApi.Proof.Expiry

/-! # Taking a user back to their group -/

namespace NewApi.Proof
open Library Common Model SubscriptionStore SubscriptionState List

def Upgrades (userId : Int) (sub : UserSubscription) : Prop := sub.userId = userId ∧ sub.upgradeGroup ≠ ""

instance (userId : Int) : DecidablePred (Upgrades userId) := fun _ => inferInstanceAs (Decidable (_ ∧ _))

def GroupEvent (userId : Int) : SubscriptionEvent → Prop
  | .tick _ => True
  | .purchase buyer plan _ _ => buyer = userId → plan.downgradeGroup = ""
  | .expire _ _ _ => True
  | _ => False

/-- An upgrade is bought in the original group only, to another group and into the future; and the two
queries whose errors expiry swallows succeed. -/
def OneUpgrade (env : OrderEnv) (userId : Int) (group : String) (state : SubscriptionState) : SubscriptionEvent → Prop
  | .purchase buyer plan _ _ => buyer = userId → trimSpace plan.upgradeGroup ≠ "" →
      state.group userId = some group ∧ trimSpace plan.upgradeGroup ≠ group ∧
        ∀ endUnix, calcPlanEndTime env.subscriptions.location state.now plan = .ok endUnix →
          0 < endUnix ∧ state.now ≤ endUnix
  | .expire _ _ faults => faults (.active userId) = none ∧ faults (.lastExpired userId) = none
  | _ => True

def Settled (userId : Int) (group : String) (store : OrderStore) : Prop :=
  (store.users userId).map User.group = some group ∧
    ∀ sub ∈ store.subscriptions.subscriptions.rows, Upgrades userId sub → sub.status ≠ .active

def HeldBy (userId : Int) (store : OrderStore) (holder : UserSubscription) : Prop :=
  holder ∈ store.subscriptions.subscriptions.rows ∧ Upgrades userId holder ∧ holder.status = .active ∧
    0 < holder.endTime ∧ (store.users userId).map User.group = some holder.upgradeGroup ∧
    ∀ sub ∈ store.subscriptions.subscriptions.rows, Upgrades userId sub → sub.id ≠ holder.id →
      sub.status ≠ .active ∧ endsBefore sub holder

structure Restorable (userId : Int) (group : String) (now : Int) (store : OrderStore) : Prop where
  plain : ∀ sub ∈ store.subscriptions.subscriptions.rows, sub.userId = userId → sub.downgradeGroup = ""
  upgrades : ∀ sub ∈ store.subscriptions.subscriptions.rows, Upgrades userId sub →
    trimSpace sub.upgradeGroup = sub.upgradeGroup ∧ sub.upgradeGroup ≠ group ∧ sub.prevUserGroup = group
  closed : ∀ sub ∈ store.subscriptions.subscriptions.rows, Upgrades userId sub → sub.status ≠ .active →
    sub.status = .expired ∧ sub.endTime ≤ now
  phase : Settled userId group store ∨ ∃ holder, HeldBy userId store holder

section Frame
variable {userId now : Int} {group : String} {before after : OrderStore}

structure SameUser (userId : Int) (before after : OrderStore) : Prop where
  user : after.users userId = before.users userId
  rows : ∀ sub : UserSubscription, sub.userId = userId →
    (sub ∈ after.subscriptions.subscriptions.rows ↔ sub ∈ before.subscriptions.subscriptions.rows)

theorem restorable_sameUser (restorable : Restorable userId group now before) (same : SameUser userId before after) :
    Restorable userId group now after where
  plain sub mem own := restorable.plain sub ((same.rows sub own).mp mem) own
  upgrades sub mem own := restorable.upgrades sub ((same.rows sub own.1).mp mem) own
  closed sub mem own := restorable.closed sub ((same.rows sub own.1).mp mem) own
  phase := by
    rcases restorable.phase with ⟨home, none⟩ | ⟨holder, mem, own, active, pos, away, others⟩
    · refine .inl ⟨by rw [same.user, home], fun sub mem own => none sub ((same.rows sub own.1).mp mem) own⟩
    · refine .inr ⟨holder, (same.rows holder own.1).mpr mem, own, active, pos, by rw [same.user, away], ?_⟩
      exact fun sub mem own => others sub ((same.rows sub own.1).mp mem) own

theorem restorable_later {later} (restorable : Restorable userId group now before) (le : now ≤ later) :
    Restorable userId group later before where
  plain := restorable.plain
  upgrades := restorable.upgrades
  closed sub mem own ended := ⟨(restorable.closed sub mem own ended).1,
    (restorable.closed sub mem own ended).2.trans le⟩
  phase := restorable.phase

end Frame

/-! ## Expiry -/

section Expire
variable {userId now : Int} {group : String} {store : OrderStore}

theorem sameUser_expire {other} (apart : userId ≠ other) {after}
    (only : OnlyGroup other (expireStore store other now) after) : SameUser userId store after := by
  obtain ⟨_, rfl, frame⟩ := only
  refine ⟨frame userId apart, fun sub own => ?_⟩
  change sub ∈ store.subscriptions.subscriptions.rows.map _ ↔ _
  have kept : ∀ old : UserSubscription, old.userId = userId → expireRow other now old = old := by
    intro old own
    rw [expireRow, if_neg fun both => apart (own.symm.trans both.1)]
  constructor
  · intro mem
    obtain ⟨old, _, rfl⟩ := mem_map.mp mem
    have owner : (expireRow other now old).userId = old.userId := by
      unfold expireRow
      split_ifs <;> rfl
    rwa [kept old (owner.symm.trans own)]
  · intro mem
    exact mem_map.mpr ⟨sub, mem, kept sub own⟩

theorem restoreGroup_subscriptions (store) (userId now : Int) :
    (restoreGroup store userId now).subscriptions = store.subscriptions := by
  unfold restoreGroup
  split
  · rfl
  · split
    · rfl
    · split
      · rfl
      · exact updateUser_subscriptions _ _ _ _

abbrev expiredRows (store : OrderStore) (userId now : Int) :
    List UserSubscription := (expireStore store userId now).subscriptions.subscriptions.rows

theorem mem_expireStore {row} (mem : row ∈ expiredRows store userId now) :
    ∃ old ∈ store.subscriptions.subscriptions.rows, (row = old ∧
      ¬(old.userId = userId ∧ SubscriptionStore.Ended now old)) ∨
      (row = { old with status := .expired } ∧ old.userId = userId ∧ SubscriptionStore.Ended now old) := by
  obtain ⟨old, old_mem, rfl⟩ := mem_map.mp mem
  refine ⟨old, old_mem, ?_⟩
  unfold expireRow
  split_ifs with ended
  · exact .inr ⟨rfl, ended⟩
  · exact .inl ⟨rfl, ended⟩

theorem restorable_expireStore_rows (restorable : Restorable userId group now store) :
    (∀ row ∈ expiredRows store userId now, row.userId = userId → row.downgradeGroup = "") ∧
    (∀ row ∈ expiredRows store userId now, Upgrades userId row →
      trimSpace row.upgradeGroup = row.upgradeGroup ∧ row.upgradeGroup ≠ group ∧ row.prevUserGroup = group) ∧
    ∀ row ∈ expiredRows store userId now, Upgrades userId row →
      row.status ≠ .active → row.status = .expired ∧ row.endTime ≤ now := by
  refine ⟨fun row mem own => ?_, fun row mem own => ?_, fun row mem own ended => ?_⟩
  all_goals obtain ⟨old, old_mem, ⟨rfl, -⟩ | ⟨rfl, -, finished⟩⟩ := mem_expireStore mem
  · exact restorable.plain row old_mem own
  · exact restorable.plain old old_mem own
  · exact restorable.upgrades row old_mem own
  · exact restorable.upgrades old old_mem own
  · exact restorable.closed row old_mem own ended
  · exact ⟨rfl, finished.2.2⟩

variable {subscriptions : SubscriptionStore} {holder : UserSubscription}

theorem lastExpired_mem {last} (found : subscriptions.lastExpired userId = some last) :
    last ∈ subscriptions.subscriptions.rows ∧
      last.userId = userId ∧ (last.downgradeGroup ≠ "" ∨ last.upgradeGroup ≠ "") := by
  have mem := (mem_insertionSort _).mp (mem_of_head? found)
  obtain ⟨stored, conditions⟩ := mem_filter.mp mem
  simp only [decide_eq_true_eq] at conditions
  exact ⟨stored, conditions.1, conditions.2.2⟩

theorem restoreGroup_settled (settled : Settled userId group store) (restorable : Restorable userId group now store) :
    restoreGroup store userId now = store := by
  have home : groupName store userId = group := by rw [groupName, settled.1, Option.getD_some]
  unfold restoreGroup
  split
  · rfl
  · cases found : store.subscriptions.lastExpired userId with
    | none => rfl
    | some last =>
      obtain ⟨mem, own, speaks⟩ := lastExpired_mem found
      have plain := restorable.plain last mem own
      have upgrades : Upgrades userId last := ⟨own, speaks.resolve_left (not_not.mpr plain)⟩
      obtain ⟨trimmed, other, prev⟩ := restorable.upgrades last mem upgrades
      have silent : expiryTarget last (groupName store userId) = "" := by
        unfold expiryTarget
        rw [plain, trimmed, prev, home]
        simp [show trimSpace "" = "" by decide, Ne.symm other]
      simp [silent]

instance endsAfter_total : Std.Total fun a b : UserSubscription => endsBefore b a where
  total a b := by
    unfold endsBefore
    omega

instance endsAfter_trans : IsTrans UserSubscription fun a b => endsBefore b a where
  trans a b c := by
    unfold endsBefore
    omega

theorem lastExpired_holder {holder} (restorable : Restorable userId group now store)
    (held : HeldBy userId store holder) (finished : SubscriptionStore.Ended now holder) :
    (expireStore store userId now).subscriptions.lastExpired userId = some { holder with status := .expired } := by
  obtain ⟨stored, own, -, -, -, others⟩ := held
  have expired : { holder with status := .expired } ∈ expiredRows store userId now :=
    mem_map.mpr ⟨holder, stored, by rw [expireRow, if_pos ⟨own.1, finished⟩]⟩
  -- Two rows with the key of the holder are one row.
  have same : ∀ row ∈ expiredRows store userId now, row.id = holder.id →
      row = { holder with status := .expired } := fun row mem equal =>
    inj_on_of_nodup_map (expireStore store userId now).subscriptions.subscriptions.unique mem expired equal
  have before : ∀ row ∈ expiredRows store userId now, Upgrades userId row →
      endsBefore row holder := by
    intro row mem upgrades
    by_cases equal : row.id = holder.id
    · rw [same row mem equal]
      exact .inr ⟨rfl, le_rfl⟩
    · obtain ⟨old, old_mem, ⟨rfl, -⟩ | ⟨rfl, -, -⟩⟩ := mem_expireStore mem
      · exact (others row old_mem upgrades equal).2
      · exact (others old old_mem upgrades equal).2
  have chosen : ∀ row ∈ (expiredRows store userId now).filter (fun sub =>
      sub.userId = userId ∧ sub.status = .expired ∧ (sub.downgradeGroup ≠ "" ∨ sub.upgradeGroup ≠ "")),
      row ∈ expiredRows store userId now ∧ Upgrades userId row := by
    intro row mem
    obtain ⟨stored, conditions⟩ := mem_filter.mp mem
    simp only [decide_eq_true_eq] at conditions
    have plain := (restorable_expireStore_rows restorable).1 row stored conditions.1
    exact ⟨stored, conditions.1, conditions.2.2.resolve_left (not_not.mpr plain)⟩
  apply head?_insertionSort
  · rw [mem_filter]
    exact ⟨expired, by simp [own.1, own.2]⟩
  · intro row mem after
    apply same row (chosen row mem).1
    have ends := before row (chosen row mem).1 (chosen row mem).2
    change endsBefore holder row at after
    unfold endsBefore at ends after
    omega

theorem hasUpgraded_iff : subscriptions.hasUpgraded userId now = true ↔
    ∃ sub ∈ subscriptions.subscriptions.rows, Upgrades userId sub ∧ sub.status = .active ∧ now < sub.endTime := by
  simp only [hasUpgraded, active, any_eq_true, mem_filter, decide_eq_true_eq, Upgrades]
  constructor
  · rintro ⟨sub, ⟨mem, own, active, running⟩, upgrades⟩
    exact ⟨sub, mem, ⟨own, upgrades⟩, active, running⟩
  · rintro ⟨sub, mem, ⟨own, upgrades⟩, active, running⟩
    exact ⟨sub, ⟨mem, own, active, running⟩, upgrades⟩

theorem settled_of_held (named : group ≠ "") (trimmed : trimSpace group = group)
    (restorable : Restorable userId group now store) (held : HeldBy userId store holder)
    (finished : SubscriptionStore.Ended now holder) :
    Settled userId group (restoreGroup (expireStore store userId now) userId now) := by
  have last := lastExpired_holder restorable held finished
  obtain ⟨stored, own, -, -, away, others⟩ := held
  obtain ⟨whole, other, prev⟩ := restorable.upgrades holder stored own
  have inactive : ∀ row ∈ expiredRows store userId now, Upgrades userId row → row.status ≠ .active := by
    intro row mem upgrades active
    obtain ⟨_, old_mem, ⟨rfl, still⟩ | ⟨rfl, -, -⟩⟩ := mem_expireStore mem
    · by_cases equal : row.id = holder.id
      · obtain rfl := inj_on_of_nodup_map store.subscriptions.subscriptions.unique old_mem stored equal
        exact still ⟨own.1, finished⟩
      · exact (others row old_mem upgrades equal).1 active
    · cases active
  have idle : (expireStore store userId now).subscriptions.hasUpgraded userId now ≠ true := by
    rw [ne_eq, hasUpgraded_iff]
    rintro ⟨row, mem, upgrades, active, -⟩
    exact inactive row mem upgrades active
  have current : groupName (expireStore store userId now) userId = holder.upgradeGroup := by
    rw [groupName]
    exact congrArg (fun name => name.getD "") away
  have target : expiryTarget { holder with status := .expired } holder.upgradeGroup = group := by
    unfold expiryTarget
    simp [restorable.plain holder stored own.1, show trimSpace "" = "" by decide, whole, prev, trimmed, own.2, named]
  refine ⟨?_, by rwa [restoreGroup_subscriptions]⟩
  unfold restoreGroup
  rw [if_neg idle, last]
  simp only [current, target, named, Ne.symm other, or_self, if_false]
  rw [updateUser_columns]
  simp only [Function.update_self, Option.map_map]
  obtain ⟨_, found, -⟩ := Option.map_eq_some_iff.mp away
  simp [expireStore, OrderStore.setSubscriptions, found]

theorem held_of_held (held : HeldBy userId store holder) (running : ¬SubscriptionStore.Ended now holder) :
    HeldBy userId (restoreGroup (expireStore store userId now) userId now) holder := by
  obtain ⟨stored, own, active, pos, away, others⟩ := held
  have kept : holder ∈ expiredRows store userId now :=
    mem_map.mpr ⟨holder, stored, by rw [expireRow, if_neg fun both => running both.2]⟩
  have later : now < holder.endTime := not_le.mp fun past => running ⟨active, pos, past⟩
  have same : restoreGroup (expireStore store userId now) userId now = expireStore store userId now := by
    rw [restoreGroup, if_pos (hasUpgraded_iff.mpr ⟨holder, kept, own, active, later⟩)]
  rw [same]
  refine ⟨kept, own, active, pos, away, fun row mem upgrades apart => ?_⟩
  obtain ⟨old, old_mem, ⟨rfl, -⟩ | ⟨rfl, -, -⟩⟩ := mem_expireStore mem
  · exact others row old_mem upgrades apart
  · exact ⟨by simp, (others old old_mem upgrades apart).2⟩

theorem settled_of_settled (settled : Settled userId group store) (restorable : Restorable userId group now store) :
    Settled userId group (restoreGroup (expireStore store userId now) userId now) := by
  obtain ⟨home, none⟩ := settled
  have still : Settled userId group (expireStore store userId now) := by
    refine ⟨home, fun row mem upgrades active => ?_⟩
    obtain ⟨_, old_mem, ⟨rfl, -⟩ | ⟨rfl, -, -⟩⟩ := mem_expireStore mem
    · exact none row old_mem upgrades active
    · cases active
  obtain ⟨plain, upgrades, closed⟩ := restorable_expireStore_rows restorable
  rwa [restoreGroup_settled still ⟨plain, upgrades, closed, .inl still⟩]

theorem restorable_expire (named : group ≠ "") (trimmed : trimSpace group = group)
    (restorable : Restorable userId group now store) :
    Restorable userId group now (restoreGroup (expireStore store userId now) userId now) := by
  obtain ⟨_, _, _⟩ := restorable_expireStore_rows restorable
  refine ⟨?_, ?_, ?_, ?_⟩
  · rwa [restoreGroup_subscriptions]
  · rwa [restoreGroup_subscriptions]
  · rwa [restoreGroup_subscriptions]
  · rcases restorable.phase with settled | ⟨holder, held⟩
    · exact .inl (settled_of_settled settled restorable)
    · by_cases finished : SubscriptionStore.Ended now holder
      · exact .inl (settled_of_held named trimmed restorable held finished)
      · exact .inr ⟨holder, held_of_held held finished⟩

theorem restorable_expireUsers (named : group ≠ "") (trimmed : trimSpace group = group) {faults}
    (asked : faults (.active userId) = none)
    (searched : faults (.lastExpired userId) = none) (users : List Int) {result after}
    (restorable : Restorable userId group now store)
    (ran : expireUsers now users faults store = (result, after)) : Restorable userId group now after := by
  induction users generalizing store result after with
  | nil =>
    rw [(Db.pure_eq.mp ran).2]
    exact restorable
  | cons other _ ih =>
    refine Db.bind_store (Restorable userId group now) ran ?_ ?_
    · intro outcome _ begun
      apply Db.transaction_store _ begun restorable
      intro _ _ body
      by_cases own : other = userId
      · subst own
        rw [expireUserTx_restores asked searched body]
        exact restorable_expire named trimmed restorable
      · exact restorable_sameUser restorable (sameUser_expire (Ne.symm own) (expireUserTx_ok body).2)
    · intro _ _ _ kept cont
      refine Db.bind_store (Restorable userId group now) cont (fun _ _ begun => ih kept begun) ?_
      intro _ _ _ _ ret
      rwa [(Db.pure_eq.mp ret).2]

end Expire

/-! ## Purchases -/

section Purchase
variable {env : OrderEnv} {userId buyer now endUnix : Int} {group prevGroup : String} {plan : SubscriptionPlan}
  {source : SubscriptionSource} {store upgraded : OrderStore}

def purchased (env : OrderEnv) (buyer : Int) (plan : SubscriptionPlan) (source : SubscriptionSource) (now endUnix : Int)
    (prevGroup : String) (upgraded : OrderStore) : OrderStore :=
  upgraded.setSubscriptions (upgraded.subscriptions.insertSubscription
    (planSubscription env buyer plan source now endUnix prevGroup))

theorem purchased_rows :
    (purchased env buyer plan source now endUnix prevGroup upgraded).subscriptions.subscriptions.rows =
    upgraded.subscriptions.subscriptions.rows ++
      [{ planSubscription env buyer plan source now endUnix prevGroup with id := upgraded.subscriptions.nextId }] :=
  insertSubscription_rows _ _

theorem sameUser_purchase (apart : userId ≠ buyer) (moved : Upgraded store buyer
    (trimSpace plan.upgradeGroup) prevGroup upgraded) :
    SameUser userId store (purchased env buyer plan source now endUnix prevGroup upgraded) := by
  have users : upgraded.users userId = store.users userId ∧ upgraded.subscriptions = store.subscriptions := by
    cases moved with
    | stays => exact ⟨rfl, rfl⟩
    | moves =>
      rw [updateUser_columns]
      exact ⟨Function.update_of_ne apart _ _, rfl⟩
  refine ⟨users.1, fun _ own => ?_⟩
  rw [purchased_rows, users.2, mem_append, mem_singleton]
  constructor
  · rintro (old | rfl)
    · exact old
    · exact absurd own.symm apart
  · exact .inl

theorem restorable_plain (restorable : Restorable userId group now store) (plainPlan : plan.downgradeGroup = "")
    (none : trimSpace plan.upgradeGroup = "") (moved : Upgraded store userId
    (trimSpace plan.upgradeGroup) prevGroup upgraded) :
    Restorable userId group now (purchased env userId plan source now endUnix prevGroup upgraded) := by
  have same : upgraded = store := by
    cases moved with
    | stays => rfl
    | moves upgrades => exact absurd none upgrades
  subst same
  have known : ∀ row ∈ (purchased env userId plan source now endUnix prevGroup
    upgraded).subscriptions.subscriptions.rows,
      Upgrades userId row → row ∈ upgraded.subscriptions.subscriptions.rows := by
    intro row mem own
    rw [purchased_rows, mem_append, mem_singleton] at mem
    rcases mem with old | rfl
    · exact old
    · exact absurd none own.2
  refine ⟨?_, fun row mem own => restorable.upgrades row (known row mem own) own,
    fun row mem own => restorable.closed row (known row mem own) own, ?_⟩
  · intro row mem own
    rw [purchased_rows, mem_append, mem_singleton] at mem
    rcases mem with old | rfl
    · exact restorable.plain row old own
    · change trimSpace plan.downgradeGroup = ""
      rw [plainPlan]
      decide
  · rcases restorable.phase with ⟨home, idle⟩ | ⟨holder, stored, own, active, pos, away, others⟩
    · exact .inl ⟨home, fun row mem own => idle row (known row mem own) own⟩
    · refine .inr ⟨holder, ?_, own, active, pos, away, fun row mem own => others row (known row mem own) own⟩
      rw [purchased_rows]
      exact mem_append_left _ stored

theorem restorable_upgrade (restorable : Restorable userId group now store) (plainPlan : plan.downgradeGroup = "")
    (upgrades : trimSpace plan.upgradeGroup ≠ "") (home : (store.users userId).map User.group = some group)
    (other : trimSpace plan.upgradeGroup ≠ group) (future : 0 < endUnix ∧ now ≤ endUnix)
    (moved : Upgraded store userId (trimSpace plan.upgradeGroup) prevGroup upgraded) :
    Restorable userId group now (purchased env userId plan source now endUnix prevGroup upgraded) := by
  have current : groupName store userId = group := by rw [groupName, home, Option.getD_some]
  have idle : ∀ sub ∈ store.subscriptions.subscriptions.rows, Upgrades userId sub → sub.status ≠ .active := by
    rcases restorable.phase with ⟨-, idle⟩ | ⟨holder, stored, own, -, -, away, -⟩
    · exact idle
    · have apart := (restorable.upgrades holder stored own).2.1
      exact absurd (Option.mem_unique away home) apart
  cases moved with
  | stays already =>
    rcases already with none | same
    · exact absurd none upgrades
    · exact absurd (same.symm.trans current) other
  | moves =>
    rw [current, updateUser_columns]
    have away : ((store.users userId).map fun user => { user with group := trimSpace plan.upgradeGroup }).map User.group =
        some (trimSpace plan.upgradeGroup) := by
      obtain ⟨_, found, -⟩ := Option.map_eq_some_iff.mp home
      simp [found]
    refine ⟨?_, ?_, ?_, .inr ⟨{ planSubscription env userId plan source now endUnix group with
      id := store.subscriptions.nextId }, ?_, ⟨rfl, upgrades⟩, rfl, future.1, ?_, ?_⟩⟩
    all_goals try rw [purchased_rows]
    · intro row mem own
      rcases mem_append.mp mem with old | new
      · exact restorable.plain row old own
      · rw [mem_singleton.mp new]
        change trimSpace plan.downgradeGroup = ""
        rw [plainPlan]
        decide
    · intro row mem own
      rcases mem_append.mp mem with old | new
      · exact restorable.upgrades row old own
      · rw [mem_singleton.mp new]
        exact ⟨trimSpace_trimSpace _, other, rfl⟩
    · intro row mem own closed
      rcases mem_append.mp mem with old | new
      · exact restorable.closed row old own closed
      · rw [mem_singleton.mp new] at closed
        exact absurd rfl closed
    · exact mem_append_right _ (mem_singleton_self _)
    · change (Function.update store.users userId _ userId).map User.group = _
      rw [Function.update_self]
      exact away
    · intro row mem own apart
      rcases mem_append.mp mem with old | new
      · have below := lt_nextId old
        have past := (restorable.closed row old own (idle row old own)).2
        refine ⟨idle row old own, ?_⟩
        rcases (past.trans future.2).lt_or_eq with earlier | equal
        · exact .inl earlier
        · exact .inr ⟨equal, below.le⟩
      · exact absurd (congrArg UserSubscription.id (mem_singleton.mp new)) apart

end Purchase

/-! ## Whole runs -/

section Run
variable {env : OrderEnv} {userId : Int} {group : String}

def RestorableAt (userId : Int) (group : String) (state : SubscriptionState) : Prop :=
  Restorable userId group state.now state.store

theorem restorable_step (named : group ≠ "") (trimmed : trimSpace group = group) (state event)
    (restorable : RestorableAt userId group state)
    (allowed : GroupEvent userId event ∧ OneUpgrade env userId group state event) :
    RestorableAt userId group (state.step env event) := by
  obtain ⟨kind, orderly⟩ := allowed
  cases event with
  | tick => exact restorable_later restorable (by simp [step])
  | purchase buyer plan source faults =>
    simp only [GroupEvent, OneUpgrade] at kind orderly
    rcases ran : purchaseTx env buyer plan source state.now faults state.store with ⟨_, _⟩
    simp only [step, onStore, ran]
    apply Db.transaction_store _ ran restorable
    intro _ _ creating
    obtain ⟨endUnix, _, _, -, -, ends, -, moved, rfl⟩ := createUserSubscriptionFromPlanTx_ok creating
    by_cases own : buyer = userId
    · subst own
      by_cases upgrades : trimSpace plan.upgradeGroup = ""
      · exact restorable_plain restorable (kind rfl) upgrades moved
      · obtain ⟨home, other, future⟩ := orderly rfl upgrades
        exact restorable_upgrade restorable (kind rfl) upgrades home other (future endUnix ends) moved
    · exact restorable_sameUser restorable (sameUser_purchase (Ne.symm own) moved)
  | expire order limit faults =>
    simp only [OneUpgrade] at orderly
    rcases ran : expireDueSubscriptions order limit state.now faults state.store with ⟨_, _⟩
    simp only [step, onStore, ran]
    rcases Db.bind_readOnly (Db.readOnly_query _ _) ran with rfl | ⟨subs, -, cont⟩
    · exact restorable
    · exact restorable_expireUsers named trimmed orderly.1 orderly.2 _ restorable cont
  | _ => exact absurd kind not_false

/-- If upgrades are bought in `group` only, to another group and with an end that lies ahead, the user is in `group`
whenever none is active. -/
theorem group_restored (named : group ≠ "") (trimmed : trimSpace group = group) {state : SubscriptionState}
    (initially : state.group userId = some group)
    (fresh : ∀ sub ∈ state.store.subscriptions.subscriptions.rows, sub.userId ≠ userId)
    (events : List SubscriptionEvent)
    (along : Along (step env) (fun state event => GroupEvent userId event ∧
    OneUpgrade env userId group state event) state events)
    (finished : ∀ sub ∈ (run (step env) state events).store.subscriptions.subscriptions.rows,
      Upgrades userId sub → sub.status ≠ .active) : (run (step env) state events).group userId = some group := by
  have start : RestorableAt userId group state := by
    refine ⟨?_, ?_, ?_, .inl ⟨initially, ?_⟩⟩
    · exact fun sub mem own => absurd own (fresh sub mem)
    · exact fun sub mem own => absurd own.1 (fresh sub mem)
    · exact fun sub mem own => absurd own.1 (fresh sub mem)
    · exact fun sub mem own => absurd own.1 (fresh sub mem)
  have reached := run_invariant (restorable_step named trimmed) start along
  rcases reached.phase with settled | ⟨holder, stored, own, active, -⟩
  · exact settled.1
  · exact absurd active (finished holder stored own)

end Run

/-! A day in the group "vip", and the same day renewed before it is over. -/

def vipPlan : SubscriptionPlan where
  id := 1
  title := "vip"
  durationUnit := "day"
  upgradeGroup := "vip"

def buyVip : SubscriptionEvent := .purchase 1 vipPlan .order fun _ => none

def keyOrder : MapOrder := ⟨id, List.Perm.refl⟩

def expireAll : SubscriptionEvent := .expire keyOrder 300 fun _ => none

theorem group_restored_after_a_day :
    (run (step orderEnv) ⟨subscriberStore Table.empty, 1000⟩ [buyVip, .tick 90000, expireAll]).group
      1 = some "default" := by
  refine group_restored (by decide) (by decide) rfl ?_ _ ?_ (by decide +kernel)
  · intro _ mem
    cases mem
  · refine ⟨⟨fun _ => rfl, fun _ _ => ⟨rfl, by decide, ?_⟩⟩, ⟨trivial, trivial⟩, ⟨trivial, rfl, rfl⟩, trivial⟩
    intro endUnix ends
    have : endUnix = 87400 := by
      have value : calcPlanEndTime orderEnv.subscriptions.location 1000 vipPlan = .ok 87400 := by decide +kernel
      exact (Except.ok.inj (value.symm.trans ends)).symm
    subst this
    decide

theorem renewed_group_kept :
    let events := [buyVip, .tick 3600, buyVip, .tick 90000, expireAll]
    let after := run (step orderEnv) ⟨subscriberStore Table.empty, 1000⟩ events
    (∀ event ∈ events, GroupEvent 1 event) ∧ (∀ sub ∈ after.store.subscriptions.subscriptions.rows,
      Upgrades 1 sub → sub.status ≠ .active) ∧
      group ⟨subscriberStore Table.empty, 1000⟩ 1 = some "default" ∧ after.group 1 = some "vip" := by
  intro events _
  refine ⟨?_, by decide +kernel, rfl, by decide +kernel⟩
  intro _ mem
  simp only [events, mem_cons, not_mem_nil, or_false] at mem
  rcases mem with rfl | rfl | rfl | rfl | rfl
  · exact fun _ => rfl
  · trivial
  · exact fun _ => rfl
  · trivial
  · trivial

end NewApi.Proof
