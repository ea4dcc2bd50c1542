import NewApi.Model.SubscriptionOrder

/-!
# Subscriptions that end

Expiry ends the subscriptions whose time is over, and takes their user back to an earlier group. An
administrator ends or deletes one. The cache of user groups is left out.
-/

namespace NewApi.Model
open Library Common Db

inductive ExpireStatement where
  | find
  | start (user : Int)
  | expire (user : Int)
  | active (user : Int)
  | lastExpired (user : Int)
  | group (user : Int)
  | downgrade (user : Int)
  | commit (user : Int)

structure MapOrder where
  visit : List Int → List Int
  perm : ∀ keys, (visit keys).Perm keys

def batchLimit (limit : Int) : Nat := if limit ≤ 0 then 200 else limit.toNat

namespace SubscriptionStore

def Ended (now : Int) (sub : UserSubscription) : Prop := sub.status = .active ∧ 0 < sub.endTime ∧ sub.endTime ≤ now

instance (now : Int) : DecidablePred (Ended now) := fun _ => inferInstanceAs (Decidable (_ ∧ _))

variable (store : SubscriptionStore)

def ended (now : Int) : List UserSubscription :=
  store.subscriptions.rows.filter fun sub => Ended now sub

def endedBatch (now limit : Int) : List UserSubscription :=
  ((store.ended now).insertionSort endsBefore).take (batchLimit limit)

def expireRow (userId now : Int) (sub : UserSubscription) : UserSubscription :=
  if sub.userId = userId ∧ Ended now sub then { sub with status := .expired } else sub

theorem expireRow_id (userId now : Int) (sub) : (expireRow userId now sub).id = sub.id := by
  unfold expireRow
  split_ifs <;> rfl

def expireRows (userId now : Int) : SubscriptionStore :=
  { store with subscriptions := store.subscriptions.modify (expireRow userId now) (expireRow_id userId now) }

def endedCount (userId now : Int) : Nat :=
  ((store.ended now).filter fun sub => sub.userId = userId).length

def hasUpgraded (userId now : Int) : Bool :=
  (store.active userId now).any fun sub => sub.upgradeGroup ≠ ""

def lastExpired (userId : Int) : Option UserSubscription :=
  ((store.subscriptions.rows.filter fun sub =>
    sub.userId = userId ∧ sub.status = .expired ∧ (sub.downgradeGroup ≠ "" ∨ sub.upgradeGroup ≠ "")).insertionSort
      fun a b => endsBefore b a).head?

def deleteSubscription (id : Int) : SubscriptionStore :=
  { store with subscriptions := store.subscriptions.filter fun sub => sub.id ≠ id }

end SubscriptionStore

section Groups
variable {κ : Type}

def expiryTarget (lastExpired : UserSubscription) (currentGroup : String) : String :=
  let target := trimSpace lastExpired.downgradeGroup
  if target ≠ "" then target
  else
    let upgradeGroup := trimSpace lastExpired.upgradeGroup
    let prevGroup := trimSpace lastExpired.prevUserGroup
    if upgradeGroup = "" ∨ prevGroup = "" then ""
    else if currentGroup ≠ upgradeGroup then ""
    else prevGroup

def setUserGroup (label : κ) (userId : Int) (target currentGroup : String) : Db κ String OrderStore String :=
  if target = "" ∨ target = currentGroup then pure ""
  else do
    execute label fun store => store.updateUser userId id fun user => { user with group := target }
    pure target

end Groups

def downgradeExpiredUser (userId now : Int) : Db ExpireStatement String OrderStore Unit := do
  let upgraded ← attempt (query (.active userId) fun store => store.subscriptions.hasUpgraded userId now)
  match upgraded with
  | .ok true => pure ()
  | _ => do
    let last ← attempt (query (.lastExpired userId) fun store => store.subscriptions.lastExpired userId)
    match last with
    | .ok (some lastExpired) => do
      let currentGroup ← (getUserGroupByIdTx userId).within fun _ => ExpireStatement.group userId
      let _ ← setUserGroup (.downgrade userId) userId (expiryTarget lastExpired currentGroup) currentGroup
      pure ()
    | _ => pure ()

def expireUserTx (userId now : Int) : Db ExpireStatement String OrderStore Nat := do
  let affected ← statement (.expire userId) fun store =>
    (store.subscriptions.endedCount userId now, store.setSubscriptions (store.subscriptions.expireRows userId now))
  downgradeExpiredUser userId now
  pure affected

def expireUsers (now : Int) : List Int → Db ExpireStatement String OrderStore Nat
  | [] => pure 0
  | userId :: rest => do
    let affected ← transaction (.start userId) (.commit userId) (expireUserTx userId now)
    let others ← expireUsers now rest
    pure (affected + others)

def batchUsers (subs : List UserSubscription) : List Int :=
  ((subs.map UserSubscription.userId).filter fun userId => 0 < userId).dedup

def expireDueSubscriptions (order : MapOrder) (limit now : Int) : Db ExpireStatement String OrderStore Nat := do
  let subs ← query .find fun store => store.subscriptions.endedBatch now limit
  expireUsers now (order.visit (batchUsers subs))

inductive EndStatement where
  | start | lock | cancel | group | active | downgrade | delete | commit

abbrev EndDb (α : Type) := Db EndStatement String OrderStore α

def downgradeUserGroupForSubscriptionTx (sub : UserSubscription) (now : Int) : EndDb String :=
  let downgradeGroup := trimSpace sub.downgradeGroup
  let upgradeGroup := trimSpace sub.upgradeGroup
  if downgradeGroup = "" ∧ upgradeGroup = "" then pure ""
  else do
    let currentGroup ← (getUserGroupByIdTx sub.userId).within fun _ => EndStatement.group
    let upgraded ← attempt (query .active fun store =>
      (store.subscriptions.active sub.userId now).any fun other => other.id ≠ sub.id ∧ other.upgradeGroup ≠ "")
    match upgraded with
    | .ok true => pure ""
    | _ =>
      if downgradeGroup = "" ∧ currentGroup ≠ upgradeGroup then pure ""
      else
        let target := if downgradeGroup = "" then trimSpace sub.prevUserGroup else downgradeGroup
        setUserGroup .downgrade sub.userId target currentGroup

def lockSubscription (id : Int) : EndDb UserSubscription := do
  let found ← query .lock fun store => store.subscriptions.subscriptions.find? id
  match found with
  | some sub => pure sub
  | none => fail "record not found"

def downgradeMessage (group : String) : String := if group = "" then "" else "用户分组将回退到 " ++ group

def cancelledRow (sub : UserSubscription) (now : Int) :
    UserSubscription := { sub with status := .cancelled, endTime := now }

def adminInvalidateUserSubscription (id now : Int) : EndDb String :=
  if id ≤ 0 then fail "invalid userSubscriptionId"
  else do
    let target ← transaction .start .commit do
      let sub ← lockSubscription id
      execute .cancel fun store => store.setSubscriptions (store.subscriptions.saveSubscription (cancelledRow sub now))
      downgradeUserGroupForSubscriptionTx (cancelledRow sub now) now
    pure (downgradeMessage target)

def adminDeleteUserSubscription (id now : Int) : EndDb String :=
  if id ≤ 0 then fail "invalid userSubscriptionId"
  else do
    let target ← transaction .start .commit do
      let sub ← lockSubscription id
      let target ← downgradeUserGroupForSubscriptionTx sub now
      execute .delete fun store => store.setSubscriptions (store.subscriptions.deleteSubscription id)
      pure target
    pure (downgradeMessage target)

end NewApi.Model
