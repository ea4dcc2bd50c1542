import Mathlib.Logic.Function.Basic

/-!
# Redemption codes

`Redeem` of one code, statement by statement: any number of transactions side by side, at read-committed isolation.
-/

namespace NewApi.Model

inductive RedemptionStatus where
  | enabled | disabled | used
deriving DecidableEq

structure Redemption where
  id : Int
  status : RedemptionStatus := .enabled
  quota : Int := 100
  (redeemedTime usedUserId expiredTime : Int := 0)
deriving DecidableEq

inductive RedeemStage where
  | select
  | update (redemption : Redemption)
  | credit (redemption : Redemption) (redeemedTime : Int)
  | commit (redemption : Redemption) (redeemedTime : Int) (hit : Bool)
  | returned (result : Except String Int)

structure RedeemCall where
  userId : Int
  stage : RedeemStage

/-- `code` is the committed row, `rowLock` the transaction that holds it, `credits` are the
committed additions to quotas of users, and `users` those not deleted. -/
structure RedeemRun where
  key : String
  code : Option Redemption
  users : Int → Bool
  credits : List (Int × Int) := []
  rowLock : Option Nat := none
  calls : Nat → Option RedeemCall := fun _ => none

inductive RedeemEvent where
  | call (id : Nat) (userId : Int)
  | advance (id : Nat) (fails : Bool) (now : Int)
  | user (userId : Int) (present : Bool)

def Redemption.redeemed (redemption : Redemption) (redeemedTime userId : Int) : Redemption :=
  { redemption with redeemedTime := redeemedTime, status := .used, usedUserId := userId }

namespace RedeemRun
variable (run : RedeemRun) (id : Nat) (call : RedeemCall)

def Locked : Prop := run.rowLock ≠ none ∧ run.rowLock ≠ some id

instance : Decidable (run.Locked id) := inferInstanceAs (Decidable (_ ∧ _))

def move (stage : RedeemStage) (rowLock : Option Nat) : RedeemRun :=
  { run with rowLock := rowLock, calls := Function.update run.calls id (some { call with stage := stage }) }

def unlock : Option Nat := if run.rowLock = some id then none else run.rowLock

def rollback : RedeemRun := run.move id call (.returned (.error "redeem.failed")) (run.unlock id)

def selected (locking : Bool) (redemption : Redemption) (now : Int) : RedeemRun :=
  if redemption.status ≠ .enabled ∨ redemption.expiredTime ≠ 0 ∧ redemption.expiredTime < now then run.rollback id call
  else run.move id call (.update redemption) (if locking then some id else run.rowLock)

def commit (redemption : Redemption) (redeemedTime : Int) (hit : Bool) : RedeemRun :=
  { run.move id call (.returned (.ok redemption.quota)) (run.unlock id) with
    code := run.code.map (·.redeemed redeemedTime call.userId)
    credits := if hit then run.credits ++ [(call.userId, redemption.quota)] else run.credits }

/-- Without an effective lock the query does not wait, and with it the row stays locked. The update waits for the
transaction that has written the row. -/
def advance (locking fails : Bool) (now : Int) : RedeemRun :=
  match call.stage with
  | .select =>
    if locking ∧ run.Locked id then run
    else match fails, run.code with
      | false, some redemption => run.selected id call locking redemption now
      | _, _ => run.rollback id call
  | .update redemption =>
    if run.Locked id then run
    else if fails = false ∧ run.code.any fun row => row.id = redemption.id ∧ row.status = .enabled then
      run.move id call (.credit redemption now) (some id)
    else run.rollback id call
  | .credit redemption redeemedTime =>
    if fails then run.rollback id call else run.move id call
      (.commit redemption redeemedTime (run.users call.userId)) run.rowLock
  | .commit redemption redeemedTime hit => if fails then run.rollback id call else run.commit id
      call redemption redeemedTime hit
  | .returned _ => run

def start (userId : Int) : RedeemStage :=
  if run.key = "" then .returned (.error "未提供兑换码") else if userId = 0 then .returned (.error "无效的 user id") else .select

def step (locking : Bool) (run : RedeemRun) : RedeemEvent → RedeemRun
  | .call id userId => if (run.calls id).isSome then run else run.move id ⟨userId, .select⟩
      (run.start userId) run.rowLock
  | .advance id fails now =>
    match run.calls id with
    | some call => run.advance id call locking fails now
    | none => run
  | .user userId present => { run with users := Function.update run.users userId present }

end RedeemRun

end NewApi.Model
