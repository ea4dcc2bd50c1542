import Mathlib.Logic.Function.Basic
import NewApi.Library.Db

/-!
# User and token quotas

The quota columns of `users` and `tokens`, with the sums that batch updating has yet to write. The
balance of an account, an existing row, is what the row says plus these.
-/

namespace NewApi.Model
open Library

structure TokenQuota where
  (remainQuota usedQuota : Int)

structure Accounts where
  (userQuota pendingUserQuota : Int → Int)
  token : Int → TokenQuota
  pendingTokenQuota : Int → Int
  tokenIdByKey : String → Option Int

structure AccountEnv where
  batchUpdateEnabled : Bool
  userQuotaCache : Int → Option Int
  tokenCache : String → Option Int

abbrev AccountDb (α : Type) := Db Unit String Accounts α

namespace Accounts

def userBalance (accounts : Accounts) (id : Int) : Int :=
  accounts.userQuota id + accounts.pendingUserQuota id

def tokenBalance (accounts : Accounts) (id : Int) : Int :=
  (accounts.token id).remainQuota + accounts.pendingTokenQuota id

def updateUserQuota (accounts : Accounts) (id change : Int) : Accounts :=
  { accounts with userQuota := Function.update accounts.userQuota id (accounts.userQuota id + change) }

def addUserRecord (accounts : Accounts) (id change : Int) : Accounts :=
  { accounts with pendingUserQuota := Function.update accounts.pendingUserQuota id (accounts.pendingUserQuota id + change) }

def updateTokenQuota (accounts : Accounts) (id change : Int) : Accounts :=
  let row := accounts.token id
  { accounts with token := Function.update accounts.token id ⟨row.remainQuota + change, row.usedQuota - change⟩ }

def addTokenRecord (accounts : Accounts) (id change : Int) : Accounts :=
  { accounts with pendingTokenQuota := Function.update accounts.pendingTokenQuota id (accounts.pendingTokenQuota id + change) }

def changeUser (accounts : Accounts) (inMemory : Bool) (id change : Int) : Accounts :=
  if inMemory then accounts.addUserRecord id change else accounts.updateUserQuota id change

def changeToken (accounts : Accounts) (inMemory : Bool) (id change : Int) : Accounts :=
  if inMemory then accounts.addTokenRecord id change else accounts.updateTokenQuota id change

end Accounts

section Functions
variable (env : AccountEnv)

def changeUserQuota (id quota change : Int) (db : Bool) : AccountDb Unit :=
  if quota < 0 then Db.fail "quota 不能为负数！"
  else if !db && env.batchUpdateEnabled then Db.record fun accounts => accounts.changeUser true id change
  else Db.execute () fun accounts => accounts.changeUser false id change

def increaseUserQuota (id quota : Int) (db : Bool) : AccountDb Unit :=
  changeUserQuota env id quota quota db

def decreaseUserQuota (id quota : Int) (db : Bool) : AccountDb Unit :=
  changeUserQuota env id quota (-quota) db

def changeTokenQuota (id quota change : Int) : AccountDb Unit :=
  if quota < 0 then Db.fail "quota 不能为负数！"
  else if env.batchUpdateEnabled then Db.record fun accounts => accounts.changeToken true id change
  else Db.execute () fun accounts => accounts.changeToken false id change

def increaseTokenQuota (id quota : Int) : AccountDb Unit := changeTokenQuota env id quota quota

def decreaseTokenQuota (id quota : Int) : AccountDb Unit := changeTokenQuota env id quota (-quota)

def getUserQuota (id : Int) : AccountDb Int :=
  match env.userQuotaCache id with
  | some quota => pure quota
  | none => Db.query () fun accounts => accounts.userQuota id

def getTokenByKey (key : String) : AccountDb Int :=
  match env.tokenCache key with
  | some remainQuota => pure remainQuota
  | none => do
    let found ← Db.query () fun accounts => (accounts.tokenIdByKey key).map fun id => (accounts.token id).remainQuota
    match found with
    | some remainQuota => pure remainQuota
    | none => Db.fail "record not found"

end Functions
end NewApi.Model
