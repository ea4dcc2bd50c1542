import Mathlib.Data.List.GetD
import Mathlib.Tactic.Abel
import NewApi.Library.Tally
import NewApi.Model.BatchUpdate

/-! # Batched counters refine direct ones -/

namespace NewApi.Proof
open Library Model BatchState CounterDb CounterCall Function List
variable {db : CounterDb} {state : BatchState} {stage : BatchStage}

/-! ## Amounts -/

abbrev Amounts := BatchUpdateType → ℕ+ → Int

def amount (type : BatchUpdateType) (id : ℕ+) (value : Int) :
    Amounts := fun other asked => if other = type ∧ asked = id then value else 0

def credit (amounts : Amounts) (db : CounterDb) : CounterDb where
  users := db.users.modify (fun row => { row with
    quota := row.quota + amounts .userQuota row.id
    usedQuota := row.usedQuota + amounts .usedQuota row.id
    requestCount := row.requestCount + amounts .requestCount row.id }) fun _ => rfl
  tokens := db.tokens.modify (fun row => { row with
    remainQuota := row.remainQuota + amounts .tokenQuota row.id
    usedQuota := row.usedQuota - amounts .tokenQuota row.id }) fun _ => rfl
  channels := db.channels.modify (fun row => { row with usedQuota := row.usedQuota + amounts .channelUsedQuota row.id }) fun _ => rfl

section Credit
variable {first second : Amounts}

theorem credit_zero : credit 0 db = db := by
  simp [credit, Table.modify]

theorem credit_credit : credit second (credit first db) = credit (first + second) db := by
  have tokens : ∀ used : Int, ∀ id, used - first .tokenQuota id - second .tokenQuota id = used -
    (first .tokenQuota id + second .tokenQuota id) := by
    intro _ _
    omega
  simp [credit, Table.modify, Int.add_assoc, tokens]

end Credit

/-! ## What statements and calls add -/

def statementAmounts : CounterStatement → Amounts
  | .increaseUserQuota id quota => amount .userQuota id quota
  | .decreaseUserQuota id quota => amount .userQuota id (-quota)
  | .updateUserUsedQuotaAndRequestCount id quota count => amount .usedQuota id quota + amount .requestCount id count
  | .updateUserQuotaUsedQuotaAndRequestCount id quota usedQuota requestCount =>
    amount .userQuota id quota + amount .usedQuota id usedQuota + amount .requestCount id requestCount
  | .increaseTokenQuota id quota => amount .tokenQuota id quota
  | .decreaseTokenQuota id quota => amount .tokenQuota id (-quota)
  | .updateChannelUsedQuota id quota => amount .channelUsedQuota id quota

theorem updateWhere_eq {α κ : Type} {key : α → κ} [DecidableEq κ] {s t : Table key} {k : κ} {f g : α → α} {keeps}
    (rows : s.rows = t.rows.map g) (same : ∀ row, (if key row = k then f row else row) = g row) : t.updateWhere (key · = k) f keeps = s := by
  apply Table.ext
  rw [rows]
  exact map_congr_left fun row _ => same row

section Exec
variable {amounts : Amounts}

theorem credit_users {users} (same : users = (credit amounts db).users) (tokens : amounts .tokenQuota = 0)
    (channels : amounts .channelUsedQuota = 0) : { db with users := users } = credit amounts db := by
  subst same
  simp [credit, Table.modify, tokens, channels]

theorem credit_tokens {tokens} (same : tokens = (credit amounts db).tokens)
    (users : amounts .userQuota = 0 ∧ amounts .usedQuota = 0 ∧ amounts .requestCount = 0) (channels : amounts .channelUsedQuota = 0) :
    { db with tokens := tokens } = credit amounts db := by
  subst same
  simp [credit, Table.modify, users, channels]

theorem credit_channels {channels} (same : channels = (credit amounts db).channels)
    (users : amounts .userQuota = 0 ∧ amounts .usedQuota = 0 ∧ amounts .requestCount = 0)
    (tokens : amounts .tokenQuota = 0) :
    { db with channels := channels } = credit amounts db := by
  subst same
  simp [credit, Table.modify, users, tokens]

@[simp] theorem amount_same (type : BatchUpdateType) (id : ℕ+) (value : Int) (asked : ℕ+) :
    amount type id value type asked = if asked = id then value else 0 := by
  simp [amount]

@[simp] theorem amount_other {type other} (apart : other ≠ type) (id : ℕ+) (value : Int) : amount type id value other = 0 := by
  funext asked
  simp [amount, apart]

@[simp] theorem amount_zero (type : BatchUpdateType) (id : ℕ+) : amount type id 0 = 0 := by
  funext other asked
  simp [amount]

theorem exec_eq_credit (statement) : db.exec statement = credit (statementAmounts statement) db := by
  cases statement with
  | increaseUserQuota id | decreaseUserQuota id | updateUserUsedQuotaAndRequestCount id =>
    refine credit_users (updateWhere_eq rfl ?_) (by simp [statementAmounts]) (by simp [statementAmounts])
    intro row
    by_cases same : row.id = id <;> simp [statementAmounts, same, Int.sub_eq_add_neg]
  | updateUserQuotaUsedQuotaAndRequestCount id =>
    refine credit_users ?_ (by simp [statementAmounts]) (by simp [statementAmounts])
    rw [Counters.updateUserQuotaUsedQuotaAndRequestCount]
    split_ifs with nothing
    · obtain ⟨rfl, rfl, rfl⟩ := nothing
      simp [statementAmounts, credit_zero]
    · refine updateWhere_eq rfl ?_
      intro row
      by_cases same : row.id = id <;> simp [statementAmounts, same]
  | increaseTokenQuota id | decreaseTokenQuota id =>
    refine credit_tokens (updateWhere_eq rfl ?_) (by simp [statementAmounts]) (by simp [statementAmounts])
    intro row
    by_cases same : row.id = id <;> simp [statementAmounts, same, Int.sub_eq_add_neg]
  | updateChannelUsedQuota id =>
    refine credit_channels (updateWhere_eq rfl ?_) (by simp [statementAmounts]) (by simp [statementAmounts])
    intro row
    by_cases same : row.id = id <;> simp [statementAmounts, same]

end Exec

/-! ## What is pending -/

def stepAmounts : CallStep → Amounts
  | .addNewRecord type id value => amount type id value
  | .exec statement => statementAmounts statement

def stepsOwe (steps : List CallStep) : Amounts := (steps.map stepAmounts).sum

def storesOwe (stores : BatchStores) : Amounts := fun type id => (stores type).get id

def loopsOwe (loops : List (List CounterStatement)) : Amounts :=
    (loops.map fun statements => (statements.map statementAmounts).sum).sum

def stageOwes : BatchStage → Amounts
  | .swapping _ taken => storesOwe taken
  | .writing loops => loopsOwe loops
  | _ => 0

def pending (state : BatchState) : Amounts := storesOwe state.stores + (state.passes.map stageOwes).sum

def callsOwe (state : BatchState) : Amounts := (state.calls.map stepsOwe).sum

section Stores
variable {stores taken : BatchStores} {type : BatchUpdateType}

theorem storesOwe_add (id : ℕ+) (value : Int) : storesOwe (addNewRecord type id value stores) =
    storesOwe stores + amount type id value := by
  funext other asked
  by_cases same : other = type
  · subst same
    simp [storesOwe, addNewRecord, BatchStore.get, BatchStore.add, Ledger.net_post]
  · simp [storesOwe, addNewRecord, same]

theorem get_empty (id : ℕ+) : BatchStore.empty.get id = 0 := rfl

theorem storesOwe_swap (fresh : (taken type).entries = []) :
    storesOwe (update stores type .empty) + storesOwe (update taken type (stores type)) =
      storesOwe stores + storesOwe taken := by
  funext other id
  by_cases same : other = type
  · subst same
    have nothing : (taken other).get id = 0 := by simp [BatchStore.get, fresh, Ledger.net]
    simp [storesOwe, get_empty, nothing]
  · simp [storesOwe, same]

theorem sum_at (amounts : List Amounts) (type : BatchUpdateType) (id : ℕ+) :
    amounts.sum type id = (amounts.map fun each => each type id).sum := by
  induction amounts with
  | nil => rfl
  | cons _ _ ih => simp [ih]

theorem entries_owe (store : BatchStore) (type other : BatchUpdateType) (id : ℕ+) :
    (store.entries.map fun entry => amount type entry.1 entry.2).sum other id = if other =
      type then store.get id else 0 := by
  rw [sum_at, map_map]
  by_cases same : other = type
  · subst same
    simpa [comp_def, BatchStore.get] using Ledger.sum_entries store.unique
  · simp [comp_def, same]

theorem users_owe {ids : List ℕ+} (distinct : ids.Nodup) {id : ℕ+} {amounts : ℕ+ → Amounts} {type : BatchUpdateType}
    (own : ∀ other, other ≠ id → amounts other type id = 0) (absent : id ∉ ids → amounts id type id = 0) :
    (ids.map amounts).sum type id = amounts id type id := by
  rw [sum_at, map_map]
  induction ids with
  | nil => simpa using (absent (by simp)).symm
  | cons first rest ih =>
    obtain ⟨apart, distinct⟩ := nodup_cons.mp distinct
    simp only [map_cons, sum_cons, comp_apply]
    by_cases same : first = id
    · subst same
      have others : (rest.map ((fun each : Amounts => each type first) ∘ amounts)).sum = 0 := by
        apply sum_eq_zero
        intro _ mem
        obtain ⟨other, listed, rfl⟩ := mem_map.mp mem
        exact own other fun equal => apart (equal ▸ listed)
      rw [others, add_zero]
    · rw [own first same, zero_add]
      exact ih distinct fun outside => absent (by simp [Ne.symm same, outside])

def userUpdate (stores : BatchStores) (id : ℕ+) : CounterStatement :=
  .updateUserQuotaUsedQuotaAndRequestCount id ((stores .userQuota).get id)
    ((stores .usedQuota).get id) ((stores .requestCount).get id)

theorem userUpdate_absent {id} (absent : id ∉ userIDs stores) : statementAmounts (userUpdate stores id) = 0 := by
  simp only [userIDs, mem_dedup, mem_append, not_or] at absent
  obtain ⟨⟨quota, usedQuota⟩, requestCount⟩ := absent
  simp [userUpdate, statementAmounts, BatchStore.get, Ledger.net_of_not_mem, quota, usedQuota, requestCount]

theorem loopsOwe_passLoops (stores : BatchStores) : loopsOwe (passLoops stores) = storesOwe stores := by
  funext type id
  have users : ((userIDs stores).map fun user => statementAmounts (userUpdate stores user)).sum type id =
      statementAmounts (userUpdate stores id) type id := by
    refine users_owe (nodup_dedup _) ?_ ?_
    · intro _ apart
      simp [userUpdate, statementAmounts, amount, Ne.symm apart]
    · intro absent
      rw [userUpdate_absent absent]
      rfl
  have parts : loopsOwe (passLoops stores) type id = (if type = .tokenQuota then (stores .tokenQuota).get id else 0) +
        ((if type = .channelUsedQuota then (stores .channelUsedQuota).get id else 0) +
          statementAmounts (userUpdate stores id) type id) := by
    rw [← entries_owe, ← entries_owe, ← users]
    simp [loopsOwe, passLoops, comp_def, statementAmounts, userUpdate]
  rw [parts]
  cases type <;> simp [storesOwe, userUpdate, statementAmounts]

end Stores

/-! ## Nothing is lost -/

theorem call_eq_credit (db call) : db.call call = credit (stepsOwe (call.steps true)) db := by
  cases call with
  | increaseUserQuota id quota viaDb | decreaseUserQuota id quota viaDb =>
    by_cases refused : quota < 0
    · simp [call, steps, refused, stepsOwe, credit_zero]
    · cases viaDb <;> simp [call, steps, refused, stepsOwe, stepAmounts, exec_eq_credit, statementAmounts]
  | increaseTokenQuota id quota | decreaseTokenQuota id quota =>
    by_cases refused : quota < 0
    · simp [call, steps, refused, stepsOwe, credit_zero]
    · simp [call, steps, refused, stepsOwe, stepAmounts, exec_eq_credit, statementAmounts]
  | updateUserUsedQuotaAndRequestCount id quota | updateChannelUsedQuota id quota =>
    simp [call, steps, stepsOwe, stepAmounts, exec_eq_credit, statementAmounts]

theorem sum_set {α : Type} {entries : List α} {index : Nat} {old new : α} (owes : α → Amounts)
    (found : entries[index]? = some old) :
    ((entries.set index new).map owes).sum + owes old = (entries.map owes).sum + owes new := by
  induction entries generalizing index with
  | nil => cases found
  | cons first _ ih =>
    cases index with
    | zero =>
      obtain rfl : first = old := by simpa using found
      simp only [set_cons_zero, map_cons, sum_cons]
      abel
    | succ =>
      have later := ih (by simpa using found)
      simp only [set_cons_succ, map_cons, sum_cons, add_assoc, later]

section Steps

theorem callStep_pays (step) : ∃ paid, (state.callStep step).db = credit paid state.db ∧
    paid + storesOwe (state.callStep step).stores = storesOwe state.stores + stepAmounts step := by
  cases step with
  | addNewRecord => exact ⟨0, credit_zero.symm, by rw [zero_add, callStep, storesOwe_add]; rfl⟩
  | exec statement => exact ⟨statementAmounts statement, exec_eq_credit statement, add_comm _ _⟩

def Fresh : BatchStage → Prop
  | .swapping types taken => types.Nodup ∧ ∀ type ∈ types, (taken type).entries = []
  | _ => True

theorem passStep_pays (choice : Nat) (fresh : Fresh stage) :
    ∃ paid, (state.passStep choice stage).1.db = credit paid state.db ∧
    paid + storesOwe (state.passStep choice stage).1.stores + stageOwes (state.passStep choice stage).2 =
      storesOwe state.stores + stageOwes stage := by
  cases stage with
  | checking types =>
    refine ⟨0, ?_⟩
    rw [credit_zero, zero_add]
    cases types with
    | nil => exact ⟨rfl, rfl⟩
    | cons =>
      refine ⟨rfl, ?_⟩
      show _ + stageOwes (if _ then _ else _) = _
      split_ifs <;> rfl
  | swapping types taken =>
    refine ⟨0, ?_⟩
    rw [credit_zero, zero_add]
    cases types with
    | nil => exact ⟨rfl, congrArg _ (loopsOwe_passLoops taken)⟩
    | cons type => exact ⟨rfl, storesOwe_swap (fresh.2 type (by simp))⟩
  | writing loops =>
    cases loops with
    | nil => exact ⟨0, credit_zero.symm, by rw [zero_add]; rfl⟩
    | cons statements =>
      cases statements with
      | nil => exact ⟨0, credit_zero.symm, by rw [zero_add]; simp [passStep, stageOwes, loopsOwe]⟩
      | cons first rest =>
        have inside : choice % (first :: rest).length < (first :: rest).length := Nat.mod_lt _ (by simp)
        have picked : (first :: rest).getD (choice % (first :: rest).length) first =
          (first :: rest)[choice % (first :: rest).length] :=
          getD_eq_getElem _ _ inside
        have perm := getElem_cons_eraseIdx_perm inside
        refine ⟨statementAmounts ((first :: rest).getD (choice % (first :: rest).length) first), exec_eq_credit _, ?_⟩
        have sums := (perm.map statementAmounts).sum_eq
        rw [picked]
        simp only [passStep, stageOwes, loopsOwe, map_cons, sum_cons] at sums ⊢
        rw [← sums]
        abel
  | finished => exact ⟨0, credit_zero.symm, by rw [zero_add]; rfl⟩

theorem fresh_step (choice : Nat) (fresh : Fresh stage) : Fresh (state.passStep choice stage).2 := by
  cases stage with
  | checking types =>
    cases types with
    | nil => trivial
    | cons _ =>
      show Fresh (if _ then _ else _)
      split_ifs
      · trivial
      · exact ⟨by decide, fun _ _ => rfl⟩
  | swapping types =>
    cases types with
    | nil => trivial
    | cons type =>
      obtain ⟨apart, distinct⟩ := nodup_cons.mp fresh.1
      refine ⟨distinct, ?_⟩
      intro other left
      have ne : other ≠ type := fun same => apart (same ▸ left)
      rw [update_of_ne ne]
      exact fresh.2 other (by simp [left])
  | writing loops =>
    cases loops with
    | nil => trivial
    | cons statements => cases statements <;> trivial
  | finished => trivial

structure Conserved (state : BatchState) (direct : CounterDb) : Prop where
  total : credit (pending state + callsOwe state) state.db = direct
  fresh : ∀ stage ∈ state.passes, Fresh stage

theorem passStep_rest (choice : Nat) :
    (state.passStep choice stage).1.calls = state.calls ∧ (state.passStep choice stage).1.passes = state.passes := by
  cases stage with
  | checking types => cases types <;> exact ⟨rfl, rfl⟩
  | swapping types => cases types <;> exact ⟨rfl, rfl⟩
  | writing loops =>
    cases loops with
    | nil => exact ⟨rfl, rfl⟩
    | cons statements => cases statements <;> exact ⟨rfl, rfl⟩
  | finished => exact ⟨rfl, rfl⟩

theorem callStep_rest (step) : (state.callStep step).passes = state.passes := by
  cases step <;> rfl

theorem conserved_step {direct : CounterDb} (conserved : Conserved state direct) (event) :
    Conserved (state.step event) (direct.unbatched event) := by
  obtain ⟨rfl, fresh⟩ := conserved
  cases event with
  | call =>
    refine ⟨?_, fresh⟩
    rw [unbatched, call_eq_credit, credit_credit]
    simp only [step, pending, callsOwe, map_append, map_singleton, sum_append, sum_singleton, add_assoc]
  | advanceCall index =>
    simp only [step, unbatched]
    split
    · rename_i next rest found
      obtain ⟨_, written, moved⟩ := @callStep_pays state next
      refine ⟨?_, by simpa only [callStep_rest] using fresh⟩
      have replaced : ((state.calls.set index rest).map stepsOwe).sum + stepsOwe (next :: rest) =
        (state.calls.map stepsOwe).sum + stepsOwe rest :=
        sum_set stepsOwe found
      have left : ((state.calls.set index rest).map stepsOwe).sum + stepAmounts next =
        (state.calls.map stepsOwe).sum := by
        rw [stepsOwe, map_cons, sum_cons, ← add_assoc] at replaced
        exact add_right_cancel replaced
      rw [written, credit_credit]
      congr 1
      simp only [pending, callsOwe, callStep_rest]
      funext type id
      have moved := congrFun (congrFun moved type) id
      have left := congrFun (congrFun left type) id
      simp only [Pi.add_apply] at moved left ⊢
      omega
    · exact ⟨rfl, fresh⟩
  | startPass =>
    refine ⟨?_, ?_⟩
    · simp [step, pending, callsOwe, unbatched, stageOwes]
    · intro stage mem
      rcases mem_append.mp mem with before | started
      · exact fresh stage before
      · cases mem_singleton.mp started
        trivial
  | advancePass index choice =>
    simp only [step, unbatched]
    split
    · rename_i stage found
      obtain ⟨_, written, moved⟩ := @passStep_pays state stage choice (fresh stage (mem_of_getElem? found))
      obtain ⟨calls, -⟩ := @passStep_rest state stage choice
      have replaced : ((state.passes.set index (state.passStep choice stage).2).map stageOwes).sum + stageOwes stage =
          (state.passes.map stageOwes).sum + stageOwes (state.passStep choice stage).2 := sum_set stageOwes found
      constructor
      · rw [written, credit_credit]
        congr 1
        simp only [pending, callsOwe, calls]
        funext type id
        have moved := congrFun (congrFun moved type) id
        have replaced := congrFun (congrFun replaced type) id
        simp only [Pi.add_apply] at moved replaced ⊢
        omega
      · intro other mem
        rcases mem_or_eq_of_mem_set mem with before | rfl
        · exact fresh other before
        · exact fresh_step choice (fresh stage (mem_of_getElem? found))
    · exact ⟨rfl, fresh⟩

end Steps

theorem run_conserved {state direct} (conserved : Conserved state direct) (events) :
    Conserved (run step state events) (run unbatched direct events) := by
  induction events generalizing state direct with
  | nil => exact conserved
  | cons event _ ih => exact ih (conserved_step conserved event)

/-! ## A pass on its own -/

def Swept (stores : BatchStores) : BatchStage → Prop
  | .checking types => ∀ type, type ∉ types → (stores type).entries = []
  | .swapping types _ => ∀ type, type ∉ types → (stores type).entries = []
  | .writing _ => ∀ type, (stores type).entries = []
  | .finished => ∀ type, (stores type).entries = []

theorem swept_step {state : BatchState} {stage : BatchStage} (choice : Nat) (swept : Swept state.stores stage) :
    Swept (state.passStep choice stage).1.stores (state.passStep choice stage).2 := by
  cases stage with
  | checking types =>
    cases types with
    | nil => exact fun type => swept type (by simp)
    | cons type =>
      show Swept _ (if _ then _ else _)
      split_ifs with nothing
      · intro other outside
        by_cases same : other = type
        · rw [same]
          exact nothing
        · exact swept other (by simp [same, outside])
      · intro other outside
        cases other <;> simp [BatchUpdateType.all] at outside
  | swapping types =>
    cases types with
    | nil => exact fun type => swept type (by simp)
    | cons type =>
      intro other outside
      by_cases same : other = type
      · subst same
        simp [passStep, BatchStore.empty]
      · simp only [passStep, update_of_ne same]
        exact swept other (by simp [same, outside])
  | writing loops =>
    cases loops with
    | nil => exact swept
    | cons statements => cases statements <;> exact swept
  | finished => exact swept

def QuietBatches (state : BatchState) : Prop := (∀ steps ∈ state.calls, steps = []) ∧
    ∀ stage ∈ state.passes, stage = .finished

structure LonePass (before : List BatchStage) (stage : BatchStage) (state : BatchState) : Prop where
  calls : ∀ steps ∈ state.calls, steps = []
  finished : ∀ stage ∈ before, stage = .finished
  passes : state.passes = before ++ [stage]
  swept : Swept state.stores stage

section LonePass
variable {before : List BatchStage}

theorem alone_started (quiet : QuietBatches state) : LonePass state.passes (.checking BatchUpdateType.all) (state.step .startPass) := by
  refine ⟨quiet.1, quiet.2, rfl, ?_⟩
  intro type outside
  cases type <;> simp [BatchUpdateType.all] at outside

section Alone
variable (alone : LonePass before stage state)
include alone

theorem alone_step (choice : Nat) :
    LonePass before (state.passStep choice stage).2 (state.step (.advancePass before.length choice)) := by
  obtain ⟨calls, passes⟩ := @passStep_rest state stage choice
  have found : state.passes[before.length]? = some stage := by simp [alone.passes]
  have stepped : state.step (.advancePass before.length choice) =
      { (state.passStep choice stage).1 with passes := state.passes.set before.length (state.passStep choice stage).2 } := by
    simp only [step, found]
  rw [stepped]
  refine ⟨?_, alone.finished, ?_, swept_step choice alone.swept⟩
  · simpa only [calls] using alone.calls
  · simp [alone.passes]

theorem alone_other {index} (other : index ≠ before.length) (choice : Nat) :
    state.step (.advancePass index choice) = state := by
  rw [step]
  rcases lt_or_gt_of_ne other with earlier | later
  · have found : state.passes[index]? = some .finished := by
      rw [alone.passes, getElem?_append_left earlier, getElem?_eq_getElem earlier,
        alone.finished _ (getElem_mem earlier)]
    have same : state.passes.set index .finished = state.passes := by
      apply ext_getElem?
      intro asked
      by_cases here : index = asked
      · subst here
        rw [getElem?_set_self', found]
        rfl
      · rw [getElem?_set_ne here]
    simp only [found, passStep, same]
  · have outside : state.passes[index]? = none := by
      rw [alone.passes, getElem?_eq_none]
      simpa [Nat.add_one_le_iff] using later
    rw [outside]

theorem alone_run {steps} (advances : ∀ step ∈ steps, ∃ index choice, step = .advancePass index choice) :
    ∃ last, LonePass before last (run step state steps) := by
  induction steps generalizing state stage with
  | nil => exact ⟨stage, alone⟩
  | cons step rest ih =>
    obtain ⟨index, choice, rfl⟩ := advances step (by simp)
    have later : ∀ step ∈ rest, ∃ index choice, step = .advancePass index choice := fun step mem =>
      advances step (by simp [mem])
    by_cases own : index = before.length
    · subst own
      exact ih (alone_step alone choice) later
    · rw [run, alone_other alone own]
      exact ih alone later

end Alone

theorem owes_nothing (alone : LonePass before .finished state) : pending state + callsOwe state = 0 := by
  have stores : storesOwe state.stores = 0 := by
    funext type id
    simp [storesOwe, BatchStore.get, alone.swept type, Ledger.net]
  have passes : (state.passes.map stageOwes).sum = 0 := by
    apply sum_eq_zero
    intro _ mem
    obtain ⟨stage, listed, rfl⟩ := mem_map.mp mem
    rw [alone.passes] at listed
    rcases mem_append.mp listed with earlier | own
    · rw [alone.finished stage earlier]
      rfl
    · rw [mem_singleton.mp own]
      rfl
  have calls : callsOwe state = 0 := by
    apply sum_eq_zero
    intro _ mem
    obtain ⟨steps, listed, rfl⟩ := mem_map.mp mem
    rw [alone.calls steps listed]
    rfl
  rw [pending, stores, passes, calls]
  rfl

/-! A pass ends: it goes through its stages, and through a list in each of them. -/

def stageRank : BatchStage → Nat × Nat
  | .checking types => (3, types.length)
  | .swapping types _ => (2, types.length)
  | .writing loops => (1, (loops.map fun statements => statements.length + 1).sum)
  | .finished => (0, 0)

theorem passStep_rank (choice : Nat) (unfinished : stage ≠ .finished) :
    Prod.Lex (· < ·) (· < ·) (stageRank (state.passStep choice stage).2) (stageRank stage) := by
  cases stage with
  | checking types =>
    cases types with
    | nil => exact .left _ _ (by decide)
    | cons =>
      show Prod.Lex _ _ (stageRank (if _ then _ else _)) _
      split_ifs
      · exact .right _ (by simp)
      · exact .left _ _ (by decide)
  | swapping types =>
    cases types with
    | nil => exact .left _ _ (by decide)
    | cons => exact .right _ (by simp)
  | writing loops =>
    cases loops with
    | nil => exact .left _ _ (by decide)
    | cons statements =>
      cases statements with
      | nil => exact .right _ (by simp)
      | cons first rest =>
        refine .right _ ?_
        have inside : choice % (first :: rest).length < (first :: rest).length := Nat.mod_lt _ (by simp)
        have shorter := length_eraseIdx_of_lt inside
        simp only [map_cons, sum_cons, shorter]
        simp only [length_cons]
        omega
  | finished => exact absurd rfl unfinished

theorem pass_ends (alone : LonePass before stage state) (choices : Nat → Nat) :
    ∃ count, LonePass before .finished (run step state ((range count).map fun turn =>
      .advancePass before.length (choices turn))) := by
  have wf : WellFounded (Prod.Lex (· < · : Nat → Nat → Prop) (· < · : Nat → Nat → Prop)) :=
    WellFounded.prod_lex wellFounded_lt wellFounded_lt
  induction ranked : stageRank stage using wf.induction generalizing state stage choices with
  | _ _ ih =>
    by_cases done : stage = .finished
    · exact ⟨0, done ▸ alone⟩
    · have next := alone_step alone (choices 0)
      obtain ⟨count, ended⟩ := ih _ (ranked ▸ passStep_rank (choices 0) done) next (fun turn => choices (turn + 1)) rfl
      refine ⟨count + 1, ?_⟩
      rw [range_succ_eq_map, map_cons, map_map]
      exact ended

end LonePass

theorem unbatched_passes {steps} (advances : ∀ step ∈ steps, ∃ index choice, step = .advancePass index choice) (db) :
    run unbatched db steps = db := by
  induction steps with
  | nil => rfl
  | cons step _ ih =>
    obtain ⟨_, _, rfl⟩ := advances step (by simp)
    exact ih fun step mem => advances step (by simp [mem])

/-- The database with what is pending is the one that the calls would have made directly. A pass that nothing overlaps
ends with nothing pending. -/
theorem batches_refine_direct (db : CounterDb) (events : List BatchEvent) :
    let state := run step (.init db) events
    credit (pending state + callsOwe state) state.db = run unbatched db events ∧
    (QuietBatches state →
    (∀ steps : List BatchEvent, (∀ step ∈ steps, ∃ index choice, step = .advancePass index choice) →
        (run step state (.startPass :: steps)).passes.getLast? = some .finished →
        (run step state (.startPass :: steps)).db = run unbatched db events) ∧ ∀ choices :
          Nat → Nat, ∃ count, (run step state
        (.startPass :: (range count).map fun turn => .advancePass state.passes.length
          (choices turn))).passes.getLast? = some .finished) := by
  intro state
  have initially : Conserved (.init db) db := by
    refine ⟨?_, by simp [init]⟩
    have nothing : pending (.init db) + callsOwe (.init db) = 0 := by
      funext type id
      rfl
    rw [nothing]
    exact credit_zero
  have conserved : Conserved state (run unbatched db events) := run_conserved initially events
  refine ⟨conserved.total, fun quiet => ⟨?_, ?_⟩⟩
  · intro steps advances ended
    obtain ⟨last, alone⟩ := alone_run (alone_started quiet) advances
    have finished : last = .finished := by
      rw [run, alone.passes] at ended
      simpa using ended
    subst finished
    have total := (run_conserved conserved (.startPass :: steps)).total
    rw [run, owes_nothing alone, credit_zero] at total
    rw [run, total, run]
    exact unbatched_passes advances _
  · intro choices
    obtain ⟨count, alone⟩ := pass_ends (alone_started quiet) choices
    refine ⟨count, ?_⟩
    rw [run, alone.passes]
    simp

def oneOfEach : CounterDb :=
  ⟨Table.empty.insert { id := Nat.toPNat' 1, quota := 100 },
    Table.empty.insert { id := Nat.toPNat' 1, remainQuota := 100 },
    Table.empty.insert { id := Nat.toPNat' 1 }⟩

def twoCalls : List BatchEvent :=
  [.call (.decreaseUserQuota (Nat.toPNat' 1) 30 false),
    .call (.updateUserUsedQuotaAndRequestCount (Nat.toPNat' 1) 30), .advanceCall 0,
    .advanceCall 1, .advanceCall 1]

def passTurns (index count : Nat) : List BatchEvent := replicate count (.advancePass index 0)

theorem batches_refine_direct_two_calls :
    (run step (run step (.init oneOfEach) twoCalls) (.startPass :: passTurns 0 12)).db =
      run unbatched oneOfEach twoCalls :=
  ((batches_refine_direct oneOfEach twoCalls).2 ⟨by decide, fun _ mem => by cases mem⟩).1 (passTurns 0 12)
    (fun _ mem => ⟨0, 0, eq_of_mem_replicate mem⟩) rfl

def isFinished : BatchStage → Bool
  | .finished => true
  | _ => false

def Behind (events later : List BatchEvent) : Prop :=
  let state := run step (.init oneOfEach) events
  let after := run step state (.startPass :: later)
  (∀ steps ∈ state.calls, steps = []) ∧ after.passes[state.passes.length]?.any isFinished = true ∧
    after.db.users.column (·.quota) (Nat.toPNat' 1) ≠
      (run unbatched oneOfEach (events ++ .startPass :: later)).users.column (·.quota) (Nat.toPNat' 1)

instance (events later : List BatchEvent) : Decidable (Behind events later) := inferInstanceAs (Decidable (_ ∧ _ ∧ _))

theorem batches_behind :
    Behind twoCalls (passTurns 0 8 ++ [.call (.increaseUserQuota 1 50 false), .advanceCall 2] ++
    passTurns 0 4) ∧
    Behind (twoCalls ++ .startPass :: passTurns 0 6) (passTurns 1 6) := by
  decide +kernel

end NewApi.Proof
