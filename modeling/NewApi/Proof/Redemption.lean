import Mathlib.Tactic.SplitIfs
import Mathlib.Tactic.ByContra
import NewApi.Library.Run
import NewApi.Library.Script
import NewApi.Model.Redemption

/-! # Redemption codes are credited once -/

namespace NewApi.Proof
open Library Model RedeemRun

def Hits (run : RedeemRun) : RedeemEvent → Prop
  | .advance id _ _ =>
    match run.calls id with
    | some ⟨userId, .credit _ _⟩ => run.users userId = true
    | _ => True
  | _ => True

def Redeemed (sure : Prop) (code : Option Redemption) (run : RedeemRun) : Prop :=
  ∃ redemption redeemedTime userId, code = some redemption ∧ redemption.status = .enabled ∧
    run.code = some (redemption.redeemed redeemedTime userId) ∧
    (run.credits = [(userId, redemption.quota)] ∨ run.credits = [] ∧ ¬sure)

def Unredeemed (code : Option Redemption) (run : RedeemRun) : Prop := run.code = code ∧ run.credits = []

def seen : RedeemStage → Option Redemption
  | .update redemption | .credit redemption _ | .commit redemption _ _ => some redemption
  | _ => none

def written : RedeemStage → Bool
  | .credit _ _ | .commit _ _ _ => true
  | _ => false

def missed : RedeemStage → Bool
  | .commit _ _ hit => !hit
  | _ => false

structure RedeemStageKnown (sure : Prop) (code : Option Redemption) (run : RedeemRun) (id : Nat)
    (stage : RedeemStage) : Prop where
  seen : ∀ redemption, seen stage = some redemption → code = some redemption ∧ redemption.status = .enabled
  written : written stage = true → run.rowLock = some id ∧ Unredeemed code run
  missed : missed stage = true → ¬sure

structure RedeemKnown (sure : Prop) (code : Option Redemption) (run : RedeemRun) : Prop where
  outcome : Unredeemed code run ∨ Redeemed sure code run
  calls : ∀ id call, run.calls id = some call → RedeemStageKnown sure code run id call.stage

section Steps
variable {sure : Prop} {code : Option Redemption} {run : RedeemRun} {id : Nat} {call : RedeemCall}
    (known : RedeemKnown sure code run)
include known

theorem enabled_unredeemed {row} (found : run.code = some row) (enabled : row.status = .enabled) :
    Unredeemed code run := by
  rcases known.outcome with same | ⟨_, _, _, -, -, used, -⟩
  · exact same
  · obtain rfl := Option.mem_unique found used
    cases enabled

theorem known_move {stage rowLock} (kept : ∀ other, other ≠ id → run.rowLock = some other → rowLock = some other)
    (own : RedeemStageKnown sure code (run.move id call stage rowLock) id stage) :
    RedeemKnown sure code (run.move id call stage rowLock) := by
  refine ⟨known.outcome, fun other found placed => ?_⟩
  rcases update_some placed with ⟨rfl, rfl⟩ | ⟨ne, before⟩
  · exact own
  · have held := known.calls other found before
    exact ⟨held.seen, fun past => (held.written past).imp (kept other ne) fun same => same, held.missed⟩

theorem known_rollback : RedeemKnown sure code (run.rollback id call) := by
  refine known_move known (fun _ ne held => ?_) ⟨by simp [seen], by simp [written], by simp [missed]⟩
  rw [unlock, if_neg (by simp [held, ne]), held]

theorem known_select {locking : Bool} (free : ¬(locking ∧ run.Locked id)) {redemption}
    (found : run.code = some redemption) (now : Int) : RedeemKnown sure code
    (run.selected id call locking redemption now) := by
  unfold selected
  split
  · exact known_rollback known
  · rename_i checked
    have enabled : redemption.status = .enabled := by
      by_contra other
      exact checked (.inl other)
    have start := (enabled_unredeemed known found enabled).1.symm.trans found
    refine known_move known (fun _ ne held => ?_) ⟨by simp [seen, start, enabled], by simp [written], by simp [missed]⟩
    rw [if_neg fun locks => free ⟨locks, by simp [RedeemRun.Locked, held, ne]⟩, held]

theorem known_commit {redemption redeemedTime hit}
    (own : RedeemStageKnown sure code run id (.commit redemption redeemedTime hit)) :
    RedeemKnown sure code (run.commit id call redemption redeemedTime hit) := by
  obtain ⟨start, enabled⟩ := own.seen redemption rfl
  obtain ⟨holds, same, none⟩ := own.written rfl
  refine ⟨.inr ⟨redemption, redeemedTime, call.userId, start,
    enabled, by simp [commit, same, start], ?_⟩, fun other found placed => ?_⟩
  · cases hit with
    | true => exact .inl (by simp [commit, none])
    | false => exact .inr ⟨none, own.missed rfl⟩
  · rcases update_some placed with ⟨rfl, rfl⟩ | ⟨ne, before⟩
    · exact ⟨by simp [seen], by simp [written], by simp [missed]⟩
    · have held := known.calls other found before
      -- no other transaction is past its update, because this one holds the row
      exact ⟨held.seen, fun past => absurd (Option.mem_unique (held.written past).1 holds) ne, held.missed⟩

theorem known_advance (placed : run.calls id = some call) (locking fails : Bool) (now : Int)
    (hits : sure → Hits run (.advance id fails now)) : RedeemKnown sure code
    (run.advance id call locking fails now) := by
  have own := known.calls id call placed
  unfold advance
  cases stage : call.stage with
  | select =>
    dsimp only
    split_ifs with waits
    · exact known
    · split
      · rename_i found
        exact known_select known waits found now
      · exact known_rollback known
  | update redemption =>
    dsimp only
    rw [stage] at own
    split_ifs with waits guarded
    · exact known
    · obtain ⟨row, found, -, enabled⟩ : ∃ row, run.code = some row ∧ row.id = redemption.id ∧
        row.status = .enabled := by
        simpa [Option.any_eq_true] using guarded.2
      have fresh := enabled_unredeemed known found enabled
      refine known_move known (fun _ ne held => absurd ?_ waits) ⟨own.seen, fun _ => ⟨rfl, fresh⟩, by simp [missed]⟩
      simp [RedeemRun.Locked, held, ne]
    · exact known_rollback known
  | credit _ _ =>
    dsimp only
    rw [stage] at own
    split_ifs
    · exact known_rollback known
    · refine known_move known (fun _ _ held => held) ⟨own.seen, own.written, fun absent certain => ?_⟩
      obtain ⟨_, _⟩ := call
      subst stage
      have present := hits certain
      simp only [Hits, placed] at present
      simp [missed, present] at absent
  | commit _ _ _ =>
    dsimp only
    rw [stage] at own
    split_ifs
    · exact known_rollback known
    · exact known_commit known own
  | returned => exact known

theorem known_step (locking : Bool) (event) (hits : sure → Hits run event) :
    RedeemKnown sure code (run.step locking event) := by
  cases event with
  | call _ _ =>
    rw [step]
    split_ifs
    · exact known
    · refine known_move known (fun _ _ held => held) ?_
      unfold start
      split_ifs <;> exact ⟨by simp [seen], by simp [written], by simp [missed]⟩
  | advance id fails now =>
    rw [step]
    cases placed : run.calls id with
    | none => exact known
    | some => exact known_advance known placed locking fails now hits
  | user =>
    refine ⟨known.outcome, fun id call placed => ?_⟩
    obtain ⟨seen, written, missed⟩ := known.calls id call placed
    exact ⟨seen, written, missed⟩

end Steps

/-- A code is used by one user at most, who is credited once, and nobody else is. The code of a
user who is gone is used for nothing. -/
theorem code_redeemed_once (locking : Bool) (key : String) (code : Option Redemption)
    (users : Int → Bool) (events : List RedeemEvent) :
    let start : RedeemRun := { key := key, code := code, users := users }
    let final := run (step locking) start events
    (final.code = code ∧ final.credits = []) ∨
      ∃ redemption redeemedTime userId, code = some redemption ∧ redemption.status = .enabled ∧
        final.code = some (redemption.redeemed redeemedTime userId) ∧
        (final.credits = [(userId, redemption.quota)] ∨ final.credits = [] ∧
          ¬Along (step locking) Hits start events) := by
  intro start final
  generalize certain : Along (step locking) Hits start events = sure
  have along : Along (step locking) (fun run event => sure → Hits run event) start events := by
    by_cases every : sure
    · exact along_mono (fun _ _ hits _ => hits) (certain ▸ every)
    · exact along_of_forall fun _ _ _ now => absurd now every
  have known : RedeemKnown sure code start := ⟨.inl ⟨rfl, rfl⟩, fun _ _ placed => by cases placed⟩
  have last : RedeemKnown sure code final := run_invariant
    (fun _ event known hits => known_step known locking event hits) known along
  exact last.outcome

theorem code_used_uncredited :
    let events := [.call 0 7, .user 7 false, .advance 0 false 5, .advance 0 false 5,
      .advance 0 false 5, .advance 0 false 5]
    let final := run (step true) { key := "k", code := some { id := 1 }, users := fun _ => true } events
    final.code = some (Redemption.redeemed { id := 1 } 5 7) ∧ final.credits = [] := by
  decide

end NewApi.Proof
