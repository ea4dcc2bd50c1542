import NewApi.Library.Run
import NewApi.Model.TokenCache

/-! # Revoked tokens -/

namespace NewApi.Proof
open Library Model TokenState List

def Refused (token : Option Token) : Prop := ∀ found ∈ token, found.status ≠ .enabled

def FillsBefore (state : TokenState) (event : TokenEvent) : Prop :=
  ∀ index write, event = .write index → state.pending[index]? = some write → write.own = true →
    ∀ other ∈ state.pending, Refused other.token

structure Cleared (state : TokenState) : Prop where
  row : Refused state.row
  cache : Refused state.cache
  pending : ∀ write ∈ state.pending, Refused write.token

structure Revoking (state : TokenState) : Prop where
  unsent : state.stage ≠ .returned → ∀ write ∈ state.pending, write.own = false
  row : state.stage ≠ .waiting → Refused state.row
  sent : state.stage = .returned → (∃ write ∈ state.pending, write.own = true) ∨ Cleared state

section Steps
variable {revocation : Revocation} {state : TokenState}

theorem revocation_refused (revocation : Revocation) : Refused revocation.token := by
  cases revocation with
  | delete => rintro _ ⟨⟩
  | update _ revoked =>
    rintro _ ⟨⟩
    exact revoked

theorem cleared_step (revocation) (cleared : Cleared state) (ret : state.stage = .returned) (event) :
    Cleared (state.step revocation event) ∧ (state.step revocation event).stage = .returned := by
  cases event with
  | read =>
    rw [step]
    split
    · exact ⟨cleared, ret⟩
    · rename_i token found
      refine ⟨⟨cleared.row, cleared.cache, fun write mem => ?_⟩, ret⟩
      rcases mem_append.mp mem with old | new
      · exact cleared.pending write old
      · obtain rfl := mem_singleton.mp new
        exact found ▸ cleared.row
  | commit | deferred =>
    simp only [step, ret, reduceCtorEq, if_false]
    exact ⟨cleared, trivial⟩
  | write =>
    rw [step]
    split
    · exact ⟨cleared, ret⟩
    · rename_i write found
      refine ⟨⟨cleared.row, cleared.pending write (mem_of_getElem? found), fun other mem => ?_⟩, ret⟩
      exact cleared.pending other (mem_of_mem_eraseIdx mem)
  | expire => exact ⟨⟨cleared.row, by rintro _ ⟨⟩, cleared.pending⟩, ret⟩

theorem revoking_step (revoking : Revoking state) {event} (fills : FillsBefore state event) :
    Revoking (state.step revocation event) := by
  cases event with
  | read =>
    rw [step]
    split
    · exact revoking
    · rename_i token found
      refine ⟨fun early write mem => ?_, revoking.row, fun ret => ?_⟩
      · rcases mem_append.mp mem with old | new
        · exact revoking.unsent early write old
        · rw [mem_singleton.mp new]
      · rcases revoking.sent ret with ⟨write, mem, own⟩ | cleared
        · exact .inl ⟨write, mem_append_left _ mem, own⟩
        · have later := (cleared_step revocation cleared ret .read).1
          simp only [step, found] at later
          exact .inr (found ▸ later)
  | commit =>
    rw [step]
    split_ifs with waiting
    · exact ⟨fun _ => revoking.unsent (by simp [waiting]), fun _ =>
        revocation_refused revocation, fun bad => nomatch bad⟩
    · exact revoking
  | deferred =>
    rw [step]
    split_ifs with committed
    · refine ⟨fun early => absurd rfl early, fun _ => revoking.row (by simp [committed]), fun _ => .inl ?_⟩
      exact ⟨⟨revocation.token, true⟩, mem_append_right _ mem_cons_self, rfl⟩
    · exact revoking
  | write index =>
    rw [step]
    split
    · exact revoking
    · rename_i write found
      have waits := mem_of_getElem? found
      refine ⟨fun early other mem => revoking.unsent early other (mem_of_mem_eraseIdx mem), revoking.row, fun ret => ?_⟩
      have revoked := revoking.row (by simp [show state.stage = .returned from ret])
      rcases revoking.sent ret with ⟨own, mem, marked⟩ | cleared
      · cases mine : write.own with
        | true =>
          have rest := fills index write rfl found mine
          exact .inr ⟨revoked, rest write waits, fun other left => rest other (mem_of_mem_eraseIdx left)⟩
        | false =>
          obtain ⟨place, stored⟩ := getElem?_of_mem mem
          refine .inl ⟨own, mem_eraseIdx_iff_getElem?.mpr ⟨place, ?_, stored⟩, marked⟩
          rintro rfl
          rw [found] at stored
          cases stored
          rw [mine] at marked
          cases marked
      · exact .inr ⟨revoked, cleared.pending write waits, fun other left =>
          cleared.pending other (mem_of_mem_eraseIdx left)⟩
  | expire =>
    refine ⟨revoking.unsent, revoking.row, fun ret => ?_⟩
    rcases revoking.sent ret with waiting | cleared
    · exact .inl waiting
    · exact .inr (cleared_step revocation cleared ret .expire).1

theorem cleared_refuses {looked read} (now : Int) (first : Cleared looked) (second : Cleared read) :
    validateUserToken now looked read = false := by
  have invalid {token : Token} (refused : token.status ≠ .enabled) :
    token.valid now = false := by simp [Token.valid, refused]
  unfold validateUserToken
  split
  · exact invalid (first.cache _ ‹_›)
  · cases found : read.row with
    | none => rfl
    | some token => exact invalid (second.row token found)

end Steps

theorem revoked_token_refused (revocation : Revocation) (row cache : Option Token)
    (fills : List (Option Token)) (events : List TokenEvent)
    (before : Along (step revocation) FillsBefore ⟨row, cache, fills.map (⟨·, false⟩), .waiting⟩ events)
    (returned : (run (step revocation) ⟨row, cache, fills.map (⟨·, false⟩), .waiting⟩ events).stage = .returned)
    (written : (run (step revocation) ⟨row, cache, fills.map (⟨·, false⟩), .waiting⟩ events).pending = [])
    (later further : List TokenEvent) (now : Int) :
    let settled := run (step revocation) ⟨row, cache, fills.map (⟨·, false⟩), .waiting⟩ events
    let looked := run (step revocation) settled later
    validateUserToken now looked (run (step revocation) looked further) = false := by
  intro settled looked
  have initially : Revoking ⟨row, cache, fills.map (⟨·, false⟩), .waiting⟩ := by
    refine ⟨fun _ write mem => ?_, fun early => absurd rfl early, fun bad => nomatch bad⟩
    obtain ⟨_, -, rfl⟩ := mem_map.mp mem
    rfl
  have revoking : Revoking settled := run_invariant (fun _ _ revoking fills =>
    revoking_step revoking fills) initially before
  have cleared : Cleared settled := by
    rcases revoking.sent returned with ⟨write, mem, -⟩ | cleared
    · rw [written] at mem
      cases mem
    · exact cleared
  have keeps (state : TokenState) (kept : Cleared state ∧ state.stage = .returned) (events : List TokenEvent) :
      Cleared (run (step revocation) state events) ∧ (run (step revocation) state events).stage = .returned :=
    run_preserves (fun state => Cleared state ∧ state.stage = .returned)
      (fun _ event kept => cleared_step revocation kept.1 kept.2 event) kept events
  have first := keeps settled ⟨cleared, returned⟩ later
  exact cleared_refuses now first.1 (keeps looked first further).1

def liveToken : Token := ⟨.enabled, -1, 100, false⟩

theorem revoked_token_refused_delete : validateUserToken 0
    (run (step .delete) ⟨some liveToken, some liveToken, [], .waiting⟩ [.read, .commit, .write 0, .deferred, .write 0])
    (run (step .delete) ⟨some liveToken, some liveToken, [], .waiting⟩
      [.read, .commit, .write 0, .deferred, .write 0]) = false :=
  revoked_token_refused .delete (some liveToken) (some liveToken) [] [.read, .commit, .write 0, .deferred, .write 0] (by
      refine ⟨?_, ?_, ?_, ?_, ?_, trivial⟩
      · rintro _ _ ⟨⟩
      · rintro _ _ ⟨⟩
      · rintro _ _ ⟨⟩ ⟨⟩ ⟨⟩
      · rintro _ _ ⟨⟩
      · rintro _ _ ⟨⟩ ⟨⟩ _ _ mem
        obtain rfl := mem_singleton.mp mem
        rintro _ ⟨⟩) rfl rfl [] [] 0

theorem deleted_token_accepted :
    let settled := run (step .delete) ⟨some liveToken, none, [], .waiting⟩
      [.read, .commit, .deferred, .write 1, .write 0]
    settled.stage = .returned ∧ settled.pending = [] ∧ settled.row = none ∧
      validateUserToken 0 settled settled = true := by
  decide

end NewApi.Proof
