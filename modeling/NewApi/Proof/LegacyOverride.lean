import NewApi.Relay.LegacyOverride

/-!
# The legacy override assigns

Escaping makes a key one literal part unless it holds a character that is left as it is. A write
then assigns in the decoded map.
-/

namespace NewApi.Proof
open Relay

section Legacy
variable {α : Type} {members entries : Members α} {key : String} {value : α}

def Literal (key : String) : Prop := key ≠ "" ∧ key.toList.head? ≠ some ':' ∧ ∀ c ∈ key.toList, c ∉ "|#@".toList

theorem escape_toList (key) : (escapeSjsonLiteralKey key).toList =
    key.toList.flatMap fun c => if ".*?\\".toList.contains c then ['\\', c] else [c] := by
  rw [escapeSjsonLiteralKey]
  split_ifs with special
  · exact String.toList_ofList
  · refine (List.flatMap_singleton' key.toList).symm.trans (List.flatMap_congr fun c mem => ?_)
    rw [if_neg fun found => special (List.any_eq_true.mpr ⟨c, mem, found⟩)]

theorem literalPart_escaped {chars} (plain : ∀ c ∈ chars, c ∉ "|#@".toList) :
    literalPart (chars.flatMap fun c => if ".*?\\".toList.contains c then ['\\', c] else [c]) = some chars := by
  induction chars with
  | nil => rfl
  | cons c rest ih =>
    have later := ih fun d mem => plain d (List.mem_cons_of_mem c mem)
    rw [List.flatMap_cons]
    split_ifs with special
    · exact congrArg (Option.map _) later
    · have other := plain c List.mem_cons_self
      simp at special other
      rw [List.singleton_append, literalPart, later] <;> simp_all

theorem setBytes_escaped (setOther) (literal : Literal key) :
    setBytes setOther members (escapeSjsonLiteralKey key) value = .ok (setMember key value members) := by
  obtain ⟨filled, unforced, plain⟩ := literal
  have path := escape_toList key
  have starts : (escapeSjsonLiteralKey key).toList.head? ≠ some ':' ∧ (escapeSjsonLiteralKey key).toList ≠ [] := by
    cases chars : key.toList with
    | nil => exact absurd (String.toList_eq_nil_iff.mp chars) filled
    | cons c =>
      rw [chars] at path unforced
      rw [path, List.flatMap_cons]
      split_ifs <;> simp_all
  rw [setBytes, if_neg (String.toList_eq_nil_iff.not.mp starts.2), if_neg starts.1, path, literalPart_escaped plain]
  simp

theorem mem_of_decoded (found : decoded members key = some value) : (key, value) ∈ members := by
  induction members with
  | nil => cases found
  | cons first rest ih =>
    rcases Option.or_eq_some_iff.mp found with later | ⟨_, own⟩
    · exact List.mem_cons_of_mem first (ih later)
    · grind

theorem decoded_isSome (mem : (key, value) ∈ members) : (decoded members key).isSome := by
  induction members with
  | nil => cases mem
  | cons first rest ih => grind [decoded]

abbrev Once (members : Members α) (key : String) : Prop := (members.map Prod.fst).count key ≤ 1

theorem count_setMember (name) : ((setMember key value members).map Prod.fst).count name =
    if name = key then max 1 ((members.map Prod.fst).count name) else (members.map Prod.fst).count name := by
  induction members with
  | nil => by_cases same : name = key <;> simp [setMember, same, Ne.symm]
  | cons first rest ih =>
    rw [setMember]
    by_cases same : name = key <;> split_ifs <;> simp_all [List.count_cons]

theorem once_setMember {name} : Once (setMember key value members) name ↔ Once members name := by
  rw [Once, count_setMember, Once]
  split_ifs <;> omega

theorem decoded_none (unnamed : (members.map Prod.fst).count key = 0) : decoded members key = none := by
  rw [Option.eq_none_iff_forall_ne_some]
  exact fun value found => List.count_eq_zero.mp unnamed (List.mem_map_of_mem (mem_of_decoded found))

/-- The first member of the name is written, and the last one is read. -/
theorem decoded_setMember (key) (value : α) (name) : decoded (setMember key value members) name =
    if key = name ∧ Once members key then some value else decoded members name := by
  induction members with
  | nil => simp [setMember, decoded, Once]
  | cons first rest ih =>
    obtain ⟨own, old⟩ := first
    rw [setMember]
    by_cases same : own = key
    · subst same
      rw [if_pos rfl]
      simp only [decoded, Once, List.map_cons, List.count_cons_self]
      by_cases only : (rest.map Prod.fst).count own = 0
      · by_cases read : own = name
        · subst read
          simp [only, decoded_none only]
        · simp [read]
      · obtain ⟨pair, mem, named⟩ := List.mem_map.mp (List.count_pos_iff.mp (Nat.pos_of_ne_zero only))
        have twice : ¬(own = name ∧ (rest.map Prod.fst).count own + 1 ≤ 1) := fun both =>
          only (by have := both.2; omega)
        rw [if_neg twice]
        by_cases read : own = name
        · have later : (own, pair.2) ∈ rest := by rwa [← named]
          obtain ⟨last, found⟩ := Option.isSome_iff_exists.mp (decoded_isSome later)
          rw [← read, found]
          rfl
        · simp [read]
    · rw [if_neg same, decoded, ih, decoded]
      simp only [Once, List.map_cons, List.count_cons_of_ne same]
      split_ifs with assigned <;> simp

theorem foldlM_assigns (setOther) (entries : Members α) (literal : ∀ entry ∈ entries, Literal entry.1) :
    ∃ result, entries.foldlM (fun result (key, value) =>
      setBytes setOther result (escapeSjsonLiteralKey key) value) members =
      .ok result ∧ ∀ name, decoded result name =
        if Once members name then (decoded entries name).or (decoded members name) else decoded members name := by
  induction entries generalizing members with
  | nil => exact ⟨members, rfl, fun name => by split_ifs <;> rfl⟩
  | cons first rest ih =>
    obtain ⟨key, value⟩ := first
    obtain ⟨result, done, read⟩ := @ih (setMember key value members) fun entry mem =>
      literal entry (List.mem_cons_of_mem _ mem)
    refine ⟨result, ?_, fun name => ?_⟩
    · have plain : Literal key := literal _ List.mem_cons_self
      simp only [List.foldlM_cons, setBytes_escaped setOther plain]
      exact done
    · rw [read, decoded_setMember, decoded, Option.or_assoc]
      simp only [once_setMember]
      by_cases same : key = name
      · subst same
        split_ifs <;> simp_all
      · simp [same]

theorem legacy_result (setOther) {paramOverride : String → Option α}
    (iterates : ∀ key value, (key, value) ∈ entries ↔ paramOverride key = some value)
    (literal : ∀ key, paramOverride key ≠ none → Literal key) :
    ∃ result, applyOperationsLegacy setOther members entries = .ok result ∧ ∀ key, decoded result key =
      if Once members key then (paramOverride key).or (decoded members key) else decoded members key := by
  obtain ⟨result, done, read⟩ := @foldlM_assigns _ members setOther entries fun entry mem =>
    literal _ (by simp [(iterates entry.1 entry.2).mp mem])
  refine ⟨result, ?_, fun key => ?_⟩
  · rw [applyOperationsLegacy]
    split_ifs with empty
    · rwa [List.isEmpty_iff.mp empty] at done
    · exact done
  · have same : decoded entries key = paramOverride key := by
      cases found : decoded entries key with
      | some value => exact ((iterates key value).mp (mem_of_decoded found)).symm
      | none =>
        refine (Option.eq_none_iff_forall_ne_some.mpr fun value assigned => ?_).symm
        simpa [found] using decoded_isSome ((iterates key value).mpr assigned)
    rw [read, same]

/-- With keys that stay literal, the map is assigned just if every name it overrides occurs at most
once in the body, or has its new value already. -/
theorem applyOperationsLegacy_assigns_iff (setOther) {paramOverride : String → Option α}
    (iterates : ∀ key value, (key, value) ∈ entries ↔ paramOverride key = some value)
    (literal : ∀ key, paramOverride key ≠ none → Literal key) :
    ∃ result, applyOperationsLegacy setOther members entries = .ok result ∧
      ((∀ key, decoded result key = (paramOverride key).or (decoded members key)) ↔
        ∀ key value, paramOverride key = some value → Once members key ∨ decoded members key = some value) := by
  obtain ⟨result, done, read⟩ := @legacy_result _ members _ setOther _ iterates literal
  refine ⟨result, done, fun assigned key value found => ?_, fun once key => ?_⟩
  · by_contra repeated
    rw [not_or] at repeated
    have kept := assigned key
    rw [read, if_neg repeated.1, found] at kept
    exact repeated.2 kept
  · rw [read]
    split_ifs with single
    · rfl
    · cases found : paramOverride key with
      | none => rfl
      | some value => exact (once key value found).resolve_left single

theorem dotted_key_assigned : ∃ result, applyOperationsLegacy (fun _ _ _ => .error "")
    [("x", 1), ("x", 2)] [("a.b*", 2)] =
    .ok result ∧ ∀ key, decoded result key =
      (if key = "a.b*" then some 2 else none : Option Nat).or (decoded [("x", 1), ("x", 2)] key) := by
  have literal : ∀ key, (if key = "a.b*" then some 2 else none : Option Nat) ≠ none → Literal key :=
    fun key assigned => by
    obtain rfl : key = "a.b*" := by grind
    simp [Literal]
  obtain ⟨result, done, assigned⟩ := @applyOperationsLegacy_assigns_iff _ [("x", 1), ("x", 2)] [("a.b*", 2)]
    (fun _ _ _ => .error "") _ (by grind) literal
  refine ⟨result, done, assigned.mpr fun key value found => .inl ?_⟩
  obtain rfl : key = "a.b*" := by grind
  decide

theorem colon_and_repeated_keys_lost :
    applyOperationsLegacy (fun members _ _ => .ok members) [] [(":1", 0)] = .ok [("1", 0)] ∧
      decoded [("1", 0)] ":1" = none ∧
      applyOperationsLegacy (fun members _ _ => .ok members) [("a", 1), ("a", 2)] [("a", 3)] =
        .ok [("a", 3), ("a", 2)] ∧
      decoded [("a", 3), ("a", 2)] "a" = some 2 :=
  ⟨rfl, rfl, rfl, rfl⟩

end Legacy

end NewApi.Proof
