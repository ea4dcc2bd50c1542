import NewApi.Controller.UpstreamUpdate

/-!
# Accepted upstream updates converge

A list of names counts as the set of its normalised names. Names without commas come back from the stored list.
-/

namespace NewApi.Proof
open Common Controller List

abbrev Named (names : List String) (name : String) : Prop := name ∈ normalizeModelNames names

section Names
variable {names base other : List String} {name : String}

theorem named_iff : Named names name ↔ (∃ x ∈ names, trimSpace x = name) ∧ name ≠ "" := by
  simp [Named, normalizeModelNames]

@[simp] theorem named_filter {p} : Named ((normalizeModelNames names).filter p) name ↔
    Named names name ∧ p name = true := by
  rw [named_iff]
  constructor
  · rintro ⟨⟨x, found, rfl⟩, _⟩
    obtain ⟨⟨y, _, rfl⟩, _⟩ := named_iff.mp (mem_of_mem_filter found)
    rwa [trimSpace_trimSpace, ← mem_filter]
  · rintro ⟨mem, kept⟩
    obtain ⟨⟨y, _, rfl⟩, filled⟩ := named_iff.mp mem
    exact ⟨⟨_, mem_filter.mpr ⟨mem, kept⟩, trimSpace_trimSpace y⟩, filled⟩

@[simp] theorem named_normalize : Named (normalizeModelNames names) name ↔ Named names name := by
  simpa using named_filter (p := fun _ => true)

@[simp] theorem named_append : Named (base ++ other) name ↔ Named base name ∨ Named other name := by
  simp only [named_iff, mem_append, or_and_right, exists_or]

theorem mem_applySelected : name ∈ applySelectedModelChanges names base other ↔
    (Named names name ∨ Named base name) ∧ (Named other name → Named base name) := by
  simp [applySelectedModelChanges, subtractModelNames, mergeModelNames]
  tauto

end Names

theorem splitOn_separate {text : List Char} : ∀ part ∈ text.splitOn ',', ',' ∉ part := by
  induction text with
  | nil => simp
  | cons c rest ih =>
    rw [splitOn] at *
    rw [splitOnP_cons_eq_if_modifyHead]
    cases parts : rest.splitOnP (· == ',') with
    | nil => exact absurd parts (splitOnP_ne_nil _ _)
    | cons => grind [modifyHead_cons]

theorem local_separate {models name} (mem : Named (getModels models) name) : ',' ∉ name.toList := by
  obtain ⟨⟨x, listed, rfl⟩, -⟩ := named_iff.mp mem
  unfold getModels at listed
  split_ifs at listed
  · cases listed
  · obtain ⟨part, found, rfl⟩ := mem_map.mp listed
    rw [trimSpace, String.toList_ofList, String.toList_ofList, mem_reverse]
    exact fun comma => splitOn_separate part found
      ((dropWhile_sublist _).subset (mem_reverse.mp ((dropWhile_sublist _).subset comma)))

theorem dropWhile_comma {part rest : List Char} (valid : part ≠ [] ∧ ',' ∉ part) :
    (part ++ rest).dropWhile (· = ',') = part ++ rest := by
  cases part with
  | nil => exact absurd rfl valid.1
  | cons c => exact dropWhile_cons_of_neg (by simp_all [eq_comm])

theorem joined_ends {parts : List (List Char)} (ne : parts ≠ []) :
    (∃ first ∈ parts, ∃ rest, [','].intercalate parts = first ++ rest) ∧
      ∃ last ∈ parts, ∃ start, [','].intercalate parts = start ++ last := by
  induction parts with
  | nil => exact absurd rfl ne
  | cons part rest ih =>
    cases rest with
    | nil => exact ⟨⟨part, by simp⟩, part, by simp, [], by simp⟩
    | cons next rest =>
      obtain ⟨-, last, mem, start, joined⟩ := ih (cons_ne_nil _ _)
      rw [intercalate_cons_cons]
      exact ⟨⟨part, mem_cons_self, _, append_assoc ..⟩, last, mem_cons_of_mem part mem,
        _, by rw [joined, ← append_assoc]⟩

theorem getModels_join {names} (valid : ∀ name ∈ names, name ≠ "" ∧ ',' ∉ name.toList) :
    getModels (",".intercalate names) = names := by
  rcases eq_or_ne names [] with rfl | ne
  · rfl
  have parts : ∀ part ∈ names.map String.toList, part ≠ [] ∧ ',' ∉ part := by simpa using valid
  have some : names.map String.toList ≠ [] := by simpa using ne
  obtain ⟨⟨first, firstMem, rest, starts⟩, last, lastMem, start, ends⟩ := joined_ends some
  have chars : (",".intercalate names).toList = [','].intercalate (names.map String.toList) := String.toList_intercalate
  have kept : trimChar (",".intercalate names) ',' = ",".intercalate names := by
    rw [trimChar, chars, starts, dropWhile_comma (parts first firstMem), ← starts, ends, reverse_append,
      dropWhile_comma (by simpa using parts last lastMem), ← reverse_append, reverse_reverse, ← ends, ← chars,
      String.ofList_toList]
  have filled : ",".intercalate names ≠ "" := String.toList_eq_nil_iff.not.mp
    (by simp [chars, starts, (parts first firstMem).1])
  rw [getModels, if_neg filled, kept, splitText, chars, splitOn_intercalate _ (fun part mem => (parts part mem).2) some]
  simp

section Sync
variable (matchString : String → String → Bool) (upstream : List String) (mapping : List (String × String))

def detect (channel : UpstreamChannel) : List String × List String :=
  collectPendingUpstreamModelChangesFromModels matchString
    (getModels channel.models) upstream channel.ignoredModels mapping

/-- The pending changes are stored, and then all of them are accepted. -/
def acceptAll (pending : List String × List String) (channel : UpstreamChannel) : UpstreamChannel :=
  applyChannelUpstreamModelUpdates { channel with lastDetectedModels := pending.1, lastRemovedModels := pending.2 } pending.1 []
    pending.2

variable {matchString upstream mapping} {channel : UpstreamChannel} {pending : List String × List String} {name : String}

theorem accepted_models (apart : ∀ name, Named pending.1 name → ¬Named pending.2 name)
    (separate : ∀ name, Named pending.1 name → ',' ∉ name.toList) :
    Named (getModels (acceptAll pending channel).models) name ↔
      (Named (getModels channel.models) name ∨ Named pending.1 name) ∧ ¬Named pending.2 name := by
  obtain ⟨next, stored, known⟩ : ∃ next,
      (acceptAll pending channel).models =
        (if normalizeModelNames (getModels channel.models) = next then channel.models else ",".intercalate next) ∧
      ∀ name, (Named next name ↔ name ∈ next) ∧ (name ∈ next ↔
        (Named (getModels channel.models) name ∨ Named pending.1 name) ∧ ¬Named pending.2 name) := by
    refine ⟨_, rfl, fun name => ⟨?_, ?_⟩⟩
    · rw [applySelectedModelChanges, subtractModelNames, named_filter, mem_filter]
    · have := apart name
      simp only [mem_applySelected, intersectModelNames, subtractModelNames, named_normalize,
        named_filter, decide_eq_true_eq]
      tauto
  rw [stored]
  split_ifs with same
  · have listed := (known name).2
    rwa [← same] at listed
  · rw [getModels_join, (known name).1, (known name).2]
    exact fun name mem => ⟨(named_iff.mp ((known name).1.mpr mem)).2, ((known name).2.mp mem).1.elim local_separate (separate name)⟩

theorem accepted_ignored : Named (acceptAll pending channel).ignoredModels name ↔
    Named channel.ignoredModels name ∧ ¬Named pending.1 name := by
  have nil : normalizeModelNames [] = [] := rfl
  dsimp only [acceptAll, applyChannelUpstreamModelUpdates]
  split_ifs with none
  · have empty : ∀ name, ¬Named pending.1 name := by
      simpa [intersectModelNames, eq_nil_iff_forall_not_mem] using none
    simp [mergeModelNames, intersectModelNames, empty, nil]
  · simp [subtractModelNames, mergeModelNames, intersectModelNames, nil]

theorem mem_detected : name ∈ (detect matchString upstream mapping channel).1 ↔
    Named upstream name ∧ (¬Named (getModels channel.models) name ∧ name ∉ mapping.map Prod.snd) ∧
      ∀ ignored, Named channel.ignoredModels ignored → ignores matchString ignored name = false := by
  simp [detect, collectPendingUpstreamModelChangesFromModels]

theorem mem_removed : name ∈ (detect matchString upstream mapping channel).2 ↔
    Named (getModels channel.models) name ∧ name ∉ mapping.map Prod.fst ∧ ¬Named upstream name := by
  simp [detect, collectPendingUpstreamModelChangesFromModels]

/-- The second detection finds nothing just if every upstream name with a comma is ignored or the
target of a mapping. -/
theorem sync_converges_iff (channel)
    (plain : ∀ ignored, Named channel.ignoredModels ignored → hasPrefix ignored "regex:" = false) :
    let pending := detect matchString upstream mapping channel
    (detect matchString upstream mapping (acceptAll pending channel) = ([], []) ↔
      ∀ name, Named upstream name → ',' ∈ name.toList →
        Named channel.ignoredModels name ∨ name ∈ mapping.map Prod.snd) ∧
      (∀ name ∈ pending.1, ¬Named channel.ignoredModels name ∧ name ∉ mapping.map Prod.snd) ∧
      ∀ name ∈ pending.2, name ∉ mapping.map Prod.fst := by
  intro pending
  have added : ∀ name, Named pending.1 name ↔ name ∈ pending.1 := fun _ => named_normalize
  have removed : ∀ name, Named pending.2 name ↔ name ∈ pending.2 := fun _ => named_normalize
  have ignored := fun name => @accepted_ignored channel pending name
  have exactly : ∀ name, Named channel.ignoredModels name →
      ∀ other, ignores matchString name other = decide (name = other) :=
    fun name mem _ => if_neg (by simp [plain name mem])
  refine ⟨⟨fun settled name listed comma => ?_, fun separate => ?_⟩, ?_, ?_⟩
  · -- a name with a comma is never local, so what hides it from the second detection is not the stored list
    by_contra! found
    have again : name ∈ (detect matchString upstream mapping (acceptAll pending channel)).1 :=
      mem_detected.mpr ⟨listed, ⟨fun stored => local_separate stored comma, found.2⟩, fun other mem => by
        have kept := ((ignored other).mp mem).1
        rw [exactly other kept, decide_eq_false_iff_not]
        rintro rfl
        exact found.1 kept⟩
    rw [settled] at again
    cases again
  · have models := fun name => @accepted_models channel pending name (by grind [mem_detected, mem_removed])
      (by grind [mem_detected])
    refine Prod.ext (eq_nil_iff_forall_not_mem.mpr fun name found => ?_)
      (eq_nil_iff_forall_not_mem.mpr fun name lost => ?_)
    · rw [mem_detected, models] at found
      grind [mem_detected, mem_removed]
    · rw [mem_removed, models] at lost
      grind [mem_detected, mem_removed]
  · grind [mem_detected]
  · grind [mem_removed]

theorem renamed_upstream_converges : detect (fun _ _ => false) ["b", " c ", "d,e"] [("x", "d,e")]
    (acceptAll (["c"], ["a"]) ⟨"a,b,x", [], [], []⟩) = ([], []) := by
  refine (sync_converges_iff ⟨"a,b,x", [], [], []⟩ (by decide)).1.mpr fun name listed comma => ?_
  have known : name ∈ ["b", "c", "d,e"] := listed
  simp only [mem_cons, not_mem_nil, or_false] at known
  rcases known with rfl | rfl | rfl
  · exact absurd comma (by decide)
  · exact absurd comma (by decide)
  · exact .inr (by decide)

theorem comma_name_pending : detect (fun _ _ => false) ["a,b"] [] (acceptAll (["a,b"], []) ⟨"", [], [], []⟩) = (["a,b"], ["a", "b"]) ∧
    detect (fun _ _ => false) ["a,b"] [] ⟨"", [], [], []⟩ = (["a,b"], []) := by
  decide

end Sync

end NewApi.Proof
