import NewApi.Common.Ssrf

/-! # Connections of the protected fetch client -/

namespace NewApi.Proof
open Common
variable {net : NetEnv} {p : SSRFProtection} {port : Int}

section Dials
variable {host : String}

structure PortAllowed (p : SSRFProtection) (port : Int) : Prop where
  least : 1 ≤ port
  most : port ≤ 65535
  listed : isAllowedPort p port = true

def hostAllowed (net : NetEnv) (p : SSRFProtection) (host : String) : Bool :=
  match net.parseIP host with
  | some ip => isIPAccessAllowed net p ip
  | none => isDomainAllowed net p host

theorem accepted_iff : (validateNetworkTarget net p host port).isOk = true ↔
    trimSpace host ≠ "" ∧ PortAllowed p port ∧ hostAllowed net p (trimSpace host) = true := by
  unfold validateNetworkTarget hostAllowed
  dsimp only
  by_cases empty : trimSpace host = ""
  · simp [empty, Except.isOk, Except.toBool]
  · rw [if_neg empty, and_iff_right empty]
    by_cases allowed : PortAllowed p port
    · have inside : ¬(port < 1 ∨ 65535 < port) := by have := allowed.least; have := allowed.most; omega
      rw [if_neg inside, if_neg (by simp [allowed.listed]), and_iff_right allowed]
      cases net.parseIP (trimSpace host) <;> dsimp only <;> split_ifs with fine <;>
        simp [fine, Except.isOk, Except.toBool]
    · refine iff_of_false ?_ fun ⟨port, _⟩ => allowed port
      split_ifs with range listed
      · exact Bool.false_ne_true
      · exact Bool.false_ne_true
      all_goals exact fun _ => allowed ⟨by omega, by omega, by simpa using listed⟩

variable {destination : Destination} {connection : Connection} {hops : List Hop}

theorem tryDials_from {accepts ips} (dialed : destination ∈ tryDials accepts ips) :
    ∃ ip ∈ ips, destination = .ip ip := by
  induction ips with
  | nil => cases dialed
  | cons first _ ih =>
    rw [tryDials] at dialed
    rcases List.mem_cons.mp dialed with rfl | later
    · exact ⟨first, List.mem_cons_self, rfl⟩
    · split_ifs at later
      · cases later
      · obtain ⟨ip, mem, same⟩ := ih later
        exact ⟨ip, List.mem_cons_of_mem _ mem, same⟩

def HostChecked (net : NetEnv) (p : SSRFProtection) (host : String) (ip : IP) : Prop :=
  net.parseIP host = some ip ∨ net.parseIP host = none ∧ isDomainAllowed net p host = true

theorem dial_accepted {call} (dialed : destination ∈ dialContext net p host port call) :
    (validateNetworkTarget net p host port).isOk = true := by
  unfold dialContext at dialed
  split at dialed
  · cases dialed
  · rename_i refused
    simpa using refused

theorem dial_safe (filtered : p.applyIPFilterForDomain = true) (trimmed : trimSpace host = host) {call}
    (dialed : destination ∈ dialContext net p host port call) :
    ∃ ip, destination = .ip ip ∧ isIPAccessAllowed net p ip = true ∧ PortAllowed p port ∧
      HostChecked net p host ip := by
  have accepted := dial_accepted dialed
  obtain ⟨-, allowed, verdict⟩ := accepted_iff.mp accepted
  rw [trimmed] at verdict
  unfold hostAllowed at verdict
  simp only [dialContext, accepted, Bool.true_eq_false, if_false] at dialed
  unfold HostChecked
  cases literal : net.parseIP host with
  | some ip =>
    rw [literal] at verdict
    simp only [literal, List.mem_singleton] at dialed
    exact ⟨ip, dialed, verdict, allowed, .inl rfl⟩
  | none =>
    rw [literal] at verdict
    simp only [literal, filtered, Bool.true_eq_false, if_false] at dialed
    split at dialed
    · cases dialed
    · split_ifs at dialed with all
      · obtain ⟨ip, mem, rfl⟩ := tryDials_from dialed
        exact ⟨ip, rfl, List.all_eq_true.mp all ip mem, allowed, .inr ⟨rfl, verdict⟩⟩
      · cases dialed

def OpenedBy (net : NetEnv) (p : SSRFProtection) (connection : Connection) (hop : Hop) : Prop :=
  connection.host = hop.host ∧ validateURL net p hop.host hop.port hop.urlAnswer = true ∧
    ∃ call, connection.destination ∈ dialContext net p connection.host connection.port call

theorem mem_roundTrip {hop} (opened : connection ∈ roundTrip net p hop) : OpenedBy net p connection hop := by
  unfold roundTrip at opened
  split_ifs at opened with valid
  · obtain ⟨_, dialed, rfl⟩ := List.mem_map.mp opened
    obtain ⟨call, -, mem⟩ := List.mem_flatMap.mp dialed
    exact ⟨rfl, valid, call, mem⟩
  · cases opened

theorem mem_redirects {left} (opened : connection ∈ redirects net p left hops) :
    ∃ hop ∈ hops, OpenedBy net p connection hop := by
  induction hops generalizing left with
  | nil => cases left <;> cases opened
  | cons hop _ ih =>
    cases left with
    | zero => cases opened
    | succ =>
      rw [redirects] at opened
      split_ifs at opened
      · rcases List.mem_append.mp opened with first | later
        · exact ⟨hop, List.mem_cons_self, mem_roundTrip first⟩
        · obtain ⟨hop, mem, by_hop⟩ := ih later
          exact ⟨hop, List.mem_cons_of_mem _ mem, by_hop⟩
      · cases opened

theorem mem_fetch (opened : connection ∈ fetch net p hops) : ∃ hop ∈ hops, OpenedBy net p connection hop := by
  cases hops with
  | nil => cases opened
  | cons first =>
    rcases List.mem_append.mp opened with now | later
    · exact ⟨first, List.mem_cons_self, mem_roundTrip now⟩
    · obtain ⟨hop, mem, by_hop⟩ := mem_redirects later
      exact ⟨hop, List.mem_cons_of_mem _ mem, by_hop⟩

/-- Go's resolver refuses what is no domain name, and a name with white space around it is none. -/
def RefusesPadded (hops : List Hop) : Prop := ∀ hop ∈ hops, trimSpace hop.host ≠ hop.host → hop.urlAnswer = none

end Dials

def plainNet : NetEnv where
  parseIP host := if host = "8.8.8.8" then some (.v4 0x08080808)
    else if host = "fe80::1" then some (.v6 0xFE800000000000000000000000000001) else none
  isIpInCIDRList _ _ := false
  toLower := Char.toLower
  toLower_ascii _ _ := rfl

def filterOf (whitelist : Bool) (domains : List String) (filtered : Bool) : SSRFProtection :=
  ⟨false, whitelist, domains, false, [], [80], filtered⟩

def hopTo (host : String) (answer : Option (List IP)) : Hop := ⟨host, 80, answer, answer, [⟨answer, fun _ => true⟩]⟩

theorem plainNet_plain (host : String) (ip) (literal : plainNet.parseIP host = some ip) : trimSpace host = host := by
  unfold plainNet at literal
  dsimp only at literal
  split_ifs at literal with eights inner
  · rw [eights]; decide +kernel
  · rw [inner]; decide +kernel

section Spellings
variable {host domain : String}

/-- The entries are names as one writes them, without a dot at the end and without a zone. -/
def PlainList (net : NetEnv) (p : SSRFProtection) : Prop :=
  ∀ item ∈ p.domainList, (lower net (trimSpace item)).toList.getLast? ≠ some '.' ∧
    '%' ∉ (lower net (trimSpace item)).toList

theorem lower_append (first second : String) :
    (lower net (first ++ second)).toList = (lower net first).toList ++ second.toList.map net.toLower := by
  simp [lower]

theorem listed_suffix (filled : (lower net domain).toList ≠ [])
    (listed : isDomainListed net domain p.domainList = true) :
    ∃ item ∈ p.domainList, ∃ tail, tail ≠ [] ∧ tail <:+ (lower net (trimSpace item)).toList ∧
      tail <:+ (lower net domain).toList ∧ (tail = (lower net domain).toList ∨ '.' ∈ tail) := by
  obtain ⟨item, mem, matched⟩ := List.any_eq_true.mp listed
  refine ⟨item, mem, ?_⟩
  simp only [Bool.and_eq_true, Bool.or_eq_true, decide_eq_true_eq, hasPrefix, hasSuffix,
    String.toList_ofList] at matched
  obtain ⟨-, same | ⟨⟨rest, starts⟩, tail | same⟩⟩ := matched
  · exact ⟨_, filled, by rw [same], List.suffix_refl _, .inl rfl⟩
  · refine ⟨_, ?_, List.drop_suffix 1 _, tail, .inr ?_⟩ <;> simp [← starts]
  · refine ⟨_, filled, ?_, List.suffix_refl _, .inl rfl⟩
    rw [same, String.toList_ofList]
    exact List.drop_suffix 2 _

theorem dotted_unlisted (list : PlainList net p) : isDomainListed net (host ++ ".") p.domainList = false := by
  rw [Bool.eq_false_iff]
  intro listed
  have dot : (lower net (host ++ ".")).toList = (lower net host).toList ++ ['.'] :=
    (lower_append host ".").trans (by rw [String.toList]; simp [net.toLower_ascii '.' (by decide)])
  obtain ⟨item, mem, tail, filled, ⟨_, ofItem⟩, ⟨_, ofDomain⟩, -⟩ := listed_suffix (by simp [dot]) listed
  apply (list item mem).1
  rw [← ofItem, List.getLast?_append_of_ne_nil _ filled, ← List.getLast?_append_of_ne_nil _ filled, ofDomain, dot]
  simp

theorem zoned_unlisted {zone} (list : PlainList net p) (flat : '.' ∉ (lower net zone).toList) :
    isDomainListed net (host ++ "%" ++ zone) p.domainList = false := by
  rw [Bool.eq_false_iff]
  intro listed
  have split : (lower net (host ++ "%" ++ zone)).toList = (lower net host).toList ++ '%' ::
    (lower net zone).toList := by
    simp [lower, net.toLower_ascii '%' (by decide)]
  obtain ⟨item, mem, tail, -, ofItem, ofDomain, whole⟩ := listed_suffix (by simp [split]) listed
  have marked : '%' ∈ tail := by
    rw [split] at ofDomain whole
    rcases List.suffix_or_suffix_of_suffix ofDomain (List.suffix_append _ _) with short | long
    · rcases List.suffix_cons_iff.mp short with rfl | inZone
      · exact List.mem_cons_self
      · rcases whole with rfl | dot
        · have := inZone.length_le
          simp at this
          omega
        · exact absurd (inZone.subset dot) flat
    · exact long.subset List.mem_cons_self
  exact (list item mem).2 (ofItem.subset marked)

theorem sameVerdict_iff {first second} (trimmed : trimSpace first = first) (also : trimSpace second = second)
    (one : first ≠ "") (other : second ≠ "") :
    ((validateNetworkTarget net p first port).isOk = (validateNetworkTarget net p second port).isOk) ↔
      (PortAllowed p port → hostAllowed net p first = hostAllowed net p second) := by
  rw [Bool.eq_iff_iff, accepted_iff, accepted_iff, trimmed, also, and_iff_right one, and_iff_right other,
    and_congr_right_iff]
  exact forall_congr' fun _ => Bool.eq_iff_iff.symm

end Spellings

inductive Embedding where
  | mapped
  | compatible
  | nat64
  | sixToFour (rest : Fin (2 ^ 80))

def Embedding.address (embedded : Nat) : Embedding → Nat
  | mapped => 0xFFFF <<< 32 + embedded
  | compatible => embedded
  | nat64 => 0x64FF9B <<< 96 + embedded
  | sixToFour rest => 0x2002 <<< 112 + embedded <<< 80 + rest

theorem private_v6_iff {address} (unmapped : address / 2 ^ 32 ≠ 0xFFFF) :
    isPrivateIP (to4 address) = true ↔ address ≤ 1 ∨ address / 2 ^ 32 = 0x64FF9B <<< 64 ∨
      address / 2 ^ 64 = 0x100 <<< 48 ∨
      address / 2 ^ 105 = 0x2001 <<< 7 ∨ address / 2 ^ 96 = 0x20010DB8 ∨ address / 2 ^ 121 = 0x7E ∨
      address / 2 ^ 118 = 0x3FA ∨ address / 2 ^ 120 = 0xFF := by
  rw [to4, if_neg (by rwa [Nat.shiftRight_eq_div_pow])]
  simp [isPrivateIP, privateIPv6Nets, Nat.shiftRight_eq_div_pow]
  omega

theorem embedded_private_iff {embedded} (bounded : embedded < 2 ^ 32) (rejected : isPrivateIP (.v4 embedded) = true)
    (embedding : Embedding) :
    isPrivateIP (to4 (embedding.address embedded)) = true ↔
      embedding = .mapped ∨ embedding = .nat64 ∨ embedding = .compatible ∧ embedded ≤ 1 := by
  cases embedding with
  | mapped =>
    have read : to4 (Embedding.mapped.address embedded) = .v4 embedded := by
      simp only [to4, Embedding.address, Nat.shiftRight_eq_div_pow]
      rw [if_pos (by omega)]
      congr 1
      omega
    simp [read, rejected]
  | compatible => rw [private_v6_iff] <;> simp only [Embedding.address] <;> simp <;> omega
  | nat64 => rw [private_v6_iff] <;> simp only [Embedding.address] <;> simp <;> omega
  | sixToFour rest =>
    have := rest.isLt
    rw [private_v6_iff] <;> simp only [Embedding.address, Nat.shiftLeft_eq] <;> simp <;> omega

theorem nat64_loopback_private : isPrivateIP (to4 (Embedding.nat64.address 0x7F000001)) = true :=
  (embedded_private_iff (by decide) (by decide) .nat64).mpr (.inr (.inl rfl))

theorem compatible_sixToFour_public : isPrivateIP (.v4 0x0A000001) = true ∧
    isPrivateIP (to4 (Embedding.compatible.address 0x0A000001)) = false ∧
    isPrivateIP (to4 ((Embedding.sixToFour 0).address 0x0A000001)) = false := by
  decide

end NewApi.Proof
