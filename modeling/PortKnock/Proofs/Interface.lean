import Mathlib.Data.Nat.Bitwise
import PortKnock.Interface

/-!
# The default interface is the first of the best

`Interface.default?` narrows its candidates stage by stage.  How many stages an
interface would pass, one after the other, is a score (`passed`), and narrowing
ends at the first candidate with the highest score (`narrow_firstHighest`): a
stage that leaves nobody changes no score, and one that leaves somebody adds one
to the scores of those it leaves and takes all others out of the running.

For the stages in use the score is `rank`, which says what an interface is good
for without mentioning stages: in terms of its hardware address, its flags and
its addresses.
-/

namespace PortKnock

/-- The first element with the highest score: those before it score less, and none behind it
scores more. -/
def FirstHighest {α : Type} (score : α → Nat) (elements : List α) (chosen : α) : Prop :=
  ∃ before after, elements = before ++ chosen :: after ∧
    (∀ element ∈ before, score element < score chosen) ∧
      ∀ element ∈ after, score element ≤ score chosen

namespace FirstHighest

variable {α : Type} {score : α → Nat} {elements rest : List α} {chosen chosen' first : α}

theorem congr {score' : α → Nat} (h : FirstHighest score elements chosen)
    (hscore : ∀ element, score' element = score element) :
    FirstHighest score' elements chosen := by
  obtain rfl : score' = score := funext hscore
  exact h

/-- Where nobody scores, the first element is chosen. -/
theorem of_zero (hzero : ∀ element ∈ first :: rest, score element = 0) :
    FirstHighest score (first :: rest) first := by
  refine ⟨[], rest, rfl, fun element hmem => absurd hmem List.not_mem_nil, fun element hmem => ?_⟩
  rw [hzero element (List.mem_cons_of_mem _ hmem)]
  exact Nat.zero_le _

/-- The elements that `keep` leaves go one point ahead of all others, which lose what they had. -/
theorem of_filter {keep : α → Bool} (h : FirstHighest score (elements.filter keep) chosen) :
    FirstHighest (fun element => if keep element then score element + 1 else 0) elements
      chosen := by
  obtain ⟨kept, kept', hfilter, hbefore, hafter⟩ := h
  obtain ⟨before, others, rfl, hkept, hothers⟩ := List.filter_eq_append_iff.mp hfilter
  obtain ⟨dropped, after, rfl, hdropped, hchosen, hkept'⟩ := List.filter_eq_cons_iff.mp hothers
  have hscore : (if keep chosen then score chosen + 1 else 0) = score chosen + 1 := if_pos hchosen
  refine ⟨before ++ dropped, after, by rw [List.append_assoc], ?_, ?_⟩
  · intro element hmem
    simp only [hscore]
    cases hkeep : keep element with
    | false => exact Nat.succ_pos _
    | true =>
      rcases List.mem_append.mp hmem with hmem | hmem
      · have hlt := hbefore element (hkept ▸ List.mem_filter.mpr ⟨hmem, hkeep⟩)
        exact Nat.succ_lt_succ hlt
      · exact absurd hkeep (hdropped element hmem)
  · intro element hmem
    simp only [hscore]
    cases hkeep : keep element with
    | false => exact Nat.zero_le _
    | true =>
      have hle := hafter element (hkept' ▸ List.mem_filter.mpr ⟨hmem, hkeep⟩)
      exact Nat.succ_le_succ hle

theorem unique (h : FirstHighest score elements chosen)
    (h' : FirstHighest score elements chosen') : chosen = chosen' := by
  obtain ⟨before, after, helements, hbefore, hafter⟩ := h
  obtain ⟨before', after', helements', hbefore', hafter'⟩ := h'
  rw [helements] at helements'
  rcases List.append_eq_append_iff.mp helements' with
    ⟨middle, hsplit, hrest⟩ | ⟨middle, hsplit, hrest⟩
  · cases middle with
    | nil => exact (List.cons.inj hrest).1
    | cons element middle =>
      -- the first choice would lie in front of the second one, and score less
      obtain ⟨rfl, rfl⟩ := List.cons.inj hrest
      have hlt := hbefore' chosen (hsplit ▸ by simp)
      have hle := hafter chosen' (by simp)
      exact absurd hlt (Nat.not_lt_of_le hle)
  · cases middle with
    | nil => exact (List.cons.inj hrest).1.symm
    | cons element middle =>
      obtain ⟨rfl, rfl⟩ := List.cons.inj hrest
      have hlt := hbefore chosen' (hsplit ▸ by simp)
      have hle := hafter' chosen (by simp)
      exact absurd hlt (Nat.not_lt_of_le hle)

end FirstHighest

namespace Interface

/-! ## Narrowing -/

/-- Stages that an interface passes, up to the first one that it does not. -/
def passed (stages : List (Interface → Bool)) (interface : Interface) : Nat :=
  (stages.takeWhile fun stage => stage interface).length

theorem passed_cons (stage : Interface → Bool) (stages : List (Interface → Bool))
    (interface : Interface) :
    passed (stage :: stages) interface =
      if stage interface then passed stages interface + 1 else 0 := by
  rw [passed, List.takeWhile_cons]
  split <;> rfl

/-- Narrowing ends at the first candidate that passes the most stages. -/
theorem narrow_firstHighest (stages : List (Interface → Bool)) (first : Interface)
    (rest : List Interface) :
    FirstHighest (passed stages) (first :: rest) (narrow first (first :: rest) stages) := by
  induction stages generalizing first rest with
  | nil => exact .of_zero fun _ _ => rfl
  | cons stage stages ih =>
    rw [narrow]
    split
    · rename_i hnobody
      refine .of_zero fun element hmem => ?_
      rw [passed_cons, if_neg (List.filter_eq_nil_iff.mp hnobody element hmem)]
    · rename_i first' rest' hfilter
      have hchosen : FirstHighest (passed stages) ((first :: rest).filter stage)
          (narrow first' (first' :: rest') stages) := hfilter ▸ ih first' rest'
      exact hchosen.of_filter.congr (passed_cons stage stages)

/-! ## What an interface is good for -/

/-- It has a hardware address that is not all zeros. -/
def HasMac (interface : Interface) : Prop :=
  ∃ mac, interface.mac = some mac ∧ ∃ octet ∈ mac.toList, octet ≠ 0

/-- It is up, it is running and it does not loop back. -/
def IsActive (interface : Interface) : Prop :=
  interface.flags.toNat.testBit 0 = true ∧ interface.flags.toNat.testBit 6 = true ∧
    interface.flags.toNat.testBit 3 = false

/-- It has an IPv4 address that is as wanted. -/
def HasAddress (interface : Interface) (wanted : UInt32 → Prop) : Prop :=
  ∃ address, .v4 address ∈ interface.addresses ∧ wanted address

/-- Neither private (10.x.x.x, 172.16.x.x to 172.31.x.x, 192.168.x.x) nor link-local
(169.254.x.x). -/
def IsPublic (address : UInt32) : Prop :=
  let first := address.toNat / 2 ^ 24
  let second := address.toNat / 2 ^ 16 % 2 ^ 8
  ¬ (first = 10 ∨ (first = 172 ∧ 16 ≤ second ∧ second ≤ 31) ∨ (first = 192 ∧ second = 168) ∨
    (first = 169 ∧ second = 254))

instance : DecidablePred IsPublic := fun _ => instDecidableNot

variable {interface : Interface}

theorem isEthernet_iff : interface.isEthernet = true ↔ interface.HasMac := by
  unfold isEthernet HasMac
  cases interface.mac with
  | none => simp
  | some mac => simp only [Option.some.injEq, exists_eq_left', List.any_eq_true, bne_iff_ne]

/-- A mask of one bit tests for it. -/
theorem and_bne_zero_eq_testBit {mask : UInt32} {i : Nat} (hmask : mask.toNat = 2 ^ i)
    (flags : UInt32) : (flags &&& mask != 0) = flags.toNat.testBit i := by
  rw [Bool.eq_iff_iff, bne_iff_ne, Ne, ← UInt32.toNat_inj, UInt32.toNat_and, hmask,
    Nat.and_two_pow, UInt32.toNat_zero, Nat.mul_eq_zero, Bool.toNat_eq_zero,
    or_iff_left (Nat.two_pow_pos i).ne', Bool.not_eq_false]

theorem isUsable_iff : interface.isUsable = true ↔ interface.HasMac ∧ interface.IsActive := by
  have hup : interface.isUp = interface.flags.toNat.testBit 0 := and_bne_zero_eq_testBit rfl _
  have hrunning : interface.isRunning = interface.flags.toNat.testBit 6 :=
    and_bne_zero_eq_testBit rfl _
  have hloopback : interface.isLoopback = interface.flags.toNat.testBit 3 :=
    and_bne_zero_eq_testBit rfl _
  rw [isUsable, hup, hrunning, hloopback, IsActive, ← isEthernet_iff]
  simp only [Bool.and_eq_true, Bool.not_eq_true', and_assoc]

theorem mem_ipv4Addresses {address : UInt32} :
    address ∈ interface.ipv4Addresses ↔ .v4 address ∈ interface.addresses := by
  rw [ipv4Addresses, List.mem_filterMap]
  constructor
  · rintro ⟨candidate, hmem, hsome⟩
    cases candidate with
    | v4 address' =>
      cases hsome
      exact hmem
    | v6 groups => cases hsome
  · intro hmem
    exact ⟨_, hmem, rfl⟩

theorem hasIpv4_iff : interface.hasIpv4 = true ↔ interface.HasAddress fun _ => True := by
  rw [hasIpv4, Bool.not_eq_true', List.isEmpty_eq_false_iff_exists_mem, HasAddress]
  simp only [mem_ipv4Addresses, and_true]

theorem inNetwork_iff (network : UInt32) (length : Nat) (address : UInt32) :
    Ipv4.inNetwork network length address = true ↔
      address.toNat / 2 ^ (32 - length) = network.toNat / 2 ^ (32 - length) := by
  rw [Ipv4.inNetwork, beq_iff_eq, Nat.shiftRight_eq_div_pow, Nat.shiftRight_eq_div_pow]

theorem isPublic_iff (address : UInt32) :
    (!Ipv4.isPrivate address && !Ipv4.isLinkLocal address) = true ↔ IsPublic address := by
  have hlt := address.toNat_lt
  simp only [Ipv4.isPrivate, Ipv4.isLinkLocal, ← Bool.not_or, Bool.not_eq_true', ← Bool.not_eq_true,
    Bool.or_eq_true, inNetwork_iff, IsPublic]
  -- the networks have 8, 12, 16 and 16 bits
  show ¬ (((address.toNat / 2 ^ 24 = 10 ∨ address.toNat / 2 ^ 20 = 0xac1) ∨
    address.toNat / 2 ^ 16 = 0xc0a8) ∨ address.toNat / 2 ^ 16 = 0xa9fe) ↔ _
  omega

theorem hasPublicIpv4_iff : interface.hasPublicIpv4 = true ↔ interface.HasAddress IsPublic := by
  rw [hasPublicIpv4, List.any_eq_true, HasAddress]
  simp only [mem_ipv4Addresses, isPublic_iff]

instance : Decidable interface.HasMac := decidable_of_iff _ isEthernet_iff

instance : Decidable interface.IsActive := instDecidableAnd

instance (wanted : UInt32 → Prop) [DecidablePred wanted] :
    Decidable (interface.HasAddress wanted) :=
  decidable_of_iff (∃ address ∈ interface.ipv4Addresses, wanted address)
    (by simp only [HasAddress, mem_ipv4Addresses])

/-- How good a choice an interface is. -/
def rank (interface : Interface) : Nat :=
  if interface.HasMac ∧ interface.IsActive ∧ interface.HasAddress IsPublic then 4
  else if interface.HasMac ∧ interface.IsActive ∧ interface.HasAddress fun _ => True then 3
  else if interface.HasMac ∧ interface.IsActive then 2
  else if interface.HasMac then 1
  else 0

/-- The rank is the number of stages that an interface passes: each stage asks for what the one
before it asks for, and for more. -/
theorem rank_eq (interface : Interface) :
    rank interface = passed [isEthernet, isUsable, hasIpv4, hasPublicIpv4] interface := by
  have hany : interface.HasAddress IsPublic → interface.HasAddress fun _ => True :=
    fun ⟨address, hmem, _⟩ => ⟨address, hmem, trivial⟩
  have hnone : passed [] interface = 0 := rfl
  simp only [passed_cons, hnone, isUsable_iff, isEthernet_iff, hasIpv4_iff, hasPublicIpv4_iff, rank]
  by_cases hmac : interface.HasMac
  · by_cases hactive : interface.IsActive
    · by_cases haddress : interface.HasAddress fun _ => True
      · by_cases hpublic : interface.HasAddress IsPublic <;>
          simp [hmac, hactive, haddress, hpublic]
      · have hprivate : ¬ interface.HasAddress IsPublic := fun h => haddress (hany h)
        simp [hmac, hactive, haddress, hprivate]
    · simp [hmac, hactive]
  · simp [hmac]

/-! ## The choice -/

/-- There is a default interface unless there are no interfaces, and it is the first one of the
highest rank. -/
theorem default?_firstHighest (interfaces : List Interface) :
    (default? interfaces = none ↔ interfaces = []) ∧
      ∀ chosen, default? interfaces = some chosen ↔ FirstHighest rank interfaces chosen := by
  cases interfaces with
  | nil =>
    refine ⟨iff_of_true rfl rfl, fun chosen => iff_of_false nofun ?_⟩
    rintro ⟨before, after, hnil, -⟩
    exact absurd hnil.symm (List.append_ne_nil_of_right_ne_nil before (List.cons_ne_nil _ _))
  | cons first rest =>
    have hfirst := (narrow_firstHighest [isEthernet, isUsable, hasIpv4, hasPublicIpv4] first
      rest).congr rank_eq
    refine ⟨iff_of_false nofun nofun, fun chosen => ?_⟩
    rw [default?, Option.some.injEq]
    constructor
    · rintro rfl
      exact hfirst
    · intro hchosen
      exact hfirst.unique hchosen

/-- Two interfaces are equally good, and the loopback has no hardware address. -/
example :
    let up (name : String) (host : UInt8) (address : UInt32) : Interface :=
      ⟨name, some #v[2, 0, 0, 0, 0, host], 65, [.v4 address]⟩
    (default? [⟨"lo", none, 73, [.v4 0x7f000001]⟩, up "eth0" 1 0xc0a8000a, up "eth1" 2 0xcb007107,
      up "eth2" 3 0x08080808]).map (·.name) = some "eth1" := by
  decide

end Interface

end PortKnock
