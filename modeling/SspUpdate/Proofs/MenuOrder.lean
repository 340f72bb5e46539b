import Mathlib.Data.Bool.Basic
import Mathlib.Data.List.Find
import Mathlib.Data.List.Sort
import Mathlib.Data.Prod.Lex
import SspUpdate.Proofs.Selection

/-!
# The order of the menu

The ports of a menu are sorted by whether they are validators and whether they
are recognised, and stay in the order of the machine otherwise. As a sorted list
is made of its groups, one behind the other, the first line is found by looking
for a validator, then for a recognised port, then for any port. That is how the
most likely port is picked from all ports, so that the two agree as long as
ports are recognised by their kind alone.
-/

namespace SspUpdate

namespace PortChoice

variable {config : Config} {listAll : Bool} {ports : List DetectedPort} {port : DetectedPort}

/-- Validators come before recognised ports, and these before the rest. -/
def Group.rank : Group → Nat
  | validator => 0
  | known => 1
  | unknown => 2

/-- What the menu is sorted by. -/
def menuKey (config : Config) (port : DetectedPort) : Bool ×ₗ Bool :=
  toLex (decide (port.device ≠ .itlUsb), !isKnown config port)

/-- Not behind the other in the menu. -/
def notBehind (config : Config) (p q : DetectedPort) : Bool :=
  decide (menuKey config p ≤ menuKey config q)

/-- A validator is recognised. -/
theorem isKnown_of_itlUsb (h : port.device = .itlUsb) : isKnown config port = true := by
  rw [isKnown, h]
  rfl

theorem notBehind_iff (p q : DetectedPort) : notBehind config p q = true ↔
    (group config p).rank ≤ (group config q).rank := by
  have hkey (port : DetectedPort) : menuKey config port = match group config port with
      | .validator => toLex (false, false)
      | .known => toLex (true, false)
      | .unknown => toLex (true, true) := by
    unfold menuKey group
    by_cases hdevice : port.device = .itlUsb
    · simp [hdevice, isKnown_of_itlUsb hdevice]
    · cases hknown : isKnown config port <;> simp [hdevice]
  rw [notBehind, decide_eq_true_eq, hkey, hkey]
  cases group config p <;> cases group config q <;> decide

/-- A list in the order of its groups is made of its groups. -/
theorem eq_ordered_of_pairwise {items : List DetectedPort}
    (h : items.Pairwise fun p q => notBehind config p q = true) : ordered config items = items := by
  induction items with
  | nil => rfl
  | cons first rest ih =>
    obtain ⟨hfirst, hrest⟩ := List.pairwise_cons.mp h
    have hrank (p : DetectedPort) (hp : p ∈ rest) :
        (group config first).rank ≤ (group config p).rank := (notBehind_iff _ _).mp (hfirst p hp)
    have hnone (g : Group) (hg : g.rank < (group config first).rank) :
        (rest.filter fun p => group config p = g) = [] := by
      rw [List.filter_eq_nil_iff]
      intro p hp heq
      have hle := hrank p hp
      rw [of_decide_eq_true heq] at hle
      omega
    have hrest := ih hrest
    simp only [ordered, List.flatMap_cons, List.flatMap_nil, List.append_nil] at hrest ⊢
    cases hgroup : group config first with
    | validator => simp [hgroup, hrest]
    | known =>
      rw [hgroup] at hnone
      rw [hnone .validator (by decide), List.nil_append] at hrest
      simp [hgroup, hnone .validator (by decide), hrest]
    | unknown =>
      rw [hgroup] at hnone
      rw [hnone .validator (by decide), hnone .known (by decide), List.nil_append,
        List.nil_append] at hrest
      simp [hgroup, hnone .validator (by decide), hnone .known (by decide), hrest]

section Order

variable (config : Config) (p q r : DetectedPort)

theorem notBehind_trans (hpq : notBehind config p q = true) (hqr : notBehind config q r = true) :
    notBehind config p r = true := by
  rw [notBehind_iff] at *
  exact hpq.trans hqr

theorem notBehind_total : (notBehind config p q || notBehind config q p) = true := by
  rw [Bool.or_eq_true, notBehind_iff, notBehind_iff]
  exact Nat.le_total _ _

end Order

/-- Sorting keeps the order within a group. -/
theorem filter_mergeSort (config : Config) (ports : List DetectedPort) (g : Group) :
    ((ports.mergeSort (notBehind config)).filter fun p => group config p = g) =
      ports.filter fun p => group config p = g := by
  have hperm := (List.mergeSort_perm ports (notBehind config)).filter fun p => group config p = g
  refine (List.Sublist.eq_of_length ?_ hperm.length_eq.symm).symm
  have hsorted : (ports.filter fun p => group config p = g).Pairwise fun p q =>
      notBehind config p q = true := by
    refine List.pairwise_of_forall_mem_list fun p hp q hq => ?_
    rw [List.mem_filter, decide_eq_true_eq] at hp hq
    rw [notBehind_iff, hp.2, hq.2]
  have hkept := List.sublist_mergeSort (notBehind_trans config) (notBehind_total config) hsorted
    List.filter_sublist
  have hgroup := hkept.filter fun p => group config p = g
  rwa [List.filter_filter, funext fun p => Bool.and_self _] at hgroup

/-- The groups of the menu, one behind the other, are the ports in a stable sort. -/
theorem ordered_eq_mergeSort (config : Config) (ports : List DetectedPort) :
    ordered config ports = ports.mergeSort (notBehind config) := by
  have hsorted := List.pairwise_mergeSort (notBehind_trans config) (notBehind_total config) ports
  rw [← eq_ordered_of_pairwise hsorted]
  simp only [ordered, filter_mergeSort]

/-- How the ports of a menu are arranged. -/
structure Arranged (config : Config) (ports items : List DetectedPort) : Prop where
  /-- They are sorted by the key, and stay in their order where it is the same. -/
  sorted : items = ports.mergeSort (notBehind config)
  perm : items.Perm ports
  grouped : items.Pairwise fun p q => (group config p).rank ≤ (group config q).rank
  kept : ∀ g, (items.filter fun p => group config p = g) = ports.filter fun p => group config p = g

theorem arranged_ordered (config : Config) (ports : List DetectedPort) :
    Arranged config ports (ordered config ports) := by
  rw [ordered_eq_mergeSort]
  refine ⟨rfl, List.mergeSort_perm _ _, ?_, filter_mergeSort config ports⟩
  refine (List.pairwise_mergeSort (notBehind_trans config) (notBehind_total config) ports).imp ?_
  exact fun h => (notBehind_iff _ _).mp h

/-- The first line of the menu is found by looking three times. -/
theorem head?_ordered (config : Config) (ports : List DetectedPort) :
    (ordered config ports).head? = ((ports.find? fun p => p.device = .itlUsb)
      <|> (ports.find? (isKnown config)) <|> ports.head?) := by
  have hvalidator : (ports.find? fun p => group config p = .validator) =
      ports.find? fun p => p.device = .itlUsb := by
    refine List.find?_congr fun p _ => decide_eq_decide.mpr ?_
    unfold group
    split
    · simp [*]
    · split <;> simp [*]
  simp only [ordered, List.flatMap_cons, List.flatMap_nil, List.append_nil, List.head?_append,
    List.head?_filter, hvalidator]
  cases hitl : ports.find? fun p => p.device = .itlUsb with
  | some p => rfl
  | none =>
    rw [List.find?_eq_none] at hitl
    have hgroup (p : DetectedPort) (hp : p ∈ ports) :
        group config p = if isKnown config p then .known else .unknown :=
      if_neg (by simpa using hitl p hp)
    have hknown : (ports.find? fun p => group config p = .known) =
        ports.find? (isKnown config) := by
      refine List.find?_congr fun p hp => ?_
      rw [hgroup p hp]
      cases isKnown config p <;> rfl
    rw [hknown]
    cases hfirst : ports.find? (isKnown config) with
    | some p => rfl
    | none =>
      rw [List.find?_eq_none] at hfirst
      cases ports with
      | nil => rfl
      | cons p rest =>
        have hunknown := hgroup p List.mem_cons_self
        rw [if_neg (hfirst p List.mem_cons_self)] at hunknown
        simp [hunknown]

/-- Where ports are recognised by their kind, the first candidate of the menu is the port that is
picked from all ports. -/
theorem head?_candidates (hnone : config.port.usbDevices = []) (listAll : Bool)
    (ports : List DetectedPort) :
    (ordered config (candidates config listAll ports)).head? = DetectedPort.pick? ports := by
  have hknown : isKnown config = fun p => p.device.isKnown := by
    funext p
    unfold isKnown
    rw [hnone]
    split <;> simp
  rw [head?_ordered, DetectedPort.pick?]
  unfold candidates
  dsimp only
  split
  · rw [hknown]
  · next hsome =>
    rw [Bool.or_eq_true, not_or, List.isEmpty_iff] at hsome
    obtain ⟨p, hp⟩ := Option.isSome_iff_exists.mp (List.isSome_head?.mpr hsome.2)
    have hitl : ((ports.filter (isKnown config)).find? fun p => p.device = .itlUsb) =
        ports.find? fun p => p.device = .itlUsb := by
      rw [List.find?_filter]
      refine List.find?_congr fun p _ => decide_eq_decide.mpr ?_
      rw [decide_eq_true_eq]
      exact and_iff_right_of_imp isKnown_of_itlUsb
    have hagain : (ports.filter (isKnown config)).find? (isKnown config) =
        ports.find? (isKnown config) := by
      rw [List.find?_filter]
      simp
    rw [List.head?_filter] at hp
    rw [hitl, hagain, hp, ← hknown, hp]
    rfl

end PortChoice

end SspUpdate
