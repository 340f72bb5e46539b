import SspUpdate.PortChoice
import SspUpdate.Proofs.Questions

/-!
# Which port is chosen, and what is asked before

Firmware must not go to a port that nobody meant. Where neither the caller nor
the configuration names a port, the port that is chosen is one of the machine,
a recognised one where there is one, and the user has agreed to it unless there
was nothing to decide. Where the user would have to be asked and cannot be, the
choice fails, and where the user does not agree, it is cancelled.
-/

namespace SspUpdate

/-- The ports that an enumeration finds here. -/
def Station.detected {δ : Type} (s : Station δ) : List DetectedPort :=
  DetectedPort.ofEnumeration s.ports

namespace PortChoice

variable {config : Config} {request : PortRequest} {listAll : Bool} {ports : List DetectedPort}
  {port : DetectedPort}

theorem mem_candidates : port ∈ candidates config listAll ports ↔
    port ∈ ports ∧ (listAll = true ∨ isKnown config port = true ∨
      ∀ p ∈ ports, isKnown config p = false) := by
  unfold candidates
  dsimp only
  split
  case isTrue h =>
    rw [Bool.or_eq_true, List.isEmpty_iff, List.filter_eq_nil_iff] at h
    refine ⟨fun hport => ⟨hport, h.imp_right fun hnone => .inr ?_⟩, And.left⟩
    exact fun p hp => Bool.eq_false_iff.mpr (hnone p hp)
  case isFalse h =>
    simp only [Bool.or_eq_true, not_or, List.isEmpty_iff, List.filter_eq_nil_iff] at h
    obtain ⟨hall, hsome⟩ := h
    rw [List.mem_filter]
    refine and_congr_right fun _ => ⟨fun hknown => .inr (.inl hknown), ?_⟩
    rintro (hlist | hknown | hnone)
    · exact absurd hlist hall
    · exact hknown
    · exact absurd (fun p hp => by simp [hnone p hp]) hsome

theorem mem_of_mem_candidates (h : port ∈ candidates config listAll ports) : port ∈ ports :=
  (mem_candidates.mp h).1

/-- Where a port is recognised, all candidates are, unless all ports are wanted. -/
theorem isKnown_of_mem_candidates (hsome : ∃ p ∈ ports, isKnown config p = true)
    (h : port ∈ candidates config false ports) : isKnown config port = true := by
  obtain ⟨p, hp, hknown⟩ := hsome
  obtain ⟨-, hlist | hport | hnone⟩ := mem_candidates.mp h
  · cases hlist
  · exact hport
  · rw [hnone p hp] at hknown
    cases hknown

theorem candidates_ne_nil (h : ports ≠ []) : candidates config listAll ports ≠ [] := by
  unfold candidates
  dsimp only
  split
  case isTrue => exact h
  case isFalse hsome =>
    rw [Bool.or_eq_true, not_or, List.isEmpty_iff] at hsome
    exact hsome.2

/-- No port can be taken unless the user agrees. -/
def MustAsk (config : Config) (request : PortRequest) (ports : List DetectedPort) : Prop :=
  request.nonInteractive = false ∧
    (2 ≤ (candidates config request.listAll ports).length ∨
      ∃ port, candidates config request.listAll ports = [port] ∧
        (isKnown config port = false ∨ request.confirmPort = true))

/-- When a proposal is the right one. -/
def Proposal.Fits (config : Config) (request : PortRequest) (ports : List DetectedPort) :
    Proposal → Prop
  | .take selected =>
    candidates config request.listAll ports = [selected.port] ∧
      selected.isKnown = isKnown config selected.port ∧
      (request.nonInteractive = true ∨
        isKnown config selected.port = true ∧ request.confirmPort = false)
  | .confirm port =>
    candidates config request.listAll ports = [port] ∧ MustAsk config request ports
  | .menu items =>
    items = candidates config request.listAll ports ∧ 2 ≤ items.length ∧
      MustAsk config request ports
  | .refuse reason =>
    reason = .noPorts ∧ ports = [] ∨
      reason = .severalPorts ∧ request.nonInteractive = true ∧
        2 ≤ (candidates config request.listAll ports).length

theorem propose_fits (config : Config) (request : PortRequest) (ports : List DetectedPort) :
    (propose config request ports).Fits config request ports := by
  unfold propose
  split
  · next hempty => exact .inl ⟨rfl, List.isEmpty_iff.mp hempty⟩
  next hports =>
  have hne : candidates config request.listAll ports ≠ [] :=
    candidates_ne_nil fun h => hports (List.isEmpty_iff.mpr h)
  dsimp only
  match hc : candidates config request.listAll ports with
  | [] => exact absurd hc hne
  | [port] =>
    by_cases hquiet : request.nonInteractive = true
    · rw [if_pos hquiet]
      exact ⟨hc, rfl, .inl hquiet⟩
    rw [if_neg hquiet]
    dsimp only
    by_cases htake : isKnown config port = true ∧ request.confirmPort = false
    · rw [if_pos (by simpa using htake)]
      exact ⟨hc, htake.1.symm, .inr htake⟩
    · rw [if_neg (by simpa using htake)]
      have hdoubt : isKnown config port = false ∨ request.confirmPort = true :=
        (Decidable.not_and_iff_not_or_not.mp htake).imp eq_false_of_ne_true
          eq_true_of_ne_false
      exact ⟨hc, by simpa using hquiet, .inr ⟨port, hc, hdoubt⟩⟩
  | p :: q :: rest =>
    by_cases hquiet : request.nonInteractive = true
    · rw [if_pos hquiet]
      exact .inr ⟨rfl, hquiet, by simp [hc]⟩
    · rw [if_neg hquiet]
      exact ⟨hc.symm, by simp, by simpa using hquiet, .inl (by simp [hc])⟩

theorem MustAsk.ne_nil (h : MustAsk config request ports) : ports ≠ [] := by
  rintro rfl
  have hnone : candidates config request.listAll [] = [] :=
    List.eq_nil_iff_forall_not_mem.mpr fun p hp => List.not_mem_nil (mem_of_mem_candidates hp)
  obtain ⟨-, hmany | ⟨port, hsole, -⟩⟩ := h
  · simp [hnone] at hmany
  · simp [hnone] at hsole

theorem not_mustAsk_of_refuse {reason : Refusal}
    (h : (Proposal.refuse reason).Fits config request ports) : ¬ MustAsk config request ports := by
  intro hmust
  obtain ⟨-, hnone⟩ | ⟨-, hquiet, -⟩ := h
  · exact hmust.ne_nil hnone
  · exact Bool.eq_false_iff.mp hmust.1 hquiet

theorem not_mustAsk_of_take {selected : SelectedPort}
    (h : (Proposal.take selected).Fits config request ports) : ¬ MustAsk config request ports := by
  rintro ⟨hloud, hdoubt⟩
  obtain ⟨hsole, -, hquiet | ⟨hknown, hconfirm⟩⟩ := h
  · exact Bool.eq_false_iff.mp hloud hquiet
  · obtain hmany | ⟨port, hport, hunknown | hconfirm'⟩ := hdoubt
    · simp [hsole] at hmany
    · obtain rfl : selected.port = port := by simpa using hsole.symm.trans hport
      exact Bool.eq_false_iff.mp hunknown hknown
    · exact Bool.eq_false_iff.mp hconfirm hconfirm'

/-- The keys do not agree: the first that counts leaves or interrupts the menu or the question, or
says no. -/
def Declined (config : Config) (request : PortRequest) (ports : List DetectedPort)
    (keys : List Key) : Prop :=
  if 2 ≤ (candidates config request.listAll ports).length then
    ∃ key, keys.find? Key.endsMenu = some key ∧ key.givesUp = true
  else
    ∃ key, keys.find? Key.endsConfirm = some key ∧ (key.givesUp = true ∨ key.saysNo = true)

theorem declined_menu {keys : List Key}
    (hmany : 2 ≤ (candidates config request.listAll ports).length) :
    Declined config request ports keys ↔
      ∃ key, keys.find? Key.endsMenu = some key ∧ key.givesUp = true := by
  rw [Declined, if_pos hmany]

theorem declined_confirm {keys : List Key}
    (hport : candidates config request.listAll ports = [port]) :
    Declined config request ports keys ↔
      ∃ key, keys.find? Key.endsConfirm = some key ∧
        (key.givesUp = true ∨ key.saysNo = true) := by
  rw [Declined, if_neg (by simp [hport])]

/-- What a choice comes to that the user is asked for. -/
inductive Answered (config : Config) (request : PortRequest) (ports : List DetectedPort)
    (keys : List Key) : Except Failure SelectedPort → Prop
  | waiting (h : ¬ Declined config request ports keys) :
    Answered config request ports keys (.error Station.noKey)
  | declined (h : Declined config request ports keys) :
    Answered config request ports keys (.error cancelled)
  | chosen {port : DetectedPort} (h : ¬ Declined config request ports keys)
      (hmany : 2 ≤ (candidates config request.listAll ports).length)
      (hport : port ∈ candidates config request.listAll ports) :
    Answered config request ports keys (.ok ⟨port, isKnown config port⟩)
  | confirmed {port : DetectedPort} (h : ¬ Declined config request ports keys)
      (hport : candidates config request.listAll ports = [port]) :
    Answered config request ports keys (.ok ⟨port, false⟩)

theorem Answered.candidate {keys : List Key} {selected : SelectedPort}
    (h : Answered config request ports keys (.ok selected)) :
    selected.port ∈ candidates config request.listAll ports := by
  cases h with
  | chosen _ _ hport => exact hport
  | confirmed _ hport => simp [hport]

theorem Answered.of_declined {keys : List Key} {r : Except Failure SelectedPort}
    (h : Answered config request ports keys r) (hno : Declined config request ports keys) :
    r = .error cancelled := by
  cases h with
  | declined => rfl
  | waiting h | chosen h | confirmed h => exact absurd hno h

theorem mem_ordered : port ∈ ordered config ports ↔ port ∈ ports := by
  unfold ordered
  simp only [List.mem_flatMap, List.mem_filter, decide_eq_true_eq]
  refine ⟨fun ⟨_, _, hport, _⟩ => hport, fun hport => ⟨group config port, ?_, hport, rfl⟩⟩
  cases group config port <;> simp

variable {δ : Type} {s : Station δ} {t : Terminal}

/-- A menu of all candidates gives one of them, unless the user leaves it. -/
theorem menu_asks {items : List DetectedPort} {labels : List String} (title : String)
    (hmany : 2 ≤ (candidates config request.listAll ports).length)
    (hitems : ∀ p, p ∈ items ↔ p ∈ candidates config request.listAll ports)
    (hlabels : labels.length = items.length) :
    ∃ r, Answered config request ports t.keys r ∧
      ∀ s : Station δ, s.terminal = some t →
        Station.Asks (Station.choose title labels >>= fun
          | none => Station.raise cancelled
          | some index =>
            match items[index]? with
            | some port => return ⟨port, isKnown config port⟩
            | none => Station.raise (.other s!"Invalid port index: {index}")) s r := by
  have hcount : (Menu.on t title labels).count = items.length := hlabels
  have hpos : 0 < items.length := by
    obtain ⟨p, hp⟩ := List.exists_mem_of_length_pos (Nat.zero_lt_of_lt hmany)
    exact List.length_pos_of_mem ((hitems p).mpr hp)
  have hreply := Menu.ask_follows t.keys (hcount ▸ hpos)
  have hasks (s : Station δ) (ht : s.terminal = some t) := Station.choose_asks ht title labels
  generalize ((Menu.on t title labels).ask 0 t.keys).1 = reply at hreply hasks
  cases hreply with
  | waiting h =>
    exact ⟨_, .waiting (by simp [declined_menu hmany, h]), fun s ht => (hasks s ht).failed _⟩
  | cancelled h hup =>
    refine ⟨_, .declined ((declined_menu hmany).mpr ⟨_, h, hup⟩), fun s ht => ?_⟩
    exact (hasks s ht).andThen fun s' => (Station.Gives.raised cancelled s').shows
  | interrupted h =>
    exact ⟨_, .declined ((declined_menu hmany).mpr ⟨_, h, rfl⟩), fun s ht => (hasks s ht).failed _⟩
  | @given key index h hup hindex =>
    have hagreed : ¬ Declined config request ports t.keys := by simp [declined_menu hmany, h, hup]
    rw [hcount] at hindex
    have hport := (hitems _).mp (List.getElem_mem hindex)
    refine ⟨_, .chosen hagreed hmany hport, fun s ht => (hasks s ht).andThen fun s' => ?_⟩
    simp only [List.getElem?_eq_getElem hindex]
    exact (Station.Gives.value _ s').shows

/-- The menu that ports are offered in. -/
def offered (config : Config) (colors : Bool) (t : Terminal) (ports : List DetectedPort) : Menu :=
  Menu.on t "Select the validator's serial port" ((ordered config ports).map fun p =>
    Text.truncate (t.width - 4) (label colors config p))

/-- Behind the messages in front of it, the menu is what decides. -/
theorem chooseFrom_eq (config : Config) (ports : List DetectedPort) (ht : s.terminal = some t) :
    ∃ s', s.Wrote s.serial s' ∧ chooseFrom config ports s =
      (Station.choose "Select the validator's serial port"
          (offered config s.colors t ports).items >>= fun
        | none => Station.raise cancelled
        | some index =>
          match (ordered config ports)[index]? with
          | some port => return ⟨port, isKnown config port⟩
          | none => Station.raise (.other s!"Invalid port index: {index}")) s' := by
  obtain ⟨s₁, hrequire, h₁⟩ := Station.requireTerminal_gives ht
  obtain ⟨s₂, hinfo, h₂⟩ := Station.paint_gives (.plain .blue) "ℹ" s₁
  obtain ⟨s₃, hcount, h₃⟩ := Station.say_gives ((Text.Style.plain .blue).paint s₁.colors "ℹ" ++
    s!" Found {ports.length} serial ports") s₂
  obtain ⟨s₄, hdim, h₄⟩ := Station.paint_gives { attributes := [.dim] }
    "Recognised validators and USB bridges are listed first" s₃
  obtain ⟨s₅, hsay, h₅⟩ := Station.say_gives _ s₄
  have hw := (((h₁.more h₂).more h₃).more h₄).more h₅
  refine ⟨s₅, hw, ?_⟩
  rw [chooseFrom, Station.bind_ok hrequire, Station.bind_ok hinfo, Station.bind_ok hcount,
    Station.bind_ok hdim, Station.bind_ok hsay, ← hw.colors_eq]
  rfl

theorem chooseFrom_asks (ht : s.terminal = some t)
    (hmany : 2 ≤ (candidates config request.listAll ports).length) :
    ∃ r, Station.Asks (chooseFrom config (candidates config request.listAll ports)) s r ∧
      Answered config request ports t.keys r := by
  obtain ⟨s₁, hw, he⟩ := chooseFrom_eq config (candidates config request.listAll ports) ht
  obtain ⟨r, hr, hasks⟩ := menu_asks (δ := δ) (t := t) "Select the validator's serial port" hmany
    (fun p => mem_ordered) (List.length_map fun p =>
      Text.truncate (t.width - 4) (label s.colors config p))
  obtain ⟨s₂, he', ha, hterm⟩ := hasks s₁ (hw.terminal_eq.trans ht)
  exact ⟨r, ⟨s₂, he.trans he', hw.onward.asked ha, hterm⟩, hr⟩

/-- A question gives the port it is about, unless the user does not agree. -/
theorem confirmUse_asks (ht : s.terminal = some t)
    (hport : candidates config request.listAll ports = [port]) :
    ∃ r, Station.Asks (confirmUse port) s r ∧ Answered config request ports t.keys r := by
  have hreply := Confirm.ask_follows true t.keys
  have hasks (question : String) := Station.confirm_asks ht question true
  generalize (Confirm.ask true t.keys).1 = reply at hreply hasks
  cases hreply with
  | waiting h => exact ⟨_, (hasks _).failed _, .waiting (by simp [declined_confirm hport, h])⟩
  | cancelled h hup =>
    refine ⟨_, (hasks _).andThen fun s' => (Station.Gives.raised cancelled s').shows, .declined ?_⟩
    exact (declined_confirm hport).mpr ⟨_, h, .inl hup⟩
  | interrupted h =>
    exact ⟨_, (hasks _).failed _, .declined ((declined_confirm hport).mpr ⟨_, h, .inl rfl⟩)⟩
  | @given key b h hup hmeans =>
    have hno := hmeans.saysNo
    cases b with
    | true =>
      refine ⟨_, (hasks _).andThen fun s' => (Station.Gives.value _ s').shows, .confirmed ?_ hport⟩
      simp [declined_confirm hport, h, hup, hno]
    | false =>
      refine ⟨_, (hasks _).andThen fun s' => (Station.Gives.raised cancelled s').shows, .declined ?_⟩
      exact (declined_confirm hport).mpr ⟨key, h, .inr hno⟩

/-- The name of a port that the caller gives, or else the configuration. -/
def named (config : Config) (request : PortRequest) : Option String :=
  request.port.or config.port.connection.serial

/-- A port that is named is chosen without a question. -/
theorem select_named {name : String} (hname : named config request = some name) (s : Station δ) :
    Station.Gives (select config request) s (.ok (byName name s.detected)) s.serial := by
  unfold select
  cases hport : request.port with
  | some given =>
    obtain rfl : given = name := by simpa [named, hport] using hname
    exact (Station.detect_gives s).first fun s₁ _ => .value _ s₁
  | none =>
    have hserial : config.port.connection.serial = some name := by simpa [named, hport] using hname
    simp only [hserial]
    refine (Station.log_gives _ _ _ s).first fun s₁ hw => ?_
    refine (Station.detect_gives s₁).first fun s₂ _ => ?_
    rw [Station.detected, ← hw.ports_eq]
    exact .value _ s₂

/-- How the choice among the ports of the machine ends. -/
inductive Ending (config : Config) (request : PortRequest) (s : Station δ) :
    Except Failure SelectedPort → Station δ → Prop
  | refused {s' : Station δ} {reason : Refusal}
      (h : (Proposal.refuse reason).Fits config request s.detected)
      (hw : s.Wrote s.serial s') : Ending config request s (.error reason.failure) s'
  | taken {s' : Station δ} {selected : SelectedPort}
      (h : (Proposal.take selected).Fits config request s.detected)
      (hw : s.Wrote s.serial s') : Ending config request s (.ok selected) s'
  | mute {s' : Station δ} (h : MustAsk config request s.detected) (ht : s.terminal = none)
      (hw : s.Wrote s.serial s') : Ending config request s (.error Station.noTerminal) s'
  | asked {s' : Station δ} {t : Terminal} {r : Except Failure SelectedPort}
      (h : MustAsk config request s.detected) (ht : s.terminal = some t)
      (hr : Answered config request s.detected t.keys r) (ha : s.Asked s')
      (hterm : s'.terminal.isSome) : Ending config request s r s'

/-- What the user is asked for ends as the user answers, or not at all. -/
theorem ends_of_asking {act : StationM δ SelectedPort} {s₁ : Station δ}
    (hw : s.Wrote s.serial s₁) (hmust : MustAsk config request s.detected)
    (hmute : s₁.terminal = none → Station.Gives act s₁ (.error Station.noTerminal) s₁.serial)
    (hasks : ∀ t, s₁.terminal = some t → ∃ r, Station.Asks act s₁ r ∧
      Answered config request s.detected t.keys r) :
    ∃ r s', act s₁ = Station.finished s' r ∧ Ending config request s r s' := by
  cases ht : s₁.terminal with
  | none =>
    obtain ⟨s', he, hw'⟩ := hmute ht
    exact ⟨_, s', he, .mute hmust (hw.terminal_eq.symm.trans ht) (hw.more hw')⟩
  | some t =>
    obtain ⟨r, ⟨s', he, ha, hterm⟩, hr⟩ := hasks t ht
    exact ⟨r, s', he, .asked hmust (hw.terminal_eq.symm.trans ht) hr (hw.onward.asked ha) hterm⟩

/-- Every way a choice can end, where neither the caller nor the configuration names a port. -/
theorem select_ends (hport : request.port = none)
    (hserial : config.port.connection.serial = none) (s : Station δ) :
    ∃ r s', select config request s = Station.finished s' r ∧ Ending config request s r s' := by
  obtain ⟨s₁, hdetect, hw⟩ := Station.detect_gives s
  have hfits := propose_fits config request s.detected
  simp only [select, hport, hserial]
  rw [Station.bind_ok hdetect, ← Station.detected]
  generalize propose config request s.detected = proposal at hfits ⊢
  cases proposal with
  | refuse reason => exact ⟨_, s₁, rfl, .refused hfits hw⟩
  | menu items =>
    obtain ⟨rfl, hmany, hmust⟩ := hfits
    exact ends_of_asking hw hmust (fun ht => Station.gives_noTerminal ht _) fun t ht =>
      chooseFrom_asks ht hmany
  | confirm port =>
    exact ends_of_asking hw hfits.2 (fun ht => (Station.gives_noTerminal ht _).failed _) fun t ht =>
      confirmUse_asks ht hfits.1
  | take selected =>
    have htake : Station.Gives (do
        if !request.nonInteractive then
          Station.log .info Target.serial ("Auto-selected port: " ++ selected.port.name ++ " [" ++
            selected.port.device.name ++ "]")
        return selected) s₁ (.ok selected) s₁.serial := by
      split
      · exact (Station.log_gives _ _ _ s₁).first fun s₂ _ => .value selected s₂
      · exact .value selected s₁
    obtain ⟨s₂, he, hw'⟩ := htake
    exact ⟨_, s₂, he, .taken hfits (hw.more hw')⟩

theorem Ending.candidate {selected : SelectedPort} {s' : Station δ}
    (h : Ending config request s (.ok selected) s') :
    selected.port ∈ candidates config request.listAll s.detected := by
  cases h with
  | taken h => simp [h.1]
  | asked _ _ hr => exact hr.candidate

/-- The user cannot be asked for a port. -/
def Unaskable (config : Config) (request : PortRequest) (s : Station δ) : Prop :=
  s.detected = [] ∨
    (request.nonInteractive = true ∧
      2 ≤ (candidates config request.listAll s.detected).length) ∨
    (MustAsk config request s.detected ∧ s.terminal = none)

theorem Unaskable.not_take {selected : SelectedPort} (h : Unaskable config request s) :
    ¬ (Proposal.take selected).Fits config request s.detected := by
  intro htake
  obtain hnone | ⟨-, hmany⟩ | ⟨hmust, -⟩ := h
  · have hport : selected.port ∈ candidates config request.listAll s.detected := by simp [htake.1]
    exact List.ne_nil_of_mem (mem_of_mem_candidates hport) hnone
  · simp [htake.1] at hmany
  · exact not_mustAsk_of_take htake hmust

theorem Unaskable.no_terminal (h : Unaskable config request s)
    (hmust : MustAsk config request s.detected) : s.terminal = none := by
  obtain hnone | ⟨hquiet, -⟩ | ⟨-, ht⟩ := h
  · exact absurd hnone hmust.ne_nil
  · exact absurd hquiet (Bool.eq_false_iff.mp hmust.1)
  · exact ht

/-- What a caller who names no port can rely on. -/
structure Guarded (config : Config) (request : PortRequest) (s : Station δ)
    (r : Except Failure SelectedPort) (s' : Station δ) : Prop where
  /-- Only a port of the machine is chosen. -/
  detected : ∀ selected, r = .ok selected → selected.port ∈ s.detected
  /-- It is a recognised one where there is one, unless all are wanted. -/
  recognised : ∀ selected, r = .ok selected → request.listAll = false →
    (∃ p ∈ s.detected, isKnown config p = true) → isKnown config selected.port = true
  /-- It is chosen without a question only if it is the one candidate, and nothing may be asked
  or it is recognised and need not be confirmed. -/
  agreed : ∀ selected, r = .ok selected → ¬ s.Asked s' →
    candidates config request.listAll s.detected = [selected.port] ∧
      (request.nonInteractive = true ∨
        isKnown config selected.port = true ∧ request.confirmPort = false)
  /-- Where nobody can be asked, the caller is told so, and no key is read. -/
  unasked : Unaskable config request s →
    (∃ text, r = .error (.usage text)) ∧ s'.terminal = s.terminal ∧ ¬ s.Asked s'
  /-- A user who does not agree cancels the choice. -/
  declined : ∀ t, s.terminal = some t → MustAsk config request s.detected →
    Declined config request s.detected t.keys → r = .error cancelled

/-- A port that nobody named is chosen only with consent, or where there is nothing to
decide. -/
theorem select_guarded (hport : request.port = none)
    (hserial : config.port.connection.serial = none) (s : Station δ) :
    ∃ r s', select config request s = Station.finished s' r ∧ Guarded config request s r s' := by
  obtain ⟨r, s', he, hends⟩ := select_ends hport hserial s
  refine ⟨r, s', he, ?_, ?_, ?_, ?_, ?_⟩
  · rintro selected rfl
    exact mem_of_mem_candidates hends.candidate
  · rintro selected rfl hlist hsome
    exact isKnown_of_mem_candidates hsome (hlist ▸ hends.candidate)
  · rintro selected rfl hunasked
    cases hends with
    | taken h => exact ⟨h.1, h.2.2⟩
    | asked _ _ _ ha => exact absurd ha hunasked
  · intro hcannot
    cases hends with
    | @refused _ reason h hw =>
      refine ⟨?_, hw.terminal_eq, hw.not_asked⟩
      cases reason <;> exact ⟨_, rfl⟩
    | taken h => exact absurd h hcannot.not_take
    | mute _ _ hw => exact ⟨⟨_, rfl⟩, hw.terminal_eq, hw.not_asked⟩
    | asked h ht => cases (hcannot.no_terminal h).symm.trans ht
  · intro t ht hmust hno
    cases hends with
    | refused h => exact absurd hmust (not_mustAsk_of_refuse h)
    | taken h => exact absurd hmust (not_mustAsk_of_take h)
    | mute _ hnone => cases hnone.symm.trans ht
    | asked _ ht' hr =>
      cases ht.symm.trans ht'
      exact hr.of_declined hno

end PortChoice

/-- A machine with these ports, and a terminal where these keys will be typed. -/
def Station.desk (ports : List DetectedPort) (keys : List Key) : Station Unit where
  env := []
  files := ⟨[], []⟩
  serial := .idle () false
  ports := .ok ports
  terminal := some { keys }
  colors := false
  patience := 0
  output := []

namespace PortChoice

/-- Of two ports that nothing is known of, none is taken if the menu is left or interrupted. -/
theorem select_guarded_left :
    (∃ s', select {} {} (.desk [.unknown "COM1", .unknown "COM2"] [.down, .escape]) =
      .error cancelled s') ∧
    ∃ s', select {} {} (.desk [.unknown "COM1", .unknown "COM2"] [.down, .interrupt, .enter]) =
      .error cancelled s' := by
  have hleft (keys : List Key)
      (hkeys : ∃ key, keys.find? Key.endsMenu = some key ∧ key.givesUp = true) :
      ∃ s', select {} {} (.desk [.unknown "COM1", .unknown "COM2"] keys) =
        .error cancelled s' := by
    let s : Station Unit := .desk [.unknown "COM1", .unknown "COM2"] keys
    have hmany : 2 ≤ (candidates {} false
        (DetectedPort.ofEnumeration (.ok [.unknown "COM1", .unknown "COM2"]))).length := by decide
    have hno : Declined {} {} s.detected keys := (declined_menu hmany).mpr hkeys
    obtain ⟨r, s', he, hguarded⟩ :
        ∃ r s', select {} {} s = Station.finished s' r ∧ Guarded {} {} s r s' :=
      select_guarded rfl rfl s
    obtain rfl := hguarded.declined _ rfl ⟨rfl, .inl hmany⟩ hno
    exact ⟨s', he⟩
  exact ⟨hleft _ ⟨.escape, rfl, rfl⟩, hleft _ ⟨.interrupt, rfl, rfl⟩⟩

end PortChoice

end SspUpdate
