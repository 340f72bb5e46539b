import SspUpdate.Proofs.Selection

/-!
# Whether a chosen port is recognised

A chosen port comes with a flag that is meant to say whether the port is
recognised; one that is not is offered to be remembered. On two ways the flag
denies a port that is recognised: a port chosen by name is recognised by its
kind only, and one that the user is asked to confirm counts as not recognised
at all. Only the second has a consequence, an offer to remember a port whose
kind is known anyway.
-/

namespace SspUpdate

namespace PortChoice

variable {config : Config} {request : PortRequest} {ports : List DetectedPort}
  {port : DetectedPort} {selected : SelectedPort} {name : String}

/-- The USB device behind the port was remembered. -/
def isRemembered (config : Config) (port : DetectedPort) : Bool :=
  match port.vidPid? with
  | some (vid, pid) => config.port.usbDevices.contains ⟨vid, pid⟩
  | none => false

theorem isKnown_eq (config : Config) (port : DetectedPort) :
    isKnown config port = (port.device.isKnown || isRemembered config port) := rfl

/-- A recognised port that is said not to be. -/
def Misjudged (config : Config) (request : PortRequest) (ports : List DetectedPort)
    (port : DetectedPort) : Prop :=
  isKnown config port = true ∧
    if (named config request).isSome then port.device.isKnown = false
    else request.nonInteractive = false ∧ request.confirmPort = true ∧
      candidates config request.listAll ports = [port]

theorem misjudged_named (hname : named config request = some name) :
    Misjudged config request ports port ↔
      isKnown config port = true ∧ port.device.isKnown = false := by
  simp [Misjudged, hname]

theorem misjudged_unnamed (hname : named config request = none) :
    Misjudged config request ports port ↔ isKnown config port = true ∧
      request.nonInteractive = false ∧ request.confirmPort = true ∧
        candidates config request.listAll ports = [port] := by
  simp [Misjudged, hname]

/-- A port of a known kind that is offered to be remembered. -/
def Pestered (config : Config) (request : PortRequest) (ports : List DetectedPort)
    (port : DetectedPort) : Prop :=
  Misjudged config request ports port ∧ named config request = none ∧
    port.vidPid?.isSome ∧ isRemembered config port = false

theorem isKnown_byName (name : String) (ports : List DetectedPort) :
    (byName name ports).isKnown = (byName name ports).port.device.isKnown := by
  unfold byName
  dsimp only
  split <;> rfl

variable {δ : Type} {s s₁ : Station δ}

/-- The flag of a port that is named goes by the kind of the port alone. -/
theorem flag_of_named (hname : named config request = some name)
    (hselected : selected = byName name ports) :
    selected.isKnown = isKnown config selected.port ↔
      ¬ Misjudged config request ports selected.port := by
  have hflag : selected.isKnown = selected.port.device.isKnown :=
    hselected ▸ isKnown_byName name ports
  rw [hflag, misjudged_named hname, isKnown_eq]
  cases selected.port.device.isKnown <;> simp

/-- The flag of a port that was taken is right. -/
theorem flag_of_take (hname : named config request = none)
    (h : (Proposal.take selected).Fits config request ports) :
    selected.isKnown = isKnown config selected.port ↔
      ¬ Misjudged config request ports selected.port := by
  refine iff_of_true h.2.1 fun hmis => ?_
  obtain ⟨-, hloud, hconfirm, hsole⟩ := (misjudged_unnamed hname).mp hmis
  exact not_mustAsk_of_take h ⟨hloud, .inr ⟨_, hsole, .inr hconfirm⟩⟩

/-- A port that was confirmed counts as not recognised, one of a menu as what it is. -/
theorem flag_of_answer {keys : List Key} (hname : named config request = none)
    (hmust : MustAsk config request ports)
    (h : Answered config request ports keys (.ok selected)) :
    selected.isKnown = isKnown config selected.port ↔
      ¬ Misjudged config request ports selected.port := by
  rw [misjudged_unnamed hname]
  cases h with
  | chosen _ hmany =>
    refine iff_of_true rfl fun ⟨_, _, _, hsole⟩ => ?_
    simp [hsole] at hmany
  | @confirmed port _ hsole =>
    obtain ⟨hloud, hmany | ⟨p, hp, hunknown | hconfirm⟩⟩ := hmust
    · simp [hsole] at hmany
    · obtain rfl : p = port := by simpa using hp.symm.trans hsole
      simp [hunknown]
    · rw [and_iff_left ⟨hloud, hconfirm, hsole⟩, Bool.not_eq_true]
      exact eq_comm

theorem portName_eq (h : select config request s = .ok selected s₁) :
    portName config request s =
      (if !selected.isKnown && !request.nonInteractive && request.port.isNone then do
        let config ← offerToRemember config selected.port
        return (selected.port.name, config)
      else return (selected.port.name, config) : StationM δ (String × Config)) s₁ := by
  have hselect : select config request s = Station.finished s₁ (.ok selected) := h
  exact Station.bind_ok hselect _

/-- A port that is no USB device, or is remembered, is not offered. -/
theorem offerToRemember_spares (h : port.vidPid? = none ∨ isRemembered config port = true)
    (s : Station δ) : offerToRemember config port s = Station.finished s (.ok config) := by
  unfold offerToRemember
  obtain hid | hold := h
  · simp only [hid]
    rfl
  · unfold isRemembered at hold
    split at hold
    · next hid =>
      simp only [hid, if_pos hold]
      rfl
    · cases hold

theorem remember_shows (config : Config) (device : UsbDevice) (s : Station δ) :
    ∃ r, Station.Shows (Station.remember config device) s (.ok r) := by
  let r := config.remember s.files s.env device
  exact ⟨_, _, rfl, ⟨(r.log.map .log).reverse, rfl⟩, rfl⟩

/-- Remembering ends with a configuration, also where it could not be saved. -/
theorem remembering_shows (config : Config) (device : UsbDevice) (s : Station δ) :
    ∃ r, Station.Shows (do
      let (saved, config) ← Station.remember config device
      if let .error e := saved then
        Station.log .error Target.serial ("Failed to save port configuration: " ++ e.message)
      return config) s r := by
  obtain ⟨⟨saved, config'⟩, hremember⟩ := remember_shows config device s
  refine ⟨.ok config', hremember.andThen fun s₁ => ?_⟩
  cases saved with
  | ok _ => exact (Station.Gives.value config' s₁).shows
  | error e =>
    exact ((Station.log_gives _ _ _ s₁).first fun s₂ _ => .value config' s₂).shows

/-- Any other port is offered, on a terminal. -/
theorem offerToRemember_asks {t : Terminal} (hid : port.vidPid?.isSome)
    (hnew : isRemembered config port = false) (ht : s.terminal = some t) :
    ∃ r, Station.Asks (offerToRemember config port) s r := by
  obtain ⟨⟨vid, pid⟩, hid⟩ := Option.isSome_iff_exists.mp hid
  simp only [isRemembered, hid] at hnew
  have hterm : (Station.hasTerminal : StationM δ Bool) s = Station.finished s (.ok true) := by
    change Station.finished s (.ok s.terminal.isSome) = _
    rw [ht]
    rfl
  have hasks := Station.confirm_asks ht ("Remember USB device " ++
      Text.upperHex 4 vid.toNat ++ ":" ++ Text.upperHex 4 pid.toNat ++ " for auto-detection?") false
  generalize (Confirm.ask false t.keys).1.outcome.map _ = reply at hasks
  simp only [Station.Asks, offerToRemember, hid, hnew, Bool.false_eq_true, if_false,
    Station.bind_ok hterm]
  cases reply with
  | error f => exact ⟨_, hasks.failed _⟩
  | ok b =>
    refine hasks.before fun s₁ => ?_
    cases b with
    | true => exact remembering_shows config ⟨vid, pid⟩ s₁
    | false => exact ⟨_, (Station.Gives.value config s₁).shows⟩

theorem offered_asks {t : Terminal} (name : String) (hid : port.vidPid?.isSome)
    (hnew : isRemembered config port = false) (ht : s.terminal = some t) :
    ∃ r, Station.Asks (do return (name, ← offerToRemember config port)) s r := by
  obtain ⟨r, hasks⟩ := offerToRemember_asks hid hnew ht
  cases r with
  | error f => exact ⟨_, hasks.failed _⟩
  | ok config' => exact hasks.before fun s₁ => ⟨_, (Station.Gives.value _ s₁).shows⟩

theorem ends_of_ok (hname : named config request = none)
    (h : select config request s = .ok selected s₁) :
    Ending config request s (.ok selected) s₁ := by
  obtain ⟨hport, hserial⟩ := Option.or_eq_none_iff.mp hname
  obtain ⟨r, s', he, hends⟩ := select_ends hport hserial s
  rw [h] at he
  cases r with
  | error f => cases he
  | ok chosen =>
    injection he with hchosen hs'
    rwa [hchosen, hs']

theorem flag_iff (h : select config request s = .ok selected s₁) :
    selected.isKnown = isKnown config selected.port ↔
      ¬ Misjudged config request s.detected selected.port := by
  cases hname : named config request with
  | some name =>
    obtain ⟨s', he, -⟩ := select_named hname s
    rw [h] at he
    injection he with hselected
    exact flag_of_named hname hselected
  | none =>
    cases ends_of_ok hname h with
    | taken htake => exact flag_of_take hname htake
    | asked hmust _ hr => exact flag_of_answer hname hmust hr

theorem flag_of_misjudged (h : select config request s = .ok selected s₁)
    (hmis : Misjudged config request s.detected selected.port) : selected.isKnown = false := by
  rw [Bool.eq_false_iff]
  intro hflag
  exact (flag_iff h).mp (hflag.trans hmis.1.symm) hmis

/-- A misjudged port was remembered, or is of a known kind and will be offered to be. -/
theorem Misjudged.spared_or_pestered (h : Misjudged config request ports port) :
    port.vidPid? = none ∨ isRemembered config port = true ∨ Pestered config request ports port := by
  cases hname : named config request with
  | some name =>
    obtain ⟨hknown, hkind⟩ := (misjudged_named hname).mp h
    rw [isKnown_eq, hkind, Bool.false_or] at hknown
    exact .inr (.inl hknown)
  | none =>
    cases hid : port.vidPid? with
    | none => exact .inl rfl
    | some id =>
      cases hnew : isRemembered config port with
      | true => exact .inr (.inl rfl)
      | false => exact .inr (.inr ⟨h, hname, by rw [hid]; rfl, hnew⟩)

/-- What the flag of a chosen port says, and what comes of it when the port is recognised. -/
structure Judged (config : Config) (request : PortRequest) (s : Station δ)
    (selected : SelectedPort) (s₁ : Station δ) : Prop where
  /-- The flag is right, unless the port is misjudged. -/
  flag : selected.isKnown = isKnown config selected.port ↔
    ¬ Misjudged config request s.detected selected.port
  /-- A recognised port is used without more ado. -/
  spared : isKnown config selected.port = true →
    ¬ Pestered config request s.detected selected.port →
      portName config request s = .ok (selected.port.name, config) s₁
  /-- The exception is a port of a known kind, and is offered to be remembered. -/
  pestered : Pestered config request s.detected selected.port →
    selected.port.device.isKnown = true ∧
      ∃ r s₂, portName config request s = Station.finished s₂ r ∧ s₁.Asked s₂

/-- A recognised port counts as recognised, but for two cases. -/
theorem select_judges (h : select config request s = .ok selected s₁) :
    Judged config request s selected s₁ := by
  refine ⟨flag_iff h, fun hknown hspared => ?_, fun hpest => ?_⟩
  · rw [portName_eq h]
    split
    · next hoffer =>
      simp only [Bool.and_eq_true, Bool.not_eq_true'] at hoffer
      obtain ⟨⟨hflag, -⟩, -⟩ := hoffer
      have hmis : Misjudged config request s.detected selected.port := by
        by_contra hjust
        cases hflag.symm.trans (((flag_iff h).mpr hjust).trans hknown)
      have hold : selected.port.vidPid? = none ∨ isRemembered config selected.port = true :=
        hmis.spared_or_pestered.imp_right fun hold => hold.resolve_right hspared
      exact Station.bind_ok (offerToRemember_spares hold s₁) _
    · rfl
  · obtain ⟨hmis, hname, hid, hnew⟩ := hpest
    obtain ⟨hknown, hloud, -, -⟩ := (misjudged_unnamed hname).mp hmis
    rw [isKnown_eq, hnew, Bool.or_false] at hknown
    refine ⟨hknown, ?_⟩
    have hport : request.port = none := (Option.or_eq_none_iff.mp hname).1
    rw [portName_eq h, if_pos (by simp [flag_of_misjudged h hmis, hloud, hport])]
    cases ends_of_ok hname h with
    | taken htake => exact absurd hmis ((flag_of_take hname htake).mp htake.2.1)
    | asked _ _ _ _ hterm =>
      obtain ⟨t, ht⟩ := Option.isSome_iff_exists.mp hterm
      obtain ⟨r, s₂, he, ha, -⟩ := offered_asks selected.port.name hid hnew ht
      exact ⟨r, s₂, he, ha⟩

/-- A port whose device was remembered, beside one that nothing is known of, is used as it is. -/
theorem select_judges_remembered :
    let config : Config := { port := { usbDevices := [⟨0x9999, 1⟩] } }
    ∃ s₁, portName config {} (.desk [.unknown "COM1", .usb "COM2" 0x9999 1 none none none] []) =
      .ok ("COM2", config) s₁ := by
  intro config
  let port : DetectedPort := .usb "COM2" 0x9999 1 none none none
  let s : Station Unit := .desk [.unknown "COM1", port] []
  have hknown : isKnown config port = true := by decide
  obtain ⟨s₁, h⟩ : ∃ s₁, select config {} s = .ok ⟨port, true⟩ s₁ := ⟨_, rfl⟩
  exact ⟨s₁, (select_judges h).spared hknown fun hpest => by cases hpest.2.2.2⟩

/-- A validator that the user confirms is said not to be recognised, and offered to be
remembered. -/
theorem select_disowns_confirmed :
    let port : DetectedPort := .usb "COM1" 0x191C 0x4104 none none none
    let s : Station Unit := .desk [port] [.char 'y', .char 'n']
    isKnown {} port = true ∧
      (∃ s₁, select {} { confirmPort := true } s = .ok ⟨port, false⟩ s₁) ∧
      ∃ s₂, portName {} { confirmPort := true } s = .ok ("COM1", {}) s₂ ∧
        .shown (Confirm.render "Remember USB device 191C:4104 for auto-detection?" false) ∈
          s₂.output := by
  refine ⟨by decide, ⟨_, rfl⟩, _, rfl, ?_⟩
  decide +kernel

end PortChoice

end SspUpdate
