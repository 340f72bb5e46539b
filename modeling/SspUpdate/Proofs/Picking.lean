import SspUpdate.Program.Inspect
import SspUpdate.Proofs.MenuOrder

/-!
# The menu, and the port that is picked without one

A line of the menu stands for the port that its label tells, and the port is
chosen that was marked last. The line marked at first is the port that would be
picked from all ports, the one announced with the list of ports, as long as no
USB devices are remembered.
-/

namespace SspUpdate

namespace Menu

variable {m : Menu} {marked index : Nat} {item : String}

/-- The item that is chosen is the one marked last. -/
theorem ask_given_last {keys left : List Key} {marks : List Nat}
    (h : m.ask marked keys = (.given index, left, marks)) :
    (marked :: marks).getLast? = some index := by
  induction keys generalizing marked marks with
  | nil => cases h
  | cons key keys ih =>
    rw [ask] at h
    split at h
    · next heffect =>
      cases h
      rw [effect_answer heffect]
      rfl
    · cases h
    · cases h
    · next mark _ =>
      generalize hask : m.ask mark keys = asked at h
      obtain ⟨reply, rest, shown⟩ := asked
      cases h
      rw [List.getLast?_cons_cons]
      exact ih hask
    · exact ih h

/-- Every line can be chosen, by going down to it. -/
theorem ask_down (hindex : marked + index < m.count) (rest : List Key) :
    (m.ask marked (List.replicate index .down ++ .enter :: rest)).1 = .given (marked + index) := by
  induction index generalizing marked with
  | zero => rfl
  | succ index ih =>
    have heffect : m.effect marked .down = .mark (marked + 1) := by
      change Effect.mark ((marked + 1) % m.count) = _
      rw [Nat.mod_eq_of_lt (by omega)]
    rw [List.replicate_succ, List.cons_append, ask, heffect]
    dsimp only
    rw [ih (by omega), Nat.add_assoc, Nat.add_comm 1]

/-- A marked item is on the page that is shown. -/
theorem render_marked (hitem : m.items[marked]? = some item) :
    ∃ before after, m.render marked = before ++ "❯ " ++ item ++ "\n" ++ after := by
  let shown := (m.items.zipIdx.drop (m.page marked * m.capacity)).take m.capacity
  let line (p : String × Nat) : String := (if p.2 = marked then "❯ " else "  ") ++ p.1 ++ "\n"
  have hmem : (item, marked) ∈ shown := by
    have hdiv := Nat.div_add_mod' marked m.capacity
    have hmod := Nat.mod_lt marked m.capacity_pos
    refine List.mem_iff_getElem?.mpr ⟨marked % m.capacity, ?_⟩
    rw [List.getElem?_take_of_lt hmod, List.getElem?_drop, page, hdiv, List.getElem?_zipIdx, hitem]
    simp
  obtain ⟨front, back, hshown⟩ := List.append_of_mem hmem
  have hrender : m.render marked = "? " ++ m.title ++ " ›" ++ m.pageNote marked ++ "\n" ++
      String.join (shown.map line) := rfl
  have hline : line (item, marked) = "❯ " ++ item ++ "\n" := by
    dsimp only [line]
    rw [if_pos rfl]
  rw [hrender, hshown, List.map_append, List.map_cons, String.join_append, String.join_cons, hline]
  refine ⟨"? " ++ m.title ++ " ›" ++ m.pageNote marked ++ "\n" ++ String.join (front.map line),
    String.join (back.map line), ?_⟩
  simp only [String.append_assoc]

end Menu

namespace Station

variable {δ α : Type} {s : Station δ} {t : Terminal}

theorem forM_emit (f : α → Output) (items : List α) (s : Station δ) :
    (items.forM fun a => emit (f a)) s =
      .ok () { s with output := (items.map f).reverse ++ s.output } := by
  induction items generalizing s with
  | nil => rfl
  | cons a items ih =>
    have hfirst : emit (f a) s = finished { s with output := f a :: s.output } (.ok ()) := rfl
    refine (bind_ok hfirst _).trans ((ih _).trans ?_)
    simp

/-- Choosing an item shows the menu with that item marked, and then the answer. -/
theorem choose_given {title : String} {items : List String} {index : Nat} (ht : s.terminal = some t)
    (hask : ((Menu.on t title items).ask 0 t.keys).1 = .given index) :
    ∃ s' earlier, choose title items s = .ok (some index) s' ∧
      s'.output = .shown ((Menu.on t title items).renderAnswer index) ::
        .shown ((Menu.on t title items).render index) :: earlier := by
  let menu := Menu.on t title items
  obtain ⟨s₁, hrequire, hw⟩ := requireTerminal_gives ht
  generalize hreply : menu.ask 0 t.keys = asked at hask
  obtain ⟨reply, keys, marks⟩ := asked
  obtain rfl : reply = .given index := hask
  obtain ⟨front, hmarks⟩ := List.getLast?_eq_some_iff.mp (Menu.ask_given_last hreply)
  let line (mark : Nat) : Output := .shown (menu.render mark)
  have hchoose : choose title items s = .ok (some index) { s₁ with
      terminal := s₁.terminal.map fun t => { t with keys }
      output := .shown (menu.renderAnswer index) ::
        (((0 :: marks).map line).reverse ++ s₁.output) } := by
    refine (bind_ok hrequire _).trans ?_
    dsimp only
    rw [hreply]
    exact bind_ok (forM_emit line _ s₁) _
  refine ⟨_, (front.map line).reverse ++ s₁.output, hchoose, ?_⟩
  rw [hmarks, List.map_append, List.reverse_append]
  rfl

end Station

namespace Program

variable {δ : Type} {s : Station δ} {port : DetectedPort}

/-- The message that tells which port was picked. -/
def announcement (colors : Bool) (port : DetectedPort) : String :=
  "\n" ++ (Text.Style.bold .green).paint colors "→" ++ " Auto-detected: " ++
    (Text.Style.bold .cyan).paint colors port.name ++ "\n"

theorem announceDetected_ends (hpick : DetectedPort.pick? s.detected = some port) :
    ∃ u s', announceDetected s = .ok u s' ∧
      s'.output.head? = some (.err (announcement s.colors port)) := by
  obtain ⟨s₁, hdetect, hw⟩ := Station.detect_gives s
  have hauto : DetectedPort.autoDetect (DetectedPort.ofEnumeration s.ports) = .ok port := by
    rw [DetectedPort.autoDetect, ← Station.detected, hpick]
  rw [announceDetected, Station.bind_ok hdetect, hauto, ← hw.colors_eq]
  exact ⟨(), _, rfl, rfl⟩

/-- The list of ports ends with the port that was picked. -/
theorem listPorts_ends (hpick : DetectedPort.pick? s.detected = some port) :
    ∃ u s', listPorts false s = .ok u s' ∧
      s'.output.head? = some (.err (announcement s.colors port)) := by
  have hports : (DetectedPort.ofEnumeration s.ports).isEmpty = false := by
    rw [List.isEmpty_eq_false_iff]
    intro hnone
    rw [Station.detected, hnone] at hpick
    cases hpick
  refine (Station.detect_gives s).ends fun s₁ h₁ => ?_
  refine (Station.paint_gives _ _ s₁).ends fun s₂ h₂ => ?_
  refine (Station.say_gives _ s₂).ends fun s₃ h₃ => ?_
  rw [hports]
  refine (Station.paint_gives _ _ s₃).ends fun s₄ h₄ => ?_
  refine (Station.forM_gives (fun p => Station.say_gives _) _ s₄).ends fun s₅ h₅ => ?_
  have hw := (((h₁.more h₂).more h₃).more h₄).more h₅
  rw [Station.detected, ← hw.ports_eq] at hpick
  rw [← hw.colors_eq]
  exact announceDetected_ends hpick

end Program

namespace PortChoice

variable {config : Config} {request : PortRequest} {ports : List DetectedPort}
  {port : DetectedPort}

variable {δ : Type} {s : Station δ} {t : Terminal} {index : Nat}

theorem count_offered (config : Config) (colors : Bool) (t : Terminal)
    (ports : List DetectedPort) : (offered config colors t ports).count = ports.length :=
  (List.length_map _).trans (arranged_ordered config ports).perm.length_eq

/-- The port is the one that a line of the menu stands for. -/
structure OnLine (config : Config) (ports : List DetectedPort) (s : Station δ) (t : Terminal)
    (index : Nat) (selected : SelectedPort) (s' : Station δ) : Prop where
  port : (ordered config ports)[index]? = some selected.port
  isKnown : selected.isKnown = isKnown config selected.port
  /-- The line has the label of the port. -/
  label : (offered config s.colors t ports).items[index]? =
    some (Text.truncate (t.width - 4) (label s.colors config selected.port))
  /-- Where the line is marked, the mark is in front of this label. -/
  marked : ∃ before after, (offered config s.colors t ports).render index = before ++ "❯ " ++
    Text.truncate (t.width - 4) (PortChoice.label s.colors config selected.port) ++ "\n" ++ after
  /-- The line was marked in the menu as it was shown last. -/
  shown : ∃ earlier, s'.output = .shown ((offered config s.colors t ports).renderAnswer index) ::
    .shown ((offered config s.colors t ports).render index) :: earlier

/-- Choosing a line gives the port whose label is on it. -/
theorem chooseFrom_onLine (hports : ports ≠ []) (ht : s.terminal = some t)
    (hask : ((offered config s.colors t ports).ask 0 t.keys).1 = .given index) :
    ∃ selected s', chooseFrom config ports s = .ok selected s' ∧
      OnLine config ports s t index selected s' := by
  have hindex : index < (ordered config ports).length := by
    rw [(arranged_ordered config ports).perm.length_eq, ← count_offered config s.colors t]
    refine Menu.ask_given_lt ?_ hask
    rw [count_offered]
    exact List.length_pos_of_ne_nil hports
  have hport := List.getElem?_eq_getElem hindex
  generalize (ordered config ports)[index] = port at hport
  have hlabel : (offered config s.colors t ports).items[index]? =
      some (Text.truncate (t.width - 4) (label s.colors config port)) := by
    rw [offered, Menu.on, List.getElem?_map, hport]
    rfl
  obtain ⟨s₁, hw, he⟩ := chooseFrom_eq config ports ht
  obtain ⟨s₂, earlier, hchoose, hout⟩ := Station.choose_given (hw.terminal_eq.trans ht) hask
  refine ⟨⟨port, isKnown config port⟩, s₂, ?_, hport, rfl, hlabel, Menu.render_marked hlabel,
    earlier, hout⟩
  rw [he]
  refine (Station.bind_ok hchoose _).trans ?_
  dsimp only
  rw [hport]
  rfl

/-- No port is chosen but by a line. -/
theorem given_of_chooseFrom {selected : SelectedPort} {s' : Station δ}
    (h : chooseFrom config ports s = .ok selected s') :
    ∃ t index, s.terminal = some t ∧
      ((offered config s.colors t ports).ask 0 t.keys).1 = .given index := by
  cases ht : s.terminal with
  | none =>
    obtain ⟨s₁, he, -⟩ := Station.gives_noTerminal ht _
    cases he.symm.trans h
  | some t =>
    obtain ⟨s₁, hw, he⟩ := chooseFrom_eq config ports ht
    have hasks : Station.Asks _ s₁ ((offered config s.colors t ports).ask 0 t.keys).1.outcome :=
      Station.choose_asks (hw.terminal_eq.trans ht) _ _
    cases hreply : ((offered config s.colors t ports).ask 0 t.keys).1 with
    | given index => exact ⟨t, index, rfl, hreply⟩
    | cancelled =>
      rw [hreply] at hasks
      obtain ⟨s₂, hchoose, -⟩ := hasks
      cases (he.trans (Station.bind_ok hchoose _)).symm.trans h
    | interrupted =>
      rw [hreply] at hasks
      obtain ⟨s₂, hchoose, -⟩ := hasks
      cases (he.trans (Station.bind_error hchoose _)).symm.trans h
    | waiting =>
      rw [hreply] at hasks
      obtain ⟨s₂, hchoose, -⟩ := hasks
      cases (he.trans (Station.bind_error hchoose _)).symm.trans h

/-- How a port is chosen among these. -/
structure ChosenByLine (config : Config) (ports : List DetectedPort) (s : Station δ) : Prop where
  /-- There are keys for every line. -/
  reach : ∀ colors t index rest, index < ports.length →
    ((offered config colors t ports).ask 0 (List.replicate index .down ++ .enter :: rest)).1 =
      .given index
  /-- Choosing a line gives the port that it stands for. -/
  onLine : ∀ t index, ports ≠ [] → s.terminal = some t →
    ((offered config s.colors t ports).ask 0 t.keys).1 = .given index →
    ∃ selected s', chooseFrom config ports s = .ok selected s' ∧
      OnLine config ports s t index selected s'
  /-- A port is given only if a line was chosen. -/
  only : ∀ selected s', chooseFrom config ports s = .ok selected s' →
    ∃ t index, s.terminal = some t ∧
      ((offered config s.colors t ports).ask 0 t.keys).1 = .given index

theorem chosenByLine (config : Config) (ports : List DetectedPort) (s : Station δ) :
    ChosenByLine config ports s := by
  refine ⟨fun colors t index rest hindex => ?_, fun t index => chooseFrom_onLine,
    fun selected s' => given_of_chooseFrom⟩
  rw [← count_offered config colors t, ← Nat.zero_add index] at hindex
  exact (Menu.ask_down hindex rest).trans (by rw [Nat.zero_add])

theorem propose_menu (hloud : request.nonInteractive = false)
    (hmany : 2 ≤ (candidates config request.listAll ports).length) :
    propose config request ports = .menu (candidates config request.listAll ports) := by
  have hfits := propose_fits config request ports
  cases hproposal : propose config request ports with
  | menu items =>
    rw [hproposal] at hfits
    rw [hfits.1]
  | take selected =>
    rw [hproposal] at hfits
    simp [hfits.1] at hmany
  | confirm port =>
    rw [hproposal] at hfits
    simp [hfits.1] at hmany
  | refuse reason =>
    rw [hproposal] at hfits
    exact absurd ⟨hloud, .inl hmany⟩ (not_mustAsk_of_refuse hfits)

theorem not_refuse_of_sole {reason : Refusal}
    (hport : candidates config request.listAll ports = [port]) :
    ¬ (Proposal.refuse reason).Fits config request ports := by
  rintro (⟨-, rfl⟩ | ⟨-, -, hmany⟩)
  · have hmem : port ∈ candidates config request.listAll [] := by simp [hport]
    exact List.not_mem_nil (mem_of_mem_candidates hmem)
  · simp [hport] at hmany

/-- The only candidate is chosen, if any port is, and without a question unless there must be
one. -/
theorem select_sole (hnamed : named config request = none)
    (hport : candidates config request.listAll s.detected = [port]) :
    ∃ r s', select config request s = Station.finished s' r ∧
      (∀ selected, r = .ok selected → selected.port = port) ∧
      (¬ MustAsk config request s.detected →
        r = .ok ⟨port, isKnown config port⟩ ∧ ¬ s.Asked s') := by
  obtain ⟨hgiven, hserial⟩ := Option.or_eq_none_iff.mp hnamed
  obtain ⟨r, s', he, hends⟩ := select_ends hgiven hserial s
  have hchosen (selected : SelectedPort) (hr : r = .ok selected) : selected.port = port := by
    subst hr
    have hmem := hends.candidate
    rwa [hport, List.mem_singleton] at hmem
  refine ⟨r, s', he, hchosen, fun hfree => ?_⟩
  cases hends with
  | refused h => exact absurd h (not_refuse_of_sole hport)
  | @taken _ selected h hw =>
    obtain rfl := hchosen selected rfl
    rw [← h.2.1]
    exact ⟨rfl, hw.not_asked⟩
  | mute h => exact absurd h hfree
  | asked h => exact absurd h hfree

/-- Of several candidates, the one on the chosen line of the menu is chosen. -/
theorem select_onLine (hnamed : named config request = none)
    (hloud : request.nonInteractive = false)
    (hmany : 2 ≤ (candidates config request.listAll s.detected).length) (ht : s.terminal = some t)
    (hask : ((offered config s.colors t (candidates config request.listAll s.detected)).ask 0
      t.keys).1 = .given index) :
    ∃ selected s', select config request s = .ok selected s' ∧
      OnLine config (candidates config request.listAll s.detected) s t index selected s' := by
  obtain ⟨hgiven, hserial⟩ := Option.or_eq_none_iff.mp hnamed
  have hne : candidates config request.listAll s.detected ≠ [] := by
    intro hnil
    simp [hnil] at hmany
  simp only [select, hgiven, hserial]
  refine (Station.detect_gives s).ends fun s₁ hw => ?_
  rw [← Station.detected, propose_menu hloud hmany]
  rw [← hw.colors_eq] at hask
  obtain ⟨selected, s₂, he, hline⟩ := chooseFrom_onLine hne (hw.terminal_eq.trans ht) hask
  obtain ⟨hport, hknown, hlabel, hmarked, hshown⟩ := hline
  rw [hw.colors_eq] at hlabel hmarked hshown
  exact ⟨selected, s₂, he, hport, hknown, hlabel, hmarked, hshown⟩

/-- Without remembered devices, the menu and the picker prefer the same port. -/
structure Agrees (config : Config) (s : Station δ) : Prop where
  /-- The port on the first line of the menu is the port that is picked from all ports. -/
  first : ∀ listAll, (ordered config (candidates config listAll s.detected)).head? =
    DetectedPort.pick? s.detected
  /-- So is the only candidate, and where nothing has to be asked it is chosen. -/
  sole : ∀ request port, named config request = none →
    candidates config request.listAll s.detected = [port] →
    DetectedPort.pick? s.detected = some port ∧
      ∃ r s', select config request s = Station.finished s' r ∧
        (∀ selected, r = .ok selected → selected.port = port) ∧
        (¬ MustAsk config request s.detected →
          r = .ok ⟨port, isKnown config port⟩ ∧ ¬ s.Asked s')
  /-- Of several, the port that is picked is chosen by the Enter key alone. -/
  entered : ∀ request t rest, named config request = none → request.nonInteractive = false →
    2 ≤ (candidates config request.listAll s.detected).length →
    s.terminal = some t → t.keys = .enter :: rest →
    ∃ selected s', select config request s = .ok selected s' ∧
      OnLine config (candidates config request.listAll s.detected) s t 0 selected s' ∧
      DetectedPort.pick? s.detected = some selected.port
  /-- It is announced at the end of the list of ports. -/
  announced : ∀ port, DetectedPort.pick? s.detected = some port →
    ∃ u s', Program.listPorts false s = .ok u s' ∧
      s'.output.head? = some (.err (Program.announcement s.colors port))

theorem agrees (hnone : config.port.usbDevices = []) (s : Station δ) : Agrees config s := by
  have hfirst (listAll : Bool) := head?_candidates hnone listAll s.detected
  refine ⟨hfirst, ?_, ?_, fun port => Program.listPorts_ends⟩
  · intro request port hnamed hport
    have hpick := hfirst request.listAll
    rw [hport, List.perm_singleton.mp (arranged_ordered config [port]).perm] at hpick
    exact ⟨hpick.symm, select_sole hnamed hport⟩
  · intro request t rest hnamed hloud hmany ht hkeys
    have hask : ((offered config s.colors t (candidates config request.listAll s.detected)).ask 0
        t.keys).1 = .given 0 := by
      rw [hkeys]
      rfl
    obtain ⟨selected, s', he, hline⟩ := select_onLine hnamed hloud hmany ht hask
    refine ⟨selected, s', he, hline, ?_⟩
    rw [← hfirst request.listAll, List.head?_eq_getElem?]
    exact hline.port

/-- The menu is a stable sort of the ports, choosing a line of it gives the port whose label is
on that line, and without remembered devices the first line is the port that is picked from all
ports. -/
theorem picker_agrees (config : Config) (s : Station δ) :
    (∀ ports, Arranged config ports (ordered config ports) ∧ ChosenByLine config ports s) ∧
      (config.port.usbDevices = [] → Agrees config s) :=
  ⟨fun ports => ⟨arranged_ordered config ports, chosenByLine config ports s⟩,
    fun hnone => agrees hnone s⟩

/-- Of a bridge and a validator behind it, Enter chooses the validator, and it is announced. -/
theorem picker_agrees_validator :
    let bridge := DetectedPort.usb "COM2" 0x1A86 0x7523 none none none
    let validator := DetectedPort.usb "COM3" 0x191C 0x4104 none none none
    let s : Station Unit := .desk [.unknown "COM1", bridge, validator] [.enter]
    (∃ s', select {} {} s = .ok ⟨validator, true⟩ s') ∧
      ∃ u s', Program.listPorts false s = .ok u s' ∧
        s'.output.head? = some (.err "\n→ Auto-detected: COM3\n") := by
  intro bridge validator s
  have hpick : DetectedPort.pick? s.detected = some validator := by decide
  have hagrees : Agrees {} s := (picker_agrees {} s).2 rfl
  obtain ⟨⟨port, known⟩, s', he, hline, hport⟩ :=
    hagrees.entered {} ⟨[.enter], 80, 24⟩ [] rfl rfl (by decide) rfl rfl
  obtain rfl : validator = port := Option.some.inj (hpick.symm.trans hport)
  obtain rfl : known = true := hline.isKnown
  exact ⟨⟨s', he⟩, hagrees.announced validator hpick⟩

end PortChoice

end SspUpdate
