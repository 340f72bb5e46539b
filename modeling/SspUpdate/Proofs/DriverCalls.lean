import SspUpdate.Serial.Driver

/-!
# Calls of a driver

What a port asks its driver changes the driver only: the port's own settings,
and whether somebody asked to stop, stay as they are. Before each read within a
limit the driver is readied for it. `Readied` lists all that can come of that,
and `ReadEnds` all the ways in which the repeated reading ends.
-/

namespace SspUpdate.Serial

/-- The driver fails with the text to set its timeout, or to tell the length of its queue. -/
def Refuses (δ : Type) [Driver δ] (text : String) : Prop :=
  (∃ (ms : Nat) (d : δ), (Driver.setTimeout ms d).1 = .error text) ∨
    ∃ d : δ, (Driver.bytesToRead d).1 = .error text

/-- What comes of readying a driver in state `d` for a read before the deadline. -/
inductive Readied {δ : Type} [Driver δ] (deadline : Nat) (d : δ) :
    Except Error Bool → δ → Prop where
  /-- The deadline has passed and nothing waits. -/
  | passed {d' : δ} (hwaits : Driver.bytesToRead d = (.ok 0, d')) :
    Readied deadline d (.ok false) d'
  /-- A read may take what is left of the limit, or a moment for what waits already. -/
  | ready {asked d' : δ} (hasked : asked = d ∨ ∃ n, Driver.bytesToRead d = (.ok (n + 1), asked))
      (hset : Driver.setTimeout (max Attached.minReadTimeout (deadline - Driver.clock d)) asked =
        (.ok (), d')) : Readied deadline d (.ok true) d'
  | refused {text : String} {d' : δ} (h : Refuses δ text) :
    Readied deadline d (.error (.serial text)) d'

/-- How reading until a deadline ends, by its answer and the state that the driver is left in. -/
inductive ReadEnds {δ : Type} [Driver δ] (deadline : Nat) :
    Except Halt (Option UInt8) → δ → Prop where
  | answered (b : Option UInt8) (d : δ) : ReadEnds deadline (.ok b) d
  | refused {text : String} {d : δ} (h : Refuses δ text) :
    ReadEnds deadline (.error (.failed (.serial text))) d
  /-- A read failed, and not so that it is made again. -/
  | broken {readied asked d : δ} {e : IoError} (hready : Readied deadline readied (.ok true) asked)
      (hread : Driver.read 1 asked = (.error e, d)) (htimedOut : e.kind ≠ .timedOut)
      (hinterrupted : e.kind ≠ .interrupted) : ReadEnds deadline (.error (.failed (.io e))) d
  | unfinished (cut : Cut) (d : δ) : ReadEnds deadline (.error (.unfinished cut)) d

namespace Attached

variable {δ ε ε' α : Type} {wrap : ε → ε'} {act : δ → Except ε α × δ} {s : Attached δ} {d : δ}

theorem onDriver_of_ok {a : α} (h : act s.driver = (.ok a, d)) :
    onDriver wrap act s = (.ok a, { s with driver := d }) := by
  simp only [onDriver, h]

theorem onDriver_of_error {e : ε} (h : act s.driver = (.error e, d)) :
    onDriver wrap act s = (.error (wrap e), { s with driver := d }) := by
  simp only [onDriver, h]

variable [Driver δ]

theorem prepareRead_readied (deadline : Nat) (s : Attached δ) :
    ∃ r d, prepareRead deadline s = (r, { s with driver := d }) ∧
      Readied deadline s.driver r d := by
  have hmin : minReadTimeout = 1 := rfl
  rcases Nat.eq_zero_or_pos (deadline - Driver.clock s.driver) with hlate | hleft
  · have hms : max minReadTimeout (deadline - Driver.clock s.driver) = minReadTimeout := by omega
    rcases hwaits : Driver.bytesToRead s.driver with ⟨text | _ | n, d⟩
    · refine ⟨_, d, ?_, .refused (.inr ⟨s.driver, by rw [hwaits]⟩)⟩
      simp only [prepareRead, if_pos hlate, onDriver_of_error hwaits]
    · refine ⟨_, d, ?_, .passed hwaits⟩
      simp only [prepareRead, if_pos hlate, onDriver_of_ok hwaits]
    · rcases hset : Driver.setTimeout minReadTimeout d with ⟨text | _, d'⟩
      · refine ⟨_, d', ?_, .refused (.inl ⟨minReadTimeout, d, by rw [hset]⟩)⟩
        simp only [prepareRead, if_pos hlate, onDriver_of_ok hwaits]
        rw [onDriver_of_error (s := { s with driver := d }) hset]
      · refine ⟨_, d', ?_, .ready (.inr ⟨n, hwaits⟩) (by rw [hms, hset])⟩
        simp only [prepareRead, if_pos hlate, onDriver_of_ok hwaits]
        rw [onDriver_of_ok (s := { s with driver := d }) hset]
  · have hms : max minReadTimeout (deadline - Driver.clock s.driver) =
        deadline - Driver.clock s.driver := by omega
    have hne : deadline - Driver.clock s.driver ≠ 0 := Nat.ne_of_gt hleft
    rcases hset : Driver.setTimeout (deadline - Driver.clock s.driver) s.driver with ⟨text | _, d⟩
    · refine ⟨_, d, ?_, .refused (.inl ⟨_, s.driver, by rw [hset]⟩)⟩
      simp only [prepareRead, if_neg hne, onDriver_of_error hset]
    · refine ⟨_, d, ?_, .ready (.inl rfl) (by rw [hms, hset])⟩
      simp only [prepareRead, if_neg hne, onDriver_of_ok hset]

theorem readUntil_ends (deadline patience : Nat) (s : Attached δ) :
    ∃ r d, readUntil deadline patience s = (r, { s with driver := d }) ∧ ReadEnds deadline r d := by
  induction patience generalizing s with
  | zero => exact ⟨_, s.driver, rfl, .unfinished .patience s.driver⟩
  | succ patience ih =>
    obtain ⟨r, asked, hready, hr⟩ := prepareRead_readied deadline s
    simp only [readUntil, hready]
    cases hr with
    | passed _ => exact ⟨_, asked, rfl, .answered none asked⟩
    | refused h => exact ⟨_, asked, rfl, .refused h⟩
    | ready hasked hset =>
      rcases hread : Driver.read 1 asked with ⟨e | bytes, d⟩
      · simp only [onDriver_of_error (s := { s with driver := asked }) hread, id]
        split
        · exact ⟨_, d, rfl, .answered none d⟩
        · exact ih { s with driver := d }
        · next hne hne' => exact ⟨_, d, rfl, .broken (.ready hasked hset) hread hne hne'⟩
      · simp only [onDriver_of_ok (s := { s with driver := asked }) hread]
        split
        · next heq =>
          cases heq
          exact ⟨_, d, rfl, .answered _ d⟩
        · next heq =>
          cases heq
          exact ih { s with driver := d }
        · next heq => cases heq

/-- A read within a limit puts the configured timeout back, unless the reading failed. -/
theorem readWithin_ends {s : Attached δ} (hopen : s.port.isOpen = true) (patience ms : Nat) :
    ∃ r d, readWithin patience ms s = (r, { s with driver := d }) ∧
      ReadEnds (Driver.clock s.driver + ms) r d ∧
      ∀ b, r = .ok b → ∃ d', Driver.setTimeout s.port.timeout d' = (.ok (), d) := by
  rcases timeAfter_cases (Driver.lastInstant s.driver) (Driver.clock s.driver) ms with hnone | hsome
  · exact ⟨_, s.driver, by simp only [readWithin, hnone], .unfinished .overflow s.driver, nofun⟩
  obtain ⟨r, d, hread, hr⟩ := readUntil_ends (Driver.clock s.driver + ms) patience s
  simp only [readWithin, hsome, if_pos hopen, hread]
  rcases r with h | b
  · exact ⟨_, d, rfl, hr, nofun⟩
  · rcases hset : Driver.setTimeout s.port.timeout d with ⟨text | _, d'⟩
    · simp only [onDriver_of_error (s := { s with driver := d }) hset]
      exact ⟨_, d', rfl, .refused (.inl ⟨s.port.timeout, d, by rw [hset]⟩), nofun⟩
    · simp only [onDriver_of_ok (s := { s with driver := d }) hset]
      exact ⟨_, d', rfl, .answered b d', fun _ _ => ⟨d, hset⟩⟩

/-- However a read ends, it changes the driver only. -/
theorem readWithin_snd (patience ms : Nat) (s : Attached δ) :
    ∃ d, (readWithin patience ms s).2 = { s with driver := d } := by
  rcases hopen : s.port.isOpen with _ | _
  · refine ⟨s.driver, ?_⟩
    unfold readWithin
    split <;> simp [hopen]
  · obtain ⟨r, d, hread, -⟩ := readWithin_ends hopen patience ms
    exact ⟨d, by rw [hread]⟩

end Attached

end SspUpdate.Serial
