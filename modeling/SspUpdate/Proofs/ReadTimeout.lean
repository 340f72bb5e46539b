import SspUpdate.Proofs.DriverCalls
import SspUpdate.Serial.Memory

/-!
# The timeout of a device during reads

A device has one timeout for reading and writing. A read within a limit sets it
to what is left of the limit before each call of the driver, so it has to be
put back when the read is over. It is, whatever the driver's reads answer, as
long as the read ends with a byte or with nothing: then the device has the
timeout that the port was configured with, whatever reads went before. A read
that ends because a call of the driver failed leaves behind the timeout of that
call.
-/

namespace SspUpdate.Serial

/-- The timeout that a driver holds for its device: that of the last setting,
which reading does not change. -/
structure TimeoutSetting (δ : Type) [Driver δ] where
  value : δ → Nat
  value_set : ∀ {ms : Nat} {d d' : δ}, Driver.setTimeout ms d = (.ok (), d') → value d' = ms
  value_read : ∀ (count : Nat) (d : δ), value (Driver.read count d).2 = value d

namespace Attached

variable {δ : Type} [Driver δ] {s : Attached δ}

/-- The port after reads within these limits, one after the other and whatever they gave. -/
def afterReads (patience : Nat) (limits : List Nat) (s : Attached δ) : Attached δ :=
  limits.foldl (fun s ms => (readWithin patience ms s).2) s

theorem port_afterReads (patience : Nat) (limits : List Nat) (s : Attached δ) :
    (afterReads patience limits s).port = s.port := by
  induction limits generalizing s with
  | nil => rfl
  | cons ms limits ih =>
    obtain ⟨d, hread⟩ := readWithin_snd patience ms s
    have hport : (readWithin patience ms s).2.port = s.port := by rw [hread]
    rw [afterReads, List.foldl_cons]
    exact (ih _).trans hport

/-- After any reads, a read that gives an answer leaves the device with the timeout that the port
was configured with. Otherwise a call of the driver failed: either one for the settings of the
device, or a read, and then the device has the timeout that this read had, which is what was left
of the limit when the driver was readied for it. -/
theorem reads_restore_timeout (setting : TimeoutSetting δ) (hopen : s.port.isOpen = true)
    (patience : Nat) (before : List Nat) (ms : Nat) :
    let start := afterReads patience before s
    let last := (readWithin patience ms start).2
    last.port = s.port ∧
      match (readWithin patience ms start).1 with
      | .ok _ => setting.value last.driver = s.port.timeout
      | .error (.unfinished _) => True
      | .error (.failed e) => (∃ text, e = .serial text ∧ Refuses δ text) ∨
          ∃ (io : IoError) (readied asked : δ), e = .io io ∧
            io.kind ≠ .timedOut ∧ io.kind ≠ .interrupted ∧
            Readied (Driver.clock start.driver + ms) readied (.ok true) asked ∧
            Driver.read 1 asked = (.error io, last.driver) ∧
            setting.value last.driver = max minReadTimeout
              (Driver.clock start.driver + ms - Driver.clock readied) := by
  intro start last
  have hport : start.port = s.port := port_afterReads patience before s
  obtain ⟨r, d, hread, hends, hback⟩ := readWithin_ends (hport ▸ hopen) patience ms
  have hlast : last = { start with driver := d } := congrArg Prod.snd hread
  rw [hlast, congrArg Prod.fst hread]
  refine ⟨hport, ?_⟩
  cases hends with
  | answered b =>
    obtain ⟨d', hset⟩ := hback b rfl
    exact (setting.value_set hset).trans (congrArg Port.timeout hport)
  | refused h => exact .inl ⟨_, rfl, h⟩
  | @broken readied asked _ e hready hread htimedOut hinterrupted =>
    cases hready with
    | ready hasked hset =>
      have hkept := setting.value_read 1 asked
      rw [hread, setting.value_set hset] at hkept
      exact .inr ⟨e, readied, asked, rfl, htimedOut, hinterrupted, .ready hasked hset, hread, hkept⟩
  | unfinished => trivial

end Attached

namespace Memory

/-- A device in memory holds its timeout. -/
def setting : TimeoutSetting Memory where
  value := timeout
  value_set {ms d d'} h := by
    have hset : unlessBroken (fun m => ((), { m with timeout := ms })) d = (.ok (), d') := h
    unfold unlessBroken at hset
    split at hset <;> cases hset
    rfl
  value_read count d := by
    have hread : (read count d).2.timeout = d.timeout := by
      unfold read
      split
      · rfl
      · rfl
      · split <;> rfl
    exact hread

/-- A device with the word AB in its queue, and with a script for the reads in front of it. -/
def scripted (script : List ScriptedRead) : Memory where
  name := some "p"
  queue := [0x41, 0x42]
  script := script
  broken := none
  baud := 9600
  timeout := 100

end Memory

namespace Attached

/-- A read that is broken leaves its limit behind; the next one, though interrupted and once
empty, puts the timeout back. -/
theorem reads_restore_timeout_faltering :
    let s := (Memory.scripted [.error .brokenPipe, .error .interrupted, .nothing]).attached
    let start := afterReads 9 [5000] s
    s.port.isOpen = true ∧ start.driver.timeout = 5000 ∧
      (readWithin 9 20 start).1 = .ok (some 0x41) ∧
      (readWithin 9 20 start).2.driver.timeout = s.port.timeout := by
  intro s start
  have hopen : s.port.isOpen = true := rfl
  exact ⟨hopen, rfl, rfl, (reads_restore_timeout Memory.setting hopen 9 [5000] 20).2⟩

/-- A broken pipe leaves a device, on which no call for its settings fails, with the limit of the
read in place of the timeout that it had and that the port was configured with. -/
theorem broken_read_keeps_limit :
    let s := (Memory.scripted [.error .brokenPipe]).attached
    let last := (readWithin 9 5000 s).2
    s.port.isOpen = true ∧ s.driver.timeout = s.port.timeout ∧
      (readWithin 9 5000 s).1 = .error (.failed (.io ⟨.brokenPipe, "scripted"⟩)) ∧
      (∀ ms, (Driver.setTimeout ms last.driver).1 = .ok ()) ∧
      (Driver.bytesToRead last.driver).1 = .ok 2 ∧
      last.port.timeout = 100 ∧ last.driver.timeout = 5000 :=
  ⟨rfl, rfl, rfl, fun _ => rfl, rfl, rfl, rfl⟩

end Attached

end SspUpdate.Serial
