import Mathlib.Data.List.Nodup
import Hysim.Collect

/-!
Which sample is sent as which measurement.

A round triggers the `j`th channel of every ADC device and then reads them all. A device
answers a read with its last conversion, whatever channel that was triggered on, and a channel
that could not be triggered is read all the same.
-/

namespace Hysim.Pairing

open Hysim.Lib.Program Hysim.Packets Hysim.SensorTelemetry Hysim.Collect

variable {F : Type}

/-! ### The devices -/

/-- A completed conversion: the cycle and the channel of the device it was triggered in. -/
structure Conversion where
  cycle : ℕ
  fd : Int
  channel : Int
  data : Int32

/-- Which calls fail. In a cycle each channel of a device is triggered and read at most once;
the other calls are answered by their number. -/
structure Pattern (F : Type) where
  trigger : ℕ → Int → Int → Option Int
  read : ℕ → Int → Int → Option Int
  data : ℕ → Int → Int → Int32
  clock : ℕ → UInt32
  check : ℕ → Except Int Bool
  copy : ℕ → Except Int (Reading F)

structure Bank where
  cycle : ℕ
  calls : ℕ
  last : Int → Option Conversion

def answer {α : Type} (errno : Option Int) (a : α) : Except Int α :=
  match errno with
  | some e => .error e
  | none => .ok a

/-- A conversion replaces the last one of its device, unless it could not be triggered. -/
def Bank.convert (pat : Pattern F) (s : Bank) (fd channel : Int) : Int → Option Conversion :=
  match pat.trigger s.cycle fd channel with
  | some _ => s.last
  | none => Function.update s.last fd
      (some ⟨s.cycle, fd, channel, pat.data s.cycle fd channel⟩)

def bank (pat : Pattern F) : Device SensorOp (SensorOp.Ans (Option Conversion) F) Bank where
  ans
    | .triggerConversion fd channel, s => answer (pat.trigger s.cycle fd channel) ()
    | .readNoConversion fd channel, s => answer (pat.read s.cycle fd channel) (s.last fd)
    | .clock, s => pat.clock s.calls
    | .orbCheck _, s => pat.check s.calls
    | .orbCopy _, s => pat.copy s.calls
    | .publish _, _ => ()
  eff
    | .triggerConversion fd channel, s =>
      { s with calls := s.calls + 1, last := s.convert pat fd channel }
    | _, s => { s with calls := s.calls + 1 }

/-- Conversions that never fail, as `adc_sensor_val_conversion`. -/
structure Values (F : Type) where
  adc : AdcChannel → Option Conversion → Int32
  mass : F → Int32
  temp : F → Int32

def Values.conversions (values : Values F) : Conversions (Option Conversion) F :=
  ⟨fun channel sample => .ok (values.adc channel sample), values.mass, values.temp⟩

variable (pat : Pattern F) (values : Values F)

/-- The devices before the `n`th cycle, which finds `v n` on the stack. None has converted
anything before the first. -/
def before (t : SensorTable) (v : ℕ → Locals) : ℕ → Bank
  | 0 => ⟨0, 0, fun _ => none⟩
  | n + 1 =>
    { (run (bank pat) (sensorTelemetry values.conversions t (v n)) (before t v n)).2 with
      cycle := n + 1 }

/-- A measurement from samples that are told apart. -/
abbrev Traced (F : Type) := Measurement (Option Conversion) F

def sent (t : SensorTable) (v : ℕ → Locals) (n : ℕ) : List (List UInt8) :=
  published (moments (bank pat) (sensorTelemetry values.conversions t (v n))
    (before pat values t v n))

def collected (t : SensorTable) (v : ℕ → Locals) (n : ℕ) : List (Traced F) :=
  (run (bank pat) (collect values.conversions t) (before pat values t v n)).1

/-- A sample of the channel, converted in the cycle. -/
def Own (n : ℕ) (fd channel : Int) (sample : Option Conversion) : Prop :=
  ∃ data, sample = some ⟨n, fd, channel, data⟩

def FromOwn (n : ℕ) : Traced F → Prop
  | .adc fd channel _ sample _ => Own n fd channel.channelNum sample
  | .mass _ | .temp _ _ => True

/-- A channel that is read in a cycle was triggered in it. -/
def Triggered (n : ℕ) (dev : AdcDevice) (channel : AdcChannel) : Prop :=
  pat.read n dev.fd channel.channelNum = none → pat.trigger n dev.fd channel.channelNum = none

/-- Open devices have different descriptors, and the channels of a device different
numbers. -/
structure Distinct (devs : List AdcDevice) : Prop where
  fds : devs.Pairwise fun a b => 0 ≤ a.fd → a.fd ≠ b.fd
  nums : ∀ dev ∈ devs, (dev.channels.map AdcChannel.channelNum).Nodup

/-! ### Triggering a round -/

section Round

variable {pat} {values} {s s' : Bank} {i j n : ℕ} {dev : AdcDevice} {channel : AdcChannel}
variable {fd fd' num : Int}

lemma channelAt_eq_some :
    dev.channelAt j = some channel ↔ 0 ≤ dev.fd ∧ dev.channels[j]? = some channel := by
  unfold AdcDevice.channelAt
  split_ifs with h
  · simp [not_le.mpr h]
  · simp [not_lt.mp h]

lemma convert_of_some {e : Int} (h : pat.trigger s.cycle fd num = some e) :
    s.convert pat fd num = s.last := by
  simp [Bank.convert, h]

lemma convert_of_none (h : pat.trigger s.cycle fd num = none) :
    s.convert pat fd num =
      Function.update s.last fd (some ⟨s.cycle, fd, num, pat.data s.cycle fd num⟩) := by
  simp [Bank.convert, h]

lemma convert_of_ne (h : fd' ≠ fd) : s.convert pat fd num fd' = s.last fd' := by
  rcases htrigger : pat.trigger s.cycle fd num with _ | e
  · rw [convert_of_none htrigger, Function.update_of_ne h]
  · rw [convert_of_some htrigger]

lemma convert_congr (hcycle : s'.cycle = s.cycle) (hlast : s'.last fd = s.last fd) :
    s'.convert pat fd num fd = s.convert pat fd num fd := by
  rcases htrigger : pat.trigger s.cycle fd num with _ | e
  · rw [convert_of_none htrigger, convert_of_none (hcycle ▸ htrigger), Function.update_self,
      Function.update_self, hcycle]
  · rw [convert_of_some htrigger, convert_of_some (hcycle ▸ htrigger), hlast]

lemma last_triggerChannel (hdev : dev.channelAt j = some channel) :
    (run (bank pat) (triggerChannel j dev) s).2.last =
      s.convert pat dev.fd channel.channelNum := by
  simp [triggerChannel, hdev, bank]

lemma run_triggerChannel_none (hdev : dev.channelAt j = none) :
    (run (bank pat) (triggerChannel j dev) s).2 = s := by
  simp [triggerChannel, hdev]

lemma cycle_triggerChannel (dev : AdcDevice) :
    (run (bank pat) (triggerChannel j dev) s).2.cycle = s.cycle := by
  unfold triggerChannel
  cases dev.channelAt j <;> rfl

lemma last_triggerChannel_of_ne (h : 0 ≤ dev.fd → dev.fd ≠ fd) :
    (run (bank pat) (triggerChannel j dev) s).2.last fd = s.last fd := by
  rcases hdev : dev.channelAt j with _ | channel
  · rw [run_triggerChannel_none hdev]
  · rw [last_triggerChannel hdev]
    exact convert_of_ne (h (channelAt_eq_some.mp hdev).1).symm

lemma last_triggerChannel_congr (hcycle : s'.cycle = s.cycle)
    (hlast : s'.last dev.fd = s.last dev.fd) :
    (run (bank pat) (triggerChannel j dev) s').2.last dev.fd =
      (run (bank pat) (triggerChannel j dev) s).2.last dev.fd := by
  rcases hdev : dev.channelAt j with _ | channel
  · rw [run_triggerChannel_none hdev, run_triggerChannel_none hdev, hlast]
  · rw [last_triggerChannel hdev, last_triggerChannel hdev]
    exact convert_congr hcycle hlast

def triggered (pat : Pattern F) (j : ℕ) (devs : List AdcDevice) (s : Bank) : Bank :=
  (run (bank pat) (forM devs (triggerChannel j)) s).2

lemma triggered_cons (devs : List AdcDevice) :
    triggered pat j (dev :: devs) s =
      triggered pat j devs (run (bank pat) (triggerChannel j dev) s).2 := by
  rw [triggered, List.forM_cons, run_bind, triggered]

lemma cycle_triggered (devs : List AdcDevice) : (triggered pat j devs s).cycle = s.cycle := by
  induction devs generalizing s with
  | nil => rfl
  | cons dev devs ih => rw [triggered_cons, ih, cycle_triggerChannel]

lemma last_triggered_of_ne {devs : List AdcDevice} (h : ∀ dev ∈ devs, 0 ≤ dev.fd → dev.fd ≠ fd) :
    (triggered pat j devs s).last fd = s.last fd := by
  induction devs generalizing s with
  | nil => rfl
  | cons dev devs ih =>
    rw [triggered_cons, ih fun d hd => h d (List.mem_cons_of_mem _ hd),
      last_triggerChannel_of_ne (h dev List.mem_cons_self)]

lemma last_triggered {devs : List AdcDevice}
    (hfds : devs.Pairwise fun a b => 0 ≤ a.fd → a.fd ≠ b.fd) (hmem : dev ∈ devs)
    (hopen : 0 ≤ dev.fd) :
    (triggered pat j devs s).last dev.fd =
      (run (bank pat) (triggerChannel j dev) s).2.last dev.fd := by
  induction devs generalizing s with
  | nil => cases hmem
  | cons d devs ih =>
    obtain ⟨hd, hrest⟩ := List.pairwise_cons.mp hfds
    rw [triggered_cons]
    rcases List.mem_cons.mp hmem with rfl | hmem
    · exact last_triggered_of_ne fun d' hd' _ => (hd d' hd' hopen).symm
    · rw [ih hrest hmem]
      exact last_triggerChannel_congr (cycle_triggerChannel d)
        (last_triggerChannel_of_ne fun h => hd dev hmem h)

/-- What the devices converted last is older than the `j`th round of the `n`th cycle. -/
structure Past (n j : ℕ) (devs : List AdcDevice) (s : Bank) : Prop where
  cycle : s.cycle = n
  older : ∀ dev ∈ devs, 0 ≤ dev.fd → ∀ c, s.last dev.fd = some c →
    c.cycle ≤ n ∧ (c.cycle = n → ∃ i < j, ∃ channel, dev.channels[i]? = some channel ∧
      c.channel = channel.channelNum)

variable {devs : List AdcDevice}

lemma past_triggered (pat : Pattern F) (hdevs : Distinct devs) (h : Past n j devs s) :
    Past n (j + 1) devs (triggered pat j devs s) := by
  refine ⟨(cycle_triggered devs).trans h.cycle, fun dev hmem hopen c hc => ?_⟩
  rw [last_triggered hdevs.fds hmem hopen] at hc
  have hold : s.last dev.fd = some c → c.cycle ≤ n ∧ (c.cycle = n → ∃ i < j + 1, ∃ channel,
      dev.channels[i]? = some channel ∧ c.channel = channel.channelNum) := by
    intro hlast
    obtain ⟨hle, hsame⟩ := h.older dev hmem hopen c hlast
    refine ⟨hle, fun hn => ?_⟩
    obtain ⟨i, hi, hrest⟩ := hsame hn
    exact ⟨i, Nat.lt_succ_of_lt hi, hrest⟩
  rcases hdev : dev.channelAt j with _ | channel
  · rw [run_triggerChannel_none hdev] at hc
    exact hold hc
  · rw [last_triggerChannel hdev] at hc
    rcases htrigger : pat.trigger s.cycle dev.fd channel.channelNum with _ | e
    · rw [convert_of_none htrigger, Function.update_self] at hc
      obtain rfl := Option.some.inj hc
      exact ⟨h.cycle.le, fun _ =>
        ⟨j, Nat.lt_succ_self j, channel, (channelAt_eq_some.mp hdev).2, rfl⟩⟩
    · rw [convert_of_some htrigger] at hc
      exact hold hc

/-- After the round is triggered, a device holds a sample of its channel exactly when the
channel could be triggered: an older sample is of another channel or of an earlier cycle. -/
lemma own_triggered_iff (hdevs : Distinct devs) (h : Past n j devs s) (hmem : dev ∈ devs)
    (hdev : dev.channelAt j = some channel) :
    Own n dev.fd channel.channelNum ((triggered pat j devs s).last dev.fd) ↔
      pat.trigger n dev.fd channel.channelNum = none := by
  obtain ⟨hopen, hchannel⟩ := channelAt_eq_some.mp hdev
  rw [last_triggered hdevs.fds hmem hopen, last_triggerChannel hdev, ← h.cycle]
  rcases htrigger : pat.trigger s.cycle dev.fd channel.channelNum with _ | e
  · rw [convert_of_none htrigger, Function.update_self]
    exact iff_of_true ⟨_, rfl⟩ rfl
  · rw [convert_of_some htrigger]
    refine iff_of_false ?_ (by simp)
    rintro ⟨data, hlast⟩
    obtain ⟨i, hi, other, hother, hnum⟩ := (h.older dev hmem hopen _ hlast).2 h.cycle
    have hothers : (dev.channels.map AdcChannel.channelNum)[i]? = some channel.channelNum := by
      rw [List.getElem?_map, hother, Option.map_some, ← hnum]
    have hnums : (dev.channels.map AdcChannel.channelNum)[j]? = some channel.channelNum := by
      rw [List.getElem?_map, hchannel, Option.map_some]
    have hlt : i < (dev.channels.map AdcChannel.channelNum).length :=
      (List.getElem?_eq_some_iff.mp hothers).1
    have hij := (List.getElem?_inj hlt (hdevs.nums dev hmem)).mp (hothers.trans hnums.symm)
    exact absurd hij hi.ne

/-! ### Reading a round -/

def SameBank (s s' : Bank) : Prop := s'.cycle = s.cycle ∧ s'.last = s.last

lemma SameBank.past (h : SameBank s s') (hs : Past n j devs s) : Past n j devs s' := by
  refine ⟨h.1.trans hs.cycle, ?_⟩
  rw [h.2]
  exact hs.older

lemma run_measureChannel (pat : Pattern F) (values : Values F) (n j : ℕ) (dev : AdcDevice)
    (s : Bank) :
    SameBank s (run (bank pat) (measureChannel values.conversions j dev) s).2 ∧
      ((∀ m ∈ (run (bank pat) (measureChannel values.conversions j dev) s).1, FromOwn n m) ↔
        ∀ channel, dev.channelAt j = some channel →
          pat.read s.cycle dev.fd channel.channelNum = none →
            Own n dev.fd channel.channelNum (s.last dev.fd)) := by
  unfold measureChannel
  rcases hdev : dev.channelAt j with _ | channel
  · exact ⟨⟨rfl, rfl⟩, by simp⟩
  dsimp only
  rw [run_bind, run_op]
  have hans : (bank pat).ans (.readNoConversion dev.fd channel.channelNum) s =
    answer (pat.read s.cycle dev.fd channel.channelNum) (s.last dev.fd) := rfl
  rw [hans]
  rcases hread : pat.read s.cycle dev.fd channel.channelNum with _ | errno
  · refine ⟨⟨rfl, rfl⟩, ?_⟩
    simp [answer, Values.conversions, FromOwn, hread]
  · refine ⟨⟨rfl, rfl⟩, ?_⟩
    simp [answer, hread]

lemma run_adding {ι : Type} {p : ι → SensorM (Option Conversion) F (Option (Traced F))}
    {Q : ι → Bank → Prop}
    (hp : ∀ x s, SameBank s (run (bank pat) (p x) s).2 ∧
      ((∀ m ∈ (run (bank pat) (p x) s).1, FromOwn n m) ↔ Q x s))
    (hQ : ∀ x s s', SameBank s s' → (Q x s' ↔ Q x s)) (l : List ι)
    (ms : List (Traced F)) (s : Bank) :
    SameBank s (run (bank pat) (l.foldlM (fun ms x => adding ms (p x)) ms) s).2 ∧
      ((∀ m ∈ (run (bank pat) (l.foldlM (fun ms x => adding ms (p x)) ms) s).1, FromOwn n m) ↔
        (∀ m ∈ ms, FromOwn n m) ∧ ∀ x ∈ l, Q x s) := by
  induction l generalizing ms s with
  | nil => exact ⟨⟨rfl, rfl⟩, by simp⟩
  | cons x l ih =>
    obtain ⟨hsame, hiff⟩ := hp x s
    have hone : run (bank pat) (adding ms (p x)) s =
        (ms ++ (run (bank pat) (p x) s).1.toList, (run (bank pat) (p x) s).2) := by
      simp [adding]
    rw [List.foldlM_cons, run_bind, hone]
    obtain ⟨hrest, hall⟩ := ih (ms ++ (run (bank pat) (p x) s).1.toList) (run (bank pat) (p x) s).2
    refine ⟨⟨hrest.1.trans hsame.1, hrest.2.trans hsame.2⟩, ?_⟩
    rw [hall, List.forall_mem_cons, ← hiff]
    have hlater : (∀ y ∈ l, Q y (run (bank pat) (p x) s).2) ↔ ∀ y ∈ l, Q y s :=
      forall₂_congr fun y _ => hQ y s _ hsame
    rw [hlater]
    simp only [List.mem_append, Option.mem_toList, or_imp, forall_and]
    exact and_assoc

lemma run_collectRound (pat : Pattern F) (values : Values F) (hdevs : Distinct devs)
    (h : Past n j devs s) (ms : List (Traced F)) :
    Past n (j + 1) devs (run (bank pat) (collectRound values.conversions devs ms j) s).2 ∧
      ((∀ m ∈ (run (bank pat) (collectRound values.conversions devs ms j) s).1, FromOwn n m) ↔
        (∀ m ∈ ms, FromOwn n m) ∧ ∀ dev ∈ devs, ∀ channel, dev.channelAt j = some channel →
          Triggered pat n dev channel) := by
  have hpast := past_triggered pat hdevs h
  unfold collectRound
  rw [run_bind]
  obtain ⟨hsame, hiff⟩ := run_adding (run_measureChannel pat values n j)
    (fun dev s s' hs => by rw [hs.1, hs.2]) devs ms (triggered pat j devs s)
  refine ⟨hsame.past hpast, hiff.trans (and_congr_right fun _ => ?_)⟩
  refine forall₂_congr fun dev hmem => forall₂_congr fun channel hdev => ?_
  rw [hpast.cycle, own_triggered_iff hdevs h hmem hdev]
  rfl

/-! ### Cycles -/

lemma run_rounds (pat : Pattern F) (values : Values F) (hdevs : Distinct devs)
    (hs : Past n 0 devs s) (k : ℕ) :
    Past n k devs
        (run (bank pat) ((List.range k).foldlM (collectRound values.conversions devs) []) s).2 ∧
      ((∀ m ∈ (run (bank pat)
          ((List.range k).foldlM (collectRound values.conversions devs) []) s).1, FromOwn n m) ↔
        ∀ j < k, ∀ dev ∈ devs, ∀ channel, dev.channelAt j = some channel →
          Triggered pat n dev channel) := by
  induction k with
  | zero => exact ⟨hs, by simp⟩
  | succ k ih =>
    obtain ⟨hpast, hiff⟩ := ih
    have hround := run_collectRound pat values hdevs hpast
      (run (bank pat) ((List.range k).foldlM (collectRound values.conversions devs) []) s).1
    rw [foldlM_range_succ, run_bind]
    refine ⟨hround.1, hround.2.trans ?_⟩
    rw [hiff]
    constructor
    · rintro ⟨hold, hnew⟩ i hi
      rcases Nat.lt_succ_iff_lt_or_eq.mp hi with hi | rfl
      · exact hold i hi
      · exact hnew
    · intro h
      exact ⟨fun i hi => h i (Nat.lt_succ_of_lt hi), h k (Nat.lt_succ_self k)⟩

/-- A measurement by another sensor than an ADC. -/
def Other (pat : Pattern F) (p : SensorM (Option Conversion) F (Option (Traced F))) : Prop :=
  ∀ n s, SameBank s (run (bank pat) p s).2 ∧
    ((∀ m ∈ (run (bank pat) p s).1, FromOwn n m) ↔ True)

lemma sameBank_orbFetch (pat : Pattern F) (fd : Int) (s : Bank) :
    SameBank s (run (bank pat) (orbFetch fd) s).2 := by
  unfold orbFetch
  rw [run_bind, run_op]
  have hans : (bank pat).ans (.orbCheck fd) s = pat.check s.calls := rfl
  rw [hans]
  rcases pat.check s.calls with err | (_ | _) <;> exact ⟨rfl, rfl⟩

lemma other_measureTopic (pat : Pattern F) (available : Bool) (fd : Int)
    {measurement : Reading F → Traced F} (hm : ∀ n data, FromOwn n (measurement data)) :
    Other pat (measureTopic available fd measurement) := by
  intro n s
  have hfetch := sameBank_orbFetch pat fd s
  unfold measureTopic
  split_ifs
  · rw [run_bind]
    rcases (run (bank pat) (orbFetch fd) s).1 with err | data
    · exact ⟨hfetch, by simp⟩
    · exact ⟨hfetch, by simp [hm n data]⟩
  · exact ⟨⟨rfl, rfl⟩, by simp⟩

lemma other_measureMass (pat : Pattern F) (sensor : SensorMass) :
    Other pat (measureMass sensor) :=
  other_measureTopic pat sensor.available sensor.fd fun _ _ => trivial

lemma other_measureTemp (pat : Pattern F) (sensor : SensorTemp) :
    Other pat (measureTemp sensor) :=
  other_measureTopic pat sensor.available sensor.fd fun _ _ => trivial

lemma run_others {ι : Type} {p : ι → SensorM (Option Conversion) F (Option (Traced F))}
    (hp : ∀ x, Other pat (p x)) (l : List ι) (ms : List (Traced F))
    (s : Bank) :
    SameBank s (run (bank pat) (l.foldlM (fun ms x => adding ms (p x)) ms) s).2 ∧
      ((∀ m ∈ (run (bank pat) (l.foldlM (fun ms x => adding ms (p x)) ms) s).1, FromOwn n m) ↔
        ∀ m ∈ ms, FromOwn n m) := by
  obtain ⟨hsame, hiff⟩ := run_adding (Q := fun _ _ => True) (fun x s => hp x n s)
    (fun _ _ _ _ => Iff.rfl) l ms s
  exact ⟨hsame, hiff.trans (by simp)⟩

lemma forall_channelAt_iff (P : AdcDevice → AdcChannel → Prop) :
    (∀ j < 4, ∀ dev ∈ devs, ∀ channel, dev.channelAt j = some channel → P dev channel) ↔
      ∀ dev ∈ devs, 0 ≤ dev.fd → ∀ channel ∈ dev.channels, P dev channel := by
  constructor
  · intro h dev hmem hopen channel hchannel
    obtain ⟨j, hj, hget⟩ := List.getElem_of_mem hchannel
    have hsome : dev.channels[j]? = some channel := List.getElem?_eq_some_iff.mpr ⟨hj, hget⟩
    exact h j (hj.trans_le dev.length_le) dev hmem channel (channelAt_eq_some.mpr ⟨hopen, hsome⟩)
  · intro h j _ dev hmem channel hdev
    obtain ⟨hopen, hchannel⟩ := channelAt_eq_some.mp hdev
    exact h dev hmem hopen channel (List.mem_of_getElem? hchannel)

lemma run_collect (pat : Pattern F) (values : Values F) {t : SensorTable}
    (hdevs : Distinct t.adcDevices) (hs : Past n 0 t.adcDevices s) :
    Past n 4 t.adcDevices (run (bank pat) (collect values.conversions t) s).2 ∧
      ((∀ m ∈ (run (bank pat) (collect values.conversions t) s).1, FromOwn n m) ↔
        ∀ dev ∈ t.adcDevices, 0 ≤ dev.fd → ∀ channel ∈ dev.channels,
          Triggered pat n dev channel) := by
  obtain ⟨hpast, hrounds⟩ := run_rounds pat values hdevs hs 4
  unfold collect
  rw [run_bind, run_bind]
  obtain ⟨hmass, hmasses⟩ := run_others (n := n) (other_measureMass pat) t.sensorMass.toList
    (run (bank pat) ((List.range 4).foldlM (collectRound values.conversions t.adcDevices) []) s).1
    (run (bank pat) ((List.range 4).foldlM (collectRound values.conversions t.adcDevices) []) s).2
  obtain ⟨htemp, htemps⟩ := run_others (n := n) (other_measureTemp pat) t.sensorTemps _ _
  refine ⟨htemp.past (hmass.past hpast), ?_⟩
  rw [htemps, hmasses, hrounds]
  exact forall_channelAt_iff (Triggered pat n)

lemma sameBank_sendAll (ps : List Packet) (s : Bank) :
    SameBank s (run (bank pat) (sendAll ps) s).2 := by
  unfold sendAll
  split_ifs <;> exact ⟨rfl, rfl⟩

lemma past_before (pat : Pattern F) (values : Values F) {t : SensorTable}
    (hdevs : Distinct t.adcDevices) (v : ℕ → Locals) (n : ℕ) :
    Past n 0 t.adcDevices (before pat values t v n) := by
  induction n with
  | zero => exact ⟨rfl, fun dev _ _ c hc => by cases hc⟩
  | succ n ih =>
    refine ⟨rfl, fun dev hmem hopen c hc => ?_⟩
    have hcycle : (before pat values t v (n + 1)).last =
        (run (bank pat) (collect values.conversions t) (before pat values t v n)).2.last := by
      simp only [before, sensorTelemetry_eq, run_bind, run_pure]
      exact (sameBank_sendAll _ _).2
    rw [hcycle] at hc
    obtain ⟨hle, -⟩ := (run_collect pat values hdevs ih).1.older dev hmem hopen c hc
    exact ⟨Nat.le_succ_of_le hle, fun heq => absurd heq (Nat.lt_succ_of_le hle).ne⟩

/-- In every cycle the measurements come from their own channels exactly when the channels that
are read could be triggered. -/
lemma fromOwn_iff (pat : Pattern F) (values : Values F) {t : SensorTable}
    (hdevs : Distinct t.adcDevices) (v : ℕ → Locals) (n : ℕ) :
    (∀ m ∈ collected pat values t v n, FromOwn n m) ↔
      ∀ dev ∈ t.adcDevices, 0 ≤ dev.fd → ∀ channel ∈ dev.channels, Triggered pat n dev channel :=
  (run_collect pat values hdevs (past_before pat values hdevs v n)).2

end Round

/-! ### The devices of the pad -/

/-- What opening the sensors of the pad returned: `sensor_mass_init` and `sensor_temp_init` may
have failed, and so may `open` for each of the ADC devices. -/
structure Opened where
  adc : Fin 3 → Int
  mass : SensorMass
  topic2 : Int × Bool
  topic5 : Int × Bool
  distinct : ∀ i j, i < j → 0 ≤ adc i → adc i ≠ adc j

def adcDevices (o : Opened) : List AdcDevice := [
  ⟨o.adc 0, [⟨4, 0, .temp⟩, ⟨5, 1, .temp⟩, ⟨6, 4, .pressure⟩, ⟨7, 2, .pressure⟩], by decide⟩,
  ⟨o.adc 1, [⟨4, 0, .pressure⟩, ⟨5, 1, .pressure⟩, ⟨6, 5, .pressure⟩, ⟨7, 3, .pressure⟩],
    by decide⟩,
  ⟨o.adc 2, [⟨4, 0, .thrust⟩, ⟨7, 1, .cont⟩], by decide⟩]

/-- The sensors of the pad, with those for `sensor_temp`. -/
def sensorTable (o : Opened) : SensorTable where
  adcDevices := adcDevices o
  sensorMass := some o.mass
  sensorTemps := [⟨o.topic2.1, 2, o.topic2.2⟩, ⟨o.topic5.1, 3, o.topic5.2⟩]
  count_le := Nat.le_of_ble_eq_true rfl

lemma distinct_adcDevices (o : Opened) : Distinct (adcDevices o) := by
  constructor
  · have h01 := o.distinct 0 1 (by decide)
    have h02 := o.distinct 0 2 (by decide)
    have h12 := o.distinct 1 2 (by decide)
    simp only [adcDevices, List.pairwise_cons, List.mem_cons, List.not_mem_nil, or_false,
      forall_eq_or_imp, forall_eq]
    exact ⟨⟨h01, h02⟩, h12, by simp⟩
  · intro dev hdev
    simp only [adcDevices, List.mem_cons, List.not_mem_nil, or_false] at hdev
    rcases hdev with rfl | rfl | rfl <;> simp

/-- **When an ADC value is of its own sensor**: the values sent are throughout the cycles
exactly when no channel is read in a cycle in which it could not be triggered. -/
theorem own_sensor_iff (o : Opened) (pat : Pattern F) (values : Values F) (v : ℕ → Locals)
    (cycles : ℕ) :
    (∀ n < cycles, sent pat values (sensorTable o) v n =
        if packets values.conversions (collected pat values (sensorTable o) v n) = [] then []
        else [encode (packets values.conversions (collected pat values (sensorTable o) v n))]) ∧
      ((∀ n < cycles, ∀ m ∈ collected pat values (sensorTable o) v n, FromOwn n m) ↔
        ∀ n < cycles, ∀ dev ∈ adcDevices o, 0 ≤ dev.fd → ∀ channel ∈ dev.channels,
          pat.read n dev.fd channel.channelNum = none →
            pat.trigger n dev.fd channel.channelNum = none) :=
  ⟨fun n _ => published_sensorTelemetry (bank pat) (sensorTable o) (v n) _,
    forall₂_congr fun n _ => fromOwn_iff pat values (distinct_adcDevices o) v n⟩

def allOpened : Opened := ⟨fun i => i, ⟨3, true⟩, (4, true), (5, true), by decide⟩

/-- Only channel 6 of the first device cannot be triggered. -/
def busy : Pattern Unit where
  trigger _ fd channel := if fd = 0 ∧ channel = 6 then some 16 else none
  read _ _ _ := none
  data _ _ channel := if channel = 5 then 20000 else 100
  clock _ := 0
  check _ := .error (-1)
  copy _ := .error (-1)

def anything : Locals :=
  ⟨fun _ => ⟨0, 0⟩, fun _ _ => 0, fun _ => ⟨.headers ⟨0, by decide⟩, 0⟩, 0, false⟩

/-- The second temperature is sent as a pressure. -/
theorem not_own_sensor :
    ¬ ∀ (o : Opened) (pat : Pattern Unit) (values : Values Unit) (v : ℕ → Locals) (cycles : ℕ),
      ∀ n < cycles, ∀ m ∈ collected pat values (sensorTable o) v n, FromOwn n m := by
  intro h
  have hown := (fromOwn_iff busy ⟨fun _ _ => 0, fun _ => 0, fun _ => 0⟩
    (distinct_adcDevices allOpened) (fun _ => anything) 0).mp
      (h allOpened busy _ (fun _ => anything) 1 0 Nat.zero_lt_one)
  have hfirst : (adcDevices allOpened).head? = some _ := rfl
  have hmem := List.mem_of_head? hfirst
  exact absurd (hown _ hmem (by decide) ⟨6, 4, .pressure⟩ (by simp) rfl) (by decide)

end Hysim.Pairing
