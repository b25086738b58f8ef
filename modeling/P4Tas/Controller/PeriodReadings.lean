import P4Tas.Controller.Types
import P4Tas.DataPlane.PeriodRegisters
import P4Tas.Measurement.BuildTimeseries

/-!
# Readings of the period registers

What the controller reads from the registers that the hyperperiod packets write:
`read_hyperperiod_register` puts the halves of a timestamp together, and
`read_diff_tas_clock_drift` compares the series of a port with the configured hyperperiod.

* `readHyperperiodRegister_eq`: the time of the last hyperperiod packet of the gate;
* `readDiffTasClockDrift_eq`: the deviations of the hyperperiod packets of a port.
-/

namespace P4Tas.Controller

open DataPlane (Register Target)
open Measurement (RegisterEntry RegisterEntries cellValue combineTimestamp combineTimestamp_eq)

/-- What the switch replies to a request for a register, for one index or for all of them; `none`
for an error. -/
abbrev RegisterReplies := String → Option U32 → Option RegisterEntries

/-- `Register::new("default", HashMap::new())` -/
def emptyRegister : RegisterEntries where
  len := 0
  get _ := none

namespace PacketGenerator

def readRegister (registerName : String) (index : U32) (switch : RegisterReplies) :
    RegisterEntries :=
  (switch registerName (some index)).getD emptyRegister

def readHyperperiodRegister (switch : RegisterReplies) (index : U8) : Rust U64 := do
  let pipe := index >>> 7
  let lowerRegister := readRegister "ingress.tsn_c.lower_last_ts" (index.setWidth 32) switch
  let higherRegister := readRegister "ingress.tsn_c.higher_last_ts" (index.setWidth 32) switch
  let lowerEntries ←
    cellValue lowerRegister (index.setWidth 32) "ingress.tsn_c.lower_last_ts" pipe
  let higherEntries ←
    cellValue higherRegister (index.setWidth 32) "ingress.tsn_c.higher_last_ts" pipe
  combineTimestamp lowerEntries higherEntries

end PacketGenerator

/-- `a - b` of two `i64` -/
def subI64 (a b : Int) : Rust Int :=
  if -2 ^ 63 ≤ a - b ∧ a - b < 2 ^ 63 then .ok (a - b) else .error .overflow

def deviation (hyperperiodDuration : U64) (measuredDuration : U32) : Rust Int := do
  let measured : Int := measuredDuration.toNat
  if hyperperiodDuration.toInt > measured then
    let difference ← subI64 hyperperiodDuration.toInt measured
    subI64 0 difference
  else
    subI64 measured hyperperiodDuration.toInt

/-- What is pushed for cell `i`. -/
def pushDeviation (entries : RegisterEntries) (registerName : String) (pipe : U8)
    (hyperperiodDuration : U64) (i : Nat) : Rust (List Int) := do
  let value ← cellValue entries (BitVec.ofNat 32 i) registerName pipe
  let b0 ← index value 0
  let b1 ← index value 1
  let b2 ← index value 2
  let b3 ← index value 3
  let deviation ←
    deviation hyperperiodDuration (BitVec.ofNat 32 (fromBeBytes [b0, b1, b2, b3]))
  return if deviation < 1000 then [deviation] else []

/-- The batch mappings are those of the configuration. -/
def readDiffTasClockDrift (switch : RegisterReplies) (pipe : U8)
    (batchMappings : Option (List BatchIDMapping)) : Rust (List Int) := do
  let mappings ← unwrap batchMappings
  let first ← unwrap mappings.head?
  match switch "ingress.tsn_c.tas_hyperperiod_diff" none with
  | some entries =>
    Fallible.concatMap
      (pushDeviation entries "ingress.tsn_c.tas_hyperperiod_diff" pipe first.hyperperiodDuration)
      (List.range entries.len)
  | none => .ok []

/-! ## What is read -/

/-- The reply has the cell of each of the four pipes, as `n` bytes. -/
def Cell (n : Nat) {w : Nat} (value : Nat → BitVec w) (name : String) (entries : RegisterEntries)
    (i : Nat) : Prop :=
  ∃ entry values, entries.get (BitVec.ofNat 32 i) = some entry ∧
    entry.data (name ++ ".f1") = some values ∧
      ∀ pipe < 4, values[pipe]? = some (toBeBytes n (value pipe).toNat).toList

/-- The switch replies with the registers of its pipes. -/
structure Shows (pipes : Nat → DataPlane.Tsn.Registers) (switch : RegisterReplies) : Prop where
  lowerLastTs : ∀ i < 256, ∃ entries,
    switch "ingress.tsn_c.lower_last_ts" (some (BitVec.ofNat 32 i)) = some entries ∧
      Cell 4 (fun pipe => (pipes pipe).lowerLastTs i) "ingress.tsn_c.lower_last_ts" entries i
  higherLastTs : ∀ i < 256, ∃ entries,
    switch "ingress.tsn_c.higher_last_ts" (some (BitVec.ofNat 32 i)) = some entries ∧
      Cell 2 (fun pipe => (pipes pipe).higherLastTs i) "ingress.tsn_c.higher_last_ts" entries i
  tasHyperperiodDiff : ∃ entries, switch "ingress.tsn_c.tas_hyperperiod_diff" none = some entries ∧
    entries.len = 16000 ∧ ∀ i < 16000,
      Cell 4 (fun pipe => (pipes pipe).tasHyperperiodDiff i) "ingress.tsn_c.tas_hyperperiod_diff"
        entries i

variable {target : Target} {pipes : Nat → DataPlane.Tsn.Registers} {switch : RegisterReplies}
  {start : DataPlane.Tsn.Registers}
  {events : List (DataPlane.Tsn.Frame × DataPlane.Tsn.Result)}

theorem cellValue_of_cell {n w i : Nat} {value : Nat → BitVec w} {name : String}
    {entries : RegisterEntries} {pipe : U8} (cell : Cell n value name entries i)
    (small : pipe.toNat < 4) :
    cellValue entries (BitVec.ofNat 32 i) name pipe =
      .ok (toBeBytes n (value pipe.toNat).toNat).toList := by
  obtain ⟨entry, values, got, named, piped⟩ := cell
  unfold cellValue
  rw [got, unwrap, Fallible.ok_bind, named, unwrap, Fallible.ok_bind, piped _ small, unwrap]

namespace PacketGenerator

/-- For every gate the last timestamp is read that its hyperperiod packets left in the pipe. -/
theorem readHyperperiodRegister_eq (shows : Shows pipes switch) (gate : U8)
    (run : Transition.Run (DataPlane.Tsn.step target) start events (pipes (gate.toNat / 128)))
    (cleared : DataPlane.Tsn.Cleared start)
    (inRange : ∀ event ∈ events, event.1.GateInRange) :
    readHyperperiodRegister switch gate =
      .ok (((DataPlane.Tsn.gateEnds gate.toNat (events.map Prod.fst)).getLastD 0).setWidth 64) := by
  have pipe : (gate >>> 7).toNat = gate.toNat / 128 := by
    rw [BitVec.toNat_ushiftRight, Nat.shiftRight_eq_div_pow]
  have small : (gate >>> 7).toNat < 4 := by
    have bound : gate.toNat < 256 := gate.isLt
    rw [pipe]
    omega
  have index : gate.setWidth 32 = BitVec.ofNat 32 gate.toNat :=
    (BitVec.ofNat_toNat 32 gate).symm
  obtain ⟨lower, lowerReply, lowerCell⟩ := shows.lowerLastTs gate.toNat gate.isLt
  obtain ⟨higher, higherReply, higherCell⟩ := shows.higherLastTs gate.toNat gate.isLt
  have held := (DataPlane.Tsn.run_gateMirrors run cleared inRange).gateTs gate.toNat
  unfold readHyperperiodRegister readRegister
  dsimp only
  rw [index, lowerReply, higherReply, Option.getD_some, Option.getD_some,
    cellValue_of_cell lowerCell small, Fallible.ok_bind, cellValue_of_cell higherCell small,
    Fallible.ok_bind, combineTimestamp_eq, pipe, ← held]
  rfl

end PacketGenerator

/-! ### The drift of a port -/

theorem subI64_eq {a b : Int} (low : -2 ^ 63 ≤ a - b) (high : a - b < 2 ^ 63) :
    subI64 a b = .ok (a - b) :=
  if_pos ⟨low, high⟩

/-- Both branches give the signed difference. -/
theorem deviation_eq {hyperperiodDuration : U64} (small : hyperperiodDuration.toNat < 2 ^ 63)
    (measuredDuration : U32) :
    deviation hyperperiodDuration measuredDuration =
      .ok (measuredDuration.toNat - hyperperiodDuration.toNat : Int) := by
  have signed : hyperperiodDuration.toInt = hyperperiodDuration.toNat :=
    BitVec.toInt_eq_toNat_of_lt (by omega)
  have bound := measuredDuration.isLt
  unfold deviation
  dsimp only
  rw [signed]
  split
  · rw [subI64_eq (by omega) (by omega), Fallible.ok_bind, subI64_eq (by omega) (by omega)]
    congr 1
    omega
  · exact subI64_eq (by omega) (by omega)

/-- The deviation of the `k`-th hyperperiod packet of a port with these timestamps, each counted
from the one before it and the first from 0; cells that are not written yet count as no time. -/
def drift (hyperperiodDuration : U64) (ends : List (BitVec 48)) (k : Nat) : Int :=
  match ends[k]? with
  | some ts => ((ts - (ends.take k).getLastD 0).setWidth 32).toNat - hyperperiodDuration.toNat
  | none => -hyperperiodDuration.toNat

/-- The cells of the series, once all hyperperiod packets are of one port. -/
theorem drift_of_recorded {frames : List DataPlane.Tsn.Frame}
    {registers : DataPlane.Tsn.Registers} {port : BitVec 9}
    (recorded : DataPlane.Tsn.Recorded frames registers)
    (only : ∀ frame ∈ frames, ∀ port', frame.role = .endsPort port' → port' = port)
    (few : DataPlane.Tsn.portPeriods frames ≤ 16000) (hyperperiodDuration : U64) (k : Nat) :
    ((registers.tasHyperperiodDiff k).toNat - hyperperiodDuration.toNat : Int) =
      drift hyperperiodDuration (DataPlane.Tsn.portEnds port.toNat frames) k := by
  unfold drift
  split
  · rename_i ts found
    obtain ⟨before, frame, after, rfl, ends, earlier⟩ := History.split_of_filterMap found
    have earlier : DataPlane.Tsn.portEnds port.toNat before =
        (DataPlane.Tsn.portEnds port.toNat (before ++ frame :: after)).take k :=
      earlier
    obtain ⟨port', role, same, rfl⟩ := DataPlane.Tsn.role_of_portEnd? ends
    cases BitVec.eq_of_toNat_eq same
    have inside : k < (DataPlane.Tsn.portEnds port.toNat (before ++ frame :: after)).length :=
      (List.getElem?_eq_some_iff.mp found).1
    have index : DataPlane.Tsn.portPeriods before = k := by
      rw [DataPlane.Tsn.portPeriods_eq_length fun frame' member =>
        only frame' (List.mem_append_left _ member), earlier]
      exact List.length_take_of_le inside.le
    have cell := recorded.series few before frame after port rfl role
    rw [index] at cell
    rw [cell, DataPlane.Tsn.gap, earlier]
  · rename_i missed
    have beyond := List.getElem?_eq_none_iff.mp missed
    rw [recorded.unwritten few k (by rwa [DataPlane.Tsn.portPeriods_eq_length only])]
    simp

theorem pushDeviation_eq {entries : RegisterEntries} {registerName : String} {pipe : U8}
    {value : Nat → BitVec 32} {hyperperiodDuration : U64} {i : Nat}
    (cell : Cell 4 value registerName entries i) (small : pipe.toNat < 4)
    (duration : hyperperiodDuration.toNat < 2 ^ 63) :
    pushDeviation entries registerName pipe hyperperiodDuration i =
      .ok ([((value pipe.toNat).toNat - hyperperiodDuration.toNat : Int)].filter (· < 1000)) := by
  have bytes : BitVec.ofNat 32 (fromBeBytes (toBeBytes 4 (value pipe.toNat).toNat).toList) =
      value pipe.toNat := by
    rw [fromBeBytes_toBeBytes,
      Nat.mod_eq_of_lt (by exact (value pipe.toNat).isLt : (value pipe.toNat).toNat < 256 ^ 4),
      BitVec.ofNat_toNat, BitVec.setWidth_eq]
  have run : pushDeviation entries registerName pipe hyperperiodDuration i =
      (deviation hyperperiodDuration (value pipe.toNat) >>= fun deviation =>
        pure (if deviation < 1000 then [deviation] else [])) := by
    rw [← bytes]
    unfold pushDeviation
    rw [cellValue_of_cell cell small]
    rfl
  rw [run, deviation_eq duration, Fallible.ok_bind]
  refine congrArg Except.ok ?_
  rw [List.filter_cons, List.filter_nil]
  simp only [decide_eq_true_eq]

/-- The series that is returned has, for every hyperperiod packet of the port, by how much it came
later than the hyperperiod after the one before, and nothing of those that came 1 µs late or
more. -/
theorem readDiffTasClockDrift_eq (shows : Shows pipes switch) {pipe : U8}
    (small : pipe.toNat < 4) {mapping : BatchIDMapping} {mappings : List BatchIDMapping}
    (duration : mapping.hyperperiodDuration.toNat < 2 ^ 63)
    (run : Transition.Run (DataPlane.Tsn.step target) start events (pipes pipe.toNat))
    (cleared : DataPlane.Tsn.Cleared start) (empty : DataPlane.Tsn.Recorded [] start)
    (inRange : ∀ event ∈ events, event.1.PortInRange) {port : BitVec 9}
    (only : ∀ event ∈ events, ∀ port', event.1.role = .endsPort port' → port' = port)
    (few : DataPlane.Tsn.portPeriods (events.map Prod.fst) ≤ 16000) :
    readDiffTasClockDrift switch pipe (some (mapping :: mappings)) =
      .ok (((List.range 16000).map (drift mapping.hyperperiodDuration
        (DataPlane.Tsn.portEnds port.toNat (events.map Prod.fst)))).filter (· < 1000)) := by
  have recorded := DataPlane.Tsn.run_recorded run cleared empty inRange
  have onlyHere : ∀ frame ∈ events.map Prod.fst, ∀ port', frame.role = .endsPort port' →
      port' = port :=
    List.forall_mem_map.mpr only
  obtain ⟨entries, reply, length, cells⟩ := shows.tasHyperperiodDiff
  unfold readDiffTasClockDrift
  rw [unwrap, Fallible.ok_bind, List.head?_cons, unwrap, Fallible.ok_bind, reply]
  dsimp only
  rw [length, Fallible.concatMap_eq_ok]
  refine ⟨fun i member => ?_, ?_⟩
  · exact ⟨_, pushDeviation_eq (cells i (List.mem_range.mp member)) small duration⟩
  · have pushed : ∀ i ∈ List.range 16000, Fallible.output (pushDeviation entries
        "ingress.tsn_c.tas_hyperperiod_diff" pipe mapping.hyperperiodDuration i) =
          [drift mapping.hyperperiodDuration (DataPlane.Tsn.portEnds port.toNat
            (events.map Prod.fst)) i].filter (· < 1000) := by
      intro i member
      rw [pushDeviation_eq (cells i (List.mem_range.mp member)) small duration,
        Fallible.output_ok, drift_of_recorded recorded onlyHere few]
    rw [List.map_eq_flatMap, List.filter_flatMap]
    exact (List.flatMap_congr pushed).symm

/-! ## Samples -/

/-- A reply with one value for each pipe. -/
def sampleReply (n : Nat) {w : Nat} (value : Nat → Nat → BitVec w) : RegisterEntries where
  len := 16000
  get := fun i => some ⟨fun _ => some ((List.range 4).map fun pipe =>
    (toBeBytes n (value pipe i.toNat).toNat).toList)⟩

def sampleSwitch (pipes : Nat → DataPlane.Tsn.Registers) : RegisterReplies := fun name _ =>
  if name = "ingress.tsn_c.lower_last_ts" then
    some (sampleReply 4 fun pipe => (pipes pipe).lowerLastTs)
  else if name = "ingress.tsn_c.higher_last_ts" then
    some (sampleReply 2 fun pipe => (pipes pipe).higherLastTs)
  else
    some (sampleReply 4 fun pipe => (pipes pipe).tasHyperperiodDiff)

theorem sampleReply_cell (n : Nat) {w i : Nat} (value : Nat → Nat → BitVec w) (name : String)
    (inside : i < 2 ^ 32) : Cell n (fun pipe => value pipe i) name (sampleReply n value) i := by
  refine ⟨_, _, rfl, rfl, fun pipe small => ?_⟩
  rw [BitVec.toNat_ofNat, Nat.mod_eq_of_lt inside, List.getElem?_map,
    List.getElem?_range small]
  rfl

theorem sampleSwitch_shows (pipes : Nat → DataPlane.Tsn.Registers) :
    Shows pipes (sampleSwitch pipes) where
  lowerLastTs i inside :=
    ⟨_, if_pos rfl, sampleReply_cell 4 (fun pipe => (pipes pipe).lowerLastTs) _ (by omega)⟩
  higherLastTs i inside := ⟨_, (if_neg (by decide)).trans (if_pos rfl),
    sampleReply_cell 2 (fun pipe => (pipes pipe).higherLastTs) _ (by omega)⟩
  tasHyperperiodDiff := ⟨_, (if_neg (by decide)).trans (if_neg (by decide)), rfl,
    fun _ inside =>
      sampleReply_cell 4 (fun pipe => (pipes pipe).tasHyperperiodDiff) _ (by omega)⟩

theorem readHyperperiodRegister_eq_sample :
    PacketGenerator.readHyperperiodRegister
      (sampleSwitch fun _ => DataPlane.Tsn.periodRegisters 1) 5 = .ok 1410 :=
  PacketGenerator.readHyperperiodRegister_eq
    (sampleSwitch_shows fun _ => DataPlane.Tsn.periodRegisters 1) 5
    (DataPlane.Tsn.periodRun_run 1) DataPlane.Tsn.sampleRegisters_cleared
    DataPlane.Tsn.periodRun_gates

/-- Two hyperperiod packets of port 3, the second one 10 ns late. -/
theorem readDiffTasClockDrift_eq_sample :
    readDiffTasClockDrift (sampleSwitch fun _ => DataPlane.Tsn.periodRegisters 2) 0
        (some [⟨2, 1, 3, 400⟩]) =
      .ok (((List.range 16000).map (drift 400 [1000, 1410])).filter (· < 1000)) ∧
      drift 400 [1000, 1410] 1 = 10 := by
  have recorded : DataPlane.Tsn.Recorded [] DataPlane.Tsn.sampleRegisters :=
    ⟨rfl, fun _ before frame after _ split => by simp at split, fun _ _ _ => rfl⟩
  have ends : DataPlane.Tsn.portEnds (3 : BitVec 9).toNat
      ((DataPlane.Tsn.periodRun 2).map Prod.fst) = [1000, 1410] := by decide +kernel
  have inRange : ∀ event ∈ DataPlane.Tsn.periodRun 2, event.1.PortInRange := by
    intro event member port role
    cases DataPlane.Tsn.periodRun_ports event member port role
    decide
  refine ⟨?_, by decide⟩
  rw [← ends]
  exact readDiffTasClockDrift_eq (sampleSwitch_shows fun _ => DataPlane.Tsn.periodRegisters 2)
    (by decide) (by decide) (DataPlane.Tsn.periodRun_run 2)
    DataPlane.Tsn.sampleRegisters_cleared recorded inRange DataPlane.Tsn.periodRun_ports
    (by decide +kernel)

end P4Tas.Controller
