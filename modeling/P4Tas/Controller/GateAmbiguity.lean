import P4Tas.Controller.GuardBands
import P4Tas.Controller.StreamGateSchedule
import P4Tas.Controller.TasEntries

/-!
# Ambiguous gate decisions

Ranges are decomposed as closed intervals, so a position two slices share is covered by both.  The
entries carry no priority, and the outcome is determined only if both slices decide the same.

* `unambiguous_iff`: all entries that match a packet agree exactly when slices that meet agree; for
  distinct ports and gates this is a condition at the shared endpoints of the schedules as they are
  configured, and for a GCL with guard bands it says that every listed queue is closed throughout.
-/

namespace P4Tas.Controller

open Request (hits mem_hits)
open TAS StreamGateControlList

/-! ## The property -/

/-- Any two entries that match a control packet of a port apply the same action and the same flow
control word. -/
def PortsUnambiguous (out : Configuration) (requests : List Request) : Prop :=
  ∀ mapping ∈ out.tas.gclToPortMapping, ∀ gcl, out.findGcl mapping.gcl = some gcl →
    ∀ batchId, out.batchId? mapping.port = some batchId →
    ∀ qId p, p ≤ gcl.period.toNat →
    ∀ r ∈ hits (controlPacket (mapping.port >>> 7) qId batchId p) requests,
    ∀ r' ∈ hits (controlPacket (mapping.port >>> 7) qId batchId p) requests,
      decision r = decision r'

/-- Any two entries that match a packet of a gate apply the same gate state and the same internal
priority. -/
def GatesUnambiguous (out : Configuration) (requests : List Request) : Prop :=
  ∀ gate ∈ out.psfp.streamGates, ∀ schedule, out.findSchedule gate.schedule = some schedule →
    ∀ p, p ≤ schedule.period.toNat →
    ∀ r ∈ hits (gatePacket gate.streamGateId p) requests,
    ∀ r' ∈ hits (gatePacket gate.streamGateId p) requests, gateDecision r = gateDecision r'

/-! ## The condition on the slices -/

/-- The slices agree about every queue that both list. -/
def SameStates (s t : TASTimeSlice) : Prop :=
  ∀ q a b, s.queueStates.state? q = some a → t.queueStates.state? q = some b → a = b

theorem SameStates.refl (s : TASTimeSlice) : SameStates s s := by
  intro q a b left right
  exact Option.some.inj (left.symm.trans right)

theorem SameStates.symm {s t : TASTimeSlice} (same : SameStates s t) : SameStates t s :=
  fun q a b left right => (same q b a right left).symm

/-- The intervals agree about the gate state and the internal priority. -/
def SameGate (t u : PSFPTimeSlice) : Prop :=
  t.state = u.state ∧ t.ipv = u.ipv

theorem SameGate.symm {t u : PSFPTimeSlice} (same : SameGate t u) : SameGate u t :=
  ⟨same.1.symm, same.2.symm⟩

/-- The intervals written for the stream gates. -/
def writtenIntervals (out : Configuration) : List (U32 × PSFPTimeSlice) :=
  written out (out.psfp.appIdMappings.getD [])

/-- Slices written for one port, and intervals written for one gate, agree when they meet. -/
structure Agreeing (out : Configuration) : Prop where
  ports : ∀ port, ∀ s ∈ out.portSlices port, ∀ t ∈ out.portSlices port,
    (∃ p, s.Contains p ∧ t.Contains p) → SameStates s t
  gates : ∀ pair ∈ writtenIntervals out, ∀ pair' ∈ writtenIntervals out, pair.1 = pair'.1 →
    (∃ p, pair.2.Contains p ∧ pair'.2.Contains p) → SameGate pair.2 pair'.2

/-! ## Ports -/

section Ports

variable {cfg out : Configuration} {apps : List AppIDMapping} {batches : List BatchIDMapping}
  {switch : Switch} {requests : List Request}

/-- Different states are applied differently. -/
theorem queueDecision_injective {port qId a b : U8}
    (builtA : ∃ word, getAfcValue switch qId (port >>> 7) port (a.setWidth 16) = .ok word)
    (builtB : ∃ word, getAfcValue switch qId (port >>> 7) port (b.setWidth 16) = .ok word)
    (same : queueDecision switch port qId a = queueDecision switch port qId b) : a = b := by
  obtain ⟨wordA, runA⟩ := builtA
  obtain ⟨wordB, runB⟩ := builtB
  unfold queueDecision afcWord at same
  rw [runA, runB] at same
  simp only [Prod.mk.injEq, List.cons.injEq, and_true, true_and, BitVec.toNat_inj] at same
  have credits := getCredit_getAfcValue runA
  rw [same.2, getCredit_getAfcValue runB] at credits
  exact (BitVec.eq_of_toNat_eq credits).symm

/-- The flow control words of a port's slices were built in a run that returns. -/
theorem portSlices_word (run : configureTasQueueId switch out = .ok requests) {port : U8}
    {t : TASTimeSlice} (member : t ∈ out.portSlices port) {qId state : U8}
    (listed : t.queueStates.state? qId = some state) :
    ∃ word, getAfcValue switch qId (port >>> 7) port (state.setWidth 16) = .ok word := by
  obtain ⟨mapping, mapped, rfl, gcl, found, memberT⟩ := Configuration.mem_portSlices.mp member
  obtain ⟨es, mappingRun⟩ := (Fallible.concatMap_eq_ok.mp run).1 mapping mapped
  obtain ⟨gcl', batchId, found', _, gclRun⟩ := mappingEntries_eq_ok mappingRun
  cases Option.some.inj (found'.symm.trans found)
  exact gclEntries_word gclRun memberT (QueueStates.state?_eq_some.mp listed)

/-- The entries of the ports agree exactly when the slices of each port do. -/
theorem portsUnambiguous_iff (prepared : cfg.Prepared out apps batches)
    (within : ∀ gcl ∈ out.tas.gcls, ∀ t ∈ gcl.timeSlices, t.high.toNat ≤ gcl.period.toNat)
    (run : configureTasQueueId switch out = .ok requests) :
    PortsUnambiguous out requests ↔
      ∀ port, ∀ s ∈ out.portSlices port, ∀ t ∈ out.portSlices port,
        (∃ p, s.Contains p ∧ t.Contains p) → SameStates s t := by
  refine ⟨?_, ?_⟩
  · intro unambiguous port s memberS t memberT meets q a b listedS listedT
    obtain ⟨p, inS, inT⟩ := meets
    obtain ⟨mapping, mapped, rfl, gcl, found, memberGcl⟩ :=
      Configuration.mem_portSlices.mp memberS
    obtain ⟨batch, batchFound⟩ := prepared.exists_batch (prepared.mappings_eq ▸ mapped)
    have batchId := prepared.batchId?_eq_some.mpr ⟨batch, batchFound, rfl⟩
    have bound : p ≤ gcl.period.toNat :=
      inS.2.trans (within gcl (List.mem_of_find?_eq_some found) s memberGcl)
    have hit := configureTasQueueId_hits prepared run batchId q (p := p) (by omega)
    have decides {x : TASTimeSlice} {state : U8} (member : x ∈ out.portSlices mapping.port)
        (inside : x.Contains p) (listed : x.queueStates.state? q = some state) :
        ∃ r ∈ hits (controlPacket (mapping.port >>> 7) q batch.batchId p) requests,
          decision r = queueDecision switch mapping.port q state := by
      rw [← List.mem_map, hit]
      exact List.mem_flatMap.mpr ⟨x, member, mem_sliceDecisions.mpr ⟨inside, state, listed, rfl⟩⟩
    obtain ⟨r, hitR, decidesS⟩ := decides memberS inS listedS
    obtain ⟨r', hitR', decidesT⟩ := decides memberT inT listedT
    have same :=
      unambiguous mapping mapped gcl found batch.batchId batchId q p bound r hitR r' hitR'
    rw [decidesS, decidesT] at same
    exact queueDecision_injective (portSlices_word run memberS listedS)
      (portSlices_word run memberT listedT) same
  · intro agree mapping mapped gcl found batchId batch qId p bound r hitR r' hitR'
    have hit := configureTasQueueId_hits prepared run batch qId (p := p) (by omega)
    have decided {x : Request}
        (hitX : x ∈ hits (controlPacket (mapping.port >>> 7) qId batchId p) requests) :
        ∃ t ∈ out.portSlices mapping.port, t.Contains p ∧ ∃ state,
          t.queueStates.state? qId = some state ∧
            queueDecision switch mapping.port qId state = decision x := by
      have member := List.mem_map_of_mem (f := decision) hitX
      rw [hit] at member
      obtain ⟨t, memberT, decides⟩ := List.mem_flatMap.mp member
      exact ⟨t, memberT, mem_sliceDecisions.mp decides⟩
    obtain ⟨s, memberS, inS, a, listedS, decidesS⟩ := decided hitR
    obtain ⟨t, memberT, inT, b, listedT, decidesT⟩ := decided hitR'
    rw [← decidesS, ← decidesT,
      agree mapping.port s memberS t memberT ⟨p, inS, inT⟩ qId a b listedS listedT]

/-- The states of a GCL agree across its shared endpoints; where guard bands are inserted, every
listed queue is closed throughout. -/
structure GateControlList.Steady (gcl : GateControlList) : Prop where
  boundaries : gcl.guardBandWidth = 0 →
    gcl.timeSlices.Pairwise fun s t => s.high.toNat = t.low.toNat → SameStates s t
  guarded : gcl.guardBandWidth ≠ 0 →
    ∀ s ∈ gcl.timeSlices, ∀ entry ∈ s.queueStates.entries, entry.2 = 1

/-- The slices of a guarded GCL that meet agree exactly when the GCL is steady. -/
theorem GateControlList.steady_iff {gcl guarded : GateControlList}
    (run : gcl.insertGuardBands = .ok guarded) {a b : Nat}
    (chain : TASTimeSlice.Chain a gcl.timeSlices b) :
    (∀ s ∈ guarded.timeSlices, ∀ t ∈ guarded.timeSlices, (∃ p, s.Contains p ∧ t.Contains p) →
        SameStates s t) ↔ gcl.Steady := by
  have boundaries := chain.forall_meet_iff SameStates.refl fun _ _ => SameStates.symm
  rcases insertGuardBands_eq_ok run with ⟨none, rfl⟩ | ⟨some, slicesRun, _⟩
  · constructor
    · intro agree
      exact ⟨fun _ => boundaries.mp agree, fun some => absurd none some⟩
    · intro steady
      exact boundaries.mpr (steady.boundaries none)
  · constructor
    · intro agree
      refine ⟨fun none => absurd none some, fun _ s member entry listed => ?_⟩
      obtain ⟨x, memberX, y, memberY, meets, statesX, statesY⟩ :=
        guardedSlices_pair slicesRun member
      refine agree x memberX y memberY meets entry.1 entry.2 1 ?_ ?_
      · rw [statesX]
        exact QueueStates.state?_eq_some.mpr listed
      · rw [statesY]
        exact QueueStates.state?_eq_some.mpr
          (QueueStates.mem_setAll.mpr ⟨List.mem_map_of_mem listed, rfl⟩)
    · intro steady
      have closed : ∀ t ∈ guarded.timeSlices, ∀ q state,
          t.queueStates.state? q = Option.some state → state = 1 := by
        intro t member q state listed
        have entry := QueueStates.state?_eq_some.mp listed
        obtain ⟨s, memberS, same | setTo⟩ := guardedSlices_mem slicesRun member
        · exact steady.guarded some s memberS (q, state) (same ▸ entry)
        · exact (QueueStates.mem_setAll.mp (setTo ▸ entry)).2
      intro s memberS t memberT _ q a b listedS listedT
      rw [closed s memberS q a listedS, closed t memberT q b listedT]

/-- With distinct ports, the slices of each port agree exactly when every mapped GCL is steady. -/
theorem ports_agree_iff (prepared : cfg.Prepared out apps batches)
    (chains : ∀ gcl ∈ cfg.tas.gcls, ∃ a b, TASTimeSlice.Chain a gcl.timeSlices b)
    (ports : (cfg.tas.gclToPortMapping.map (·.port)).Nodup) :
    (∀ port, ∀ s ∈ out.portSlices port, ∀ t ∈ out.portSlices port,
        (∃ p, s.Contains p ∧ t.Contains p) → SameStates s t) ↔
      ∀ mapping ∈ cfg.tas.gclToPortMapping, ∀ gcl, cfg.findGcl mapping.gcl = some gcl →
        gcl.Steady := by
  refine ⟨?_, ?_⟩
  · intro agree mapping mapped gcl found
    rcases prepared.findGcl_related mapping.gcl with ⟨none, _⟩ | ⟨g, g', run, found', foundOut⟩
    · exact absurd (none.symm.trans found) nofun
    · cases Option.some.inj (found'.symm.trans found)
      obtain ⟨a, b, chain⟩ := chains gcl (List.mem_of_find?_eq_some found)
      have here := agree mapping.port
      rw [prepared.portSlices_eq ports mapped foundOut] at here
      exact (GateControlList.steady_iff run chain).mp here
  · intro steady port s memberS t memberT
    obtain ⟨mapping, mapped, rfl, gcl', found, _⟩ := Configuration.mem_portSlices.mp memberS
    rw [prepared.mappings_eq] at mapped
    rw [prepared.portSlices_eq ports mapped found] at memberS memberT
    rcases prepared.findGcl_related mapping.gcl with ⟨_, none⟩ | ⟨g, g', run, foundCfg, found'⟩
    · exact absurd (none.symm.trans found) nofun
    · cases Option.some.inj (found'.symm.trans found)
      obtain ⟨a, b, chain⟩ := chains g (List.mem_of_find?_eq_some foundCfg)
      exact (GateControlList.steady_iff run chain).mpr (steady mapping mapped g foundCfg) s memberS
        t memberT

end Ports

/-! ## Stream gates -/

section Gates

variable {cfg out : Configuration} {apps : List AppIDMapping} {batches : List BatchIDMapping}

/-- The entries of the gates agree exactly when the intervals written for each gate do. -/
theorem gatesUnambiguous_iff {start last : U32} {requests : List Request} {identifiers : List U32}
    (numbered : Numbered (writtenIntervals out) start last requests identifiers)
    (within : ∀ s ∈ out.psfp.streamGateSchedules, ∀ t ∈ s.intervals,
      t.high.toNat ≤ s.period.toNat) :
    GatesUnambiguous out requests ↔
      ∀ pair ∈ writtenIntervals out, ∀ pair' ∈ writtenIntervals out, pair.1 = pair'.1 →
        (∃ p, pair.2.Contains p ∧ pair'.2.Contains p) → SameGate pair.2 pair'.2 := by
  refine ⟨?_, ?_⟩
  · intro unambiguous pair member pair' member' sameId meets
    obtain ⟨p, inside, inside'⟩ := meets
    obtain ⟨gate, schedule, gateFound, idEq, scheduleFound, memberT⟩ := mem_written member
    have bound := inside.2.trans
      (within schedule (List.mem_of_find?_eq_some scheduleFound) pair.2 memberT)
    have small : p % 2 ^ 32 = p :=
      Nat.mod_eq_of_lt (Nat.lt_of_le_of_lt inside.2 pair.2.high.isLt)
    have hit := numbered.hits gate.streamGateId p
    have decides {x : U32 × PSFPTimeSlice} (memberX : x ∈ writtenIntervals out)
        (underId : x.1 = gate.streamGateId) (insideX : x.2.Contains p) :
        ∃ r ∈ hits (gatePacket gate.streamGateId p) requests,
          gateDecision r = intervalDecision x.2 := by
      rw [← List.mem_map, hit]
      refine List.mem_flatMap.mpr ⟨x, memberX, ?_⟩
      rw [pairDecisions, if_pos ⟨underId, by rwa [small]⟩]
      exact List.mem_singleton_self _
    obtain ⟨r, hitR, decidesR⟩ := decides member idEq.symm inside
    obtain ⟨r', hitR', decidesR'⟩ := decides member' (sameId.symm.trans idEq.symm) inside'
    have same := unambiguous gate (List.mem_of_find?_eq_some gateFound) schedule scheduleFound p
      bound r hitR r' hitR'
    rw [decidesR, decidesR'] at same
    obtain ⟨state, ipv⟩ := Prod.mk.inj same
    exact ⟨BitVec.eq_of_toNat_eq (Option.some.inj state),
      BitVec.eq_of_toNat_eq (Option.some.inj ipv)⟩
  · intro agree gate _ schedule _ p _ r hitR r' hitR'
    have hit := numbered.hits gate.streamGateId p
    have decided {x : Request} (hitX : x ∈ hits (gatePacket gate.streamGateId p) requests) :
        ∃ pair ∈ writtenIntervals out, pair.1 = gate.streamGateId ∧
          pair.2.Contains (p % 2 ^ 32) ∧ gateDecision x = intervalDecision pair.2 := by
      have member := List.mem_map_of_mem (f := gateDecision) hitX
      rw [hit] at member
      obtain ⟨pair, memberPair, decides⟩ := List.mem_flatMap.mp member
      unfold pairDecisions at decides
      split at decides
      · rename_i own
        exact ⟨pair, memberPair, own.1, own.2, List.mem_singleton.mp decides⟩
      · exact absurd decides List.not_mem_nil
    obtain ⟨pair, member, idEq, inside, decidesR⟩ := decided hitR
    obtain ⟨pair', member', idEq', inside', decidesR'⟩ := decided hitR'
    obtain ⟨state, ipv⟩ := agree pair member pair' member' (idEq.trans idEq'.symm)
      ⟨_, inside, inside'⟩
    rw [decidesR, decidesR', intervalDecision, intervalDecision, state, ipv]

/-- With distinct gate ids, the intervals of each gate agree exactly when those of every gate's
schedule agree across their shared endpoints. -/
theorem gates_agree_iff (prepared : cfg.Prepared out apps batches)
    (chains : ∀ s ∈ cfg.psfp.streamGateSchedules, ∃ a b, PSFPTimeSlice.Chain a s.intervals b)
    (ids : (cfg.psfp.streamGates.map (·.streamGateId)).Nodup) :
    (∀ pair ∈ writtenIntervals out, ∀ pair' ∈ writtenIntervals out, pair.1 = pair'.1 →
        (∃ p, pair.2.Contains p ∧ pair'.2.Contains p) → SameGate pair.2 pair'.2) ↔
      ∀ gate ∈ cfg.psfp.streamGates, ∀ schedule,
        cfg.findSchedule gate.schedule = some schedule →
        schedule.intervals.Pairwise fun t u => t.high.toNat = u.low.toNat → SameGate t u := by
  have gatesEq := prepared.streamGates_eq
  have boundaries (schedule : StreamGateControlList)
      (member : schedule ∈ cfg.psfp.streamGateSchedules) :=
    let ⟨_, _, chain⟩ := chains schedule member
    chain.forall_meet_iff (A := SameGate) (fun _ => ⟨rfl, rfl⟩) fun _ _ => SameGate.symm
  refine ⟨?_, ?_⟩
  · intro agree gate member schedule found
    refine (boundaries schedule (List.mem_of_find?_eq_some found)).mp ?_
    intro t memberT u memberU meets
    have inWritten {x : PSFPTimeSlice} (memberX : x ∈ schedule.intervals) :
        ∃ first, findGateOfSchedule out gate.schedule = some first ∧
          (first.streamGateId, x) ∈ writtenIntervals out := by
      obtain ⟨m, memberM, isApp⟩ :=
        KeyedList.exists_related prepared.apps_gates_out (gatesEq ▸ member)
      obtain ⟨first, schedule', firstFound, found', target⟩ :=
        target?_eq (gatesEq ▸ ids) (gatesEq ▸ member) isApp
      rw [prepared.findSchedule_eq] at found'
      cases Option.some.inj (found'.symm.trans found)
      refine ⟨first, firstFound, ?_⟩
      unfold writtenIntervals
      rw [prepared.appIdMappings_eq]
      refine List.mem_flatMap.mpr ⟨m, memberM, ?_⟩
      rw [target, Option.toList_some, List.flatMap_singleton]
      exact List.mem_map_of_mem memberX
    obtain ⟨first, firstFound, writtenT⟩ := inWritten memberT
    obtain ⟨first', firstFound', writtenU⟩ := inWritten memberU
    cases Option.some.inj (firstFound.symm.trans firstFound')
    exact agree _ writtenT _ writtenU rfl meets
  · intro agree pair member pair' member' sameId meets
    obtain ⟨gate, schedule, gateFound, idEq, scheduleFound, memberT⟩ := mem_written member
    obtain ⟨gate', schedule', gateFound', idEq', scheduleFound', memberT'⟩ := mem_written member'
    have memberGate := gatesEq ▸ List.mem_of_find?_eq_some gateFound
    have memberGate' := gatesEq ▸ List.mem_of_find?_eq_some gateFound'
    have same : gate = gate' := List.inj_on_of_nodup_map ids memberGate memberGate'
      (idEq.trans (sameId.trans idEq'.symm))
    subst same
    cases Option.some.inj (scheduleFound.symm.trans scheduleFound')
    have found := (prepared.findSchedule_eq gate.schedule).symm.trans scheduleFound
    exact (boundaries schedule (List.mem_of_find?_eq_some found)).mpr
      (agree gate memberGate schedule found) pair.2 memberT pair'.2 memberT' meets

end Gates

/-! ## Both tables -/

/-- The slices of every GCL and the intervals of every schedule are listed end to start, within the
period. -/
structure ListedConsecutively (cfg : Configuration) : Prop where
  gcls : ∀ gcl ∈ cfg.tas.gcls, ∃ a b, TASTimeSlice.Chain a gcl.timeSlices b ∧
    b ≤ gcl.period.toNat
  schedules : ∀ s ∈ cfg.psfp.streamGateSchedules, ∃ a b, PSFPTimeSlice.Chain a s.intervals b ∧
    b ≤ s.period.toNat

/-- Every mapped GCL is steady, and the schedule of every gate agrees across its shared
endpoints. -/
structure SteadyConfiguration (cfg : Configuration) : Prop where
  gcls : ∀ mapping ∈ cfg.tas.gclToPortMapping, ∀ gcl, cfg.findGcl mapping.gcl = some gcl →
    gcl.Steady
  schedules : ∀ gate ∈ cfg.psfp.streamGates, ∀ schedule,
    cfg.findSchedule gate.schedule = some schedule →
    schedule.intervals.Pairwise fun t u => t.high.toNat = u.low.toNat → SameGate t u

/-- **Gate decisions are unambiguous** exactly when the slices written for one port, and the
intervals written for one gate, agree wherever two of them meet.  With distinct ports and gate ids
this says that the configured schedules agree across their shared endpoints, and that a GCL with
guard bands keeps every listed queue closed. -/
theorem unambiguous_iff {cfg out : Configuration} {app app' : AppState} {switch : Switch}
    {tasRequests psfpRequests : List Request} (listed : ListedConsecutively cfg)
    (prepared : cfg.prepare = .ok (out, app))
    (tasRun : configureTasQueueId switch out = .ok tasRequests)
    (psfpRun : writeAllSchedules out app = .ok (psfpRequests, app')) :
    (PortsUnambiguous out tasRequests ∧ GatesUnambiguous out psfpRequests ↔ Agreeing out) ∧
      ((cfg.tas.gclToPortMapping.map (·.port)).Nodup →
        (cfg.psfp.streamGates.map (·.streamGateId)).Nodup →
        (PortsUnambiguous out tasRequests ∧ GatesUnambiguous out psfpRequests ↔
          SteadyConfiguration cfg)) := by
  obtain ⟨apps, batches, prepared, _⟩ := Configuration.prepare_eq_ok prepared
  have withinGcls : ∀ gcl ∈ out.tas.gcls, ∀ t ∈ gcl.timeSlices,
      t.high.toNat ≤ gcl.period.toNat := by
    intro gcl member t memberT
    obtain ⟨original, memberO, run⟩ := KeyedList.exists_related prepared.guarded.flip member
    obtain ⟨a, b, chain, within⟩ := listed.gcls original memberO
    obtain ⟨a', b', chain', within'⟩ :=
      GateControlList.insertGuardBands_chain run chain within
    exact (chain'.bounds memberT).2.2.trans within'
  have withinSchedules : ∀ s ∈ out.psfp.streamGateSchedules, ∀ t ∈ s.intervals,
      t.high.toNat ≤ s.period.toNat := by
    intro s member t memberT
    rw [prepared.psfp_eq] at member
    obtain ⟨a, b, chain, within⟩ := listed.schedules s member
    exact (chain.bounds memberT).2.2.trans within
  obtain ⟨_, identifiers, numbered⟩ := writeAllSchedules_eq_ok prepared.appIdMappings_eq psfpRun
  have numberedHere : Numbered (writtenIntervals out) app.uniqueIntervalIdentifier
      app'.uniqueIntervalIdentifier psfpRequests identifiers := by
    unfold writtenIntervals
    rw [prepared.appIdMappings_eq]
    exact numbered
  have portsIff := portsUnambiguous_iff prepared withinGcls tasRun
  have gatesIff := gatesUnambiguous_iff numberedHere withinSchedules
  refine ⟨?_, fun ports ids => ?_⟩
  · rw [portsIff, gatesIff]
    exact ⟨fun h => ⟨h.1, h.2⟩, fun h => ⟨h.ports, h.gates⟩⟩
  · have chainsGcls : ∀ gcl ∈ cfg.tas.gcls, ∃ a b, TASTimeSlice.Chain a gcl.timeSlices b := by
      intro gcl member
      obtain ⟨a, b, chain, _⟩ := listed.gcls gcl member
      exact ⟨a, b, chain⟩
    have chainsSchedules : ∀ s ∈ cfg.psfp.streamGateSchedules,
        ∃ a b, PSFPTimeSlice.Chain a s.intervals b := by
      intro s member
      obtain ⟨a, b, chain, _⟩ := listed.schedules s member
      exact ⟨a, b, chain⟩
    rw [portsIff, gatesIff, ports_agree_iff prepared chainsGcls ports,
      gates_agree_iff prepared chainsSchedules ids]
    exact ⟨fun h => ⟨h.1, h.2⟩, fun h => ⟨h.gcls, h.schedules⟩⟩

/-- The state of a single queue. -/
def QueueStates.single (queue state : U8) : QueueStates where
  entries := [(queue, state)]
  nodup := List.nodup_singleton queue

/-- The sample configuration with its queue closed and its gates open throughout. -/
def steadySample : Configuration where
  psfp := { Configuration.sample.psfp with
    streamGateSchedules := [{ name := "psfp", period := 8, intervals :=
      [{ low := 0, high := 4, state := 1, ipv := 0, octets := 100 },
       { low := 4, high := 8, state := 1, ipv := 0, octets := 100 }] }] }
  tas := { Configuration.sample.tas with
    gcls := [{ period := 6, name := "tas", guardBandWidth := 2, timeSlices :=
      [{ low := 0, high := 6, queueStates := .single 3 1 }] }] }

theorem steadySample_listed : ListedConsecutively steadySample where
  gcls := List.forall_mem_singleton.mpr ⟨0, 6, by decide, by decide⟩
  schedules := List.forall_mem_singleton.mpr ⟨0, 8, by decide, by decide⟩

theorem steadySample_steady : SteadyConfiguration steadySample where
  gcls := by
    intro mapping mapped gcl found
    have gclEq := List.mem_singleton.mp (List.mem_of_find?_eq_some found)
    subst gclEq
    exact ⟨nofun, fun _ => List.forall_mem_singleton.mpr (List.forall_mem_singleton.mpr rfl)⟩
  schedules := by
    intro gate member schedule found
    have scheduleEq := List.mem_singleton.mp (List.mem_of_find?_eq_some found)
    subst scheduleEq
    refine .cons ?_ (.cons (fun _ later => absurd later List.not_mem_nil) .nil)
    exact List.forall_mem_singleton.mpr fun _ => ⟨rfl, rfl⟩

theorem unambiguous_iff_steady :
    ∃ out app tasRequests psfpRequests app', steadySample.prepare = .ok (out, app) ∧
      configureTasQueueId Switch.sample out = .ok tasRequests ∧
      writeAllSchedules out app = .ok (psfpRequests, app') ∧
      PortsUnambiguous out tasRequests ∧ GatesUnambiguous out psfpRequests := by
  obtain ⟨⟨out, app⟩, prepared⟩ : ∃ x, steadySample.prepare = .ok x := ⟨_, rfl⟩
  have outEq := Except.ok.inj prepared
  obtain ⟨tasRequests, tasRun⟩ : ∃ x, configureTasQueueId Switch.sample out = .ok x := by
    cases outEq
    exact Fallible.exists_of_isOk (by decide +kernel)
  obtain ⟨⟨psfpRequests, app'⟩, psfpRun⟩ : ∃ x, writeAllSchedules out app = .ok x := by
    cases outEq
    exact Fallible.exists_of_isOk (by decide +kernel)
  exact ⟨out, app, tasRequests, psfpRequests, app', prepared, tasRun, psfpRun,
    ((unambiguous_iff steadySample_listed prepared tasRun psfpRun).2 (by decide) (by decide)).mpr
      steadySample_steady⟩

/-- In the sample configuration, queue 3 of the port is both open and closed where its guard band
begins, and a gate is both open and closed where its second interval begins. -/
theorem sample_ambiguous :
    ListedConsecutively Configuration.sample ∧
      Configuration.sample.prepare = .ok (Configuration.samplePrepared, ⟨4, 0⟩) ∧
      ∃ tasRequests psfpRequests app',
        configureTasQueueId Switch.sample Configuration.samplePrepared = .ok tasRequests ∧
        writeAllSchedules Configuration.samplePrepared ⟨4, 0⟩ = .ok (psfpRequests, app') ∧
        ¬ PortsUnambiguous Configuration.samplePrepared tasRequests ∧
        ¬ GatesUnambiguous Configuration.samplePrepared psfpRequests := by
  have listed : ListedConsecutively Configuration.sample :=
    ⟨List.forall_mem_singleton.mpr ⟨0, 6, by decide, by decide⟩,
      List.forall_mem_singleton.mpr ⟨0, 8, by decide, by decide⟩⟩
  obtain ⟨tasRequests, tasRun⟩ :
      ∃ x, configureTasQueueId Switch.sample Configuration.samplePrepared = .ok x :=
    Fallible.exists_of_isOk (by decide +kernel)
  obtain ⟨⟨psfpRequests, app'⟩, psfpRun⟩ :
      ∃ x, writeAllSchedules Configuration.samplePrepared ⟨4, 0⟩ = .ok x :=
    Fallible.exists_of_isOk (by decide +kernel)
  obtain ⟨apps, batches, prepared, _⟩ := Configuration.prepare_eq_ok Configuration.prepare_sample
  obtain ⟨_, identifiers, numbered⟩ := writeAllSchedules_eq_ok rfl psfpRun
  refine ⟨listed, Configuration.prepare_sample, tasRequests, psfpRequests, app', tasRun, psfpRun,
    ?_, ?_⟩
  · intro unambiguous
    have same := (portsUnambiguous_iff prepared (by decide) tasRun).mp unambiguous 133
      _ List.mem_cons_self _ (List.mem_cons_of_mem _ List.mem_cons_self) ⟨6, by decide⟩ 3 0 1 rfl
      rfl
    exact absurd same (by decide)
  · intro unambiguous
    have same := (gatesUnambiguous_iff numbered (by decide)).mp unambiguous
      _ List.mem_cons_self _ (List.mem_cons_of_mem _ List.mem_cons_self) rfl ⟨4, by decide⟩
    exact absurd same.1 (by decide)

end P4Tas.Controller
