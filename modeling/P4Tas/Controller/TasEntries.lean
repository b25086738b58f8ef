import P4Tas.Controller.Prepare
import P4Tas.Controller.Tas

/-!
# What the gate control list means for a port

`Tas.lean` describes the entries of one GCL.  Here they are read in the prepared configuration: a
control packet of a port hits the entries written for that port only, and among them one for each
slice whose closed range contains the packet's position.

* `configureTasQueueId_hits`: the hits of any control packet, over all port mappings;
* `configureTasQueueId_meaning`: the hits of a port's own packets when its slices tile the period.
-/

namespace P4Tas.Controller

namespace Configuration

/-- The batch id a port was given. -/
def batchId? (cfg : Configuration) (port : U8) : Option U8 :=
  match cfg.tas.batchMappings with
  | some batchMappings =>
    (batchMappings.find? fun b => b.egressDevPort == port).map (·.batchId)
  | none => none

/-- The slices of the GCLs a port is mapped to. -/
def portSlices (cfg : Configuration) (port : U8) : List TASTimeSlice :=
  cfg.tas.gclToPortMapping.flatMap fun mapping =>
    if mapping.port = port then
      (cfg.findGcl mapping.gcl).toList.flatMap (·.timeSlices)
    else
      []

theorem mem_portSlices {cfg : Configuration} {port : U8} {t : TASTimeSlice} :
    t ∈ cfg.portSlices port ↔
      ∃ mapping ∈ cfg.tas.gclToPortMapping, mapping.port = port ∧
        ∃ gcl, cfg.findGcl mapping.gcl = some gcl ∧ t ∈ gcl.timeSlices := by
  unfold portSlices
  rw [List.mem_flatMap]
  refine exists_congr fun mapping => and_congr_right fun _ => ?_
  split
  · rename_i same
    simp only [List.mem_flatMap, Option.mem_toList, same, true_and]
  · rename_i other
    simp only [List.not_mem_nil, other, false_and]

namespace Prepared

variable {cfg out : Configuration} {apps : List AppIDMapping} {batches : List BatchIDMapping}

/-- Every mapped port has a batch mapping. -/
theorem exists_batch (prepared : Prepared cfg out apps batches) {mapping : GCLToPortMapping}
    (mapped : mapping ∈ cfg.tas.gclToPortMapping) :
    ∃ b, batches.find? (fun b => b.egressDevPort == mapping.port) = some b := by
  obtain ⟨b, member, isBatch⟩ := KeyedList.exists_related prepared.batches_ports mapped
  exact KeyedList.exists_find? member isBatch.1

/-- Different ports have different batch ids. -/
theorem batch_injective (prepared : Prepared cfg out apps batches) {b b' : BatchIDMapping}
    (left : b ∈ batches) (right : b' ∈ batches) (same : b.batchId = b'.batchId) : b = b' := by
  have distinct : (batches.map fun b => b.batchId.toNat).Nodup := by
    rw [prepared.batch_ids]
    exact List.nodup_range
  exact List.inj_on_of_nodup_map distinct left right (congrArg BitVec.toNat same)

/-- Looking a GCL up by its name finds it, since guard bands keep the distinct names. -/
theorem findGcl_eq_some (prepared : Prepared cfg out apps batches)
    (names : (cfg.tas.gcls.map (·.name)).Nodup) {gcl : GateControlList}
    (member : gcl ∈ out.tas.gcls) : out.findGcl gcl.name = some gcl := by
  have same : cfg.tas.gcls.map (·.name) = out.tas.gcls.map (·.name) :=
    KeyedList.map_key_forall₂ prepared.guarded
      fun _ _ run => GateControlList.insertGuardBands_name run
  exact (KeyedList.find?_eq_some_iff (same ▸ names)).mpr ⟨member, rfl⟩

/-- A name finds a GCL and the guarded one it became, or neither. -/
theorem findGcl_related (prepared : Prepared cfg out apps batches) (name : String) :
    (cfg.findGcl name = none ∧ out.findGcl name = none) ∨
      ∃ gcl guarded, gcl.insertGuardBands = .ok guarded ∧ cfg.findGcl name = some gcl ∧
        out.findGcl name = some guarded :=
  KeyedList.find?_forall₂ prepared.guarded fun _ _ run => GateControlList.insertGuardBands_name run

theorem findGcl_guarded (prepared : Prepared cfg out apps batches) {name : String}
    {guarded : GateControlList} (found : out.findGcl name = some guarded) :
    ∃ gcl, cfg.findGcl name = some gcl ∧ gcl.insertGuardBands = .ok guarded := by
  rcases prepared.findGcl_related name with ⟨_, none⟩ | ⟨gcl, guarded', run, here, there⟩
  · cases none.symm.trans found
  · cases there.symm.trans found
    exact ⟨gcl, here, run⟩

theorem batchId?_eq_some (prepared : Prepared cfg out apps batches) {port batchId : U8} :
    out.batchId? port = some batchId ↔
      ∃ b, batches.find? (fun b => b.egressDevPort == port) = some b ∧ b.batchId = batchId := by
  unfold batchId?
  rw [prepared.batchMappings_eq]
  exact Option.map_eq_some_iff

/-- Two ports with one batch id are the same port. -/
theorem port_eq_of_batchId? (prepared : Prepared cfg out apps batches) {port port' batchId : U8}
    (left : out.batchId? port = some batchId) (right : out.batchId? port' = some batchId) :
    port = port' := by
  obtain ⟨b, found, rfl⟩ := prepared.batchId?_eq_some.mp left
  obtain ⟨b', found', same⟩ := prepared.batchId?_eq_some.mp right
  obtain ⟨member, has⟩ := KeyedList.mem_of_find? found
  obtain ⟨member', has'⟩ := KeyedList.mem_of_find? found'
  rw [← has, ← has', prepared.batch_injective member' member same]

/-- A port that is mapped once gets the slices of the GCL it is mapped to. -/
theorem portSlices_eq (prepared : Prepared cfg out apps batches)
    (ports : (cfg.tas.gclToPortMapping.map (·.port)).Nodup) {mapping : GCLToPortMapping}
    (mapped : mapping ∈ cfg.tas.gclToPortMapping) {gcl : GateControlList}
    (found : out.findGcl mapping.gcl = some gcl) :
    out.portSlices mapping.port = gcl.timeSlices := by
  have only : ∀ other ∈ cfg.tas.gclToPortMapping, other.port = mapping.port → other = mapping :=
    fun other memberO same => List.inj_on_of_nodup_map ports memberO mapped same
  unfold portSlices
  rw [prepared.mappings_eq]
  generalize cfg.tas.gclToPortMapping = mappings at ports mapped only
  induction mappings with
  | nil => cases mapped
  | cons first rest ih =>
    obtain ⟨fresh, ports⟩ := List.nodup_cons.mp ports
    have onlyRest : ∀ other ∈ rest, other.port = mapping.port → other = mapping :=
      fun other memberO => only other (List.mem_cons_of_mem first memberO)
    rw [List.flatMap_cons]
    rcases List.mem_cons.mp mapped with rfl | later
    · have others : (rest.flatMap fun other => if other.port = mapping.port then
          (out.findGcl other.gcl).toList.flatMap (·.timeSlices) else []) = [] := by
        rw [List.flatMap_eq_nil_iff]
        intro other memberO
        refine if_neg fun same => fresh ?_
        exact List.mem_map.mpr ⟨other, memberO, same⟩
      rw [others, if_pos rfl, List.append_nil, found]
      exact List.flatMap_singleton _ _
    · have skip : first.port ≠ mapping.port := by
        intro same
        exact fresh (List.mem_map.mpr ⟨mapping, later, same.symm⟩)
      rw [if_neg skip, List.nil_append, ih ports later onlyRest]

end Prepared

end Configuration

namespace TAS

open Request (hits hits_concatMap)

/-- What an iteration over the port mappings looks up before it writes the entries of the GCL. -/
theorem mappingEntries_eq_ok {switch : Switch} {cfg : Configuration} {mapping : GCLToPortMapping}
    {es : List Request} (run : mappingEntries switch cfg mapping = .ok es) :
    ∃ gcl batchId, cfg.findGcl mapping.gcl = some gcl ∧
      cfg.batchId? mapping.port = some batchId ∧
      gclEntries switch mapping.port batchId gcl.timeSlices = .ok es := by
  obtain ⟨gcl, gclRun, run⟩ := Fallible.bind_eq_ok.mp run
  obtain ⟨batches, batchesRun, run⟩ := Fallible.bind_eq_ok.mp run
  obtain ⟨batch, batchRun, run⟩ := Fallible.bind_eq_ok.mp run
  refine ⟨gcl, batch.batchId, unwrap_eq_ok.mp gclRun, ?_, run⟩
  unfold Configuration.batchId?
  rw [unwrap_eq_ok.mp batchesRun]
  exact Option.map_eq_some_iff.mpr ⟨batch, unwrap_eq_ok.mp batchRun, rfl⟩

/-- The entries of a mapping are those of its GCL. -/
theorem mappingEntries_eq {switch : Switch} {cfg : Configuration} {mapping : GCLToPortMapping}
    {gcl : GateControlList} {batchId : U8}
    (found : cfg.findGcl mapping.gcl = some gcl)
    (batch : cfg.batchId? mapping.port = some batchId) :
    mappingEntries switch cfg mapping = gclEntries switch mapping.port batchId gcl.timeSlices := by
  unfold Configuration.batchId? at batch
  unfold mappingEntries
  cases batches : cfg.tas.batchMappings with
  | none =>
    rw [batches] at batch
    exact absurd batch nofun
  | some batchMappings =>
    rw [batches] at batch
    rcases Option.map_eq_some_iff.mp batch with ⟨b, foundBatch, rfl⟩
    simp only [found, unwrap, foundBatch, Fallible.ok_bind]

open P4Tas.Controller.Configuration in
/-- A control packet of a port hits the entries of the port's own slices and no others: what the
hits apply is what the slices decide, in order. -/
theorem configureTasQueueId_hits {cfg out : Configuration} {apps : List AppIDMapping}
    {batches : List BatchIDMapping} (prepared : Prepared cfg out apps batches) {switch : Switch}
    {reqs : List Request} (run : configureTasQueueId switch out = .ok reqs) {port batchId : U8}
    (batch : out.batchId? port = some batchId) (qId : U8) {p : Nat} (small : p < 2 ^ 32) :
    (hits (controlPacket (port >>> 7) qId batchId p) reqs).map decision =
      (out.portSlices port).flatMap (sliceDecisions switch port qId p) := by
  have all := (Fallible.concatMap_eq_ok.mp run).1
  have perMapping : ∀ mapping ∈ out.tas.gclToPortMapping,
      (hits (controlPacket (port >>> 7) qId batchId p)
        (Fallible.output (mappingEntries switch out mapping))).map decision =
      (if mapping.port = port then (out.findGcl mapping.gcl).toList.flatMap (·.timeSlices)
        else []).flatMap (sliceDecisions switch port qId p) := by
    intro mapping member
    obtain ⟨es, mappingRun⟩ := all mapping member
    obtain ⟨gcl, batchId', found, batch', gclRun⟩ := mappingEntries_eq_ok mappingRun
    rw [mappingRun, Fallible.output_ok, gclEntries_hits gclRun (port >>> 7) qId batchId small]
    have addressed : Addressed mapping.port batchId' (port >>> 7) batchId ↔
        mapping.port = port := by
      refine ⟨?_, ?_⟩
      · intro h
        exact prepared.port_eq_of_batchId? batch' (h.2 ▸ batch)
      · intro same
        rw [same] at batch'
        exact ⟨by rw [same], Option.some.inj (batch'.symm.trans batch)⟩
    rcases Decidable.em (mapping.port = port) with same | other
    · rw [if_pos (addressed.mpr same), if_pos same, found, same]
      congr 1
      exact (List.flatMap_singleton _ _).symm
    · rw [if_neg (mt addressed.mp other), if_neg other]
      rfl
  rw [hits_concatMap run decision, List.flatMap_congr perMapping, ← List.flatMap_assoc]
  rfl

/-! ## A port whose slices tile the period -/

/-- The credit field of the flow control word an entry applies. -/
def credit (r : Request) : Option Nat :=
  (r.data? .afc).map fun word => (AdvancedFlowControl.getCredit ⟨BitVec.ofNat 32 word⟩).toNat

/-- The entry applies the slice's state of the queue: it opens the queue for state 0 and closes it
otherwise, and its flow control word carries the state as credit. -/
def Applies (qId : U8) (t : TASTimeSlice) (r : Request) : Prop :=
  ∃ state, t.queueStates.state? qId = some state ∧ r.action = queueAction state ∧
    credit r = some state.toNat

/-- When the switch answers for all queues, the entries of a GCL are written exactly when the ranges
of the slices with queues can be decomposed. -/
theorem gclEntries_returns_iff {switch : Switch} {port batchId : U8} {slices : List TASTimeSlice}
    (answers : ∀ t ∈ slices, ∀ qId ∈ t.queueStates.keys, switch.Answers port qId) :
    (∃ es, gclEntries switch port batchId slices = .ok es) ↔
      ∀ t ∈ slices, t.queueStates.entries ≠ [] →
        ∃ entries, ternaryBlocks t.low t.high = .ok entries := by
  unfold gclEntries
  rw [Fallible.concatMap_returns_iff]
  refine forall₂_congr fun t member => ?_
  rw [Fallible.concatMap_returns_iff]
  refine ⟨?_, ?_⟩
  · intro all some
    obtain ⟨queue, listed⟩ := List.exists_mem_of_ne_nil _ some
    obtain ⟨es, run⟩ := all queue listed
    obtain ⟨_, entries, _, entriesRun, _⟩ := queueEntries_eq_ok run
    exact ⟨entries, entriesRun⟩
  · intro blocks queue listed
    have key : queue.1 ∈ t.queueStates.keys := List.mem_map_of_mem listed
    obtain ⟨word, wordRun⟩ := getAfcValue_returns (answers t member queue.1 key) (port >>> 7)
      (queue.2.setWidth 16)
    obtain ⟨entries, entriesRun⟩ := blocks (List.ne_nil_of_mem listed)
    unfold queueEntries rangeToTernaryEntries
    simp only [wordRun, entriesRun, Fallible.ok_bind]
    exact ⟨_, rfl⟩

theorem gclEntries_returns {switch : Switch} {port batchId : U8} {slices : List TASTimeSlice}
    (answers : ∀ t ∈ slices, ∀ qId ∈ t.queueStates.keys, switch.Answers port qId)
    (bound : ∀ t ∈ slices, t.high.toNat < 2 ^ 32 - 1) :
    ∃ es, gclEntries switch port batchId slices = .ok es :=
  (gclEntries_returns_iff answers).mpr fun t member _ => ternaryBlocks_returns (bound t member)

/-- In a run that returns, the flow control word of a listed queue was built. -/
theorem gclEntries_word {switch : Switch} {port batchId : U8} {slices : List TASTimeSlice}
    {es : List Request} (run : gclEntries switch port batchId slices = .ok es) {t : TASTimeSlice}
    (member : t ∈ slices) {qId state : U8} (listed : (qId, state) ∈ t.queueStates.entries) :
    ∃ word, getAfcValue switch qId (port >>> 7) port (state.setWidth 16) = .ok word := by
  obtain ⟨_, sliceRun⟩ := (Fallible.concatMap_eq_ok.mp run).1 t member
  obtain ⟨_, queueRun⟩ := (Fallible.concatMap_eq_ok.mp sliceRun).1 (qId, state) listed
  obtain ⟨word, _, wordRun, _⟩ := queueEntries_eq_ok queueRun
  exact ⟨word, wordRun⟩

/-- An entry that decides a listed queue's state applies the slice. -/
theorem applies_of_decision {switch : Switch} {port qId state : U8} {t : TASTimeSlice} {word : U32}
    (found : t.queueStates.state? qId = some state)
    (wordRun : getAfcValue switch qId (port >>> 7) port (state.setWidth 16) = .ok word)
    {r : Request} (decides : decision r = queueDecision switch port qId state) :
    Applies qId t r := by
  obtain ⟨action, data⟩ := Prod.mk.inj decides
  refine ⟨state, found, action, ?_⟩
  have value : afcWord switch qId port state = word := by
    unfold afcWord
    rw [wordRun]
  unfold credit Request.data?
  rw [data, value, List.lookup_cons_self, Option.map_some, BitVec.ofNat_toNat, BitVec.setWidth_eq,
    getCredit_getAfcValue wordRun]

/-- Hits that apply what the slices decide apply the slices that contain the position. -/
theorem forall₂_applies {switch : Switch} {port qId : U8} {p : Nat} {slices : List TASTimeSlice}
    {found : List Request}
    (hit : found.map decision = slices.flatMap (sliceDecisions switch port qId p))
    (built : ∀ t ∈ slices, ∃ state, t.queueStates.state? qId = some state ∧
      ∃ word, getAfcValue switch qId (port >>> 7) port (state.setWidth 16) = .ok word) :
    List.Forall₂ (Applies qId) (slices.filter fun t => decide (t.Contains p)) found := by
  induction slices generalizing found with
  | nil =>
    have none : found = [] := List.map_eq_nil_iff.mp hit
    rw [none]
    exact .nil
  | cons t rest ih =>
    have builtRest := fun t' member => built t' (List.mem_cons_of_mem t member)
    obtain ⟨state, entry, word, wordRun⟩ := built t List.mem_cons_self
    rw [List.flatMap_cons, sliceDecisions] at hit
    rcases Decidable.em (t.Contains p) with here | away
    · rw [if_pos here, entry] at hit
      obtain ⟨r, later, rfl, decides, tail⟩ := List.map_eq_cons_iff.mp hit
      rw [List.filter_cons_of_pos (by simpa using here)]
      exact .cons (applies_of_decision entry wordRun decides) (ih tail builtRest)
    · rw [if_neg away, List.nil_append] at hit
      rw [List.filter_cons_of_neg (by simpa using away)]
      exact ih hit builtRest

/-- **The meaning of a gate control list.**  In the prepared configuration, let a port be mapped
to a GCL whose slices tile `[0, T]` and list a queue throughout.  The entries of the port are
written when the switch answers, and a control packet of the port for that queue at a position up
to `T` hits exactly one of all entries for each slice whose closed range contains the position,
which is two slices at a shared endpoint and one elsewhere; each hit applies its slice's state. -/
theorem configureTasQueueId_meaning {switch : Switch} {cfg out : Configuration} {app : AppState}
    (run : cfg.prepare = .ok (out, app))
    (ports : (cfg.tas.gclToPortMapping.map (·.port)).Nodup)
    (names : (cfg.tas.gcls.map (·.name)).Nodup)
    {mapping : GCLToPortMapping} (mapped : mapping ∈ cfg.tas.gclToPortMapping)
    {gcl : GateControlList} (member : gcl ∈ out.tas.gcls) (named : gcl.name = mapping.gcl)
    (nonempty : gcl.timeSlices ≠ []) {T : Nat} (bound : T < 2 ^ 32 - 1)
    (chain : TASTimeSlice.Chain 0 gcl.timeSlices T)
    (proper : ∀ t ∈ gcl.timeSlices, t.low.toNat < t.high.toNat)
    {qId : U8} (listed : ∀ t ∈ gcl.timeSlices, qId ∈ t.queueStates.keys)
    {p : Nat} (inside : p ≤ T) :
    ∃ batchId, out.batchId? mapping.port = some batchId ∧
      ((∀ t ∈ gcl.timeSlices, ∀ q ∈ t.queueStates.keys, switch.Answers mapping.port q) →
        ∃ es, mappingEntries switch out mapping = .ok es) ∧
      ∀ reqs, configureTasQueueId switch out = .ok reqs →
        let found := hits (controlPacket (mapping.port >>> 7) qId batchId p) reqs
        List.Forall₂ (Applies qId) (gcl.timeSlices.filter fun t => decide (t.Contains p)) found ∧
          (IntervalChain.SharedEnd (fun t : TASTimeSlice => t.high.toNat) gcl.timeSlices p →
            found.length = 2) ∧
          (¬ IntervalChain.SharedEnd (fun t : TASTimeSlice => t.high.toNat) gcl.timeSlices p →
            found.length = 1) := by
  obtain ⟨apps, batches, prepared, _⟩ := Configuration.prepare_eq_ok run
  obtain ⟨b, foundBatch⟩ := prepared.exists_batch mapped
  have batch := prepared.batchId?_eq_some.mpr ⟨b, foundBatch, rfl⟩
  have foundGcl : out.findGcl mapping.gcl = some gcl :=
    named ▸ prepared.findGcl_eq_some names member
  have slices := prepared.portSlices_eq ports mapped foundGcl
  refine ⟨b.batchId, batch, ?_, ?_⟩
  · intro answers
    rw [mappingEntries_eq foundGcl batch]
    exact gclEntries_returns answers fun t memberT =>
      Nat.lt_of_le_of_lt (chain.bounds memberT).2.2 bound
  · intro reqs reqsRun
    have hit := configureTasQueueId_hits prepared reqsRun batch qId (p := p) (by omega)
    obtain ⟨es, mappingRun⟩ :=
      (Fallible.concatMap_eq_ok.mp reqsRun).1 mapping (prepared.mappings_eq ▸ mapped)
    obtain ⟨gcl', batchId', found', batch', gclRun⟩ := mappingEntries_eq_ok mappingRun
    cases Option.some.inj (found'.symm.trans foundGcl)
    have applied : List.Forall₂ (Applies qId)
        (gcl.timeSlices.filter fun t => decide (t.Contains p))
        (hits (controlPacket (mapping.port >>> 7) qId b.batchId p) reqs) := by
      rw [slices] at hit
      exact forall₂_applies hit fun t memberT => by
        obtain ⟨state, entry⟩ := QueueStates.mem_keys.mp (listed t memberT)
        exact ⟨state, QueueStates.state?_eq_some.mpr entry, gclEntries_word gclRun memberT entry⟩
    have count := chain.count proper nonempty (Nat.zero_le p) inside
    refine ⟨applied, ?_, ?_⟩
    · intro shared
      exact applied.length_eq.symm.trans (count.1 shared)
    · intro unshared
      exact applied.length_eq.symm.trans (count.2 unshared)

open P4Tas.Controller.Configuration in
/-- Where the guard band of the sample configuration begins, both slices are hit. -/
theorem configureTasQueueId_meaning_sample :
    ∃ batchId, samplePrepared.batchId? 133 = some batchId ∧
      (∃ es, mappingEntries Switch.sample samplePrepared ⟨133, "tas"⟩ = .ok es) ∧
      ∀ reqs, configureTasQueueId Switch.sample samplePrepared = .ok reqs →
        (hits (controlPacket 1 3 batchId 6) reqs).length = 2 := by
  let gcl := samplePrepared.tas.gcls.head (by decide)
  have chain : TASTimeSlice.Chain 0 gcl.timeSlices 8 := by decide
  obtain ⟨batchId, batch, written, meaning⟩ :=
    @configureTasQueueId_meaning Switch.sample _ _ _ prepare_sample (by decide) (by decide)
      ⟨133, "tas"⟩ List.mem_cons_self gcl List.mem_cons_self rfl (by decide) 8 (by decide) chain
      (by decide) 3 (by decide) 6 (by decide)
  refine ⟨batchId, batch, written ?_, ?_⟩
  · have queues : ∀ t ∈ gcl.timeSlices, t.queueStates.keys = [3] := by decide
    intro t member q listed
    rw [queues t member, List.mem_singleton] at listed
    rw [listed]
    exact ⟨_, 3, 11, rfl, rfl, rfl⟩
  · intro reqs run
    exact (meaning reqs run).2.1 ⟨0, _, rfl, by decide, rfl⟩

end TAS

end P4Tas.Controller
