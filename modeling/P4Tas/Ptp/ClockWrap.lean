import P4Tas.Ptp.Bounds
import P4Tas.Ptp.Provenance
import P4Tas.Ptp.TimestampUnwrap

/-!
# Wraps of the hardware clock

The tracker takes every decrease between two timestamps for a wrap of the 48-bit clock.  It is fed
the ingress times of Syncs, which wait in the socket, and the egress times of Delay_Reqs, which are
read at once.

A `World` is the monitor with the frames that wait for it.  A frame is stamped when it arrives; the
monitor handles it at the time at which the Delay_Req, if one follows, leaves the switch.

* `step_tracker`: which timestamp a step of the monitor feeds to the tracker;
* `clock_steady_iff`: while the clock does not wrap, no wrap is counted exactly when no Sync is
  handled that arrived before an egress time that was captured earlier.
-/

namespace P4Tas.Ptp

open Transition (Run)

/-! ## What a step feeds to the tracker -/

/-- The frame is a Sync with a hardware timestamp appended. -/
def StampedSync (config : Config) (frame : List U8) (hwTs : U64) : Prop :=
  ∃ h ptpFrame, acceptFrame config frame = .ok (some (h, ptpFrame)) ∧ h.msgType = PTP_SYNC ∧
    extractIngressTimestamp frame h = .ok (some hwTs)

/-- The tracker after a step: fed with the timestamp of a Sync, with the egress timestamp of a
Delay_Req, or not at all. -/
inductive Feeds (config : Config) (m : Monitor) (e : Event) (m' : Monitor) : Prop
  | nothing : e.stamped = none → e.captured = none → m'.tsTracker = m.tsTracker →
      Feeds config m e m'
  | sync {frame : List U8} {instant : Nat} {env : SendEnv} {h : PtpHeader} {hwTs : U64} :
      e.input = .frame frame instant env → StampedSync config frame hwTs →
      e.stamped = some (h, .fromNs (m.tsTracker.combine hwTs).2) → e.captured = none →
      m'.tsTracker = (m.tsTracker.combine hwTs).1 → Feeds config m e m'
  | egress {frame : List U8} {instant : Nat} {env : SendEnv} {ts : DelayReqTimestamp} {seq : U16} :
      e.input = .frame frame instant env →
      readEgressTs m.lastSync.lastEgressTsId env.reads (List.range 5) = some ts →
      e.stamped = none → e.captured = some (seq, .fromNs (m.tsTracker.combine ts.rawHwNs).2) →
      m'.tsTracker = (m.tsTracker.combine ts.rawHwNs).1 → Feeds config m e m'

variable {config : Config} {m m' : Monitor} {e : Event}

theorem handleMessage_tracker {frame ptpFrame : List U8} {h : PtpHeader} {now : Nat}
    {handled : Handled} (run : handleMessage config m frame h ptpFrame now = .ok (m', handled)) :
    (∃ hwTs, h.msgType = PTP_SYNC ∧ extractIngressTimestamp frame h = .ok (some hwTs) ∧
        handled = .sync h (some (.fromNs (m.tsTracker.combine hwTs).2)) ∧
        m'.tsTracker = (m.tsTracker.combine hwTs).1) ∨
      ((∀ h t2, handled ≠ .sync h (some t2)) ∧ m'.tsTracker = m.tsTracker) := by
  rcases handleMessage_eq_ok run with ⟨ofType, tsTracker, t2, reconstructed, rfl, rfl⟩ |
    ⟨_, _, rfl, rfl⟩ | ⟨_, _, rfl, rfl⟩ | ⟨_, rfl, rfl⟩ | ⟨rfl, rfl⟩
  · rcases Fallible.bind_eq_ok.mp reconstructed with ⟨hwTs, extracted, reconstructed⟩
    cases hwTs with
    | none =>
      cases reconstructed
      exact .inr ⟨nofun, rfl⟩
    | some hwTs =>
      cases reconstructed
      exact .inl ⟨hwTs, ofType, extracted, rfl, rfl⟩
  · exact .inr ⟨nofun, rfl⟩
  · exact .inr ⟨nofun, rfl⟩
  · exact .inr ⟨nofun, rfl⟩
  · exact .inr ⟨nofun, rfl⟩

theorem Event.stamped_eq_none (unstamped : ∀ h t2, e.handled ≠ .sync h (some t2)) :
    e.stamped = none := by
  cases found : e.stamped with
  | none => rfl
  | some sync => exact absurd (Event.stamped_eq_some.mp found) (unstamped sync.1 sync.2)

/-- The egress timestamp of the Delay_Req that follows a Follow_Up, if one is read. -/
theorem captured_tracker {h : PtpHeader} {frame : List U8} {now : Nat} {env : SendEnv} :
    Feeds config m ⟨.frame frame now env, .followUp h true,
        some (captureEgressTs (m.matched h) env.reads).2⟩
      (captureEgressTs (m.matched h) env.reads).1 := by
  have same : (m.matched h).lastSync.lastEgressTsId = m.lastSync.lastEgressTsId := rfl
  cases read : readEgressTs m.lastSync.lastEgressTsId env.reads (List.range 5) with
  | none =>
    unfold captureEgressTs
    rw [same, read]
    exact .nothing rfl rfl rfl
  | some ts =>
    unfold captureEgressTs
    rw [same, read]
    exact .egress rfl read rfl rfl rfl

theorem step_tracker (taken : step config m e m') : Feeds config m e m' := by
  rcases e with ⟨input, handled, delayReq⟩
  cases input with
  | tick now =>
    cases taken
    refine .nothing rfl rfl ?_
    unfold Monitor.tick
    split
    · split
      · rfl
      · rfl
    · rfl
  | frame frame now env =>
    rcases Fallible.bind_eq_ok.mp taken with ⟨⟨mid, handled'⟩, framed, taken⟩
    have whole := handleFrame_cases framed
    rcases acceptFrame_returns config frame with ⟨accepted, acceptRun, _⟩
    unfold handleFrame at framed
    rw [acceptRun, Fallible.ok_bind] at framed
    cases accepted with
    | none =>
      cases framed
      cases taken
      exact .nothing rfl rfl rfl
    | some accepted =>
      rcases accepted with ⟨h, ptpFrame⟩
      rcases handleMessage_tracker framed with ⟨hwTs, ofType, extracted, rfl, tracker⟩ |
        ⟨unstamped, tracker⟩
      · cases taken
        exact .sync rfl ⟨h, ptpFrame, acceptRun, ofType, extracted⟩ rfl rfl tracker
      · rcases whole with ⟨unmatched, -⟩ | ⟨h', _, rfl, rfl⟩
        · dsimp only at taken
          split at taken
          · rename_i h'
            exact absurd rfl (unmatched h')
          · cases taken
            exact .nothing (Event.stamped_eq_none unstamped) rfl tracker
        · rcases Fallible.bind_eq_ok.mp taken with ⟨⟨m'', delayReq'⟩, sent, result⟩
          cases result
          rcases sendDelayRequest_eq_ok sent with ⟨rfl, rfl⟩ | ⟨rfl, rfl⟩
          · exact .nothing rfl rfl rfl
          · exact captured_tracker

/-! ## The socket and the clock -/

/-- The monitor, the frames in its socket with the times of their arrival, and the hardware
clock. -/
structure World where
  monitor : Monitor
  socket : List (List U8 × Nat)
  now : Nat

def World.start (swTsNs : U16) (now : Nat) : World where
  monitor := .new swTsNs
  socket := []
  now

/-- A frame arrives, or the monitor is woken by its ticker or takes a frame from the socket. -/
inductive WorldEvent
  | arrives (frame : List U8) (time : Nat)
  | ticks (e : Event) (time : Nat)
  | handles (e : Event) (arrival time : Nat)

namespace WorldEvent

/-- The arrival of a Sync whose timestamp is fed to the tracker. -/
def ingress : WorldEvent → Option Nat
  | handles e arrival _ => e.stamped.map fun _ => arrival
  | _ => none

/-- The time at which a Delay_Req leaves whose egress timestamp is fed to the tracker. -/
def egress : WorldEvent → Option Nat
  | handles e _ time => e.captured.map fun _ => time
  | _ => none

/-- The T2 or T3 that is reconstructed. -/
def reconstructed : WorldEvent → List PtpTime
  | handles e _ _ => (e.stamped.map Prod.snd).toList ++ (e.captured.map Prod.snd).toList
  | _ => []

end WorldEvent

/-- A Sync with a timestamp carries the time of its arrival. -/
def StampedAt (config : Config) (frame : List U8) (time : Nat) : Prop :=
  ∀ hwTs, StampedSync config frame hwTs → hwTs.toNat % 2 ^ 48 = time % 2 ^ 48

/-- The egress timestamp that is read is the time at which the Delay_Req leaves. -/
def ReadsEgress (m : Monitor) (env : SendEnv) (time : Nat) : Prop :=
  ∀ ts, readEgressTs m.lastSync.lastEgressTsId env.reads (List.range 5) = some ts →
    ts.rawHwNs.toNat % 2 ^ 48 = time % 2 ^ 48

/-- The clock never decreases and stays between two multiples of `2 ^ 48`; the socket is a queue. -/
inductive World.Step (config : Config) (window : Nat) (w : World) : WorldEvent → World → Prop
  | arrives {frame : List U8} {time : Nat} : w.now ≤ time → time / 2 ^ 48 = window →
      StampedAt config frame time →
      World.Step config window w (.arrives frame time)
        { w with socket := w.socket ++ [(frame, time)], now := time }
  | ticks {e : Event} {instant time : Nat} {m' : Monitor} : w.now ≤ time →
      time / 2 ^ 48 = window → e.input = .tick instant → step config w.monitor e m' →
      World.Step config window w (.ticks e time) { w with monitor := m', now := time }
  | handles {e : Event} {frame : List U8} {instant arrival time : Nat} {env : SendEnv}
      {rest : List (List U8 × Nat)} {m' : Monitor} : w.now ≤ time → time / 2 ^ 48 = window →
      w.socket = (frame, arrival) :: rest → e.input = .frame frame instant env →
      (e.captured ≠ none → ReadsEgress w.monitor env time) → step config w.monitor e m' →
      World.Step config window w (.handles e arrival time)
        { monitor := m', socket := rest, now := time }

/-- The frames in the socket have arrived one after the other, the Syncs with the times of their
arrival. -/
structure World.Queued (config : Config) (window : Nat) (w : World) : Prop where
  now : w.now / 2 ^ 48 = window
  ordered : (w.socket.map Prod.snd).Pairwise (· ≤ ·)
  arrived : ∀ f ∈ w.socket, f.2 ≤ w.now ∧ f.2 / 2 ^ 48 = window ∧ StampedAt config f.1 f.2

/-- What a step of the world feeds to the tracker, with the hardware time. -/
inductive World.Fed (w : World) (x : WorldEvent) (w' : World) : Prop
  | nothing : x.ingress = none → x.egress = none → x.reconstructed = [] →
      w'.monitor.tsTracker = w.monitor.tsTracker → World.Fed w x w'
  | ingress {frame : List U8} {arrival : Nat} {hwTs : U64} :
      w.socket = (frame, arrival) :: w'.socket → x.ingress = some arrival → x.egress = none →
      (TimestampTracker.low48 hwTs).toNat = arrival % 2 ^ 48 →
      x.reconstructed = [.fromNs (w.monitor.tsTracker.combine hwTs).2] →
      w'.monitor.tsTracker = (w.monitor.tsTracker.combine hwTs).1 → World.Fed w x w'
  | egress {hwTs : U64} : x.ingress = none → x.egress = some w'.now →
      (TimestampTracker.low48 hwTs).toNat = w'.now % 2 ^ 48 →
      x.reconstructed = [.fromNs (w.monitor.tsTracker.combine hwTs).2] →
      w'.monitor.tsTracker = (w.monitor.tsTracker.combine hwTs).1 → World.Fed w x w'

variable {window : Nat} {w w' : World} {x : WorldEvent}

theorem World.Step.queued (taken : World.Step config window w x w')
    (queued : w.Queued config window) : w'.Queued config window ∧ w.now ≤ w'.now ∧
      ∀ f ∈ w'.socket, f ∈ w.socket ∨ w.now ≤ f.2 := by
  have later : ∀ {time : Nat}, w.now ≤ time → ∀ f ∈ w.socket,
      f.2 ≤ time ∧ f.2 / 2 ^ 48 = window ∧ StampedAt config f.1 f.2 := by
    intro time later f member
    rcases queued.arrived f member with ⟨arrived, inWindow, stamped⟩
    exact ⟨arrived.trans later, inWindow, stamped⟩
  cases taken with
  | arrives ordered inWindow stamped =>
    refine ⟨⟨inWindow, ?_, ?_⟩, ordered, fun f member => ?_⟩
    · rw [List.map_append, List.pairwise_append]
      refine ⟨queued.ordered, List.pairwise_singleton _ _, ?_⟩
      intro a member b last
      rcases List.mem_map.mp member with ⟨f, waits, rfl⟩
      rw [List.mem_singleton.mp last]
      exact (later ordered f waits).1
    · intro f member
      rcases List.mem_append.mp member with old | new
      · exact later ordered f old
      · rw [List.mem_singleton.mp new]
        exact ⟨Nat.le_refl _, inWindow, stamped⟩
    · refine (List.mem_append.mp member).imp_right fun new => ?_
      rw [List.mem_singleton.mp new]
      exact ordered
  | ticks ordered inWindow _ _ =>
    exact ⟨⟨inWindow, queued.ordered, later ordered⟩, ordered, fun _ member => .inl member⟩
  | handles ordered inWindow head _ _ _ =>
    have sorted := queued.ordered
    rw [head, List.map_cons, List.pairwise_cons] at sorted
    have waiting : ∀ f ∈ _, f ∈ w.socket := fun f member =>
      head ▸ List.mem_cons_of_mem _ member
    exact ⟨⟨inWindow, sorted.2, fun f member => later ordered f (waiting f member)⟩, ordered,
      fun f member => .inl (waiting f member)⟩

theorem World.Step.fed (taken : World.Step config window w x w')
    (queued : w.Queued config window) : w.Fed x w' := by
  cases taken with
  | arrives _ _ _ => exact .nothing rfl rfl rfl rfl
  | ticks _ _ input taken =>
    cases step_tracker taken with
    | nothing _ _ same => exact .nothing rfl rfl rfl same
    | sync framed _ _ _ _ => cases input.symm.trans framed
    | egress framed _ _ _ _ => cases input.symm.trans framed
  | handles _ _ head input reads taken =>
    cases step_tracker taken with
    | nothing unstamped uncaptured same =>
      refine .nothing ?_ ?_ ?_ same
      · simp [WorldEvent.ingress, unstamped]
      · simp [WorldEvent.egress, uncaptured]
      · simp [WorldEvent.reconstructed, unstamped, uncaptured]
    | sync framed sync stamped uncaptured fed =>
      cases input.symm.trans framed
      have member := queued.arrived _ (head ▸ List.mem_cons_self)
      refine .ingress head ?_ ?_ ?_ ?_ fed
      · simp [WorldEvent.ingress, stamped]
      · simp [WorldEvent.egress, uncaptured]
      · rw [TimestampTracker.low48_toNat]
        exact member.2.2 _ sync
      · simp [WorldEvent.reconstructed, stamped, uncaptured]
    | egress framed read unstamped captured fed =>
      cases input.symm.trans framed
      refine .egress ?_ ?_ ?_ ?_ fed
      · simp [WorldEvent.ingress, unstamped]
      · simp [WorldEvent.egress, captured]
      · rw [TimestampTracker.low48_toNat]
        exact reads (by rw [captured]; nofun) _ read
      · simp [WorldEvent.reconstructed, unstamped, captured]

/-! ## No wrap is counted -/

/-- No wrap has been counted: the upper half of the timestamps is what it was, in the tracker and in
every T2 and T3. -/
def Steady (swTsNs : U16) (before : List WorldEvent) (w : World) : Prop :=
  w.monitor.tsTracker.swTsNs = swTsNs ∧
    ∀ x ∈ before, ∀ t ∈ x.reconstructed, t.rawNs.toNat / 2 ^ 48 = swTsNs.toNat

/-- No Sync is handled that arrived before an egress time that was captured earlier. -/
def InOrder (xs : List WorldEvent) : Prop :=
  xs.Pairwise fun x y => ∀ captured, x.egress = some captured →
    ∀ arrival, y.ingress = some arrival → captured ≤ arrival

/-- The last timestamp is of a Sync that arrived before those in the socket, or of a Delay_Req. -/
structure Tracked (config : Config) (window : Nat) (swTsNs : U16) (before : List WorldEvent)
    (w : World) : Prop where
  queued : w.Queued config window
  steady : Steady swTsNs before w
  last : ∀ last, w.monitor.tsTracker.lastHwTs = some last → ∃ time, time ≤ w.now ∧
    time / 2 ^ 48 = window ∧ last.toNat = time % 2 ^ 48 ∧
    ((∀ f ∈ w.socket, time ≤ f.2) ∨ ∃ x ∈ before, x.egress = some time)

variable {swTsNs : U16} {xs before : List WorldEvent} {start : Nat}

theorem Steady.append_combine {hwTs : U64} (steady : Steady swTsNs before w)
    (ordered : ∀ last, w.monitor.tsTracker.lastHwTs = some last →
      last ≤ TimestampTracker.low48 hwTs)
    (reconstructed : x.reconstructed = [.fromNs (w.monitor.tsTracker.combine hwTs).2])
    (fed : w'.monitor.tsTracker = (w.monitor.tsTracker.combine hwTs).1) :
    Steady swTsNs (before ++ [x]) w' := by
  have upper : (w.monitor.tsTracker.combine hwTs).1.swTsNs = swTsNs :=
    (TimestampTracker.combine_steady_iff.mpr ordered).trans steady.1
  refine ⟨by rw [fed, upper], fun y member t time => ?_⟩
  rcases List.mem_append.mp member with old | new
  · exact steady.2 y old t time
  · rw [List.mem_singleton.mp new, reconstructed, List.mem_singleton] at time
    rw [time]
    exact (TimestampTracker.combine_upper).trans (congrArg BitVec.toNat upper)

theorem Tracked.step (tracked : Tracked config window swTsNs before w)
    (inOrder : InOrder (before ++ [x])) (taken : World.Step config window w x w') :
    Tracked config window swTsNs (before ++ [x]) w' := by
  rcases taken.queued tracked.queued with ⟨queued, later, waiting⟩
  cases taken.fed tracked.queued with
  | nothing noIngress noEgress silent same =>
    refine ⟨queued, ⟨by rw [same]; exact tracked.steady.1, ?_⟩, ?_⟩
    · intro y member t time
      rcases List.mem_append.mp member with old | new
      · exact tracked.steady.2 y old t time
      · rw [List.mem_singleton.mp new, silent] at time
        cases time
    · intro last found
      rw [same] at found
      rcases tracked.last last found with ⟨time, past, inWindow, low, source⟩
      refine ⟨time, past.trans later, inWindow, low, source.imp (fun first f member => ?_) ?_⟩
      · exact (waiting f member).elim (first f) past.trans
      · exact fun ⟨y, member, captured⟩ => ⟨y, List.mem_append_left _ member, captured⟩
  | @ingress frame arrival hwTs head stamped _ low reconstructed fed =>
    have sorted := tracked.queued.ordered
    rw [head, List.map_cons, List.pairwise_cons] at sorted
    rcases tracked.queued.arrived (frame, arrival) (head ▸ List.mem_cons_self) with
      ⟨arrived, inWindow, _⟩
    have ordered : ∀ last, w.monitor.tsTracker.lastHwTs = some last →
        last ≤ TimestampTracker.low48 hwTs := by
      intro last found
      rcases tracked.last last found with ⟨time, _, inWindow', low', source⟩
      have before_arrival : time ≤ arrival := by
        rcases source with first | ⟨y, member, captured⟩
        · exact first (frame, arrival) (head ▸ List.mem_cons_self)
        · exact (List.pairwise_append.mp inOrder).2.2 y member x (List.mem_singleton_self x) time
            captured arrival stamped
      rw [BitVec.le_def]
      omega
    refine ⟨queued, tracked.steady.append_combine ordered reconstructed fed, fun last found => ?_⟩
    rw [fed, TimestampTracker.lastHwTs_combine] at found
    cases found
    refine ⟨arrival, arrived.trans later, inWindow, low, .inl fun f member => ?_⟩
    exact sorted.1 f.2 (List.mem_map_of_mem member)
  | @egress hwTs _ captured low reconstructed fed =>
    have ordered : ∀ last, w.monitor.tsTracker.lastHwTs = some last →
        last ≤ TimestampTracker.low48 hwTs := by
      intro last found
      rcases tracked.last last found with ⟨time, past, inWindow, low', _⟩
      have now := queued.now
      rw [BitVec.le_def]
      omega
    refine ⟨queued, tracked.steady.append_combine ordered reconstructed fed, fun last found => ?_⟩
    rw [fed, TimestampTracker.lastHwTs_combine] at found
    cases found
    exact ⟨w'.now, Nat.le_refl _, queued.now, low, .inr ⟨x, by simp, captured⟩⟩

theorem InOrder.of_append {after : List WorldEvent} (inOrder : InOrder (before ++ after)) :
    InOrder before :=
  (List.pairwise_append.mp inOrder).1

theorem tracked_start (inWindow : start / 2 ^ 48 = window) :
    Tracked config window swTsNs [] (.start swTsNs start) where
  queued := ⟨inWindow, List.Pairwise.nil, List.forall_mem_nil _⟩
  steady := ⟨rfl, List.forall_mem_nil _⟩
  last := nofun

theorem run_tracked (inWindow : start / 2 ^ 48 = window)
    (run : Run (World.Step config window) (.start swTsNs start) xs w) :
    w.Queued config window ∧ (InOrder xs → Tracked config window swTsNs xs w) := by
  refine run.history (I := fun before t => t.Queued config window ∧
    (InOrder before → Tracked config window swTsNs before t)) ?_ ?_
  · exact ⟨(tracked_start inWindow).queued, fun _ => tracked_start inWindow⟩
  · rintro before t x t' ⟨queued, tracked⟩ taken
    exact ⟨(taken.queued queued).1, fun inOrder => (tracked inOrder.of_append).step inOrder taken⟩

/-- While no wrap is counted, the timestamps of the tracker do not decrease. -/
theorem last_le {last : U64} (run : Run (World.Step config window) w xs w')
    (queued : w.Queued config window)
    (steady : ∀ before after t, xs = before ++ after → Run (World.Step config window) w before t →
      t.monitor.tsTracker.swTsNs = w.monitor.tsTracker.swTsNs)
    (found : w.monitor.tsTracker.lastHwTs = some last) :
    ∃ last', w'.monitor.tsTracker.lastHwTs = some last' ∧ last ≤ last' := by
  induction run generalizing last with
  | nil w => exact ⟨last, found, BitVec.le_refl _⟩
  | @cons w t u x xs taken rest ih =>
    have kept := steady [x] xs t rfl (Run.cons_iff.mpr ⟨t, taken, .nil t⟩)
    have later : ∀ before after v, xs = before ++ after →
        Run (World.Step config window) t before v →
        v.monitor.tsTracker.swTsNs = t.monitor.tsTracker.swTsNs := by
      rintro before after v rfl left
      exact (steady (x :: before) after v rfl (.cons taken left)).trans kept.symm
    have fedTo : ∀ {hwTs : U64},
        t.monitor.tsTracker = (w.monitor.tsTracker.combine hwTs).1 →
        ∃ last', t.monitor.tsTracker.lastHwTs = some last' ∧ last ≤ last' := by
      intro hwTs fed
      rw [fed] at kept
      exact ⟨_, by rw [fed, TimestampTracker.lastHwTs_combine],
        TimestampTracker.combine_steady_iff.mp kept last found⟩
    have first : ∃ last', t.monitor.tsTracker.lastHwTs = some last' ∧ last ≤ last' := by
      cases taken.fed queued with
      | nothing _ _ _ same => exact ⟨last, by rw [same]; exact found, BitVec.le_refl _⟩
      | ingress _ _ _ _ _ fed => exact fedTo fed
      | egress _ _ _ _ fed => exact fedTo fed
    rcases first with ⟨middle, middle_found, le⟩
    rcases ih (taken.queued queued).1 later middle_found with ⟨last', found', le'⟩
    exact ⟨last', found', BitVec.le_trans le le'⟩

/-- A Sync that is handled without counting a wrap arrived after the egress times before it. -/
theorem inOrder_of_steady (inWindow : start / 2 ^ 48 = window)
    (run : Run (World.Step config window) (.start swTsNs start) xs w)
    (steady : ∀ before after t, xs = before ++ after →
      Run (World.Step config window) (.start swTsNs start) before t → Steady swTsNs before t) :
    InOrder xs := by
  refine History.pairwise_of_splits ?_
  rintro before x between y after rfl captured left arrival right
  rw [List.append_assoc, List.cons_append] at run
  rcases Run.append_iff.mp run with ⟨w1, run1, run⟩
  rcases Run.cons_iff.mp run with ⟨w2, taken, run⟩
  rcases Run.append_iff.mp run with ⟨w3, run3, run⟩
  rcases Run.cons_iff.mp run with ⟨w4, taken', _⟩
  have queued1 := (run_tracked inWindow run1).1
  have queued2 := (taken.queued queued1).1
  have queued3 := (run_tracked inWindow (Run.append_iff.mpr ⟨w1, run1, .cons taken run3⟩)).1
  have steady_at : ∀ middle rest t, between ++ y :: after = middle ++ rest →
      Run (World.Step config window) w2 middle t → t.monitor.tsTracker.swTsNs = swTsNs := by
    intro middle rest t split run
    refine (steady (before ++ x :: middle) rest t ?_
      (Run.append_iff.mpr ⟨w1, run1, .cons taken run⟩)).1
    simp [split]
  have steady2 := steady_at [] _ w2 rfl (.nil w2)
  cases taken.fed queued1 with
  | nothing _ none _ _ => cases left.symm.trans none
  | ingress _ _ none _ _ _ => cases left.symm.trans none
  | @egress hwTs _ time low _ fed =>
    cases left.symm.trans time
    have found : w2.monitor.tsTracker.lastHwTs = some (TimestampTracker.low48 hwTs) := by
      rw [fed, TimestampTracker.lastHwTs_combine]
    rcases last_le run3 queued2 (fun middle rest t split run =>
      (steady_at middle (rest ++ y :: after) t (by rw [split, List.append_assoc]) run).trans
        steady2.symm) found with ⟨last, found3, le⟩
    have kept : w4.monitor.tsTracker.swTsNs = w3.monitor.tsTracker.swTsNs := by
      rw [steady_at between (y :: after) w3 rfl run3]
      exact steady_at (between ++ [y]) after w4 (by simp)
        (Run.append_iff.mpr ⟨w3, run3, Run.cons_iff.mpr ⟨w4, taken', .nil w4⟩⟩)
    cases taken'.fed queued3 with
    | nothing none _ _ _ => cases right.symm.trans none
    | egress none _ _ _ _ => cases right.symm.trans none
    | ingress head stamped _ low' _ fed' =>
      cases right.symm.trans stamped
      rw [fed'] at kept
      have ordered := TimestampTracker.combine_steady_iff.mp kept last found3
      have inWindow' := (queued3.arrived _ (head ▸ List.mem_cons_self)).2.1
      have now := queued2.now
      dsimp only at inWindow'
      rw [BitVec.le_def] at le ordered
      omega

/-- On a clock that does not wrap, the upper half of the timestamps stays throughout a run exactly
when no Sync is handled that arrived before an egress time captured earlier. -/
theorem clock_steady_iff (inWindow : start / 2 ^ 48 = window)
    (run : Run (World.Step config window) (.start swTsNs start) xs w) :
    (∀ before after t, xs = before ++ after →
        Run (World.Step config window) (.start swTsNs start) before t →
        Steady swTsNs before t) ↔ InOrder xs := by
  refine ⟨inOrder_of_steady inWindow run, ?_⟩
  rintro inOrder before after t rfl left
  exact ((run_tracked inWindow left).2 inOrder.of_append).steady

/-! ## Two runs -/

theorem readEgressTs_read {lastId : Option U32} {reads : Nat → Option DelayReqTimestamp}
    {attempts : List Nat} {ts : DelayReqTimestamp}
    (read : readEgressTs lastId reads attempts = some ts) : ∃ attempt, reads attempt = some ts := by
  induction attempts with
  | nil => cases read
  | cons attempt attempts ih =>
    unfold readEgressTs at read
    split at read
    · rename_i ts' found
      split at read
      · split at read
        · exact ih read
        · cases read
          exact ⟨attempt, found⟩
      · exact ih read
    · exact ih read

/-- Every attempt that reads a timestamp reads the time. -/
theorem readsEgress_of {m : Monitor} {env : SendEnv} {time : Nat}
    (times : ∀ attempt ts, env.reads attempt = some ts →
      ts.rawHwNs.toNat % 2 ^ 48 = time % 2 ^ 48) : ReadsEgress m env time := by
  intro ts read
  rcases readEgressTs_read read with ⟨attempt, found⟩
  exact times attempt ts found

/-- Whether `StampedAt` holds. -/
def stampedAt (config : Config) (frame : List U8) (time : Nat) : Bool :=
  (acceptFrame config frame).toOption.all fun accepted => accepted.all fun message =>
    (extractIngressTimestamp frame message.1).toOption.all fun hwTs => hwTs.all fun hwTs =>
      decide (hwTs.toNat % 2 ^ 48 = time % 2 ^ 48)

theorem stampedAt_spec {frame : List U8} {time : Nat}
    (stamped : stampedAt config frame time = true) :
    StampedAt config frame time := by
  rintro hwTs ⟨h, ptpFrame, accepted, _, extracted⟩
  unfold stampedAt at stamped
  rw [accepted] at stamped
  dsimp only [Except.toOption, Option.all_some] at stamped
  rw [extracted] at stamped
  exact of_decide_eq_true stamped

def sampleSyncFrame (seq ts : U8) : List U8 :=
  sampleMessage PTP_SYNC 44 seq 1 0 [0, 0, 0, 0, 0, 0, 0, ts]

def sampleFollowUpFrame : List U8 :=
  sampleMessage PTP_FOLLOW_UP 44 7 1 1 []

/-- A Sync, its Follow_Up, after which a Delay_Req leaves at time 20, and another Sync. -/
def sampleInputs (ts : U8) : List Input :=
  [sampleSync 7 10, sampleFollowUp 7 1 (20, 1), sampleSync 8 ts]

theorem sample_steps {ts : U8} {p : List Event × Monitor → Bool}
    (evaluated : (loop sampleConfig (Monitor.new 0) (sampleInputs ts)).toOption.any p = true) :
    ∃ e1 e2 e3 m1 m2 m3, p ([e1, e2, e3], m3) = true ∧ e1.input = sampleSync 7 10 ∧
      e2.input = sampleFollowUp 7 1 (20, 1) ∧ e3.input = sampleSync 8 ts ∧
      step sampleConfig (Monitor.new 0) e1 m1 ∧ step sampleConfig m1 e2 m2 ∧
      step sampleConfig m2 e3 m3 := by
  rcases Fallible.exists_of_any evaluated with ⟨⟨es, m3⟩, looped, found⟩
  rcases loop_eq_ok.mp looped with ⟨run, inputs⟩
  rcases List.map_eq_cons_iff.mp inputs with ⟨e1, es, rfl, input1, inputs⟩
  rcases List.map_eq_cons_iff.mp inputs with ⟨e2, es, rfl, input2, inputs⟩
  rcases List.map_eq_cons_iff.mp inputs with ⟨e3, es, rfl, input3, inputs⟩
  cases List.map_eq_nil_iff.mp inputs
  rcases Run.cons_iff.mp run with ⟨m1, step1, run⟩
  rcases Run.cons_iff.mp run with ⟨m2, step2, run⟩
  rcases Run.cons_iff.mp run with ⟨m, step3, ended⟩
  cases Run.nil_iff.mp ended
  exact ⟨e1, e2, e3, m1, m2, m3, found, input1, input2, input3, step1, step2, step3⟩

theorem sampleEgress_reads {ts : DelayReqTimestamp}
    (read : (some ((20 : U64), (1 : U32))).map (fun (hw, id) => (⟨true, hw, id⟩ :
      DelayReqTimestamp)) = some ts) : ts.rawHwNs.toNat % 2 ^ 48 = 20 % 2 ^ 48 := by
  cases read
  rfl

/-- The second Sync arrives before the Delay_Req leaves, and is handled after it. -/
theorem queued_sync_wraps :
    ∃ e1 e2 e3 w, Run (World.Step sampleConfig 0) (.start 0 0)
        [.arrives (sampleSyncFrame 7 10) 10, .handles e1 10 11, .arrives sampleFollowUpFrame 12,
          .arrives (sampleSyncFrame 8 15) 15, .handles e2 12 20, .handles e3 15 21] w ∧
      w.monitor.tsTracker.swTsNs = 1 := by
  have evaluated : (loop sampleConfig (Monitor.new 0) (sampleInputs 15)).toOption.any
      (fun r => decide (r.2.tsTracker.swTsNs = 1)) = true := by
    decide +kernel
  rcases sample_steps evaluated with
    ⟨e1, e2, e3, m1, m2, m3, wrapped, input1, input2, input3, step1, step2, step3⟩
  refine ⟨e1, e2, e3, ⟨m3, [], 21⟩, ?_, of_decide_eq_true wrapped⟩
  refine .cons (.arrives (Nat.zero_le _) rfl (stampedAt_spec (by decide +kernel))) ?_
  refine .cons (.handles (Nat.le_succ 10) rfl rfl input1
    (fun _ => readsEgress_of fun _ _ => nofun) step1) ?_
  refine .cons (.arrives (Nat.le_succ 11) rfl (stampedAt_spec (by decide +kernel))) ?_
  refine .cons (.arrives (Nat.le_add_right 12 3) rfl (stampedAt_spec (by decide +kernel))) ?_
  refine .cons (.handles (Nat.le_add_right 15 5) rfl rfl input2
    (fun _ => readsEgress_of fun _ _ => sampleEgress_reads) step2) ?_
  exact .cons (.handles (Nat.le_succ 20) rfl rfl input3
    (fun _ => readsEgress_of fun _ _ => nofun) step3) (.nil _)

/-- The second Sync arrives after the Delay_Req has left. -/
theorem clock_steady_iff_sample :
    ∃ e1 e2 e3 w, Run (World.Step sampleConfig 0) (.start 0 0)
        [.arrives (sampleSyncFrame 7 10) 10, .handles e1 10 11, .arrives sampleFollowUpFrame 12,
          .handles e2 12 20, .arrives (sampleSyncFrame 8 25) 25, .handles e3 25 26] w ∧
      e2.captured ≠ none ∧
      Steady 0 [.arrives (sampleSyncFrame 7 10) 10, .handles e1 10 11,
        .arrives sampleFollowUpFrame 12, .handles e2 12 20,
        .arrives (sampleSyncFrame 8 25) 25, .handles e3 25 26] w := by
  have evaluated : (loop sampleConfig (Monitor.new 0) (sampleInputs 25)).toOption.any
      (fun r => decide (r.1.map (fun e => (e.stamped.isSome, e.captured.isSome)) =
        [(true, false), (false, true), (true, false)])) = true := by
    decide +kernel
  rcases sample_steps evaluated with
    ⟨e1, e2, e3, m1, m2, m3, fed, input1, input2, input3, step1, step2, step3⟩
  have fed := of_decide_eq_true fed
  simp only [List.map_cons, List.map_nil, List.cons.injEq, Prod.mk.injEq, and_true,
    Option.isSome_eq_false_iff, Option.isNone_iff_eq_none, Option.isSome_iff_ne_none] at fed
  rcases fed with ⟨⟨_, uncaptured1⟩, ⟨unstamped2, captured2⟩, _, uncaptured3⟩
  have run : Run (World.Step sampleConfig 0) (.start 0 0)
      [.arrives (sampleSyncFrame 7 10) 10, .handles e1 10 11, .arrives sampleFollowUpFrame 12,
        .handles e2 12 20, .arrives (sampleSyncFrame 8 25) 25, .handles e3 25 26]
      ⟨m3, [], 26⟩ := by
    refine .cons (.arrives (Nat.zero_le _) rfl (stampedAt_spec (by decide +kernel))) ?_
    refine .cons (.handles (Nat.le_succ 10) rfl rfl input1
      (fun _ => readsEgress_of fun _ _ => nofun) step1) ?_
    refine .cons (.arrives (Nat.le_succ 11) rfl (stampedAt_spec (by decide +kernel))) ?_
    refine .cons (.handles (Nat.le_add_right 12 8) rfl rfl input2
      (fun _ => readsEgress_of fun _ _ => sampleEgress_reads) step2) ?_
    refine .cons (.arrives (Nat.le_add_right 20 5) rfl (stampedAt_spec (by decide +kernel))) ?_
    exact .cons (.handles (Nat.le_succ 25) rfl rfl input3
      (fun _ => readsEgress_of fun _ _ => nofun) step3) (.nil _)
  have late : ∀ captured, (e2.captured.map fun _ => 20) = some captured →
      ∀ arrival, (e3.stamped.map fun _ => 25) = some arrival → captured ≤ arrival := by
    intro captured left arrival right
    rcases Option.map_eq_some_iff.mp left with ⟨_, _, rfl⟩
    rcases Option.map_eq_some_iff.mp right with ⟨_, _, rfl⟩
    exact Nat.le_add_right 20 5
  refine ⟨e1, e2, e3, _, run, captured2,
    (clock_steady_iff (Nat.zero_div _) run).mpr ?_ _ [] _ rfl run⟩
  simpa [InOrder, WorldEvent.egress, WorldEvent.ingress, uncaptured1] using late

end P4Tas.Ptp
