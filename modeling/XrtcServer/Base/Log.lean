import XrtcServer.Base.Bytes
import XrtcServer.Core.Run

/-!
# The log

Any thread puts messages into one of two queues. The log thread goes round in a loop: it takes all
that is in a queue at once and writes it to the file of that queue, first for the one and then for
the other, and sleeps. `stop` clears a flag that the loop tests and waits for the thread to end.
-/

namespace XrtcServer.Base
open XrtcServer.Core

/-- `rtc::LoggingSeverity` -/
inductive LoggingSeverity
  | verbose
  | info
  | warning
  | error
  | none
  deriving DecidableEq, Repr

/-- The value of the enumerator. -/
def LoggingSeverity.toNat : LoggingSeverity → Nat
  | .verbose => 0
  | .info => 1
  | .warning => 2
  | .error => 3
  | .none => 4

/-- What the log thread does next. -/
inductive LogPc
  | testRunning
  | checkFiles
  | drain
  | write
  | drainWf
  | writeWf
  | sleep
  | ended
  deriving DecidableEq, Repr

/-- A queue with its file, and all that was ever put into the queue. -/
structure LogFile where
  queue : List Bytes := []
  outFile : List Bytes := []
  pushed : List Bytes := []
  deriving DecidableEq, Repr

def LogFile.push (message : Bytes) (f : LogFile) : LogFile :=
  { f with queue := f.queue ++ [message], pushed := f.pushed ++ [message] }

/-- The log with the locals of its thread, which has been started. Where `stop` was called,
`atStop` is what had been put into the queues before. -/
structure XrtcLog where
  running : Bool := true
  log : LogFile := {}
  wf : LogFile := {}
  pc : LogPc := .testRunning
  ss : List Bytes := []
  writeLog : Bool := false
  atStop : Option (List Bytes × List Bytes) := none
  deriving DecidableEq, Repr

namespace XrtcLog

def onLogMessage (message : Bytes) (severity : LoggingSeverity) (s : XrtcLog) : XrtcLog :=
  if severity.toNat ≥ LoggingSeverity.warning.toNat then { s with wf := s.wf.push message }
  else { s with log := s.log.push message }

/-- The beginning of `stop`, which returns once the thread has ended. -/
def stop (s : XrtcLog) : XrtcLog :=
  { s with running := false, atStop := some (s.log.pushed, s.wf.pushed) }

/-- One step of the log thread. A queue is emptied under its lock. Files that are gone are opened
again for appending, which leaves alone what is written. -/
def threadStep (s : XrtcLog) : Option XrtcLog :=
  match s.pc with
  | .testRunning => some { s with pc := if s.running then .checkFiles else .ended }
  | .checkFiles => some { s with pc := .drain }
  | .drain =>
    some
      { s with
        log := { s.log with queue := [] }
        ss := s.ss ++ s.log.queue
        writeLog := !s.log.queue.isEmpty
        pc := .write }
  | .write =>
    some
      { s with
        log := if s.writeLog then { s.log with outFile := s.log.outFile ++ s.ss } else s.log
        ss := []
        pc := .drainWf }
  | .drainWf =>
    some
      { s with
        wf := { s.wf with queue := [] }
        ss := s.ss ++ s.wf.queue
        writeLog := !s.wf.queue.isEmpty
        pc := .writeWf }
  | .writeWf =>
    some
      { s with
        wf := if s.writeLog then { s.wf with outFile := s.wf.outFile ++ s.ss } else s.wf
        ss := []
        pc := .sleep }
  | .sleep => some { s with pc := .testRunning }
  | .ended => none

end XrtcLog

inductive LogEvent
  | onLogMessage (message : Bytes) (severity : LoggingSeverity)
  | thread
  | stop
  deriving DecidableEq, Repr

/-- One event; `stop` is called once. -/
def XrtcLog.apply (s : XrtcLog) : LogEvent → Option XrtcLog
  | .onLogMessage message severity => some (s.onLogMessage message severity)
  | .thread => s.threadStep
  | .stop => if s.atStop.isNone then some s.stop else none

/-- The transition relation of the log. -/
def LogStep (s : XrtcLog) (e : LogEvent) (t : XrtcLog) : Prop := s.apply e = some t

/-! ## One of the two sides -/

/-- What the loop does for one queue: what it has taken out of it and not written yet, and whether
it comes to the queue again before it tests the flag. -/
structure LogSide where
  queue : List Bytes
  pending : List Bytes
  outFile : List Bytes
  pushed : List Bytes
  ahead : Bool

/-- A change of one side; the loop only begins again while `running`. -/
inductive LogSide.Step (running : Bool) (s : LogSide) : LogSide → Prop
  | idle : Step running s s
  | push (message : Bytes) :
      Step running s
        { s with queue := s.queue ++ [message], pushed := s.pushed ++ [message] }
  | again (h : running = true) : Step running s { s with ahead := true }
  | drain (h : s.ahead = true) (hpending : s.pending = []) :
      Step running s { s with queue := [], pending := s.queue, ahead := false }
  | write :
      Step running s { s with pending := [], outFile := s.outFile ++ s.pending }

namespace LogSide

variable {s t : LogSide} {running : Bool} {before : List Bytes}

/-- Nothing is lost, repeated or reordered. -/
def Conserved (s : LogSide) : Prop := s.outFile ++ s.pending ++ s.queue = s.pushed

/-- What is in the queue now will be taken out of it. -/
def Served (s : LogSide) : Prop := s.queue = [] ∨ s.ahead = true

/-- What was there at some time is written or will be. -/
def Covers (before : List Bytes) (s : LogSide) : Prop :=
  s.ahead = true ∧ before <+: s.pushed ∨ before <+: s.outFile ++ s.pending

/-- Something of what was there at some time will not be written any more. -/
def Misses (before : List Bytes) (s : LogSide) : Prop :=
  s.ahead = false ∧ (s.outFile ++ s.pending).length < before.length

lemma Conserved.outFile_prefix (h : Conserved s) : s.outFile <+: s.pushed :=
  ⟨s.pending ++ s.queue, by rw [← List.append_assoc, h]⟩

lemma Step.conserved (h : Step running s t) (hs : Conserved s) : Conserved t := by
  unfold Conserved at hs ⊢
  cases h with
  | idle => exact hs
  | push message => rw [← hs, List.append_assoc _ _ [message]]
  | again => exact hs
  | drain h hpending =>
    rw [hpending, List.append_nil] at hs
    rw [List.append_nil, hs]
  | write => rw [List.append_nil, hs]

lemma Conserved.covers (h : Conserved s) (hserved : Served s) : Covers s.pushed s := by
  rcases hserved with hqueue | hahead
  · have htaken : s.outFile ++ s.pending = s.pushed := by
      rw [← h, hqueue, List.append_nil (s.outFile ++ s.pending)]
    exact .inr ⟨[], (List.append_nil _).trans htaken.symm⟩
  · exact .inl ⟨hahead, List.prefix_rfl⟩

lemma Conserved.misses (h : Conserved s) (hserved : ¬ Served s) : Misses s.pushed s := by
  unfold Served at hserved
  push Not at hserved
  refine ⟨by simpa using hserved.2, ?_⟩
  have hpos := List.length_pos_iff.mpr hserved.1
  have hlength : (s.outFile ++ s.pending ++ s.queue).length =
      (s.outFile ++ s.pending).length + s.queue.length := List.length_append
  rw [← h, hlength]
  omega

lemma Step.covers (h : Step running s t) (hs : Conserved s) (hc : Covers before s) :
    Covers before t := by
  cases h with
  | idle => exact hc
  | push message => exact hc.imp (And.imp_right fun h => h.trans (List.prefix_append ..)) id
  | again h =>
    refine .inl ⟨rfl, ?_⟩
    rcases hc with ⟨-, hpushed⟩ | hwritten
    · exact hpushed
    · exact hwritten.trans ⟨s.queue, hs⟩
  | drain h hpending =>
    right
    unfold Conserved at hs
    rw [hpending, List.append_nil] at hs
    rcases hc with ⟨-, hpushed⟩ | hwritten
    · rwa [hs]
    · rw [hpending, List.append_nil] at hwritten
      exact hwritten.trans (List.prefix_append ..)
  | write => exact hc.imp id fun h => by rwa [List.append_nil]

lemma Step.misses (h : Step false s t) (hm : Misses before s) : Misses before t := by
  obtain ⟨hahead, hlength⟩ := hm
  cases h with
  | idle => exact ⟨hahead, hlength⟩
  | push message => exact ⟨hahead, hlength⟩
  | again h => cases h
  | drain h hpending => rw [hahead] at h; cases h
  | write => exact ⟨hahead, by rwa [List.append_nil]⟩

end LogSide

namespace XrtcLog

variable {s t : XrtcLog} {e : LogEvent}

def mainSide (s : XrtcLog) : LogSide :=
  { queue := s.log.queue
    pending := if s.pc = .write then s.ss else []
    outFile := s.log.outFile
    pushed := s.log.pushed
    ahead := s.pc = .checkFiles ∨ s.pc = .drain }

def wfSide (s : XrtcLog) : LogSide :=
  { queue := s.wf.queue
    pending := if s.pc = .writeWf then s.ss else []
    outFile := s.wf.outFile
    pushed := s.wf.pushed
    ahead := s.pc = .checkFiles ∨ s.pc = .drain ∨ s.pc = .write ∨ s.pc = .drainWf }

/-- What the locals of the thread are at each point. -/
structure Shaped (s : XrtcLog) : Prop where
  running : s.running = s.atStop.isNone
  ss : s.pc ≠ .write → s.pc ≠ .writeWf → s.ss = []
  writeLog : s.pc = .write ∨ s.pc = .writeWf → s.writeLog = !s.ss.isEmpty

lemma Shaped.apply (hs : Shaped s) (h : s.apply e = some t) : Shaped t := by
  obtain ⟨hrunning, hss, hwriteLog⟩ := hs
  cases e with
  | onLogMessage message severity =>
    cases h
    unfold onLogMessage
    split <;> exact ⟨hrunning, hss, hwriteLog⟩
  | thread =>
    obtain ⟨running, log, wf, pc, ss, writeLog, atStop⟩ := s
    cases pc <;> cases h <;> refine ⟨hrunning, ?_, ?_⟩ <;> cases running <;> simp_all
  | stop =>
    simp only [XrtcLog.apply] at h
    split at h
    · cases h
      exact ⟨rfl, hss, hwriteLog⟩
    · cases h

/-- Each event is a change of the one side and of the other. -/
lemma Shaped.sides (hs : Shaped s) (h : s.apply e = some t) :
    LogSide.Step s.running s.mainSide t.mainSide ∧ LogSide.Step s.running s.wfSide t.wfSide := by
  obtain ⟨hrunning, hss, hwriteLog⟩ := hs
  cases e with
  | onLogMessage message severity =>
    cases h
    unfold onLogMessage
    split
    · exact ⟨.idle, .push message⟩
    · exact ⟨.push message, .idle⟩
  | stop =>
    simp only [XrtcLog.apply] at h
    split at h
    · cases h
      exact ⟨.idle, .idle⟩
    · cases h
  | thread =>
    obtain ⟨running, log, wf, pc, ss, writeLog, atStop⟩ := s
    cases pc with
    | testRunning =>
      cases h
      cases running with
      | false => exact ⟨.idle, .idle⟩
      | true => exact ⟨.again rfl, .again rfl⟩
    | checkFiles =>
      cases h
      exact ⟨.idle, .idle⟩
    | drain =>
      cases h
      cases hss nofun nofun
      exact ⟨.drain rfl rfl, .idle⟩
    | write =>
      cases h
      obtain rfl : writeLog = !ss.isEmpty := hwriteLog (.inl rfl)
      cases ss with
      | nil => exact ⟨.idle, .idle⟩
      | cons message ss => exact ⟨.write, .idle⟩
    | drainWf =>
      cases h
      cases hss nofun nofun
      exact ⟨.idle, .drain rfl rfl⟩
    | writeWf =>
      cases h
      obtain rfl : writeLog = !ss.isEmpty := hwriteLog (.inr rfl)
      cases ss with
      | nil => exact ⟨.idle, .idle⟩
      | cons message ss => exact ⟨.idle, .write⟩
    | sleep =>
      cases h
      exact ⟨.idle, .idle⟩
    | ended => cases h

/-- The thread keeps to its shape and neither file loses, repeats or reorders a message. -/
structure Sound (s : XrtcLog) : Prop where
  shaped : Shaped s
  main : s.mainSide.Conserved
  wf : s.wfSide.Conserved

lemma Sound.step (hs : Sound s) (h : LogStep s e t) : Sound t where
  shaped := hs.shaped.apply h
  main := (hs.shaped.sides h).1.conserved hs.main
  wf := (hs.shaped.sides h).2.conserved hs.wf

/-- What is in a file is what was put into its queue, from the first message on and each message
once. Once `stop` has returned, all that was put into the queues before the call is in the
files. -/
def Written (s : XrtcLog) : Prop :=
  s.log.outFile <+: s.log.pushed ∧ s.wf.outFile <+: s.wf.pushed ∧
    ∀ before ∈ s.atStop, s.pc = .ended →
      before.1 <+: s.log.outFile ∧ before.2 <+: s.wf.outFile

/-- `stop` is called when the thread will take out once more what is in either queue. -/
def Timely (s : XrtcLog) : LogEvent → Prop
  | .stop => s.mainSide.Served ∧ s.wfSide.Served
  | _ => True

/-- All that was put into the queues before `stop` is written or will be. -/
def Kept (s : XrtcLog) : Prop :=
  ∀ before ∈ s.atStop, s.mainSide.Covers before.1 ∧ s.wfSide.Covers before.2

/-- Of what was put into the queues before `stop`, something will not be written. -/
def Lost (s : XrtcLog) : Prop :=
  ∃ before ∈ s.atStop, s.mainSide.Misses before.1 ∨ s.wfSide.Misses before.2

lemma atStop_apply (h : LogStep s e t) :
    e ≠ .stop ∧ t.atStop = s.atStop ∨ e = .stop ∧ s.atStop = none ∧ t = s.stop := by
  cases e with
  | onLogMessage message severity =>
    cases h
    unfold onLogMessage
    split <;> exact .inl ⟨nofun, rfl⟩
  | thread =>
    obtain ⟨running, log, wf, pc, ss, writeLog, atStop⟩ := s
    cases pc <;> cases h <;> exact .inl ⟨nofun, rfl⟩
  | stop =>
    simp only [LogStep, XrtcLog.apply, Option.isNone_iff_eq_none] at h
    split at h
    · cases h
      exact .inr ⟨rfl, ‹_›, rfl⟩
    · cases h

lemma Kept.step (hk : Kept s) (hs : Sound s) (htimely : Timely s e) (h : LogStep s e t) :
    Kept t := by
  rcases atStop_apply h with ⟨-, hatStop⟩ | ⟨rfl, -, rfl⟩
  · intro before hbefore
    rw [hatStop] at hbefore
    obtain ⟨hmain, hwf⟩ := hk before hbefore
    exact ⟨(hs.shaped.sides h).1.covers hs.main hmain, (hs.shaped.sides h).2.covers hs.wf hwf⟩
  · rintro before ⟨⟩
    exact ⟨hs.main.covers htimely.1, hs.wf.covers htimely.2⟩

lemma Lost.step (hl : Lost s) (hs : Sound s) (h : LogStep s e t) : Lost t := by
  obtain ⟨before, hbefore, hmisses⟩ := hl
  obtain ⟨hmain, hwf⟩ := hs.shaped.sides h
  have hrunning : s.running = false := by
    rw [hs.shaped.running, hbefore]
    rfl
  rw [hrunning] at hmain hwf
  rcases atStop_apply h with ⟨-, hatStop⟩ | ⟨-, hnone, -⟩
  · exact ⟨before, hatStop.trans hbefore, hmisses.imp hmain.misses hwf.misses⟩
  · rw [hnone] at hbefore
    cases hbefore

lemma Sound.written (hs : Sound s) (hk : Kept s) : Written s := by
  refine ⟨hs.main.outFile_prefix, hs.wf.outFile_prefix, fun before hbefore hpc => ?_⟩
  obtain ⟨hmain, hwf⟩ := hk before hbefore
  constructor
  · simpa [LogSide.Covers, mainSide, hpc] using hmain
  · simpa [LogSide.Covers, wfSide, hpc] using hwf

end XrtcLog

end XrtcServer.Base
