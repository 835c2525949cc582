import Jp2Render.Failure
import Jp2Render.Proofs.Draining

/-!
Supervision of a tool. Two things are settled for every behaviour of a tool: how a run ends, and
what it leaves of the process. The steps of a run are taken one by one, from any state; only
waiting, killing and closing do anything to the process.
-/

namespace Jp2Render

namespace ProcessEnd

def ended (process : ProcessEnd) : ProcessEnd := if process.running then process.kill else process

@[simp] theorem exitCode_close (process : ProcessEnd) (pipe : Pipe) :
    (process.close pipe).exitCode = process.exitCode := by
  cases pipe <;> rfl

@[simp] theorem kills_close (process : ProcessEnd) (pipe : Pipe) :
    (process.close pipe).kills = process.kills := by
  cases pipe <;> rfl

theorem isClosed_close (process : ProcessEnd) (pipe other : Pipe) :
    (process.close pipe).isClosed other = true ↔ process.isClosed other = true ∨ other = pipe := by
  cases pipe <;> cases other <;> simp [close, isClosed]

@[simp] theorem isClosed_ended (process : ProcessEnd) (pipe : Pipe) :
    process.ended.isClosed pipe = process.isClosed pipe := by
  unfold ended
  split <;> cases pipe <;> rfl

theorem eq_of_isClosed {left right : ProcessEnd} (exitCode : left.exitCode = right.exitCode)
    (kills : left.kills = right.kills) (closed : ∀ pipe, left.isClosed pipe = right.isClosed pipe) :
    left = right := by
  obtain ⟨_, _, _, _, _⟩ := left
  obtain ⟨_, _, _, _, _⟩ := right
  have stdin := closed .stdin
  have stdout := closed .stdout
  have stderr := closed .stderr
  simp only [isClosed] at stdin stdout stderr exitCode kills
  subst stdin stdout stderr exitCode kills
  rfl

end ProcessEnd

namespace RunState

variable (state : RunState) (inv : Invocation) (behaviour : ToolBehaviour)

@[simp] theorem process_note (journal : Journal) : (state.note journal).process = state.process :=
  rfl

@[simp] theorem process_killAndWait :
    (state.killAndWait behaviour).process = state.process.kill := rfl

@[simp] theorem process_close (pipe : Pipe) :
    (state.close behaviour pipe).process = state.process.close pipe := by
  unfold close
  split <;> rfl

/-! Releasing leaves no process behind, whatever state it starts from, and kills at most once more. -/

theorem process_killIfRunning :
    (state.killIfRunning behaviour).process = state.process.ended := by
  unfold killIfRunning ProcessEnd.ended
  split <;> rfl

theorem closeAll_process (busy : List Reader) (pipes : List Pipe) :
    (closeAll behaviour busy pipes state).process.exitCode = state.process.exitCode ∧
      (closeAll behaviour busy pipes state).process.kills = state.process.kills ∧
      ∀ pipe, (closeAll behaviour busy pipes state).process.isClosed pipe = true ↔
        state.process.isClosed pipe = true ∨ pipe ∈ pipes ∧ pipe ∉ busy.map Reader.pipe := by
  -- closing does not look at what was closed before, so any state may stand at the head
  induction pipes generalizing state with
  | nil => simp [closeAll]
  | cons first pipes ih =>
      rw [closeAll]
      by_cases held : first ∈ busy.map Reader.pipe
      · obtain ⟨exitCode, kills, closed⟩ := ih state
        rw [if_pos held]
        refine ⟨exitCode, kills, fun pipe => (closed pipe).trans ?_⟩
        grind
      · obtain ⟨exitCode, kills, closed⟩ := ih (state.close behaviour first)
        rw [if_neg held]
        refine ⟨by simpa using exitCode, by simpa using kills, fun pipe => (closed pipe).trans ?_⟩
        rw [process_close, ProcessEnd.isClosed_close]
        grind

end RunState

def ToolBehaviour.isHeld (behaviour : ToolBehaviour) : Pipe → Bool
  | .stdin => false
  | .stdout => behaviour.stdout.hangs
  | .stderr => behaviour.stderr.hangs

namespace RunState

variable (state : RunState) (inv : Invocation) (behaviour : ToolBehaviour)

theorem mem_busy_pipes (pipe : Pipe) :
    pipe ∈ ((Reader.both inv behaviour).filter Reader.isBusy).map Reader.pipe ↔
      behaviour.isHeld pipe = true := by
  cases out : behaviour.stdout.hangs <;> cases err : behaviour.stderr.hangs <;> cases pipe <;>
    simp [Reader.both, Reader.ofStdout, Reader.ofStderr, Reader.isBusy, ToolBehaviour.isHeld,
      out, err]

theorem release_process :
    (state.release inv behaviour).process.exitCode = state.process.ended.exitCode ∧
      (state.release inv behaviour).process.kills = state.process.ended.kills ∧
      ∀ pipe, (state.release inv behaviour).process.isClosed pipe = true ↔
        state.process.isClosed pipe = true ∨ behaviour.isHeld pipe = false := by
  unfold release
  obtain ⟨exitCode, kills, closed⟩ := closeAll_process _ behaviour
    ((Reader.both inv behaviour).filter Reader.isBusy) [.stdin, .stdout, .stderr]
  rw [process_note, process_killIfRunning] at exitCode kills
  refine ⟨exitCode, kills, fun pipe => (closed pipe).trans ?_⟩
  rw [process_note, process_killIfRunning, ProcessEnd.isClosed_ended, mem_busy_pipes]
  have listed : pipe ∈ [Pipe.stdin, .stdout, .stderr] := by cases pipe <;> simp
  simp only [listed, true_and, Bool.not_eq_true]

end RunState

/-- Whether waiting for a tool to end succeeds within the time that there is for it. -/
def ToolBehaviour.EndsWithin (behaviour : ToolBehaviour) (timeout : Option Binary64) : Prop :=
  behaviour.waiting = .ends ∨ behaviour.waiting = .overruns ∧ timeout = none

instance (behaviour : ToolBehaviour) (timeout : Option Binary64) :
    Decidable (behaviour.EndsWithin timeout) :=
  inferInstanceAs (Decidable (_ ∨ _))

theorem ToolBehaviour.EndsWithin.not_late {behaviour : ToolBehaviour} {timeout : Option Binary64}
    (inTime : behaviour.EndsWithin timeout) :
    ¬ (behaviour.waiting = .overruns ∧ timeout ≠ none) ∧
      ∀ error, behaviour.waiting ≠ .fails error := by
  rcases inTime with ends | ⟨overruns, unlimited⟩
  · simp [ends]
  · simp [overruns, unlimited]

/-- Whether a stream is read to its end and all of its bytes are kept. -/
def StreamBehaviour.ReadWhole (stream : StreamBehaviour) (limit : Int) : Prop :=
  stream.ending = .ends ∧ stream.bytes.length ≤ limit

instance (stream : StreamBehaviour) (limit : Int) : Decidable (stream.ReadWhole limit) :=
  inferInstanceAs (Decidable (_ ∧ _))

namespace RunState

variable {state : RunState} {inv : Invocation} {behaviour : ToolBehaviour}

/-- The first wait for a process, by how it goes: it ends, or it is killed for being out of its
time, or it is left running because waiting for it fails. -/
inductive Awaited (state : RunState) (inv : Invocation) (behaviour : ToolBehaviour) :
    Except RunFault Int → ProcessEnd → Prop where
  | exit (inTime : behaviour.EndsWithin inv.timeout) :
      Awaited state inv behaviour (.ok behaviour.exitCode)
        { state.process with exitCode := some behaviour.exitCode }
  | overrun (limit : Binary64) (overruns : behaviour.waiting = .overruns)
      (limited : inv.timeout = some limit) :
      Awaited state inv behaviour
        (.error (.timedOut inv.tool (inv.executable :: inv.arguments) limit)) state.process.kill
  | failure (error : SystemError) (fails : behaviour.waiting = .fails error) :
      Awaited state inv behaviour (.error (.waitFailed error)) state.process

variable (inv behaviour) in
theorem awaitExit_awaited (running : state.process.exitCode = none) :
    Awaited state inv behaviour (state.awaitExit inv behaviour).1
      (state.awaitExit inv behaviour).2.process := by
  unfold awaitExit wait
  cases waiting : behaviour.waiting with
  | ends =>
      simp only [running]
      exact .exit (.inl waiting)
  | fails error =>
      simp only [running]
      exact .failure error waiting
  | overruns =>
      cases timeout : inv.timeout with
      | none =>
          simp only [running]
          exact .exit (.inr ⟨waiting, timeout⟩)
      | some limit =>
          simp only [running]
          exact .overrun limit waiting timeout

/-- However the first wait went, making sure afterwards that the process is gone has killed it once
in all if that wait did not succeed, and has not killed it otherwise. -/
theorem Awaited.ended {exit : Except RunFault Int} {process : ProcessEnd}
    (awaited : Awaited state inv behaviour exit process) (running : state.process.exitCode = none) :
    process.ended.exitCode = some (if behaviour.EndsWithin inv.timeout then behaviour.exitCode
        else ProcessEnd.killedCode) ∧
      process.ended.kills =
        state.process.kills + (if behaviour.EndsWithin inv.timeout then 0 else 1) ∧
      ∀ pipe, process.ended.isClosed pipe = state.process.isClosed pipe := by
  simp only [ProcessEnd.isClosed_ended]
  -- a process that ended in time is not killed, and any other is killed once, now or before
  cases awaited with
  | exit inTime =>
      refine ⟨?_, ?_, fun pipe => by cases pipe <;> rfl⟩
      · rw [if_pos inTime]
        rfl
      · rw [if_pos inTime]
        rfl
  | overrun limit overruns limited =>
      have late : ¬ behaviour.EndsWithin inv.timeout := fun inTime =>
        inTime.not_late.1 ⟨overruns, by simp [limited]⟩
      refine ⟨?_, ?_, fun pipe => by cases pipe <;> rfl⟩
      · simp [late, ProcessEnd.ended, ProcessEnd.kill, ProcessEnd.running, running]
      · rw [if_neg late]
        rfl
  | failure error fails =>
      have late : ¬ behaviour.EndsWithin inv.timeout := fun inTime => inTime.not_late.2 error fails
      refine ⟨?_, ?_, fun pipe => rfl⟩
      · simp [late, ProcessEnd.ended, ProcessEnd.kill, ProcessEnd.running, running]
      · simp [late, ProcessEnd.ended, ProcessEnd.kill, ProcessEnd.running, running]

theorem join_process (readers : List Reader) : (join inv readers state).2.process = state.process := by
  induction readers with
  | nil => rfl
  | cons reader readers ih =>
      rw [join]
      split
      · rfl
      · exact ih

theorem attend_process :
    (state.attend inv behaviour).2.process = (state.awaitExit inv behaviour).2.process := by
  unfold attend
  split
  · next awaited => rw [awaited]
  · next awaited => rw [awaited, join_process]

variable (state inv) in
theorem join_result (readers : List Reader) :
    (join inv readers state).1 = .ok () ∧ (∀ reader ∈ readers, reader.isBusy = false) ∨
      ∃ reader ∈ readers, reader.isBusy = true ∧ (join inv readers state).1 =
        .error (.stillOpen reader.name inv.tool inv.joinTimeout) := by
  -- the first busy reader decides; those after it are not waited for
  induction readers with
  | nil => exact .inl ⟨rfl, by simp⟩
  | cons reader readers ih =>
      rw [join]
      cases busy : reader.isBusy with
      | true => exact .inr ⟨reader, List.mem_cons_self, busy, rfl⟩
      | false =>
          rcases ih with ⟨joined, idle⟩ | ⟨held, member, holds, failed⟩
          · refine .inl ⟨joined, ?_⟩
            simpa [busy] using idle
          · exact .inr ⟨held, List.mem_cons_of_mem _ member, holds, failed⟩

end RunState

namespace Reader

theorem contents_whole {reader : Reader} (idle : reader.isBusy = false) (limit : 0 ≤ reader.limit) :
    reader.contents = .ok reader.stream.bytes ∧ reader.stream.ReadWhole reader.limit ∨
      ∃ fault, reader.contents = .error fault ∧ fault.kind? = some .streamIO ∧
        ¬ reader.stream.ReadWhole reader.limit := by
  rw [contents_exact]
  cases ending : reader.stream.ending with
  | hangs => simp [isBusy, StreamBehaviour.hangs, ending] at idle
  | fails fault =>
      refine .inr ⟨_, rfl, rfl, fun whole => ?_⟩
      rw [whole.1] at ending
      cases ending
  | ends =>
      have fits_iff : reader.stream.Fits reader.limit ↔ reader.stream.bytes.length ≤ reader.limit := by
        refine ⟨fun fits => fits.elim (fun none => ?_) id, .inr⟩
        rw [none]
        exact limit
      by_cases fits : reader.stream.Fits reader.limit
      · exact .inl ⟨if_pos fits, ending, fits_iff.mp fits⟩
      · exact .inr ⟨_, if_neg fits, rfl, fun whole => fits (fits_iff.mpr whole.2)⟩

theorem busy_not_whole {inv : Invocation} {behaviour : ToolBehaviour} {reader : Reader}
    (member : reader ∈ both inv behaviour) (busy : reader.isBusy = true) :
    ¬ (behaviour.stdout.ReadWhole inv.stdoutLimit ∧
      behaviour.stderr.ReadWhole inv.stderrLimit) := by
  rintro ⟨stdout, stderr⟩
  simp only [both, List.mem_cons, List.not_mem_nil, or_false] at member
  rcases member with rfl | rfl
  · simp [isBusy, ofStdout, StreamBehaviour.hangs, stdout.1] at busy
  · simp [isBusy, ofStderr, StreamBehaviour.hangs, stderr.1] at busy

end Reader

namespace RunState

variable {state : RunState} {inv : Invocation} {behaviour : ToolBehaviour}

theorem collect_result (idle : ∀ reader ∈ Reader.both inv behaviour, reader.isBusy = false)
    (stdoutLimit : 0 ≤ inv.stdoutLimit) (stderrLimit : 0 ≤ inv.stderrLimit) (exitCode : Int) :
    collect inv behaviour exitCode = .ok ⟨exitCode, behaviour.stdout.bytes, behaviour.stderr.bytes⟩ ∧
        behaviour.stdout.ReadWhole inv.stdoutLimit ∧ behaviour.stderr.ReadWhole inv.stderrLimit ∨
      ∃ fault, collect inv behaviour exitCode = .error fault ∧ fault.kind? = some .streamIO ∧
        ¬ (behaviour.stdout.ReadWhole inv.stdoutLimit ∧
          behaviour.stderr.ReadWhole inv.stderrLimit) := by
  have stdout := Reader.contents_whole (idle (.ofStdout inv behaviour) (by simp [Reader.both]))
    stdoutLimit
  have stderr := Reader.contents_whole (idle (.ofStderr inv behaviour) (by simp [Reader.both]))
    stderrLimit
  unfold collect
  -- the output is looked at first, so its fault hides one of the other stream
  rcases stdout with ⟨all, whole⟩ | ⟨fault, lost, kind, cut⟩
  · rcases stderr with ⟨all', whole'⟩ | ⟨fault, lost, kind, cut⟩
    · refine .inl ⟨?_, whole, whole'⟩
      rw [all, all']
      rfl
    · refine .inr ⟨fault, ?_, kind, fun both => cut both.2⟩
      rw [all, lost]
      rfl
  · refine .inr ⟨fault, ?_, kind, fun both => cut both.1⟩
    rw [lost]
    rfl

end RunState

abbrev IsUnusable {α : Type} (result : Except RunFault α) : Prop := FailsWith (· = .nullByte) result

theorem Reader.not_unusable_contents (reader : Reader) : ¬ IsUnusable reader.contents := by
  rw [contents_exact]
  split
  · simp
  · split <;> simp

namespace RunState

variable (state : RunState) (inv : Invocation) (behaviour : ToolBehaviour)

theorem not_unusable_awaitExit : ¬ IsUnusable (state.awaitExit inv behaviour).1 := by
  unfold awaitExit
  split <;> simp

theorem not_unusable_join (readers : List Reader) : ¬ IsUnusable (join inv readers state).1 := by
  induction readers with
  | nil => exact not_failsWith_ok _
  | cons reader readers ih =>
      rw [join]
      split
      · simp
      · exact ih

theorem not_unusable_attend : ¬ IsUnusable (state.attend inv behaviour).1 := by
  have awaited := not_unusable_awaitExit state inv behaviour
  unfold attend
  split
  · next ended =>
    rw [ended] at awaited
    exact awaited
  · exact mt failsWith_map.mp (not_unusable_join _ inv _)

theorem not_unusable_supervise : ¬ IsUnusable (state.supervise inv behaviour).1 := by
  refine not_failsWith_bind (not_unusable_attend _ inv behaviour) fun exitCode => ?_
  refine not_failsWith_bind (Reader.not_unusable_contents _) fun stdout => ?_
  exact not_failsWith_bind (Reader.not_unusable_contents _) fun stderr => not_failsWith_pure _

end RunState

/-- Whether every word of the command can be handed to the system. -/
def Invocation.IsSound (inv : Invocation) : Prop := inv.command.any Text.holdsNull = false

instance (inv : Invocation) : Decidable inv.IsSound := inferInstanceAs (Decidable (_ = _))

/-- Whether a run gets as far as a process. -/
def Invocation.Starts (inv : Invocation) (behaviour : ToolBehaviour) : Prop :=
  inv.IsSound ∧ behaviour.starting = none

instance (inv : Invocation) (behaviour : ToolBehaviour) : Decidable (inv.Starts behaviour) :=
  inferInstanceAs (Decidable (_ ∧ _))

inductive Course (inv : Invocation) (behaviour : ToolBehaviour) :
    Except RunFault Outcome → Prop where
  | unusable (unsound : ¬ inv.IsSound) : Course inv behaviour (.error .nullByte)
  | notStarted (code : ErrorCode) (sound : inv.IsSound)
      (refused : behaviour.starting = some code) :
      Course inv behaviour (.error (.notStarted inv.tool { code, file := some inv.executable }))
  | timedOut (limit : Binary64) (started : inv.Starts behaviour)
      (overruns : behaviour.waiting = .overruns) (limited : inv.timeout = some limit) :
      Course inv behaviour
        (.error (.timedOut inv.tool (inv.executable :: inv.arguments) limit))
  | waitFailed (error : SystemError) (started : inv.Starts behaviour)
      (fails : behaviour.waiting = .fails error) :
      Course inv behaviour (.error (.waitFailed error))
  | lost (fault : RunFault) (started : inv.Starts behaviour)
      (inTime : behaviour.EndsWithin inv.timeout) (kind : fault.kind? = some .streamIO)
      (cut : ¬ (behaviour.stdout.ReadWhole inv.stdoutLimit ∧
        behaviour.stderr.ReadWhole inv.stderrLimit)) :
      Course inv behaviour (.error fault)
  | finished (started : inv.Starts behaviour) (inTime : behaviour.EndsWithin inv.timeout)
      (stdout : behaviour.stdout.ReadWhole inv.stdoutLimit)
      (stderr : behaviour.stderr.ReadWhole inv.stderrLimit) :
      Course inv behaviour
        (.ok ⟨behaviour.exitCode, behaviour.stdout.bytes, behaviour.stderr.bytes⟩)

namespace RunReport

variable (inv : Invocation) (behaviour : ToolBehaviour)

variable {inv behaviour} in
theorem ofInvocation_started (started : inv.Starts behaviour) :
    (ofInvocation inv behaviour).result = (ofStarted inv behaviour).result ∧
      (ofInvocation inv behaviour).process = (ofStarted inv behaviour).process := by
  have sound : inv.command.any Text.holdsNull = false := started.1
  simp only [ofInvocation, sound, Bool.false_eq_true, if_false, started.2, and_self]

variable {inv behaviour} in
theorem ofInvocation_unsound (unsound : ¬ inv.IsSound) :
    (ofInvocation inv behaviour).result = .error .nullByte := by
  have held : inv.command.any Text.holdsNull = true := eq_true_of_ne_false unsound
  simp only [ofInvocation, held, if_true, ofUnusable]

theorem result_nullByte_iff :
    (ofInvocation inv behaviour).result = .error .nullByte ↔ ¬ inv.IsSound := by
  refine ⟨?_, ofInvocation_unsound⟩
  intro failed sound
  cases starting : behaviour.starting with
  | some code =>
      have free : inv.command.any Text.holdsNull = false := sound
      simp [ofInvocation, free, starting, ofNotStarted] at failed
  | none =>
      rw [(ofInvocation_started ⟨sound, starting⟩).1] at failed
      exact RunState.not_unusable_supervise {} inv behaviour ⟨_, failed, rfl⟩

theorem course (stdoutLimit : 0 ≤ inv.stdoutLimit) (stderrLimit : 0 ≤ inv.stderrLimit) :
    Course inv behaviour (ofInvocation inv behaviour).result := by
  by_cases sound : inv.IsSound
  case neg =>
    rw [ofInvocation_unsound sound]
    exact .unusable sound
  cases starting : behaviour.starting with
  | some code =>
      have free : inv.command.any Text.holdsNull = false := sound
      have result : (ofInvocation inv behaviour).result =
          .error (.notStarted inv.tool { code, file := some inv.executable }) := by
        simp only [ofInvocation, free, Bool.false_eq_true, if_false, starting, ofNotStarted]
      rw [result]
      exact .notStarted code sound starting
  | none =>
      have started : inv.Starts behaviour := ⟨sound, starting⟩
      -- the state from which the end of the process is awaited
      let begun := RunState.close {} behaviour .stdin
      have result : (ofInvocation inv behaviour).result =
          (begun.attend inv behaviour).1.bind (RunState.collect inv behaviour) :=
        (ofInvocation_started started).1
      have running : begun.process.exitCode = none := rfl
      have awaited := RunState.awaitExit_awaited inv behaviour running
      rw [result]
      unfold RunState.attend
      rcases ended : begun.awaitExit inv behaviour with ⟨exit, state⟩
      simp only [ended] at awaited
      generalize state.process = process at awaited
      cases awaited with
      | failure error fails => exact .waitFailed error started fails
      | overrun limit overruns limited => exact .timedOut limit started overruns limited
      | exit inTime =>
          rcases RunState.join_result state inv (Reader.both inv behaviour) with
            ⟨joined, idle⟩ | ⟨reader, member, busy, failed⟩
          · simp only [joined]
            change Course inv behaviour (RunState.collect inv behaviour behaviour.exitCode)
            rcases RunState.collect_result idle stdoutLimit stderrLimit behaviour.exitCode with
              ⟨collected, stdout, stderr⟩ | ⟨fault, collected, kind, cut⟩
            · rw [collected]
              exact .finished started inTime stdout stderr
            · rw [collected]
              exact .lost fault started inTime kind cut
          · simp only [failed]
            exact .lost _ started inTime rfl (Reader.busy_not_whole member busy)

/-- Whether a run failed with a fault of the given kind. -/
def FailsAs (report : RunReport) (kind : FailureKind) : Prop :=
  ∃ fault, report.result = .error fault ∧ fault.kind? = some kind

/-- A run has an outcome iff the tool started, ended in time and both of its streams were read
whole; the outcome is all that they delivered. Every other run fails, as what failed first says.
A command that holds a null is no run at all: it is refused before the system is asked to start
anything. -/
theorem result_exact (stdoutLimit : 0 ≤ inv.stdoutLimit) (stderrLimit : 0 ≤ inv.stderrLimit) :
    (∀ outcome, (ofInvocation inv behaviour).result = .ok outcome ↔
      inv.Starts behaviour ∧ behaviour.EndsWithin inv.timeout ∧
        behaviour.stdout.ReadWhole inv.stdoutLimit ∧ behaviour.stderr.ReadWhole inv.stderrLimit ∧
        outcome = ⟨behaviour.exitCode, behaviour.stdout.bytes, behaviour.stderr.bytes⟩) ∧
    ((ofInvocation inv behaviour).FailsAs .processStart ↔
      inv.IsSound ∧ behaviour.starting ≠ none) ∧
    ((ofInvocation inv behaviour).FailsAs .decodeTimeout ↔
      inv.Starts behaviour ∧ behaviour.waiting = .overruns ∧ inv.timeout ≠ none) ∧
    (∀ error, (ofInvocation inv behaviour).result = .error (.waitFailed error) ↔
      inv.Starts behaviour ∧ behaviour.waiting = .fails error) ∧
    ((ofInvocation inv behaviour).FailsAs .streamIO ↔
      inv.Starts behaviour ∧ behaviour.EndsWithin inv.timeout ∧
        ¬ (behaviour.stdout.ReadWhole inv.stdoutLimit ∧
          behaviour.stderr.ReadWhole inv.stderrLimit)) ∧
    ((ofInvocation inv behaviour).result = .error .nullByte ↔ ¬ inv.IsSound) := by
  have course := course inv behaviour stdoutLimit stderrLimit
  have unusable := result_nullByte_iff inv behaviour
  unfold FailsAs
  generalize (ofInvocation inv behaviour).result = result at course unusable
  -- each course settles all six clauses; only the last two look at the streams
  cases course with
  | unusable unsound => simp [unsound, Invocation.Starts, RunFault.kind?]
  | notStarted code sound refused => simp [sound, refused, Invocation.Starts, RunFault.kind?]
  | timedOut limit started overruns limited =>
      simp [started, started.1, started.2, overruns, limited, RunFault.kind?,
        ToolBehaviour.EndsWithin]
  | waitFailed error started fails =>
      simp [started, started.1, started.2, fails, RunFault.kind?, ToolBehaviour.EndsWithin]
  | lost fault started inTime kind cut =>
      obtain ⟨onTime, waited⟩ := inTime.not_late
      have other (error : SystemError) : fault ≠ .waitFailed error := by
        rintro rfl
        cases kind
      refine ⟨fun outcome => ⟨nofun, ?_⟩, ?_⟩
      · rintro ⟨_, _, stdout, stderr, _⟩
        exact (cut ⟨stdout, stderr⟩).elim
      · simp [started, started.1, started.2, inTime, kind, cut, onTime, waited, other, unusable]
  | finished started inTime stdout stderr =>
      obtain ⟨onTime, waited⟩ := inTime.not_late
      refine ⟨fun outcome => ?_, ?_⟩
      · simp [started, inTime, stdout, stderr, eq_comm]
      · simp [started, started.1, started.2, inTime, stdout, stderr, onTime, waited]

/-- A stream one byte longer than its limit, in two reads, with an exit code that tells nothing. -/
theorem result_exact_overlong :
    (0 : Int) ≤ 2 ∧ (0 : Int) ≤ 0 ∧
      (ofInvocation { executable := "tool", arguments := [], stdoutLimit := 2, stderrLimit := 0 }
        { stdout := { bytes := [80, 54, 10], cuts := [2] } }).FailsAs .streamIO :=
  ⟨by decide, by decide,
    (result_exact _ _ (by decide) (by decide)).2.2.2.2.1.mpr
      ⟨⟨by decide +kernel, rfl⟩, .inl rfl, by decide⟩⟩

end RunReport

/-- The same behaviour but for how closing the output streams goes. -/
def ToolBehaviour.closingWith (behaviour : ToolBehaviour) (stdout stderr : Option SystemError) :
    ToolBehaviour :=
  { behaviour with
    stdout := { behaviour.stdout with closing := stdout }
    stderr := { behaviour.stderr with closing := stderr } }

namespace RunReport

variable (inv : Invocation) (behaviour : ToolBehaviour)

theorem ofStarted_process :
    (ofStarted inv behaviour).process = some
      { exitCode := some (if behaviour.EndsWithin inv.timeout then behaviour.exitCode
          else ProcessEnd.killedCode)
        kills := if behaviour.EndsWithin inv.timeout then 0 else 1
        stdinClosed := true
        stdoutClosed := !behaviour.stdout.hangs
        stderrClosed := !behaviour.stderr.hangs } := by
  let begun := RunState.close {} behaviour .stdin
  have process : (ofStarted inv behaviour).process = some
      ((begun.attend inv behaviour).2.release inv behaviour).process := rfl
  have running : begun.process.exitCode = none := rfl
  have awaited := RunState.awaitExit_awaited inv behaviour running
  obtain ⟨gone, killed, kept⟩ := awaited.ended running
  obtain ⟨exitCode, kills, closed⟩ :=
    RunState.release_process (begun.attend inv behaviour).2 inv behaviour
  rw [RunState.attend_process] at exitCode kills closed
  rw [process]
  refine congrArg some (ProcessEnd.eq_of_isClosed (exitCode.trans gone) ?_ fun pipe => ?_)
  · rw [kills, killed]
    exact Nat.zero_add _
  · rw [Bool.eq_iff_iff, closed, ← ProcessEnd.isClosed_ended, kept]
    cases pipe <;> simp [ProcessEnd.isClosed, ProcessEnd.close, ToolBehaviour.isHeld, begun]

theorem result_closingWith (stdout stderr : Option SystemError) :
    (ofInvocation inv (behaviour.closingWith stdout stderr)).result =
      (ofInvocation inv behaviour).result := by
  by_cases started : inv.Starts behaviour
  · have started' : inv.Starts (behaviour.closingWith stdout stderr) := started
    rw [(ofInvocation_started started).1, (ofInvocation_started started').1]
    rfl
  · unfold ofInvocation
    split
    · rfl
    · next sound =>
        cases starting : behaviour.starting with
        | some code => simp only [ToolBehaviour.closingWith, starting]
        | none => exact (started ⟨eq_false_of_ne_true sound, starting⟩).elim

/-- However a started run ends, the process is gone, having been killed iff the first wait for it
did not succeed, and every stream is closed but those whose own reader hangs. Whether closing
fails makes no difference to the process or to the result. A process whose wait failed is taken to
be still running when it is asked for afterwards: nobody has seen its end. -/
theorem process_released (started : inv.Starts behaviour) :
    ∃ process, (ofInvocation inv behaviour).process = some process ∧
      process.running = false ∧
      process.kills ≤ 1 ∧
      (process.killed = true ↔ ¬ behaviour.EndsWithin inv.timeout) ∧
      process.isClosed .stdin = true ∧
      (process.isClosed .stdout = true ↔ behaviour.stdout.ending ≠ .hangs) ∧
      (process.isClosed .stderr = true ↔ behaviour.stderr.ending ≠ .hangs) ∧
      ∀ stdout stderr,
        (ofInvocation inv (behaviour.closingWith stdout stderr)).process = some process ∧
          (ofInvocation inv (behaviour.closingWith stdout stderr)).result =
            (ofInvocation inv behaviour).result := by
  -- the same for both behaviours: how closing goes does not enter what is left
  have started' (stdout stderr : Option SystemError) :
      inv.Starts (behaviour.closingWith stdout stderr) := started
  refine ⟨_, (ofInvocation_started started).2.trans (ofStarted_process inv behaviour), rfl, ?_, ?_,
    rfl, ?_, ?_, fun stdout stderr => ⟨?_, result_closingWith inv behaviour stdout stderr⟩⟩
  · show ite _ _ _ ≤ 1
    split <;> omega
  · by_cases inTime : behaviour.EndsWithin inv.timeout <;> simp [ProcessEnd.killed, inTime]
  · simp [ProcessEnd.isClosed, StreamBehaviour.hangs]
  · simp [ProcessEnd.isClosed, StreamBehaviour.hangs]
  · exact (ofInvocation_started (started' stdout stderr)).2.trans
      (ofStarted_process inv (behaviour.closingWith stdout stderr))

/-- Waiting fails, one stream fails to close and the other hangs. -/
theorem process_released_unattended :
    Invocation.Starts { executable := "tool", arguments := [] }
        { waiting := .fails { code := ⟨10, "ECHILD", "No child processes"⟩ }
          stdout := { closing := some { code := ⟨5, "EIO", "Input/output error"⟩ } }
          stderr := { ending := .hangs } } ∧
      ∃ process, (ofInvocation { executable := "tool", arguments := [] }
          { waiting := .fails { code := ⟨10, "ECHILD", "No child processes"⟩ }
            stdout := { closing := some { code := ⟨5, "EIO", "Input/output error"⟩ } }
            stderr := { ending := .hangs } }).process = some process ∧
        process.running = false ∧ process.killed = true ∧
        process.isClosed .stdout = true ∧ ¬ process.isClosed .stderr = true := by
  have sound : Invocation.IsSound { executable := "tool", arguments := [] } := by decide +kernel
  obtain ⟨process, left, gone, _, killed, _, stdout, stderr, _⟩ :=
    process_released { executable := "tool", arguments := [] }
      { waiting := .fails { code := ⟨10, "ECHILD", "No child processes"⟩ }
        stdout := { closing := some { code := ⟨5, "EIO", "Input/output error"⟩ } }
        stderr := { ending := .hangs } } ⟨sound, rfl⟩
  exact ⟨⟨sound, rfl⟩, process, left, gone, killed.mpr (by decide), stdout.mpr (by decide),
    fun closed => stderr.mp closed rfl⟩

end RunReport

end Jp2Render
