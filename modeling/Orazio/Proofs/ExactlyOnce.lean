import Orazio.Lib.StepMachine
import Orazio.Model.ShellThreads

/-!
# Parameter operations of the shell

A call of `paramFn` hands its packet to the runner thread with a flag, which it clears only after the
runner has woken it. Until then the runner may find the flag set again and send the packet a second
time, and it may assign `op_result`, which the call has still to return. When it does neither, every
call that returns has sent its packet exactly once and returns the status of that.
-/

namespace Orazio.Proofs

open Stdio

/-! ### What a run has sent and returned -/

/-- A call of `paramFn`, with the packets sent on its behalf, their status and what it has returned. -/
structure Call where
  query : ParamControlPacket
  sent : List ParamControlPacket
  results : List PacketStatus
  returned : Option PacketStatus

/-- The calls so far, the latest first, and the number of calls when the runner last found
`param_sem_init` set. What the runner sends is on behalf of the call that was the latest then. -/
structure Ledger where
  calls : List Call
  cause : Nat

namespace Ledger

/-- Changes the call on whose behalf the runner acts. -/
def serve (f : Call → Call) (l : Ledger) : Ledger :=
  { l with calls := l.calls.modify (l.calls.length - l.cause) f }

def record (l : Ledger) : ThreadEvent → Ledger
  | .call query => { l with calls := ⟨query, [], [], none⟩ :: l.calls }
  | .requested => { l with cause := l.calls.length }
  | .sent packet => l.serve fun c => { c with sent := c.sent ++ [packet] }
  | .result status => l.serve fun c => { c with results := c.results ++ [status] }
  | .returned status => { l with calls := l.calls.modify 0 fun c => { c with returned := some status } }
  | .rejected _ | .internal => l

end Ledger

def ledger (events : List ThreadEvent) : Ledger :=
  events.foldl Ledger.record ⟨[], 0⟩

/-- The packet of the call has been sent once, with the status that the call has returned. -/
def Call.Once (c : Call) (status : PacketStatus) : Prop :=
  c.sent = [c.query] ∧ c.results = [status]

/-- Every call that has returned has sent its packet exactly once and returned the status of that. -/
def ExactlyOnce (events : List ThreadEvent) : Prop :=
  ∀ c ∈ (ledger events).calls, ∀ status, c.returned = some status → c.Once status

/-! ### Prompt returns -/

/-- The shell thread has been woken and has not returned yet. -/
def answered (s : Threads) : Bool :=
  match s.shell with
  | .semWait => s.paramSem.any fun n => 0 < n
  | .clearFlag | .semDestroy | .returnResult => true
  | .idle | .semInit | .setFlag => false

def assignsResult : RunnerPc → Bool
  | .refreshState _ | .sendResult => true
  | _ => false

/-- As long as a call that has been woken has not returned, the runner does not find `param_sem_init`
set and does not change `op_result`. -/
def Prompt (s : Threads) : ThreadInput → Prop
  | .shell _ => True
  | .runner answer => answered s = true →
    (s.runner = .testParamSem → s.paramSemInit = false) ∧
      (assignsResult s.runner = true → answer.status = s.opResult)

instance (s : Threads) (input : ThreadInput) : Decidable (Prompt s input) :=
  match input with
  | .shell _ => .isTrue trivial
  | .runner _ => inferInstanceAs (Decidable (_ → _ ∧ _))

/-! ### Steps of the runner -/

/-- The runner has found a request and not posted the semaphore yet. -/
def serving : RunnerPc → Bool
  | .sendPacket | .sendResult | .refreshParams | .postParamSem => true
  | _ => false

/-- A step of the runner before it finds a request. -/
lemma runnerStep_cases {s s' : Threads} {answer : ClientAnswer} {e : ThreadEvent}
    (hrunner : serving s.runner = false) (h : s.runnerStep answer = .ok (e, s')) :
    (e = .requested ∧ s.runner = .testParamSem ∧ s.paramSemInit = true ∧
        s' = { s with runner := .sendPacket }) ∨
      (e = .internal ∧ ∃ opResult stateSem runner, s' = { s with opResult, stateSem, runner } ∧
        serving runner = false ∧
        (opResult = s.opResult ∨ (assignsResult s.runner = true ∧ opResult = answer.status))) := by
  unfold Threads.runnerStep at h
  cases hpc : s.runner with
  | whileRun =>
    simp only [hpc] at h
    cases h
    refine .inr ⟨rfl, _, _, _, rfl, ?_, .inl rfl⟩
    split <;> rfl
  | sync =>
    simp only [hpc] at h
    cases h
    exact .inr ⟨rfl, _, _, _, rfl, rfl, .inl rfl⟩
  | refreshState i =>
    simp only [hpc] at h
    cases h
    refine .inr ⟨rfl, _, _, _, rfl, ?_, .inr ⟨rfl, rfl⟩⟩
    unfold Threads.refreshNext
    split
    · split <;> rfl
    · rfl
  | getResponse =>
    simp only [hpc] at h
    cases h
    exact .inr ⟨rfl, _, _, _, rfl, rfl, .inl rfl⟩
  | testStateSem =>
    simp only [hpc] at h
    cases h
    refine .inr ⟨rfl, _, _, _, rfl, ?_, .inl rfl⟩
    split <;> rfl
  | postStateSem =>
    simp only [hpc] at h
    split at h
    · cases h
    · cases h
      exact .inr ⟨rfl, _, _, _, rfl, rfl, .inl rfl⟩
  | testParamSem =>
    simp only [hpc] at h
    split at h
    · next hset =>
      cases h
      exact .inl ⟨rfl, rfl, hset, rfl⟩
    · cases h
      exact .inr ⟨rfl, _, _, _, rfl, rfl, .inl rfl⟩
  | sendPacket =>
    rw [hpc] at hrunner
    cases hrunner
  | sendResult =>
    rw [hpc] at hrunner
    cases hrunner
  | refreshParams =>
    rw [hpc] at hrunner
    cases hrunner
  | postParamSem =>
    rw [hpc] at hrunner
    cases hrunner
  | exited =>
    simp only [hpc] at h
    cases h

/-! ### The state of the latest call -/

/-- The call has returned the status of the only packet sent on its behalf. -/
def Call.Done (c : Call) : Prop :=
  ∃ status, c.returned = some status ∧ c.Once status

/-- The shell thread has raised the flag and nobody has posted the semaphore. -/
structure Waiting (s : Threads) : Prop where
  shell : s.shell = .semWait
  sem : s.paramSem = some 0
  flag : s.paramSemInit = true

lemma Waiting.shellStep {s : Threads} (h : Waiting s) (command : ShellCommand) :
    s.shellStep command = .error .blocked := by
  simp only [Threads.shellStep, h.shell, h.sem, sem_wait]

/-- How far the latest call is, in the threads and in the ledger. -/
inductive Coherent (s : Threads) : Ledger → Prop
  | idle {calls : List Call} {cause : Nat} (shell : s.shell = .idle) (flag : s.paramSemInit = false)
      (runner : serving s.runner = false) (done : ∀ c ∈ calls, c.Done) : Coherent s ⟨calls, cause⟩
  | asking {calls : List Call} {cause : Nat}
      (shell : s.shell = .semInit ∨ s.shell = .setFlag ∧ s.paramSem = some 0)
      (flag : s.paramSemInit = false) (runner : serving s.runner = false)
      (done : ∀ c ∈ calls, c.Done) : Coherent s ⟨⟨s.paramControl, [], [], none⟩ :: calls, cause⟩
  | waiting {calls : List Call} {cause : Nat} (shell : Waiting s) (runner : serving s.runner = false)
      (done : ∀ c ∈ calls, c.Done) : Coherent s ⟨⟨s.paramControl, [], [], none⟩ :: calls, cause⟩
  | requested {calls : List Call} (shell : Waiting s) (runner : s.runner = .sendPacket)
      (done : ∀ c ∈ calls, c.Done) :
      Coherent s ⟨⟨s.paramControl, [], [], none⟩ :: calls, calls.length + 1⟩
  | sending {calls : List Call} {query : ParamControlPacket} (shell : Waiting s)
      (runner : s.runner = .sendResult) (done : ∀ c ∈ calls, c.Done) :
      Coherent s ⟨⟨query, [query], [], none⟩ :: calls, calls.length + 1⟩
  | sent {calls : List Call} {cause : Nat} {query : ParamControlPacket} (shell : Waiting s)
      (runner : s.runner = .refreshParams ∨ s.runner = .postParamSem) (done : ∀ c ∈ calls, c.Done) :
      Coherent s ⟨⟨query, [query], [s.opResult], none⟩ :: calls, cause⟩
  | answered {calls : List Call} {cause : Nat} {query : ParamControlPacket}
      (shell : answered s = true)
      (flag : s.shell = .semDestroy ∨ s.shell = .returnResult → s.paramSemInit = false)
      (runner : serving s.runner = false) (done : ∀ c ∈ calls, c.Done) :
      Coherent s ⟨⟨query, [query], [s.opResult], none⟩ :: calls, cause⟩

namespace Coherent

lemma exactlyOnce {s : Threads} {l : Ledger} (h : Coherent s l) :
    ∀ c ∈ l.calls, ∀ status, c.returned = some status → c.Once status := by
  have hdone {c : Call} (hc : c.Done) (status : PacketStatus) (hr : c.returned = some status) :
      c.Once status := by
    obtain ⟨status', hr', honce⟩ := hc
    rw [hr] at hr'
    cases hr'
    exact honce
  have hcons {c : Call} {calls : List Call} (hnone : c.returned = none) (hd : ∀ c ∈ calls, c.Done) :
      ∀ c' ∈ c :: calls, ∀ status, c'.returned = some status → c'.Once status := by
    intro c' hc' status hr
    rcases List.mem_cons.mp hc' with rfl | hc'
    · rw [hnone] at hr
      cases hr
    · exact hdone (hd c' hc') status hr
  cases h with
  | idle _ _ _ done => exact fun c hc => hdone (done c hc)
  | asking _ _ _ done => exact hcons rfl done
  | waiting _ _ done => exact hcons rfl done
  | requested _ _ done => exact hcons rfl done
  | sending _ _ done => exact hcons rfl done
  | sent _ _ done => exact hcons rfl done
  | answered _ _ _ done => exact hcons rfl done

lemma sem_of_post {s : Threads} {l : Ledger} (h : Coherent s l) (hpost : s.runner = .postParamSem) :
    s.paramSem = some 0 := by
  have hnot (hr : serving s.runner = false) : False := by
    rw [hpost] at hr
    cases hr
  cases h with
  | idle _ _ runner => exact (hnot runner).elim
  | asking _ _ runner => exact (hnot runner).elim
  | waiting _ runner => exact (hnot runner).elim
  | requested shell => exact shell.sem
  | sending shell => exact shell.sem
  | sent shell => exact shell.sem
  | answered _ _ runner => exact (hnot runner).elim

/-- A command that is taken between two calls. -/
lemma paramFn {s s' : Threads} {calls : List Call} {cause : Nat} {cmdName varName : Text} {action : UInt8}
    {e : ThreadEvent} (shell : s.shell = .idle) (flag : s.paramSemInit = false)
    (runner : serving s.runner = false) (done : ∀ c ∈ calls, c.Done)
    (h : s.paramFn cmdName varName action = (e, s')) :
    Coherent s' (Ledger.record ⟨calls, cause⟩ e) := by
  unfold Threads.paramFn at h
  split at h
  · cases h
    exact .idle shell flag runner done
  · cases h
    exact .asking (.inl rfl) flag runner done

lemma shellStep {s s' : Threads} {l : Ledger} {command : ShellCommand} {e : ThreadEvent}
    (hl : Coherent s l) (h : s.shellStep command = .ok (e, s')) : Coherent s' (l.record e) := by
  cases hl with
  | idle shell flag runner done =>
    simp only [Threads.shellStep, shell] at h
    split at h
    · cases command with
      | fetch varName => exact paramFn shell flag runner done (Except.ok.inj h)
      | store varName => exact paramFn shell flag runner done (Except.ok.inj h)
      | request varName => exact paramFn shell flag runner done (Except.ok.inj h)
      | quit =>
        cases h
        exact .idle shell flag runner done
    · cases h
  | asking shell flag runner done =>
    rcases shell with shell | ⟨shell, sem⟩
    · simp only [Threads.shellStep, shell] at h
      cases h
      exact .asking (.inr ⟨rfl, rfl⟩) flag runner done
    · simp only [Threads.shellStep, shell] at h
      cases h
      exact .waiting ⟨rfl, sem, rfl⟩ runner done
  | waiting shell =>
    rw [shell.shellStep command] at h
    cases h
  | requested shell =>
    rw [shell.shellStep command] at h
    cases h
  | sending shell =>
    rw [shell.shellStep command] at h
    cases h
  | sent shell =>
    rw [shell.shellStep command] at h
    cases h
  | answered shell flag runner done =>
    unfold Threads.shellStep at h
    cases hpc : s.shell with
    | semWait =>
      simp only [hpc] at h
      split at h
      · cases h
      · cases h
        exact .answered rfl (by simp) runner done
    | clearFlag =>
      simp only [hpc] at h
      cases h
      exact .answered rfl (fun _ => rfl) runner done
    | semDestroy =>
      simp only [hpc] at h
      cases h
      exact .answered rfl (fun _ => flag (.inl hpc)) runner done
    | returnResult =>
      simp only [hpc] at h
      cases h
      refine .idle rfl (flag (.inr hpc)) runner fun c hc => ?_
      rcases List.mem_cons.mp hc with rfl | hc
      · exact ⟨s.opResult, rfl, rfl, rfl⟩
      · exact done c hc
    | idle => simp [Proofs.answered, hpc] at shell
    | semInit => simp [Proofs.answered, hpc] at shell
    | setFlag => simp [Proofs.answered, hpc] at shell

lemma runnerStep {s s' : Threads} {l : Ledger} {answer : ClientAnswer} {e : ThreadEvent}
    (hl : Coherent s l) (hprompt : Prompt s (.runner answer))
    (h : s.runnerStep answer = .ok (e, s')) : Coherent s' (l.record e) := by
  cases hl with
  | idle shell flag runner done =>
    obtain ⟨-, -, hset, -⟩ | ⟨rfl, opResult, stateSem, pc, rfl, hpc, -⟩ := runnerStep_cases runner h
    · rw [flag] at hset
      cases hset
    · exact .idle shell flag hpc done
  | asking shell flag runner done =>
    obtain ⟨-, -, hset, -⟩ | ⟨rfl, opResult, stateSem, pc, rfl, hpc, -⟩ := runnerStep_cases runner h
    · rw [flag] at hset
      cases hset
    · exact .asking shell flag hpc done
  | waiting shell runner done =>
    obtain ⟨rfl, -, -, rfl⟩ | ⟨rfl, opResult, stateSem, pc, rfl, hpc, -⟩ := runnerStep_cases runner h
    · exact .requested ⟨shell.shell, shell.sem, shell.flag⟩ rfl done
    · exact .waiting ⟨shell.shell, shell.sem, shell.flag⟩ hpc done
  | requested shell runner done =>
    simp only [Threads.runnerStep, runner] at h
    cases h
    simp only [Ledger.record, Ledger.serve, List.length_cons, Nat.sub_self, List.modify_zero_cons]
    exact .sending ⟨shell.shell, shell.sem, shell.flag⟩ rfl done
  | sending shell runner done =>
    simp only [Threads.runnerStep, runner] at h
    cases h
    simp only [Ledger.record, Ledger.serve, List.length_cons, Nat.sub_self, List.modify_zero_cons]
    refine .sent ⟨shell.shell, shell.sem, shell.flag⟩ ?_ done
    split
    · exact .inl rfl
    · exact .inr rfl
  | sent shell runner done =>
    rcases runner with runner | runner
    · simp only [Threads.runnerStep, runner] at h
      cases h
      exact .sent ⟨shell.shell, shell.sem, shell.flag⟩ (.inr rfl) done
    · simp only [Threads.runnerStep, runner, shell.sem, sem_post] at h
      cases h
      refine .answered ?_ ?_ rfl done
      · simp [Proofs.answered, shell.shell]
      · simp [shell.shell]
  | answered shell flag runner done =>
    obtain ⟨hquiet, hkeep⟩ := hprompt shell
    obtain ⟨-, htest, hset, -⟩ | ⟨rfl, opResult, stateSem, pc, rfl, hpc, hres⟩ :=
      runnerStep_cases runner h
    · rw [hquiet htest] at hset
      cases hset
    · have hresult : opResult = s.opResult := by
        rcases hres with hres | ⟨hassign, hres⟩
        · exact hres
        · exact hres.trans (hkeep hassign)
      subst hresult
      exact .answered shell flag hpc done

theorem step {s s' : Threads} {l : Ledger} {input : ThreadInput} {e : ThreadEvent}
    (hl : Coherent s l) (hprompt : Prompt s input) (h : s.step input = .ok (e, s')) :
    Coherent s' (l.record e) := by
  cases input with
  | shell command => exact hl.shellStep h
  | runner answer => exact hl.runnerStep hprompt h

theorem run {s s' : Threads} {l : Ledger} {inputs : List ThreadInput} {events : List ThreadEvent}
    (hl : Coherent s l)
    (hprompt : StepMachine.Always Threads.step (fun s input _ _ => Prompt s input) s inputs)
    (h : StepMachine.run Threads.step s inputs = .ok (events, s')) :
    Coherent s' (events.foldl Ledger.record l) := by
  induction inputs generalizing s l events with
  | nil =>
    cases h
    exact hl
  | cons input inputs ih =>
    obtain ⟨e, t, events', hstep, hrun, rfl⟩ := StepMachine.run_cons_eq_ok.mp h
    obtain ⟨hp, hprompt⟩ := (StepMachine.always_cons hstep inputs).mp hprompt
    rw [List.foldl_cons]
    exact ih (hl.step hp hstep) hprompt hrun

end Coherent

section
variable {inputs : List ThreadInput} {events : List ThreadEvent} {s : Threads}

theorem coherent_of_run (hrun : StepMachine.run Threads.step Threads.start inputs = .ok (events, s))
    (hprompt : StepMachine.Always Threads.step (fun s input _ _ => Prompt s input) Threads.start inputs) :
    Coherent s (ledger events) :=
  Coherent.run (.idle rfl rfl rfl (by simp)) hprompt hrun

/-- As long as every step is prompt, the runner posts a semaphore that is initialised. -/
theorem posted_semaphore_initialised
    (hrun : StepMachine.run Threads.step Threads.start inputs = .ok (events, s))
    (hprompt : StepMachine.Always Threads.step (fun s input _ _ => Prompt s input) Threads.start inputs)
    (hpost : s.runner = .postParamSem) : s.paramSem = some 0 :=
  (coherent_of_run hrun hprompt).sem_of_post hpost

end

/-- As long as every step is prompt, each call that returns has sent its packet exactly once and returns
the status of that. -/
theorem param_exactly_once (inputs : List ThreadInput) (events : List ThreadEvent) (s : Threads)
    (hrun : StepMachine.run Threads.step Threads.start inputs = .ok (events, s))
    (hprompt : StepMachine.Always Threads.step (fun s input _ _ => Prompt s input) Threads.start inputs) :
    ExactlyOnce events :=
  (coherent_of_run hrun hprompt).exactlyOnce

/-- The runner goes once around its loop up to the call that sends the parameter packet. -/
private def untilSend : List ThreadInput :=
  List.replicate 10 (.runner ⟨.success, 1⟩)

/-- A call of `fetch` that is answered and returns while the runner is idle. -/
private def promptFetch : List ThreadInput :=
  List.replicate 3 (.shell (.fetch "system_params".toList)) ++ untilSend ++
    List.replicate 3 (.runner ⟨.success, 1⟩) ++ List.replicate 4 (.shell .quit)

theorem param_exactly_once_fetch :
    ∃ (events : List ThreadEvent) (s : Threads),
      StepMachine.run Threads.step Threads.start promptFetch = .ok (events, s) ∧
      (ledger events).calls.map (fun c => (c.sent.length, c.returned)) = [(1, some .success)] ∧
      ExactlyOnce events := by
  obtain ⟨⟨events, s⟩, hrun, hcalls⟩ :
      ∃ r, StepMachine.run Threads.step Threads.start promptFetch = .ok r ∧
        (ledger r.1).calls.map (fun c => (c.sent.length, c.returned)) = [(1, some .success)] := by
    decide +kernel
  have hprompt : StepMachine.Always Threads.step (fun s input _ _ => Prompt s input) Threads.start
      promptFetch := by
    decide +kernel
  exact ⟨events, s, hrun, hcalls, param_exactly_once promptFetch events s hrun hprompt⟩

/-- The answer to a call of `store` times out. Before the shell thread runs again, the runner is back at
the flag. -/
private def storeTwice : List ThreadInput :=
  List.replicate 3 (.shell (.store "joint_params".toList)) ++ untilSend ++
    List.replicate 2 (.runner ⟨.timeout, 1⟩) ++ untilSend ++ List.replicate 4 (.shell .quit)

/-- The call returns success, after two sends of which the only status so far is a timeout. -/
theorem store_sent_twice :
    ¬∀ (inputs : List ThreadInput) (events : List ThreadEvent) (s : Threads),
      StepMachine.run Threads.step Threads.start inputs = .ok (events, s) → ExactlyOnce events := by
  intro hall
  obtain ⟨⟨events, s⟩, hrun, c, hc, hsent, hresults, hreturned⟩ :
      ∃ r, StepMachine.run Threads.step Threads.start storeTwice = .ok r ∧
        ∃ c ∈ (ledger r.1).calls, c.sent.length = 2 ∧ c.results = [.timeout] ∧
          c.returned = some .success := by
    decide +kernel
  have honce := hall storeTwice events s hrun c hc .success hreturned
  rw [honce.1] at hsent
  cases hsent

end Orazio.Proofs
