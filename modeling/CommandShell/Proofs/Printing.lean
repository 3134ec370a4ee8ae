/-
# What is printed and what is not

A text that is printed goes to a sink, and there are sinks that take nothing: a device that is full,
and channels that are only there for reading (`Sink.refuses`).  On any other sink printing succeeds.

A built-in command that fails reports why, and so it fails as a whole only when there is something
to report and the stream for that refuses it (`Builtin.run_error_iff`).
-/
import CommandShell.Proofs.Beginning

namespace CommandShell

/-! ## 1. Sinks that refuse -/

/-- Whether a channel takes no bytes at all. -/
def Channel.refuses : Channel → Bool
  | .device .full => true
  | .terminalInput => true
  | .pipeReader _ => true
  | _ => false

namespace Sink

variable {sink : Sink}

/-- Whether a sink takes no bytes at all. -/
def refuses : Sink → Bool
  | .channel c => c.refuses
  | .buffer _ => false

@[simp] theorem refuses_plus (sink : Sink) (bytes : Bytes) :
    (sink.plus bytes).refuses = sink.refuses := by
  cases sink <;> rfl

theorem write_of_refuses (w : World) {bytes : Bytes} (h : sink.refuses = true)
    (hbytes : bytes ≠ []) : ∃ e, sink.write w bytes = .error (.stream (.os e)) := by
  cases sink with
  | buffer collected => cases h
  | channel c =>
    cases c with
    | terminalInput => exact ⟨.badDescriptor, rfl⟩
    | pipeReader n => exact ⟨.badDescriptor, rfl⟩
    | device d =>
      cases d with
      | full => exact ⟨.noSpace, by simp [write, World.write, hbytes]⟩
      | null | zero | own => cases h
    | terminalOutput | terminalError | pipeWriter | file => cases h

theorem write_of_takes (w : World) (bytes : Bytes) (h : sink.refuses = false) :
    ∃ world, sink.write w bytes = .ok (sink.plus bytes, world) := by
  rcases hw : sink.write w bytes with f | ⟨sink', world⟩
  · -- Only a write that the machine refuses fails.
    cases sink with
    | buffer collected => cases hw
    | channel c =>
      have hrefused : ∃ e, w.write c bytes = .refused e := by
        simp only [write] at hw
        split at hw
        next => cases hw
        next e he => exact ⟨e, he⟩
        all_goals cases hw
      obtain ⟨e, he⟩ := hrefused
      cases c with
      | terminalInput | pipeReader => cases h
      | device d =>
        cases d with
        | full => cases h
        | null | zero | own => cases he
      | terminalOutput | terminalError | file => cases he
      | pipeWriter n =>
        simp only [World.write] at he
        repeat' split at he
        all_goals cases he
  · rw [eq_of_write hw]
    exact ⟨world, rfl⟩

end Sink

theorem Text.encode_line_ne_nil (text : String) : Text.encode (text ++ "\n") ≠ [] := by
  rw [Text.encode_append]
  exact List.append_ne_nil_of_right_ne_nil _ (by decide)

namespace Deed

variable {stream : Stream} {job : Job}

theorem print_of_takes (text : String) (h : (job.sink stream).refuses = false) :
    ∃ world, (print stream text).run.run job =
      (.ok ⟨⟩, job.wrote stream ((job.sink stream).plus (Text.encode text)) world) := by
  obtain ⟨world, hw⟩ := Sink.write_of_takes job.session.world (Text.encode text) h
  exact ⟨world, by rw [run_print, hw]⟩

theorem print_of_refuses (text : String) (h : (job.sink stream).refuses = true) :
    ∃ e, (print stream (text ++ "\n")).run.run job = (.error (.stream (.os e)), job) := by
  obtain ⟨e, hw⟩ := Sink.write_of_refuses job.session.world h (Text.encode_line_ne_nil text)
  exact ⟨e, by rw [run_print, hw]⟩

end Deed

/-! ## 2. Built-in commands that fail -/

namespace Builtin

variable {b : Builtin} {job job' : Job}

/-- What a command changes, its streams go where they went. -/
theorem Change.refuses {bytes : Bytes} (hc : Change job bytes job') (stream : Stream) :
    (job'.sink stream).refuses = (job.sink stream).refuses := by
  cases hc with
  | @printed printed bytes sink world hw =>
    have hsink : sink.refuses = (job.sink printed).refuses := by
      rw [Sink.eq_of_write hw, Sink.refuses_plus]
    cases printed <;> cases stream <;> first | exact hsink | rfl
  | _ => cases stream <;> rfl

theorem Reaches.refuses (h : Reaches job job') (stream : Stream) :
    (job'.sink stream).refuses = (job.sink stream).refuses :=
  h.keeps (P := fun job' => (job'.sink stream).refuses = (job.sink stream).refuses)
    (fun hc ih => (hc.refuses stream).trans ih) rfl

/-- The stream for what the command has to report: help is asked for, so it is output. -/
def reportStream : Builtin → Stream
  | .help _ => .stdout
  | _ => .stderr

/-- The command fails, and the stream for its report refuses it. -/
def Unheard (b : Builtin) (job : Job) : Prop :=
  (∃ f job', b.perform.run.run job = (.error f, job')) ∧ (job.sink b.reportStream).refuses = true

theorem reportStream_of_not_isNotice (h : b.isNotice = false) : b.reportStream = .stderr := by
  cases b with
  | help => cases h
  | _ => rfl

/-- A notice is printed on the stream for reports. -/
theorem perform_of_isNotice (h : b.isNotice = true) :
    ∃ text status, b.perform = (do
      Deed.print b.reportStream (text ++ "\n")
      pure status) := by
  cases b with
  | help text => exact ⟨_, _, rfl⟩
  | refuse message => exact ⟨_, _, rfl⟩
  | _ => cases h

/-- A notice fails when it cannot be printed. -/
theorem perform_error_of_isNotice {f : Failure} (h : b.isNotice = true)
    (hperform : b.perform.run.run job = (.error f, job')) :
    (∃ e, f = .stream (.os e)) ∧ (job.sink b.reportStream).refuses = true := by
  obtain ⟨text, status, heq⟩ := perform_of_isNotice h
  rw [heq, run_bind] at hperform
  cases hr : (job.sink b.reportStream).refuses with
  | true =>
    obtain ⟨e, he⟩ := Deed.print_of_refuses text hr
    rw [he] at hperform
    exact ⟨⟨e, (Except.error.inj (Prod.mk.inj hperform).1).symm⟩, rfl⟩
  | false =>
    obtain ⟨world, hw⟩ := Deed.print_of_takes (text ++ "\n") hr
    rw [hw] at hperform
    cases (Prod.mk.inj hperform).1

/-- Any other failure is reported. -/
theorem run_of_perform_error {f : Failure} (h : b.isNotice = false)
    (hperform : b.perform.run.run job = (.error f, job')) :
    b.run.run.run job = (do
      Deed.print .stderr (f.message ++ "\n")
      pure 1 : Deed Int).run.run job' := by
  rw [run, h]
  simp only [Bool.false_eq_true, if_false]
  rw [run_tryCatch, hperform]

/-- A command that does not fail has nothing to report. -/
theorem run_of_perform_ok {status : Int} (hperform : b.perform.run.run job = (.ok status, job')) :
    b.run.run.run job = (.ok status, job') := by
  rw [run]
  split
  · exact hperform
  · rw [run_tryCatch, hperform]

/-- **A built-in command fails only over its report**: the stream for it refuses it. -/
theorem run_error {f : Failure} (h : b.run.run.run job = (.error f, job')) :
    (∃ e, f = .stream (.os e)) ∧ b.Unheard job := by
  rcases hperform : b.perform.run.run job with ⟨g | status, after⟩
  · cases hnotice : b.isNotice with
    | true =>
      rw [run, if_pos hnotice] at h
      obtain ⟨he, hrefuses⟩ := perform_error_of_isNotice hnotice h
      exact ⟨he, ⟨f, job', h⟩, hrefuses⟩
    | false =>
      have hafter : (after.sink .stderr).refuses = (job.sink .stderr).refuses := by
        have hreaches := reaches_perform b job
        rw [hperform] at hreaches
        exact hreaches.refuses .stderr
      rw [run_of_perform_error hnotice hperform, run_bind] at h
      cases hr : (after.sink .stderr).refuses with
      | true =>
        obtain ⟨e, he⟩ := Deed.print_of_refuses g.message hr
        rw [he] at h
        refine ⟨⟨e, (Except.error.inj (Prod.mk.inj h).1).symm⟩, ⟨g, after, hperform⟩, ?_⟩
        rw [reportStream_of_not_isNotice hnotice, ← hafter, hr]
      | false =>
        obtain ⟨world, hw⟩ := Deed.print_of_takes (g.message ++ "\n") hr
        rw [hw] at h
        cases (Prod.mk.inj h).1
  · rw [run_of_perform_ok hperform] at h
    cases (Prod.mk.inj h).1

/-- **When a built-in command fails.** -/
theorem run_error_iff : (∃ f job', b.run.run.run job = (.error f, job')) ↔ b.Unheard job := by
  constructor
  · rintro ⟨f, job', h⟩
    exact (run_error h).2
  · rintro ⟨⟨f, after, hperform⟩, hrefuses⟩
    cases hnotice : b.isNotice with
    | true => exact ⟨f, after, by rw [run, if_pos hnotice, hperform]⟩
    | false =>
      have hreaches := reaches_perform b job
      rw [hperform] at hreaches
      rw [reportStream_of_not_isNotice hnotice, ← hreaches.refuses .stderr] at hrefuses
      obtain ⟨e, he⟩ := Deed.print_of_refuses f.message hrefuses
      exact ⟨_, _, by rw [run_of_perform_error hnotice hperform, run_bind, he]⟩

end Builtin
end CommandShell
