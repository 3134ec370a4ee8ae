/-
# What a command puts out

A command that prints on its output, and does nothing else, puts bytes out (`Builtin.Outputs`): a
buffer collects them, and a channel delivers them where it leads.  Two such commands, one after the
other, put out the bytes of both.  A text that is printed is put out (`outputs_print`), and so are
the rows of a history listing, in their order (`outputs_printEntries`).
-/
import CommandShell.Proofs.Delivering

namespace CommandShell.Builtin

open Deed

variable {job job' job'' : Job} {bytes more : Bytes}

/-! ## 1. Output -/

/-- Some bytes are the output of a job, and nothing else is done: they are what its changes write,
a buffer collects them, and a channel delivers them where it leads. -/
structure Outputs (job : Job) (bytes : Bytes) (job' : Job) : Prop where
  env : job'.session.env = job.session.env
  stderr : job'.stderr = job.stderr
  writes : Writes job bytes job'
  buffered : ∀ collected, job.stdout = .buffer collected → job'.session.world = job.session.world
  connected : ∀ c o, job.stdout = .channel c → job.session.world.Connects c o →
    job.session.world.Gets job'.session.world [⟨o, .append, bytes⟩] ∧
      job'.session.world.Connects c o

namespace Outputs

theorem refl (job : Job) : Outputs job [] job where
  env := rfl
  stderr := rfl
  writes := .refl
  buffered _ _ := rfl
  connected _ _ _ hconnects := ⟨hconnects.nothing, hconnects⟩

theorem trans (h : Outputs job bytes job') (h' : Outputs job' more job'') :
    Outputs job (bytes ++ more) job'' where
  env := h'.env.trans h.env
  stderr := h'.stderr.trans h.stderr
  writes := h.writes.trans h'.writes
  buffered collected hsink := by
    have hsink' : job'.stdout = .buffer (collected ++ bytes) := by rw [h.writes.stdout, hsink]; rfl
    exact (h'.buffered _ hsink').trans (h.buffered collected hsink)
  connected c o hsink hconnects := by
    have hsink' : job'.stdout = .channel c := by rw [h.writes.stdout, hsink]; rfl
    obtain ⟨hgets, hconnects'⟩ := h.connected c o hsink hconnects
    obtain ⟨hgets', hconnects''⟩ := h'.connected c o hsink' hconnects'
    exact ⟨(hgets.trans hgets').joined, hconnects''⟩

theorem of_write {sink : Sink} {world : World}
    (hw : Sink.write job.session.world job.stdout bytes = .ok (sink, world)) :
    Outputs job bytes (job.wrote .stdout sink world) where
  env := rfl
  stderr := rfl
  writes := Writes.refl.tail (@Change.printed job .stdout _ _ _ hw)
  buffered collected hsink := by
    rw [hsink] at hw
    cases hw
    rfl
  connected c o hsink hconnects := by
    obtain ⟨w, htaken, hgets, hconnects'⟩ := hconnects.write bytes
    have hwrite : Sink.write job.session.world job.stdout bytes = .ok (.channel c, w) := by
      simp only [hsink, Sink.write, htaken]
    obtain ⟨-, rfl⟩ := Prod.mk.inj (Except.ok.inj (hw.symm.trans hwrite))
    exact ⟨hgets, hconnects'⟩

theorem refuses (h : Outputs job bytes job') : job'.stdout.refuses = job.stdout.refuses := by
  rw [h.writes.stdout, Sink.refuses_plus]

end Outputs

/-- **A text that is printed is put out,** on an output that takes bytes. -/
theorem outputs_print (text : String) (hout : job.stdout.refuses = false) :
    ∃ job', (print .stdout text).run.run job = (.ok ⟨⟩, job') ∧
      Outputs job (Text.encode text) job' := by
  obtain ⟨world, hw⟩ := Sink.write_of_takes job.session.world (Text.encode text) hout
  exact ⟨_, by rw [run_print, Job.sink, hw], .of_write hw⟩

/-! ## 2. Entries of the history -/

/-- The lines in which entries are listed. -/
def listing (entries : List (Nat × String)) : String :=
  String.join (entries.map fun (n, line) => entryNumber n ++ "  " ++ line ++ "\n")

theorem listing_cons (n : Nat) (line : String) (rest : List (Nat × String)) :
    listing ((n, line) :: rest) = entryNumber n ++ "  " ++ line ++ "\n" ++ listing rest := by
  simp [listing, String.join_cons]

/-- **Entries are put out in their order,** on an output that takes bytes. -/
theorem outputs_printEntries (entries : List (Nat × String)) : ∀ {job : Job},
    job.stdout.refuses = false → ∃ job', (printEntries entries).run.run job = (.ok ⟨⟩, job') ∧
      Outputs job (Text.encode (listing entries)) job' := by
  induction entries with
  | nil => exact fun {job} _ => ⟨job, rfl, .refl job⟩
  | cons entry rest ih =>
    intro job hout
    obtain ⟨n, line⟩ := entry
    obtain ⟨job₁, hprint, hfirst⟩ := outputs_print (entryNumber n ++ "  " ++ line ++ "\n") hout
    obtain ⟨job', hrun, hrest⟩ := ih (hfirst.refuses.trans hout)
    refine ⟨job', ?_, ?_⟩
    · rw [printEntries, run_bind, hprint]
      exact hrun
    · rw [listing_cons, Text.encode_append]
      exact hfirst.trans hrest

end CommandShell.Builtin
