/-
# Built-in commands in sessions that are alike

Two jobs are alike when their sessions are and each stream goes to the same place (`Job.Alike`): to
the same channel, to a buffer with the same content, or to the same file, which may be open under
another number.  A command whose operands rest on files that are the same in both sessions
(`Builtin.Uses`) does the same in both jobs, and leaves them alike (`twins_alike`).
-/
import CommandShell.Proofs.Likeness

namespace CommandShell

variable {used : Location → Prop}

/-! ## 1. Streams -/

/-- The same file, open at the same place.  One that is appended to is always written at its end. -/
structure OpenFile.Alike (f f' : OpenFile) : Prop where
  location : f'.location = f.location
  append : f'.append = f.append
  position : f.append = false → f'.position = f.position

/-- The same channel, or one to the same file. -/
inductive Channel.Alike (w w' : World) : Channel → Channel → Prop
  | same {c : Channel} (hend : c.pipe? = none) (hfile : ∀ n, c ≠ .file n) : Alike w w' c c
  | file {n n' : Nat} {f f' : OpenFile} (hopen : w.openFiles[n]? = some f)
      (hopen' : w'.openFiles[n']? = some f') (halike : f.Alike f') :
      Alike w w' (.file n) (.file n')

/-- A channel to the same place, or a buffer with the same content. -/
inductive Sink.Alike (w w' : World) : Sink → Sink → Prop
  | buffer (collected : Bytes) : Alike w w' (.buffer collected) (.buffer collected)
  | channel {c c' : Channel} (h : c.Alike w w' c') : Alike w w' (.channel c) (.channel c')

/-- The number of the open file that a sink writes to. -/
def Sink.file? : Sink → Option Nat
  | .channel (.file n) => some n
  | _ => none

@[simp] theorem Sink.file?_plus (sink : Sink) (bytes : Bytes) :
    (sink.plus bytes).file? = sink.file? := by
  cases sink <;> rfl

theorem Sink.Alike.collected_eq {w w' : World} {sink sink' : Sink} (h : sink.Alike w w' sink') :
    sink'.collected = sink.collected := by
  cases h <;> rfl

theorem Sink.Alike.later {w w' w₁ w₁' : World} {sink sink' : Sink} (h : sink.Alike w w' sink')
    (hopen : ∀ n, sink.file? = some n → w₁.openFiles[n]? = w.openFiles[n]?)
    (hopen' : ∀ n, sink'.file? = some n → w₁'.openFiles[n]? = w'.openFiles[n]?) :
    sink.Alike w₁ w₁' sink' := by
  cases h with
  | buffer collected => exact .buffer collected
  | channel hc =>
    cases hc with
    | same hend hfile => exact .channel (.same hend hfile)
    | file hf hf' halike =>
      exact .channel (.file ((hopen _ rfl).trans hf) ((hopen' _ rfl).trans hf') halike)

/-- Both streams go to different open files, if they go to any. -/
def Job.IsApart (job : Job) : Prop :=
  ∀ n, job.stdout.file? = some n → job.stderr.file? ≠ some n

/-- Two jobs whose sessions are alike, and whose streams go to the same places. -/
structure Job.Alike (used : Location → Prop) (job job' : Job) : Prop where
  session : job.session.Alike used job'.session
  sink : ∀ stream, (job.sink stream).Alike job.session.world job'.session.world (job'.sink stream)
  apart : job.IsApart
  apart' : job'.IsApart

theorem Job.Alike.within {j j' : Job} {s s' : Session} (h : j.Alike used j')
    (hs : s.Alike used s')
    (hopen : s.world.openFiles = j.session.world.openFiles)
    (hopen' : s'.world.openFiles = j'.session.world.openFiles) :
    (j.within s).Alike used (j'.within s') where
  session := hs
  sink stream := by
    have hsink : (j.sink stream).Alike s.world s'.world (j'.sink stream) :=
      (h.sink stream).later (fun n _ => by rw [hopen]) fun n _ => by rw [hopen']
    cases stream <;> exact hsink
  apart := h.apart
  apart' := h.apart'

theorem Job.IsApart.of_none {job : Job} (h : job.stdout.file? = none) : job.IsApart :=
  fun n hn => by simp [h] at hn

/-! ## 2. Printing -/

theorem Job.IsApart.ne {job : Job} (h : job.IsApart) {stream other : Stream} (hne : stream ≠ other)
    {n : Nat} (hn : (job.sink stream).file? = some n) : (job.sink other).file? ≠ some n := by
  cases stream with
  | stdout =>
    cases other with
    | stdout => exact absurd rfl hne
    | stderr => exact h n hn
  | stderr =>
    cases other with
    | stdout => exact fun hout => h n hout hn
    | stderr => exact absurd rfl hne

theorem Job.IsApart.wrote {job : Job} (h : job.IsApart) (stream : Stream) {sink : Sink} (w : World)
    (hsink : sink.file? = (job.sink stream).file?) : (job.wrote stream sink w).IsApart := by
  intro n hout herr
  cases stream with
  | stdout => exact h n (hsink ▸ hout) herr
  | stderr => exact h n hout (hsink ▸ herr)

/-- What has come of writing to two sinks that are alike. -/
structure Sink.WroteAlike (used : Location → Prop) (w w' : World) (sink sink' : Sink)
    (out out' : Sink × World) : Prop where
  world : out.2.Alike used out'.2
  sinks : out.1.Alike out.2 out'.2 out'.1
  /-- Other files stay open as they were. -/
  others : ∀ n, sink.file? ≠ some n → out.2.openFiles[n]? = w.openFiles[n]?
  others' : ∀ n, sink'.file? ≠ some n → out'.2.openFiles[n]? = w'.openFiles[n]?

/-- **Writing leaves sinks alike.** -/
theorem Sink.matches_alike {w w' : World} {sink sink' : Sink} (hworld : w.Alike used w')
    (h : sink.Alike w w' sink') (bytes : Bytes) :
    Matches (Sink.WroteAlike used w w' sink sink') (sink.write w bytes) (sink'.write w' bytes) := by
  cases h with
  | buffer collected => exact .ok ⟨hworld, .buffer _, fun _ _ => rfl, fun _ _ => rfl⟩
  | @channel c c' hc =>
    have hsame : ∀ {c : Channel} {w₁ w₁' : World}, c.pipe? = none → (∀ n, c ≠ .file n) →
        w₁.Alike used w₁' → w₁.openFiles = w.openFiles → w₁'.openFiles = w'.openFiles →
        Matches (Sink.WroteAlike used w w' (.channel c) (.channel c))
          (.ok (.channel c, w₁)) (.ok (.channel c, w₁')) :=
      fun hend hfile hw hopen hopen' => .ok ⟨hw, .channel (.same hend hfile),
        fun n _ => by rw [hopen], fun n _ => by rw [hopen']⟩
    cases hc with
    | same hend hfile =>
      cases c with
      | terminalOutput | terminalError =>
        exact hsame hend hfile ⟨hworld.directory, hworld.files⟩ rfl rfl
      | device d =>
        cases d with
        | full =>
          by_cases hbytes : bytes = []
          · simp only [write, World.write, if_pos hbytes]
            exact hsame hend hfile hworld rfl rfl
          · simp only [write, World.write, if_neg hbytes]
            exact .error _
        | null | zero | own => exact hsame hend hfile hworld rfl rfl
      | terminalInput => exact .error _
      | file n => exact absurd rfl (hfile n)
      | pipeReader n | pipeWriter n => cases hend
    | @file n n' f f' hopen hopen' halike =>
      simp only [write, World.write, World.writeFile, hopen, hopen']
      refine .ok ⟨⟨hworld.directory, ?_⟩, ?_, fun k hk => ?_, fun k hk => ?_⟩
      · rw [halike.location]
        refine hworld.files.setContent fun hused => ?_
        rw [hworld.files.content_eq hused, halike.append]
        cases happend : f.append with
        | true => rfl
        | false => simp [halike.position happend]
      · refine .channel (.file (Std.ExtTreeMap.getElem?_insert_self ..)
          (Std.ExtTreeMap.getElem?_insert_self ..)
          ⟨halike.location, halike.append, fun happend => ?_⟩)
        have happend' : f.append = false := happend
        simp [halike.append, happend', halike.position happend']
      · have hne : n ≠ k := fun heq => hk (congrArg some heq)
        simp [Std.ExtTreeMap.getElem?_insert, hne]
      · have hne : n' ≠ k := fun heq => hk (congrArg some heq)
        simp [Std.ExtTreeMap.getElem?_insert, hne]

namespace Builtin

variable {b : Builtin} {j j' : Job} {s s' : Session}

/-- **Printing leaves two jobs alike.** -/
theorem matches_alike (h : j.Alike used j') (stream : Stream) (bytes : Bytes) :
    Matches (fun out out' =>
        (j.wrote stream out.1 out.2).Alike used (j'.wrote stream out'.1 out'.2))
      (Sink.write j.session.world (j.sink stream) bytes)
      (Sink.write j'.session.world (j'.sink stream) bytes) := by
  have hwritten := Sink.matches_alike h.session.world (h.sink stream) bytes
  generalize hw : Sink.write j.session.world (j.sink stream) bytes = r at hwritten ⊢
  generalize hw' : Sink.write j'.session.world (j'.sink stream) bytes = r' at hwritten ⊢
  cases hwritten with
  | error f => exact .error f
  | @ok out out' hwrote =>
    refine .ok ⟨?_, fun other => ?_, h.apart.wrote stream _ ?_, h.apart'.wrote stream _ ?_⟩
    · rw [Job.session_wrote, Job.session_wrote]
      exact h.session.later (World.keeps_of_sinkWrite hw) (World.keeps_of_sinkWrite hw')
        hwrote.world
    · rw [Job.session_wrote, Job.session_wrote, Job.sink_wrote, Job.sink_wrote]
      by_cases heq : stream = other
      · rw [if_pos heq, if_pos heq]
        exact hwrote.sinks
      · rw [if_neg heq, if_neg heq]
        exact (h.sink other).later
          (fun n hn => hwrote.others n (h.apart.ne (Ne.symm heq) hn))
          fun n hn => hwrote.others' n (h.apart'.ne (Ne.symm heq) hn)
    · rw [Sink.eq_of_write hw, Sink.file?_plus]
    · rw [Sink.eq_of_write hw', Sink.file?_plus]

/-! ## 3. Commands -/

/-- What a built-in command asks about the files that its operands name rests on some files: where a
history is written, and what is read into it. -/
def UsesOnly (used : Location → Prop) (s : Session) : Builtin → Prop
  | .history request =>
    (∀ path, request.write = some path ∨ request.append = some path →
      s.world.files.RestsOn used (·.locateForCreation s.world.directory
        (Path.join s.env.directory path))) ∧
    ∀ path, request.read = some path →
      s.world.files.RestsOn used (·.readText s.world.directory (Path.join s.env.directory path))
  | _ => True

/-- That stays so as long as the shell stays where it is. -/
theorem UsesOnly.keeps (h : b.UsesOnly used s) (hdirectory : s'.env.directory = s.env.directory)
    (hkeeps : s.world.Keeps s'.world) : b.UsesOnly used s' := by
  cases b with
  | history request =>
    simp only [UsesOnly, hdirectory, hkeeps.directory] at h ⊢
    exact ⟨fun path hpath => (h.1 path hpath).later hkeeps.files,
      fun path hpath => (h.2 path hpath).later hkeeps.files⟩
  | _ => trivial

/-- **A built-in command takes no notice of what is not alike.** -/
theorem twins_alike (used : Location → Prop) (b : Builtin) :
    b.Twins fun j j' => j.Alike used j' ∧ b.UsesOnly used j.session where
  directory h := h.1.session.directory
  home h := h.1.session.value? "HOME"
  entries h := congrArg History.session h.1.session.history
  print h stream bytes := by
    obtain ⟨halike, huses⟩ := h
    have hwritten := matches_alike halike stream bytes
    generalize hw : Sink.write _ _ bytes = r at hwritten ⊢
    generalize Sink.write _ _ bytes = r' at hwritten ⊢
    cases hwritten with
    | error f => exact .error f
    | ok hrelated =>
      refine .ok ⟨hrelated, ?_⟩
      rw [Job.session_wrote]
      exact huses.keeps rfl (World.keeps_of_sinkWrite hw)
  resolve h name := by
    obtain ⟨hfound, hs⟩ := h.1.session.resolve name
    exact ⟨hfound, h.1.within hs rfl rfl, h.2.keeps rfl (.refl _)⟩
  enter hb _ _ h target := by
    subst hb
    rw [destination_of_alike h.1.session]
    rcases destination _ target with f | loc
    · exact .error f
    · exact .ok ⟨h.1.within (h.1.session.enter loc) rfl rfl, trivial⟩
  exit h status := ⟨h.1.within (h.1.session.onEnv (f := (·.requestExit status)) (fun _ => rfl)
    (fun _ => rfl) fun _ => rfl) rfl rfl, h.2.keeps rfl (.refl _)⟩
  write {_ path} hb hwrite j j' h := by
    subst hb
    obtain ⟨halike, huses⟩ := h
    have hfiles := halike.session.world.files
    have hwritten := History.matches_writeTo hfiles j.session.env.history
      ((huses.1 path (.inl hwrite)).eq hfiles.shape hfiles.agree)
    rw [halike.session.history, halike.session.directory, halike.session.world.directory]
    generalize j.session.env.history.writeTo _ _ _ = r at hwritten ⊢
    generalize j.session.env.history.writeTo _ _ _ = r' at hwritten ⊢
    cases hwritten with
    | error f => exact .error f
    | ok hstays =>
      exact .ok ⟨halike.within (halike.session.onFiles hstays) rfl rfl,
        huses.keeps rfl ⟨rfl, hstays.shape⟩⟩
  read {_ path} hb hread j j' h := by
    subst hb
    obtain ⟨halike, huses⟩ := h
    have hfiles := halike.session.world.files
    rw [halike.session.history, halike.session.directory, halike.session.world.directory,
      History.readFrom_congr _ ((huses.2 path hread).eq hfiles.shape hfiles.agree)]
    rcases j.session.env.history.readFrom _ _ _ with f | history
    · exact .error f
    · exact .ok ⟨halike.within (halike.session.onHistory history) rfl rfl,
        huses.keeps rfl (.refl _)⟩
  append {_ path} hb happend j j' h history history' written written' ha ha' := by
    subst hb
    obtain ⟨halike, huses⟩ := h
    have hfiles := halike.session.world.files
    obtain ⟨hhistory, hwritten⟩ := History.matches_appendNewTo hfiles j.session.env.history
      ((huses.1 path (.inr happend)).eq hfiles.shape hfiles.agree)
    rw [halike.session.history, halike.session.directory, halike.session.world.directory] at ha'
    rw [ha, ha'] at hhistory hwritten
    obtain rfl : history' = history := hhistory
    cases hwritten with
    | error f => exact .error f
    | ok hstays =>
      exact .ok ⟨halike.within ((halike.session.onFiles hstays).onHistory history') rfl rfl,
        huses.keeps rfl ⟨rfl, hstays.shape⟩⟩

end Builtin
end CommandShell
