/-
# A built-in command in two sessions

Two sessions may differ in much that a built-in command takes no notice of.  `Builtin.Twins` says
which questions a command asks of its session and its streams: if two jobs answer them alike, and
what it does keeps them alike, then the command does the same in both (`Twins.run`).  It has the
same result, and says the same on both streams, in the same order (`Builtin.Says`).

Where that goes is another matter: a stream is a channel in one job and a buffer in the other.  What
a command says on a stream comes to its sink (`Says.sink`), and to the terminal if the sink is a
channel to it (`Says.terminal`).
-/
import CommandShell.Proofs.Printing

namespace CommandShell

/-! ## 1. What a command says -/

/-- The bytes that come to a sink, if this is a channel. -/
def Sink.bytesFor (c : Channel) (sink : Sink) (bytes : Bytes) : Bytes :=
  if sink = .channel c then bytes else []

@[simp] theorem Sink.bytesFor_nil (c : Channel) (sink : Sink) : sink.bytesFor c [] = [] := by
  rw [bytesFor]
  split <;> rfl

theorem Sink.bytesFor_append (c : Channel) (sink : Sink) (bytes more : Bytes) :
    sink.bytesFor c (bytes ++ more) = sink.bytesFor c bytes ++ sink.bytesFor c more := by
  simp only [bytesFor]
  split <;> rfl

/-- What the machine takes comes to the terminal if it goes to a channel to it. -/
theorem World.terminal_of_write {w w' : World} {c : Channel} {bytes rest : Bytes}
    (h : w.write c bytes = .taken w' rest) : w'.terminal = { w.terminal with
      output := w.terminal.output ++ (Sink.channel c).bytesFor .terminalOutput bytes
      errors := w.terminal.errors ++ (Sink.channel c).bytesFor .terminalError bytes } := by
  cases c with
  | terminalOutput | terminalError =>
    obtain ⟨rfl, -⟩ := Written.taken.inj h
    simp [Sink.bytesFor]
  | device d =>
    have hsame : w' = w := by
      cases d with
      | full =>
        simp only [write] at h
        split at h
        · exact (Written.taken.inj h).1.symm
        · cases h
      | _ => exact (Written.taken.inj h).1.symm
    simp [Sink.bytesFor, hsame]
  | file number =>
    obtain ⟨rfl, -⟩ := Written.taken.inj h
    simp only [writeFile]
    split <;> simp [Sink.bytesFor]
  | pipeWriter pipe =>
    have hsame : w'.terminal = w.terminal := by
      simp only [write] at h
      repeat' split at h
      all_goals cases h
      all_goals rfl
    simp [Sink.bytesFor, hsame]
  | terminalInput | pipeReader => cases h

/-- Only a pipe does not take what is written to it without refusing it. -/
theorem World.exists_pipe_of_write {w : World} {c : Channel} {bytes : Bytes}
    (h : w.write c bytes = .blocked ∨ w.write c bytes = .broken) : ∃ n, c = .pipeWriter n := by
  cases c with
  | pipeWriter n => exact ⟨n, rfl⟩
  | device d =>
    cases d with
    | full =>
      simp only [write] at h
      split at h <;> rcases h with h | h <;> cases h
    | _ => rcases h with h | h <;> cases h
  | _ => rcases h with h | h <;> cases h

/-- What is written to a sink comes to the terminal if the sink is a channel to it. -/
theorem Sink.terminal_of_write {w w' : World} {sink sink' : Sink} {bytes : Bytes}
    (h : sink.write w bytes = .ok (sink', w')) :
    w'.terminal = { w.terminal with
      output := w.terminal.output ++ sink.bytesFor .terminalOutput bytes
      errors := w.terminal.errors ++ sink.bytesFor .terminalError bytes } := by
  cases sink with
  | buffer collected =>
    obtain ⟨-, rfl⟩ := Prod.mk.inj (Except.ok.inj h)
    simp [bytesFor]
  | channel c =>
    simp only [write] at h
    split at h
    next world rest hw =>
      obtain ⟨-, rfl⟩ := Prod.mk.inj (Except.ok.inj h)
      exact World.terminal_of_write hw
    next => cases h
    next hw =>
      obtain ⟨-, rfl⟩ := Prod.mk.inj (Except.ok.inj h)
      obtain ⟨n, rfl⟩ := World.exists_pipe_of_write (.inl hw)
      simp [bytesFor]
    next hw =>
      obtain ⟨-, rfl⟩ := Prod.mk.inj (Except.ok.inj h)
      obtain ⟨n, rfl⟩ := World.exists_pipe_of_write (.inr hw)
      simp [bytesFor]

@[simp] theorem Job.session_wrote (job : Job) (stream : Stream) (sink : Sink) (world : World) :
    (job.wrote stream sink world).session = { job.session with world } := by
  cases stream <;> rfl

theorem Job.sink_wrote (job : Job) (stream other : Stream) (sink : Sink) (world : World) :
    (job.wrote stream sink world).sink other = if stream = other then sink else job.sink other := by
  cases stream <;> cases other <;> rfl

namespace Builtin

/-- What a command says while it is at work, on which stream and in which order.  What it does
besides touches neither the terminal nor open files. -/
inductive Says (job : Job) : List (Stream × Bytes) → Job → Prop
  | refl : Says job [] job
  | printed {said : List (Stream × Bytes)} {stream : Stream} {bytes : Bytes} {job' : Job}
      {sink : Sink} {world : World} (h : Says job said job')
      (hw : Sink.write job'.session.world (job'.sink stream) bytes = .ok (sink, world)) :
      Says job (said ++ [(stream, bytes)]) (job'.wrote stream sink world)
  | silent {said : List (Stream × Bytes)} {job' : Job} {s : Session} (h : Says job said job')
      (hterminal : s.world.terminal = job'.session.world.terminal)
      (hopen : s.world.openFiles = job'.session.world.openFiles) :
      Says job said { job' with session := s }

def saidOn (stream : Stream) (said : List (Stream × Bytes)) : Bytes :=
  said.flatMap fun entry => if entry.1 = stream then entry.2 else []

/-- What comes to a channel of what is said. -/
def saidTo (c : Channel) (job : Job) (said : List (Stream × Bytes)) : Bytes :=
  said.flatMap fun entry => (job.sink entry.1).bytesFor c entry.2

namespace Says

variable {job job' job'' : Job} {said more : List (Stream × Bytes)}

theorem trans (h : Says job said job') (h' : Says job' more job'') :
    Says job (said ++ more) job'' := by
  induction h' with
  | refl => rwa [List.append_nil]
  | printed _ hw ih =>
    rw [← List.append_assoc]
    exact ih.printed hw
  | silent _ hterminal hopen ih => exact ih.silent hterminal hopen

/-- **What is said on a stream comes to its sink.** -/
theorem sink (h : Says job said job') (stream : Stream) :
    job'.sink stream = (job.sink stream).plus (saidOn stream said) := by
  induction h with
  | refl => exact (Sink.plus_nil _).symm
  | @printed said other bytes job' sink world _ hw ih =>
    rw [Job.sink_wrote, Sink.eq_of_write hw]
    by_cases heq : other = stream
    · subst heq
      rw [if_pos rfl, ih, Sink.plus_plus]
      simp [saidOn]
    · rw [if_neg heq, ih]
      simp [saidOn, heq]
  | @silent said job' s _ _ _ ih =>
    rw [← ih]
    cases stream <;> rfl

/-- **What is said on a channel to the terminal comes there.** -/
theorem terminal (h : Says job said job') : job'.session.world.terminal =
    { job.session.world.terminal with
      output := job.session.world.terminal.output ++ saidTo .terminalOutput job said
      errors := job.session.world.terminal.errors ++ saidTo .terminalError job said } := by
  induction h with
  | refl => simp [saidTo]
  | @printed said stream bytes job' sink world h hw ih =>
    have hsink : ∀ c, (job'.sink stream).bytesFor c bytes = (job.sink stream).bytesFor c bytes := by
      intro c
      rw [h.sink stream]
      cases job.sink stream <;> rfl
    rw [Job.session_wrote]
    simp only [Sink.terminal_of_write hw, ih, hsink]
    simp [saidTo]
  | silent _ hterminal _ ih => exact hterminal.trans ih

end Says

end Builtin

/-! ## 2. Two jobs -/

/-- Two attempts that both fail for the same reason, or both succeed. -/
inductive Matches {α β : Type} (P : α → β → Prop) : Except Failure α → Except Failure β → Prop
  | error (f : Failure) : Matches P (.error f) (.error f)
  | ok {a : α} {b : β} (h : P a b) : Matches P (.ok a) (.ok b)

/-- A job with something else in place of its session. -/
def Job.within (job : Job) (s : Session) : Job := { job with session := s }

namespace Builtin

open Deed

/-- Two jobs that are related answer all questions of a command alike, and stay related in what it
does. -/
structure Twins (R : Job → Job → Prop) (b : Builtin) : Prop where
  directory : ∀ {j j'}, R j j' → j'.session.env.directory = j.session.env.directory
  home : ∀ {j j'}, R j j' → j'.session.env.value? "HOME" = j.session.env.value? "HOME"
  entries : ∀ {j j'}, R j j' →
    j'.session.env.history.session = j.session.env.history.session
  print : ∀ {j j'}, R j j' → ∀ stream bytes,
    Matches (fun out out' => R (j.wrote stream out.1 out.2) (j'.wrote stream out'.1 out'.2))
      (Sink.write j.session.world (j.sink stream) bytes)
      (Sink.write j'.session.world (j'.sink stream) bytes)
  resolve : ∀ {j j'}, R j j' → ∀ name, (j'.session.resolve name).1 = (j.session.resolve name).1 ∧
    R (j.within (j.session.resolve name).2) (j'.within (j'.session.resolve name).2)
  enter : ∀ {operand}, b = .cd operand → ∀ {j j'}, R j j' → ∀ target,
    Matches (fun loc loc' => R (j.within (Builtin.enter j.session loc))
        (j'.within (Builtin.enter j'.session loc')))
      (destination j.session target) (destination j'.session target)
  exit : ∀ {j j'}, R j j' → ∀ status,
    R (j.within { j.session with env := j.session.env.requestExit status })
      (j'.within { j'.session with env := j'.session.env.requestExit status })
  write : ∀ {request path}, b = .history request → request.write = some path → ∀ {j j'}, R j j' →
    Matches (fun files files' =>
        R (j.within { j.session with world := { j.session.world with files } })
          (j'.within { j'.session with world := { j'.session.world with files := files' } }))
      (j.session.env.history.writeTo j.session.world.files j.session.world.directory
        (Path.join j.session.env.directory path))
      (j'.session.env.history.writeTo j'.session.world.files j'.session.world.directory
        (Path.join j'.session.env.directory path))
  read : ∀ {request path}, b = .history request → request.read = some path → ∀ {j j'}, R j j' →
    Matches (fun history history' =>
        R (j.within { j.session with env := { j.session.env with history } })
          (j'.within { j'.session with env := { j'.session.env with history := history' } }))
      (j.session.env.history.readFrom j.session.world.files j.session.world.directory
        (Path.join j.session.env.directory path))
      (j'.session.env.history.readFrom j'.session.world.files j'.session.world.directory
        (Path.join j'.session.env.directory path))
  append : ∀ {request path}, b = .history request → request.append = some path → ∀ {j j'},
    R j j' → ∀ {history history' written written'},
    j.session.env.history.appendNewTo j.session.world.files j.session.world.directory
      (Path.join j.session.env.directory path) = (history, written) →
    j'.session.env.history.appendNewTo j'.session.world.files j'.session.world.directory
      (Path.join j'.session.env.directory path) = (history', written') →
    Matches (fun files files' =>
        R (j.within ⟨{ j.session.env with history }, { j.session.world with files }⟩)
          (j'.within ⟨{ j'.session.env with history := history' },
            { j'.session.world with files := files' }⟩)) written written'

/-- What comes of two related jobs: the same result, the same is said, and they are related
still. -/
structure Together (R : Job → Job → Prop) (j j' : Job) {α : Type}
    (o o' : Except Failure α × Job) : Prop where
  result : o'.1 = o.1
  related : R o.2 o'.2
  said : ∃ said, Says j said o.2 ∧ Says j' said o'.2

section Together

variable {R : Job → Job → Prop} {b : Builtin} {j j' : Job} {α β : Type}

/-- Nothing is said, and nothing that is said comes to is touched. -/
theorem Together.of_silent {s s' : Session} (r : Except Failure α)
    (h : R (j.within s) (j'.within s'))
    (hs : s.world.terminal = j.session.world.terminal ∧
      s.world.openFiles = j.session.world.openFiles)
    (hs' : s'.world.terminal = j'.session.world.terminal ∧
      s'.world.openFiles = j'.session.world.openFiles) :
    Together R j j' (r, j.within s) (r, j'.within s') :=
  ⟨rfl, h, [], Says.refl.silent hs.1 hs.2, Says.refl.silent hs'.1 hs'.2⟩

theorem Together.of_related (r : Except Failure α) (h : R j j') :
    Together R j j' (r, j) (r, j') := ⟨rfl, h, [], .refl, .refl⟩

theorem Together.trans {i i' : Job} {r : Except Failure α} {o o' : Except Failure β × Job}
    (h : Together R j j' (r, i) (r, i')) (h' : R i i' → Together R i i' o o') :
    Together R j j' o o' := by
  obtain ⟨-, hrelated, said, hsaid, hsaid'⟩ := h
  obtain ⟨hresult, hrelated', more, hmore, hmore'⟩ := h' hrelated
  exact ⟨hresult, hrelated', said ++ more, hsaid.trans hmore, hsaid'.trans hmore'⟩

theorem Together.bind {m m' : Deed α} {f f' : α → Deed β}
    (hm : Together R j j' (m.run.run j) (m'.run.run j'))
    (hf : ∀ a i i', R i i' → Together R i i' ((f a).run.run i) ((f' a).run.run i')) :
    Together R j j' ((m >>= f).run.run j) ((m' >>= f').run.run j') := by
  rw [run_bind, run_bind]
  rcases hr : m.run.run j with ⟨r, i⟩
  rcases hr' : m'.run.run j' with ⟨r', i'⟩
  rw [hr, hr'] at hm
  obtain rfl : r' = r := hm.result
  cases r' with
  | error e => exact ⟨rfl, hm.related, hm.said⟩
  | ok a => exact hm.trans fun h => hf a i i' h

end Together

namespace Twins

variable {R : Job → Job → Prop} {b : Builtin} {j j' : Job}

/-! ## 3. What a command does in two jobs -/

theorem together_print (ht : Twins R b) (h : R j j') (stream : Stream) (text : String) :
    Together R j j' ((Deed.print stream text).run.run j)
      ((Deed.print stream text).run.run j') := by
  rw [run_print, run_print]
  have hprint := ht.print h stream (Text.encode text)
  generalize hw : Sink.write j.session.world (j.sink stream) (Text.encode text) = w at hprint ⊢
  generalize hw' : Sink.write j'.session.world (j'.sink stream) (Text.encode text) = w'
    at hprint ⊢
  cases hprint with
  | error f => exact .of_related _ h
  | ok hrelated =>
    exact ⟨rfl, hrelated, [] ++ [(stream, Text.encode text)], Says.refl.printed hw,
      Says.refl.printed hw'⟩

theorem together_notice (ht : Twins R b) (h : R j j') (stream : Stream) (text : String)
    (status : Int) :
    Together R j j' ((do Deed.print stream text; pure status : Deed Int).run.run j)
      ((do Deed.print stream text; pure status : Deed Int).run.run j') :=
  (ht.together_print h stream text).bind fun _ _ _ hi => .of_related _ hi

theorem together_performCd {target : Option String} (ht : Twins R (.cd target)) (h : R j j') :
    Together R j j' ((performCd target).run.run j) ((performCd target).run.run j') := by
  simp only [performCd, run_bind, Deed.run_env]
  rw [ht.home h]
  split
  next => exact .of_related _ h
  next text _ =>
    simp only [run_bind, run_get, Deed.run_orFail]
    have henter := ht.enter rfl h text
    generalize destination j.session text = d at henter ⊢
    generalize destination j'.session text = d' at henter ⊢
    cases henter with
    | error f => exact .of_related _ h
    | ok hrelated => exact .of_silent _ hrelated ⟨rfl, rfl⟩ ⟨rfl, rfl⟩

theorem describe_eq (ht : Twins R b) (h : R j j') (name : String) :
    (describe j'.session name).1 = (describe j.session name).1 ∧
      (describe j'.session name).2.1 = (describe j.session name).2.1 ∧
      R (j.within (describe j.session name).2.2) (j'.within (describe j'.session name).2.2) := by
  obtain ⟨hfound, hrelated⟩ := ht.resolve h name
  simp only [describe]
  split
  · exact ⟨rfl, rfl, h⟩
  · rcases hr : j.session.resolve name with ⟨found | found, s⟩ <;>
      rcases hr' : j'.session.resolve name with ⟨found' | found', s'⟩ <;>
      simp_all

/-- Describing a name touches no more than what is remembered. -/
theorem world_describe (s : Session) (name : String) : (describe s name).2.2.world = s.world := by
  simp only [describe]
  split
  · rfl
  · have hresolve : (s.resolve name).2.world = s.world := rfl
    rcases hr : s.resolve name with ⟨found | found, s'⟩ <;> simpa only [hr] using hresolve

theorem together_performType (ht : Twins R b) (names : List String) : ∀ (status : Int)
    {j j' : Job}, R j j' →
      Together R j j' ((performType names status).run.run j)
        ((performType names status).run.run j') := by
  induction names with
  | nil => exact fun status _ _ h => .of_related _ h
  | cons name rest ih =>
    intro status j j' h
    obtain ⟨htext, hknown, hrelated⟩ := ht.describe_eq h name
    have hdescribed : Together R j j' (.ok (), j.within (describe j.session name).2.2)
        (.ok (), j'.within (describe j'.session name).2.2) := by
      refine .of_silent _ hrelated ⟨?_, ?_⟩ ⟨?_, ?_⟩ <;> rw [world_describe]
    simp only [performType, run_bind, run_get, Deed.run_setSession, htext, hknown]
    refine hdescribed.trans fun hi => ?_
    have hrest := (ht.together_print hi .stdout (describe j.session name).1).bind
      fun _ _ _ => ih (if (describe j.session name).2.1 then status else 1)
    rwa [run_bind, run_bind] at hrest

theorem together_printEntries (ht : Twins R b) (entries : List (Nat × String)) : ∀ {j j' : Job},
    R j j' → Together R j j' ((printEntries entries).run.run j)
      ((printEntries entries).run.run j') := by
  induction entries with
  | nil => exact fun h => .of_related _ h
  | cons entry rest ih =>
    exact fun h => (ht.together_print h .stdout _).bind fun _ _ _ => ih

theorem together_performHistory {request : HistoryRequest} (ht : Twins R (.history request))
    (h : R j j') : Together R j j' ((performHistory request).run.run j)
      ((performHistory request).run.run j') := by
  simp only [performHistory, run_bind, Deed.run_env, Deed.run_world]
  split
  next path hwrite =>
    have hwritten := ht.write rfl hwrite h
    simp only [run_bind, Deed.run_orFail]
    generalize j.session.env.history.writeTo _ _ _ = w at hwritten ⊢
    generalize j'.session.env.history.writeTo _ _ _ = w' at hwritten ⊢
    cases hwritten with
    | error f => exact .of_related _ h
    | ok hrelated => exact .of_silent _ hrelated ⟨rfl, rfl⟩ ⟨rfl, rfl⟩
  next path _ hread =>
    have hgot := ht.read rfl hread h
    simp only [run_bind, Deed.run_orFail]
    generalize j.session.env.history.readFrom _ _ _ = w at hgot ⊢
    generalize j'.session.env.history.readFrom _ _ _ = w' at hgot ⊢
    cases hgot with
    | error f => exact .of_related _ h
    | ok hrelated => exact .of_silent _ hrelated ⟨rfl, rfl⟩ ⟨rfl, rfl⟩
  next path _ _ happend =>
    simp only [run_bind, Deed.run_setEnv, Deed.run_orFail]
    rcases ha : j.session.env.history.appendNewTo j.session.world.files j.session.world.directory
      (Path.join j.session.env.directory path) with ⟨history, written⟩
    rcases ha' : j'.session.env.history.appendNewTo j'.session.world.files
      j'.session.world.directory (Path.join j'.session.env.directory path) with
      ⟨history', written'⟩
    have happended := ht.append rfl happend h ha ha'
    cases happended with
    | error f =>
      obtain rfl := appendNewTo_error ha
      obtain rfl := appendNewTo_error ha'
      exact .of_related _ h
    | ok hrelated => exact .of_silent _ hrelated ⟨rfl, rfl⟩ ⟨rfl, rfl⟩
  next =>
    rw [ht.entries h]
    exact (ht.together_printEntries _ h).bind fun _ _ _ hi => .of_related _ hi

theorem together_perform (ht : Twins R b) (h : R j j') :
    Together R j j' (b.perform.run.run j) (b.perform.run.run j') := by
  cases b with
  | cd target => exact ht.together_performCd h
  | echo words => exact ht.together_notice h .stdout _ 0
  | exit status => exact .of_silent _ (ht.exit h status) ⟨rfl, rfl⟩ ⟨rfl, rfl⟩
  | history request => exact ht.together_performHistory h
  | pwd =>
    simp only [perform, run_bind, Deed.run_env]
    rw [ht.directory h]
    have hprinted := ht.together_notice h .stdout (j.session.env.directory ++ "\n") 0
    rwa [run_bind, run_bind] at hprinted
  | type names =>
    rw [perform]
    split
    · exact ht.together_notice h .stderr _ 1
    · exact ht.together_performType names 0 h
  | help text => exact ht.together_notice h .stdout _ 0
  | refuse message => exact ht.together_notice h .stderr _ 1

/-- **A built-in command does the same in two jobs** that answer its questions alike. -/
theorem run (ht : Twins R b) (h : R j j') :
    Together R j j' (b.run.run.run j) (b.run.run.run j') := by
  have hperform := ht.together_perform h
  rw [Builtin.run]
  split
  · exact hperform
  · rw [run_tryCatch, run_tryCatch]
    rcases hr : b.perform.run.run j with ⟨r, i⟩
    rcases hr' : b.perform.run.run j' with ⟨r', i'⟩
    rw [hr, hr'] at hperform
    obtain rfl : r' = r := hperform.result
    cases r' with
    | error f => exact hperform.trans fun hi => ht.together_notice hi .stderr _ 1
    | ok status => exact hperform

end Twins
end Builtin
end CommandShell
