/-
# Changing the directory

`cd` is the only command that moves the shell.  It follows the path that it is given name by name
and goes to the location that it comes to, which is one that no link leads to: its names are names
of nodes, and all locations above it are directories (`FileSystem.IsRooted`).

* `Builtin.run_cd`: `cd` goes to a directory, or has nowhere to go to, or fails and changes nothing.
* `Builtin.stays_run`: any other command leaves the shell, and its machine, in the directory that
  they are in.
-/
import CommandShell.Proofs.Likeness

namespace CommandShell

/-! ## 1. Locations that paths lead to -/

theorem Text.not_mem_fieldsFrom {sep : Char} (cs : List Char) : ∀ {field : String},
    sep ∉ field.toList → ∀ part ∈ fieldsFrom sep field cs, sep ∉ part.toList := by
  induction cs with
  | nil =>
    intro field hfield part hpart
    rwa [List.mem_singleton.mp hpart]
  | cons c cs ih =>
    intro field hfield
    rw [fieldsFrom]
    split
    · exact List.forall_mem_cons.mpr ⟨hfield, ih (by simp)⟩
    next hc => exact ih (by simp [hfield, Ne.symm hc])

theorem Path.slash_not_mem_segments {path name : String} (h : name ∈ segments path) :
    '/' ∉ name.toList :=
  Text.not_mem_fieldsFrom path.toList (by simp) name h

namespace FileSystem

variable {fs : FileSystem} {base loc loc' : Location}

/-- The name of a node in a directory. -/
def IsName (name : String) : Prop := name ≠ "" ∧ name ≠ "." ∧ name ≠ ".." ∧ '/' ∉ name.toList

/-- A location below directories all the way, so that no link leads to it. -/
structure IsRooted (fs : FileSystem) (loc : Location) : Prop where
  names : ∀ name ∈ loc, IsName name
  above : ∀ dir, dir <+: loc → dir ≠ loc → fs.node? dir = some .directory

namespace IsRooted

theorem root (fs : FileSystem) : fs.IsRooted [] :=
  ⟨nofun, fun _ hdir hne => absurd (List.prefix_nil.mp hdir) hne⟩

theorem of_prefix (h : fs.IsRooted loc) (hp : loc' <+: loc) : fs.IsRooted loc' where
  names name hname := h.names name (hp.subset hname)
  above dir hdir hne := h.above dir (hdir.trans hp) fun heq =>
    hne (hdir.eq_of_length_le (heq ▸ hp.length_le))

theorem child (h : fs.IsRooted loc) (hd : fs.node? loc = some .directory) {name : String}
    (hname : IsName name) : fs.IsRooted (loc ++ [name]) where
  names := by
    simpa [or_imp, forall_and, hname] using h.names
  above dir hdir hne := by
    rcases List.prefix_concat_iff.mp hdir with heq | hdir
    · exact absurd heq hne
    · by_cases heq : dir = loc
      · rw [heq, hd]
      · exact h.above dir hdir heq

/-- From a rooted location a link leads on from a rooted one. -/
theorem start (h : fs.IsRooted loc) (target : String) : fs.IsRooted (start loc target) := by
  rw [FileSystem.start]
  split
  · exact root fs
  · exact h

end IsRooted

/-- Names without slashes are followed to a rooted location, if the targets of links are. -/
theorem isRooted_of_walkWith {follow : Location → List String → Except OsError Location}
    (hfollow : ∀ {next names}, fs.IsRooted next → (∀ name ∈ names, '/' ∉ name.toList) →
      follow next names = .ok loc' → fs.IsRooted loc') {names : List String} :
    ∀ {loc}, fs.IsRooted loc → (∀ name ∈ names, '/' ∉ name.toList) →
      fs.walkWith follow loc names = .ok loc' → fs.IsRooted loc' := by
  induction names with
  | nil =>
    intro loc hloc _ hwalk
    rwa [← Except.ok.inj hwalk]
  | cons name rest ih =>
    intro loc hloc hnames hwalk
    obtain ⟨hslash, hrest⟩ := List.forall_mem_cons.mp hnames
    rw [walkWith] at hwalk
    split at hwalk
    next hd =>
      simp only [pass] at hwalk
      split_ifs at hwalk with hstay hup
      · exact ih hloc hrest hwalk
      · exact ih (hloc.of_prefix (List.dropLast_prefix loc)) hrest hwalk
      · split at hwalk
        next => cases hwalk
        next target _ =>
          refine hfollow (hloc.start target) (fun part hpart => ?_) hwalk
          rcases List.mem_append.mp hpart with hpart | hpart
          · exact Path.slash_not_mem_segments hpart
          · exact hrest part hpart
        next =>
          obtain ⟨hempty, hdot⟩ := not_or.mp hstay
          exact ih (hloc.child hd ⟨hempty, hdot, hup, hslash⟩) hrest hwalk
    next => cases hwalk
    next => cases hwalk

theorem isRooted_of_walk : ∀ (links : Nat) {loc : Location} {names : List String},
    fs.IsRooted loc → (∀ name ∈ names, '/' ∉ name.toList) →
      fs.walk links loc names = .ok loc' → fs.IsRooted loc'
  | 0, _, _, hloc, hnames, hwalk => isRooted_of_walkWith (fun _ _ h => by cases h) hloc hnames hwalk
  | links + 1, _, _, hloc, hnames, hwalk =>
    isRooted_of_walkWith (isRooted_of_walk links) hloc hnames hwalk

/-- **An absolute path leads to a rooted location.** -/
theorem isRooted_of_locateStepwise {path : String} (habs : Path.isAbsolute path = true)
    (h : fs.locateStepwise base path = some loc) : fs.IsRooted loc := by
  obtain ⟨-, -, hwalk⟩ := locateStepwise_eq_some_iff.mp h
  have hstart : start base path = [] := if_pos habs
  rw [hstart] at hwalk
  have hrooted := isRooted_of_walk _ (.root _) (fun _ => Path.slash_not_mem_segments) hwalk
  exact ⟨hrooted.names, fun dir hdir hne => node?_of_nameable (hrooted.above dir hdir hne)⟩

end FileSystem

/-! ## 2. `cd` -/

namespace Builtin

open Deed

/-- What `cd` is asked to change to: its target, or else HOME. -/
def asked? (env : Environment) (target : Option String) : Option String :=
  (target.filter (· ≠ "")).or (env.value? "HOME")

theorem asked?_eq_none_iff {env : Environment} {target : Option String} :
    asked? env target = none ↔
      env.value? "HOME" = none ∧ (target = none ∨ target = some "") := by
  cases target <;> simp [asked?, Option.filter_eq_none_iff, and_comm]

/-- Where `cd` leads to is a directory, and no link leads there. -/
theorem isRooted_of_destination {s : Session} {target : String} {loc : Location}
    (habs : Path.isAbsolute s.env.directory = true) (h : destination s target = .ok loc) :
    s.world.files.IsRooted loc ∧ s.world.files.node? loc = some .directory := by
  rcases destination_cases s target with ⟨loc', path, hd, -, hloc, hdir⟩ | hd
  · obtain rfl := Except.ok.inj (hd.symm.trans h)
    exact ⟨FileSystem.isRooted_of_locateStepwise (Path.isAbsolute_join habs path) hloc,
      FileSystem.node?_of_nameable hdir⟩
  · cases hd.symm.trans h

theorem run_performCd (target : Option String) (job : Job) :
    (performCd target).run.run job =
      match asked? job.session.env target with
      | none => (.ok 0, job)
      | some text =>
        match destination job.session text with
        | .ok loc => (.ok 0, { job with session := enter job.session loc })
        | .error f => (.error f, job) := by
  simp only [performCd, run_bind, run_env]
  split
  next hnone =>
    have hasked : asked? job.session.env target = none := hnone
    rw [hasked]
    rfl
  next text hsome =>
    have hasked : asked? job.session.env target = some text := hsome
    simp only [run_bind, run_get, run_orFail, hasked]
    rcases destination job.session text with f | loc <;> rfl

/-- Printing leaves the place of a session alone, whatever comes of it, and its environment. -/
theorem print_leaves (stream : Stream) (text : String) (job : Job) :
    ((print stream text).run.run job).2.session.env = job.session.env ∧
      ((print stream text).run.run job).2.session.world.directory =
        job.session.world.directory := by
  rw [run_print]
  split
  next hwrite => cases stream <;> exact ⟨rfl, (World.keeps_of_sinkWrite hwrite).directory⟩
  next => exact ⟨rfl, rfl⟩

/-- What can come of `cd`, with the job after it. -/
inductive ChangesDirectory (target : Option String) (job : Job) : Except Failure Int → Job → Prop
  /-- It goes to a directory that no link leads to, and changes nothing else. -/
  | entered {text : String} {loc : Location} (hasked : asked? job.session.env target = some text)
      (hd : destination job.session text = .ok loc) (hrooted : job.session.world.files.IsRooted loc)
      (hdir : job.session.world.files.node? loc = some .directory) :
      ChangesDirectory target job (.ok 0) { job with session := enter job.session loc }
  /-- It has nowhere to go to, and changes nothing. -/
  | nowhere (hhome : job.session.env.value? "HOME" = none)
      (htarget : target = none ∨ target = some "") : ChangesDirectory target job (.ok 0) job
  /-- It is refused, and leaves the shell and its machine where they are. -/
  | refused {text : String} {result : Except Failure Int} {job' : Job}
      (hasked : asked? job.session.env target = some text)
      (hd : destination job.session text = .error (.noDirectory text)) (hfails : result ≠ .ok 0)
      (henv : job'.session.env = job.session.env)
      (hmachine : job'.session.world.directory = job.session.world.directory) :
      ChangesDirectory target job result job'

/-- **What comes of `cd`.** -/
theorem run_cd (target : Option String) (job : Job)
    (habs : Path.isAbsolute job.session.env.directory = true) :
    ChangesDirectory target job ((run (.cd target)).run.run job).1
      ((run (.cd target)).run.run job).2 := by
  have hrun : run (.cd target) = tryCatch (performCd target) fun f =>
      (print .stderr (f.message ++ "\n") >>= fun _ => pure 1) := rfl
  rw [hrun, run_tryCatch, run_performCd]
  cases hasked : asked? job.session.env target with
  | none =>
    obtain ⟨hhome, htarget⟩ := asked?_eq_none_iff.mp hasked
    exact .nowhere hhome htarget
  | some text =>
    rcases destination_cases job.session text with ⟨loc, -, hd, -⟩ | hd
    · obtain ⟨hrooted, hdir⟩ := isRooted_of_destination habs hd
      simp only [hd]
      exact .entered hasked hd hrooted hdir
    · have hleaves := print_leaves .stderr (Failure.message (.noDirectory text) ++ "\n") job
      simp only [hd, run_bind]
      rcases hprint : (print .stderr (Failure.message (.noDirectory text) ++ "\n")).run.run job with
        ⟨f | _, job'⟩
      · rw [hprint] at hleaves
        exact .refused hasked hd (by simp) hleaves.1 hleaves.2
      · rw [hprint] at hleaves
        exact .refused hasked hd (fun h => absurd (Except.ok.inj h) (by decide)) hleaves.1 hleaves.2

/-! ## 3. The other commands -/

/-- The shell and its machine stay in the directories that they are in. -/
structure Stays (job job' : Job) : Prop where
  shell : job'.session.env.directory = job.session.env.directory
  machine : job'.session.world.directory = job.session.world.directory

namespace Stays

variable {job job' job'' : Job}

theorem refl (job : Job) : Stays job job := ⟨rfl, rfl⟩

theorem trans (h : Stays job job') (h' : Stays job' job'') : Stays job job'' :=
  ⟨h'.shell.trans h.shell, h'.machine.trans h.machine⟩

end Stays

theorem stays_print_bind {α : Type} (stream : Stream) (text : String) {f : PUnit → Deed α}
    (hf : ∀ job, Stays job ((f ⟨⟩).run.run job).2) (job : Job) :
    Stays job ((print stream text >>= f).run.run job).2 := by
  obtain ⟨henv, hmachine⟩ := print_leaves stream text job
  exact related_bind .trans ⟨congrArg Environment.directory henv, hmachine⟩ fun _ job' _ => hf job'

theorem stays_performType (names : List String) : ∀ (status : Int) (job : Job),
    Stays job ((performType names status).run.run job).2 := by
  induction names with
  | nil => exact fun _ job => .refl job
  | cons name rest ih =>
    intro status job
    have hdescribe : Stays job { job with session := (describe job.session name).2.2 } := by
      simp only [describe]
      split
      · exact .refl job
      · rcases hr : job.session.resolve name with ⟨found | found, s'⟩ <;>
          obtain ⟨-, rfl⟩ := Prod.mk.inj hr <;> exact ⟨rfl, rfl⟩
    simp only [performType, run_bind, run_get, run_setSession]
    refine hdescribe.trans ?_
    have hprint := stays_print_bind (f := fun _ => performType rest
        (if (describe job.session name).2.1 then status else 1)) .stdout
      (describe job.session name).1 (ih _) { job with session := (describe job.session name).2.2 }
    rwa [run_bind] at hprint

theorem stays_printEntries (entries : List (Nat × String)) : ∀ job : Job,
    Stays job ((printEntries entries).run.run job).2 := by
  induction entries with
  | nil => exact .refl
  | cons entry rest ih => exact fun job => stays_print_bind .stdout _ ih job

theorem stays_performHistory (r : HistoryRequest) (job : Job) :
    Stays job ((performHistory r).run.run job).2 := by
  simp only [performHistory, run_bind, run_env, run_world]
  split
  next path _ =>
    simp only [run_bind, run_orFail]
    rcases job.session.env.history.writeTo job.session.world.files job.session.world.directory
      (Path.join job.session.env.directory path) with f | files
    · exact .refl job
    · exact ⟨rfl, rfl⟩
  next path _ _ =>
    simp only [run_bind, run_orFail]
    rcases job.session.env.history.readFrom job.session.world.files job.session.world.directory
      (Path.join job.session.env.directory path) with f | history
    · exact .refl job
    · exact ⟨rfl, rfl⟩
  next path _ _ _ =>
    simp only [run_bind, run_setEnv, run_orFail]
    rcases job.session.env.history.appendNewTo job.session.world.files job.session.world.directory
      (Path.join job.session.env.directory path) with ⟨history, f | files⟩ <;> exact ⟨rfl, rfl⟩
  next => exact related_bind .trans (stays_printEntries _ job) fun _ job' _ => .refl job'

theorem stays_perform {b : Builtin} (hb : ∀ target, b ≠ .cd target) (job : Job) :
    Stays job (b.perform.run.run job).2 := by
  cases b with
  | cd target => exact absurd rfl (hb target)
  | echo words => exact stays_print_bind .stdout _ (fun _ => .refl _) job
  | exit status => exact ⟨rfl, rfl⟩
  | history request => exact stays_performHistory request job
  | pwd =>
    rw [perform, run_bind, run_env]
    exact stays_print_bind .stdout _ (fun _ => .refl _) job
  | type names =>
    rw [perform]
    split
    · exact stays_print_bind .stderr _ (fun _ => .refl _) job
    · exact stays_performType names 0 job
  | help text => exact stays_print_bind .stdout _ (fun _ => .refl _) job
  | refuse message => exact stays_print_bind .stderr _ (fun _ => .refl _) job

/-- **Any command but `cd` leaves the shell where it is.** -/
theorem stays_run {b : Builtin} (hb : ∀ target, b ≠ .cd target) (job : Job) :
    Stays job (b.run.run.run job).2 := by
  have hperform := stays_perform hb job
  rw [run]
  split
  · exact hperform
  · rw [run_tryCatch]
    rcases hr : b.perform.run.run job with ⟨f | status, after⟩
    · rw [hr] at hperform
      exact hperform.trans (stays_print_bind .stderr _ (fun _ => .refl _) after)
    · rwa [hr] at hperform

end Builtin
end CommandShell
