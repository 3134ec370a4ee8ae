/-
# Sessions that are alike

A command asks little of the files of a machine: where its redirections lead, what is in a file that
it reads, whether its program can be started.  What it asks rests on some files
(`FileSystem.RestsOn`), so it gets the same answers in two sessions in which these are the same
(`Session.Alike`), as long as the file systems have one shape.  The two sessions may differ in all
other files, in their processes and pipes, in what the terminal has got, in the numbers under which
files are open, and in what was looked up before.

A built-in command does the same in two such sessions, and leaves them alike (`twins_alike`).
-/
import CommandShell.Proofs.Recall
import CommandShell.Proofs.Twins

namespace CommandShell

/-! ## 1. Files -/

namespace FileSystem

variable {used : Location → Prop} {fs fs' fs₁ fs₁' : FileSystem} {α : Type} {ask : FileSystem → α}
  {loc base : Location} {path : String}

/-- Some locations hold the same in two file systems. -/
def AgreeOn (used : Location → Prop) (fs fs' : FileSystem) : Prop :=
  ∀ loc, used loc → fs'.node? loc = fs.node? loc

theorem AgreeOn.refl (used : Location → Prop) (fs : FileSystem) : AgreeOn used fs fs :=
  fun _ _ => rfl

theorem AgreeOn.symm (h : AgreeOn used fs fs') : AgreeOn used fs' fs :=
  fun loc hloc => (h loc hloc).symm

theorem AgreeOn.trans (h : AgreeOn used fs fs') (h' : AgreeOn used fs' fs₁) :
    AgreeOn used fs fs₁ := fun loc hloc => (h' loc hloc).trans (h loc hloc)

/-- An answer rests on some files: as long as the shape stays the same, it does not change unless
one of them does. -/
def RestsOn (used : Location → Prop) (fs : FileSystem) (ask : FileSystem → α) : Prop :=
  ∀ fs₁ fs₂, fs.SameShape fs₁ → fs₁.SameShape fs₂ → AgreeOn used fs₁ fs₂ → ask fs₂ = ask fs₁

theorem RestsOn.eq (h : RestsOn used fs ask) (hshape : fs.SameShape fs')
    (hagree : AgreeOn used fs fs') : ask fs' = ask fs := h fs fs' (.refl fs) hshape hagree

theorem RestsOn.later (h : RestsOn used fs ask) (hshape : fs.SameShape fs') :
    RestsOn used fs' ask :=
  fun fs₁ fs₂ hshape₁ hshape₂ hagree => h fs₁ fs₂ (hshape.trans hshape₁) hshape₂ hagree

/-- Where a file is opened for writing rests on no file, if the path leads somewhere. -/
theorem restsOn_locateForCreation (used : Location → Prop)
    (h : fs.locateForCreation base path = .ok loc) :
    fs.RestsOn used (·.locateForCreation base path) := by
  intro fs₁ fs₂ h₁ h₂ _
  have hloc := (locateForCreation_iff h₁).mpr h
  exact ((locateForCreation_iff h₂).mpr hloc).trans hloc.symm

/-- The shape of the files and some of them are the same in two file systems. -/
structure Alike (used : Location → Prop) (fs fs' : FileSystem) : Prop where
  shape : fs.SameShape fs'
  agree : AgreeOn used fs fs'

namespace Alike

/-- What changes the same locations in the same way. -/
theorem of_node? (h : Alike used fs fs') (loc : Location) (hshape : fs.SameShape fs₁)
    (hshape' : fs'.SameShape fs₁')
    (hother : ∀ other, loc ≠ other → fs₁.node? other = fs.node? other ∧
      fs₁'.node? other = fs'.node? other)
    (hsame : used loc → fs₁'.node? loc = fs₁.node? loc) : Alike used fs₁ fs₁' where
  shape := hshape.symm.trans (h.shape.trans hshape')
  agree other hused := by
    by_cases heq : loc = other
    · subst heq
      exact hsame hused
    · rw [(hother other heq).1, (hother other heq).2, h.agree other hused]

theorem setContent (h : Alike used fs fs') {bytes bytes' : Bytes}
    (hbytes : used loc → bytes' = bytes) :
    Alike used (fs.setContent loc bytes) (fs'.setContent loc bytes') := by
  refine h.of_node? loc (sameShape_setContent _ _ _) (sameShape_setContent _ _ _)
    (fun other hne => ⟨?_, ?_⟩) fun hused => ?_
  · rw [node?_setContent, if_neg hne]
  · rw [node?_setContent, if_neg hne]
  · rw [node?_setContent, node?_setContent, if_pos rfl, if_pos rfl, h.agree loc hused, hbytes hused]

theorem content_eq (h : Alike used fs fs') (hused : used loc) :
    fs'.content loc = fs.content loc := by
  simp only [content, h.agree loc hused]

/-- Opening a file leads to the same place, or is refused for the same reason. -/
theorem openForWriting (h : Alike used fs fs')
    (hloc : fs'.locateForCreation base path = fs.locateForCreation base path) (mode : WriteMode) :
    (∃ fault, fs.openForWriting base path mode = .error fault ∧
      fs'.openForWriting base path mode = .error fault) ∨
    ∃ target files files', fs.openForWriting base path mode = .ok (target, files) ∧
      fs'.openForWriting base path mode = .ok (target, files') ∧ Alike used files files' := by
  rcases hl : fs.locateForCreation base path with fault | loc
  · rw [hl] at hloc
    exact .inl ⟨fault, by simp [FileSystem.openForWriting, hl, bind, Except.bind],
      by simp [FileSystem.openForWriting, hloc, bind, Except.bind]⟩
  · rw [hl] at hloc
    obtain ⟨files, hopen, hnodes⟩ := exists_openForWriting mode hl
    obtain ⟨files', hopen', hnodes'⟩ := exists_openForWriting mode hloc
    refine .inr ⟨fs.targetAt loc, files, files', hopen, ?_, ?_⟩
    · rw [hopen', targetAt_of_sameShape h.shape]
    · refine h.of_node? loc (sameShape_of_openForWriting hopen) (sameShape_of_openForWriting hopen')
        (fun other hne => ⟨?_, ?_⟩) fun hused => ?_
      · rw [hnodes, if_neg hne]
      · rw [hnodes', if_neg hne]
      · rw [hnodes, hnodes', if_pos rfl, if_pos rfl, h.agree loc hused]

theorem extend (h : Alike used fs fs') (target : Target) (bytes : Bytes) :
    (∃ fault, fs.extend target bytes = .error fault ∧ fs'.extend target bytes = .error fault) ∨
    ∃ files files', fs.extend target bytes = .ok files ∧ fs'.extend target bytes = .ok files' ∧
      Alike used files files' := by
  cases target with
  | file loc =>
    refine .inr ⟨_, _, rfl, rfl, h.setContent fun hused => ?_⟩
    rw [h.content_eq hused]
  | device d =>
    cases d with
    | full =>
      by_cases hbytes : bytes = []
      · exact .inr ⟨fs, fs', if_pos hbytes, if_pos hbytes, h⟩
      · exact .inl ⟨_, if_neg hbytes, if_neg hbytes⟩
    | null | zero | own => exact .inr ⟨fs, fs', rfl, rfl, h⟩

end Alike

/-- Two file systems have stayed alike, and have kept the shape that they had. -/
structure StaysAlike (used : Location → Prop) (fs fs' files files' : FileSystem) : Prop where
  alike : Alike used files files'
  shape : fs.SameShape files
  shape' : fs'.SameShape files'

end FileSystem

namespace History

open FileSystem

variable {used : Location → Prop} {fs fs' : FileSystem} {base : Location} {path : String}

/-- What is opened and then written to is written alike, or refused for the same reason. -/
theorem matches_write (h : Alike used fs fs')
    (hloc : fs'.locateForCreation base path = fs.locateForCreation base path) (mode : WriteMode)
    (bytes : Bytes) (opening writing : Fault → Failure) :
    Matches (StaysAlike used fs fs')
      (match fs.openForWriting base path mode with
        | .error fault => .error (opening fault)
        | .ok (target, fs) => (fs.extend target bytes).mapError writing)
      (match fs'.openForWriting base path mode with
        | .error fault => .error (opening fault)
        | .ok (target, fs) => (fs.extend target bytes).mapError writing) := by
  rcases h.openForWriting hloc mode with ⟨fault, hopen, hopen'⟩ |
    ⟨target, files, files', hopen, hopen', hfiles⟩
  · simp only [hopen, hopen']
    exact .error _
  · simp only [hopen, hopen']
    rcases hfiles.extend target bytes with ⟨fault, hext, hext'⟩ |
      ⟨files₁, files₁', hext, hext', hfiles₁⟩
    · rw [hext, hext']
      exact .error _
    · rw [hext, hext']
      exact .ok ⟨hfiles₁, (sameShape_of_openForWriting hopen).trans (sameShape_of_extend hext),
        (sameShape_of_openForWriting hopen').trans (sameShape_of_extend hext')⟩

/-- A file is replaced by the session alike. -/
theorem matches_writeTo (h : Alike used fs fs') (history : History)
    (hloc : fs'.locateForCreation base path = fs.locateForCreation base path) :
    Matches (StaysAlike used fs fs') (history.writeTo fs base path)
      (history.writeTo fs' base path) := matches_write h hloc .overwrite _ _ _

theorem matches_appendNewTo (h : Alike used fs fs') (history : History)
    (hloc : fs'.locateForCreation base path = fs.locateForCreation base path) :
    (history.appendNewTo fs' base path).1 = (history.appendNewTo fs base path).1 ∧
      Matches (StaysAlike used fs fs') (history.appendNewTo fs base path).2
        (history.appendNewTo fs' base path).2 := by
  have hpending : Matches (StaysAlike used fs fs')
      (appendPending fs base path (history.session.drop (history.mark path)))
      (appendPending fs' base path (history.session.drop (history.mark path))) := by
    rw [appendPending, appendPending]
    split
    · exact .ok ⟨h, .refl fs, .refl fs'⟩
    · exact matches_write h hloc .append _ _ _
  simp only [appendNewTo]
  generalize appendPending fs base path (history.session.drop (history.mark path)) = r
    at hpending ⊢
  generalize appendPending fs' base path (history.session.drop (history.mark path)) = r'
    at hpending ⊢
  cases hpending with
  | error f => exact ⟨rfl, .error f⟩
  | ok hfiles => exact ⟨rfl, .ok hfiles⟩

/-- The same lines are read from a file that holds the same text. -/
theorem readFrom_congr (history : History)
    (hread : fs'.readText base path = fs.readText base path) :
    history.readFrom fs' base path = history.readFrom fs base path := by
  simp only [readFrom, readEntries, hread]

end History

/-! ## 2. Sessions -/

/-- The environment with nothing remembered of what was looked up. -/
def Environment.forgetful (env : Environment) : Environment :=
  { env with search := .ofDirs env.search.dirs }

/-- What is looked up comes to the memory only. -/
theorem Session.forgetful_resolve (s : Session) (name : String) :
    (s.resolve name).2.env.forgetful = s.env.forgetful := by
  have hdirs : (s.resolve name).2.env.search.dirs = s.env.search.dirs :=
    (s.grows_resolve name).dirs
  simp only [Environment.forgetful, hdirs]
  rfl

/-- The same directory, and files that are alike. -/
structure World.Alike (used : Location → Prop) (w w' : World) : Prop where
  directory : w'.directory = w.directory
  files : w.files.Alike used w'.files

/-- Two sessions that differ in nothing that a command asks for, if it uses some files only. -/
structure Session.Alike (used : Location → Prop) (s s' : Session) : Prop where
  env : s'.env.forgetful = s.env.forgetful
  world : s.world.Alike used s'.world
  remembers : s.Remembers
  remembers' : s'.Remembers

namespace World.Alike

variable {used : Location → Prop} {w w' w₁ w₁' : World}

theorem keeps (h : w.Alike used w') : w.Keeps w' := ⟨h.directory, h.files.shape⟩

/-- Each of the two machines stays in place, and what matters is the same after that. -/
theorem later (h : w.Alike used w') (hkeeps : w.Keeps w₁) (hkeeps' : w'.Keeps w₁')
    (hagree : FileSystem.AgreeOn used w₁.files w₁'.files) : w₁.Alike used w₁' where
  directory := hkeeps'.directory.trans (h.directory.trans hkeeps.directory.symm)
  files := ⟨hkeeps.files.symm.trans (h.files.shape.trans hkeeps'.files), hagree⟩

end World.Alike

namespace Session.Alike

variable {used : Location → Prop} {s s' s₁ s₁' : Session}

section Environment

variable (h : s.Alike used s')
include h

theorem vars : s'.env.vars = s.env.vars := by
  have heq := congrArg Environment.vars h.env
  exact heq

theorem directory : s'.env.directory = s.env.directory := by
  have heq := congrArg Environment.directory h.env
  exact heq

theorem history : s'.env.history = s.env.history := by
  have heq := congrArg Environment.history h.env
  exact heq

theorem dirs : s'.env.search.dirs = s.env.search.dirs := by
  have heq := congrArg (fun env : Environment => env.search.dirs) h.env
  exact heq

theorem value? (name : String) : s'.env.value? name = s.env.value? name := by
  have heq := congrArg (fun env : Environment => env.value? name) h.env
  exact heq

end Environment

theorem later (h : s.Alike used s') {w w' : World} (hkeeps : s.world.Keeps w)
    (hkeeps' : s'.world.Keeps w') (hworld : w.Alike used w') :
    Session.Alike used { s with world := w } { s' with world := w' } where
  env := h.env
  world := hworld
  remembers := h.remembers.keeps rfl rfl hkeeps
  remembers' := h.remembers'.keeps rfl rfl hkeeps'

theorem elsewhere (h : s.Alike used s') {w w' : World} (hw : s.world.LeavesFiles w)
    (hw' : s'.world.LeavesFiles w') :
    Session.Alike used { s with world := w } { s' with world := w' } := by
  refine h.later hw.keeps hw'.keeps (h.world.later hw.keeps hw'.keeps ?_)
  rw [hw.files, hw'.files]
  exact h.world.files.agree

theorem onFiles (h : s.Alike used s') {files files' : FileSystem}
    (hfiles : FileSystem.StaysAlike used s.world.files s'.world.files files files') :
    Session.Alike used { s with world := { s.world with files } }
      { s' with world := { s'.world with files := files' } } :=
  h.later ⟨rfl, hfiles.shape⟩ ⟨rfl, hfiles.shape'⟩ ⟨h.world.directory, hfiles.alike⟩

/-- The environments change alike, and neither the directory nor what was looked up does. -/
theorem onEnv (h : s.Alike used s') {f : Environment → Environment}
    (hforgetful : ∀ env, (f env).forgetful = f env.forgetful)
    (hsearch : ∀ env, (f env).search = env.search)
    (hdirectory : ∀ env, (f env).directory = env.directory) :
    Session.Alike used { s with env := f s.env } { s' with env := f s'.env } where
  env := by rw [hforgetful, hforgetful, h.env]
  world := h.world
  remembers := h.remembers.keeps (hsearch _) (hdirectory _) (.refl _)
  remembers' := h.remembers'.keeps (hsearch _) (hdirectory _) (.refl _)

/-- Both get the same history. -/
theorem onHistory (h : s.Alike used s') (history : History) :
    Session.Alike used { s with env := { s.env with history } }
      { s' with env := { s'.env with history } } :=
  h.onEnv (f := ({ · with history })) (fun _ => rfl) (fun _ => rfl) fun _ => rfl

/-- **A command is found alike**, whatever was looked up before. -/
theorem resolve (h : s.Alike used s') (name : String) :
    (s'.resolve name).1 = (s.resolve name).1 ∧
      Session.Alike used (s.resolve name).2 (s'.resolve name).2 := by
  refine ⟨?_, ?_, h.world, h.remembers.resolve name, h.remembers'.resolve name⟩
  · rw [h.remembers.resolve_eq, h.remembers'.resolve_eq]
    exact lookup_of_keeps h.dirs h.directory h.world.keeps
  · rw [Session.forgetful_resolve, Session.forgetful_resolve, h.env]

theorem enter (h : s.Alike used s') (loc : Location) :
    Session.Alike used (Builtin.enter s loc) (Builtin.enter s' loc) where
  env := by
    have henv : ∀ t : Session, (Builtin.enter t loc).env.forgetful =
        { t.env.forgetful with directory := loc.path } := fun _ => rfl
    rw [henv, henv, h.env]
  world := ⟨rfl, h.world.files⟩
  remembers := h.remembers.enter loc
  remembers' := h.remembers'.enter loc

end Session.Alike

namespace Builtin

/-- Where `cd` leads to: a directory, or else it says that it is none. -/
theorem destination_cases (s : Session) (target : String) :
    (∃ loc path, destination s target = .ok loc ∧ expandHome s.env target = .ok path ∧
      s.world.files.locateStepwise s.world.directory (Path.join s.env.directory path) = some loc ∧
      s.world.files.nameable.node? loc = some .directory) ∨
    destination s target = .error (.noDirectory target) := by
  simp only [destination]
  rcases hpath : expandHome s.env target with f | path
  · right
    have hf : f = .noDirectory target := by
      simp only [expandHome] at hpath
      repeat' split at hpath
      all_goals cases hpath
      all_goals rfl
    rw [hf]
    rfl
  · simp only [bind, Except.bind]
    split
    next => exact .inr rfl
    next loc hloc =>
      split
      next hdir => exact .inl ⟨loc, path, rfl, rfl, hloc, hdir⟩
      next => exact .inr rfl

/-- **`cd` leads to the same directory** in sessions that are alike. -/
theorem destination_of_alike {used : Location → Prop} {s s' : Session} (h : s.Alike used s')
    (target : String) : destination s' target = destination s target := by
  have hexpand : expandHome s'.env target = expandHome s.env target := by
    simp only [expandHome, h.value?]
  have hone : ∀ {t t' : Session} {loc : Location}, t.world.Keeps t'.world →
      t'.env.directory = t.env.directory → expandHome t'.env target = expandHome t.env target →
      destination t target = .ok loc → destination t' target = .ok loc := by
    intro t t' loc hkeeps hdirectory hexpand hd
    rcases destination_cases t target with ⟨loc', path, hd', hpath, hloc, hdir⟩ | hd'
    · obtain rfl := Except.ok.inj (hd.symm.trans hd')
      have hloc' := FileSystem.locateStepwise_of_directory hkeeps.files hdir hloc
      simp only [destination, hexpand, hpath, bind, Except.bind, hdirectory, hkeeps.directory,
        hloc', hkeeps.files.nameable.directory hdir, if_true]
    · cases hd.symm.trans hd'
  rcases destination_cases s target with ⟨loc, -, hd, -⟩ | hd
  · rw [hd]
    exact hone h.world.keeps h.directory hexpand hd
  · rcases destination_cases s' target with ⟨loc', -, hd', -⟩ | hd'
    · have hback : destination s target = .ok loc' :=
        hone ⟨h.world.directory.symm, h.world.files.shape.symm⟩ h.directory.symm hexpand.symm hd'
      cases hd.symm.trans hback
    · rw [hd, hd']

end Builtin
end CommandShell
