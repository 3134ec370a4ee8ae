/-
# Where bytes arrive

What is written to a stream of a command arrives at an outlet (`Outlet`): on a side of the terminal,
in a file, or nowhere.  Where a stream leads is known before anything is opened
(`Session.outlet?`), and it is not known exactly if the target of the stream cannot be opened or
does not take bytes (`isSome_outlet?_iff`).

What happens to the machine is told by a log of deliveries (`World.Gets`): what the log says arrives
at each outlet, and no other file is touched.  Opening a file is a delivery of no bytes that may
empty the file, and from then on what is written goes to its end (`World.Connects`).
-/
import CommandShell.Proofs.Openable

namespace CommandShell

/-! ## 1. Outlets and deliveries -/

/-- Where bytes arrive. -/
inductive Outlet
  | terminal (stream : Stream)
  | file (loc : Location)
  /-- A device that takes everything and keeps nothing. -/
  | nowhere
deriving Repr, DecidableEq

/-- What is left of an old content before new bytes come. -/
def WriteMode.left (mode : WriteMode) (old : Bytes) : Bytes :=
  match mode with
  | .overwrite => []
  | .append => old

/-- Bytes that come to an outlet, behind what it has or in its place. -/
structure Delivery where
  outlet : Outlet
  mode : WriteMode
  bytes : Bytes
deriving Repr, DecidableEq

namespace Delivery

variable {o : Outlet} {old : Bytes} {d : Delivery} {log more : List Delivery}

/-- What an outlet has after some deliveries, of which those to it count. -/
def arrived (o : Outlet) (old : Bytes) (log : List Delivery) : Bytes :=
  log.foldl (fun old d => if d.outlet = o then d.mode.left old ++ d.bytes else old) old

@[simp] theorem arrived_nil : arrived o old [] = old := rfl

@[simp] theorem arrived_cons : arrived o old (d :: log) =
    arrived o (if d.outlet = o then d.mode.left old ++ d.bytes else old) log := rfl

theorem arrived_append : arrived o old (log ++ more) = arrived o (arrived o old log) more :=
  List.foldl_append

theorem arrived_of_forall_ne (h : ∀ d ∈ log, d.outlet ≠ o) : arrived o old log = old := by
  induction log with
  | nil => rfl
  | cons d log ih =>
    obtain ⟨hd, hlog⟩ := List.forall_mem_cons.mp h
    rw [arrived_cons, if_neg hd, ih hlog]

end Delivery

open Delivery

/-! ## 2. Files -/

namespace FileSystem

variable {fs fs' : FileSystem} {base loc place : Location} {path : String} {mode : WriteMode}

/-- Whether a location is that of a file, or of nothing that could keep one from being there. -/
def IsFile (fs : FileSystem) (loc : Location) : Prop :=
  fs.shape loc = .plain ∨ fs.shape loc = .runnable

theorem IsFile.of_sameShape (h : fs.IsFile loc) (hshape : fs.SameShape fs') : fs'.IsFile loc := by
  rwa [IsFile, hshape loc]

/-- What is opened for writing and is no device is a file. -/
theorem isFile_of_targetAt (hloc : fs.locateForCreation base path = .ok loc)
    (htarget : fs.targetAt loc = .file place) : place = loc ∧ fs.IsFile loc := by
  have hplain := isPlain_of_locateForCreation hloc
  unfold targetAt at htarget
  split at htarget
  next => cases htarget
  next hdevice =>
    refine ⟨(Target.file.inj htarget).symm, ?_⟩
    unfold IsFile shape
    rcases hn : fs.node? loc with _ | n
    · exact .inl rfl
    · cases n with
      | directory | link => simp [hn, IsPlain] at hplain
      | device d => exact (hdevice d hn).elim
      | file content executable => cases executable <;> simp
      | program => exact .inr rfl

theorem node?_of_targetAt_device {d : Device} (h : fs.targetAt loc = .device d) :
    fs.node? loc = some (.device d) := by
  unfold targetAt at h
  split at h
  next d' hd =>
    obtain rfl := Target.device.inj h
    exact hd
  next => cases h

theorem prepared_device (mode : WriteMode) (d : Device) :
    prepared mode (some (.device d)) = some (.device d) := by
  cases mode <;> rfl

theorem content_eq_of_node?_eq (h : fs'.node? loc = fs.node? loc) :
    fs'.content loc = fs.content loc := by
  rw [content, content, h]

theorem content_setContent (h : fs.IsFile loc) (bytes : Bytes) :
    (fs.setContent loc bytes).content loc = bytes ∧
      ((fs.setContent loc bytes).node? loc).isSome = true := by
  have hnode := node?_setContent fs loc loc bytes
  rw [if_pos rfl] at hnode
  rw [content, hnode]
  rcases hn : fs.node? loc with _ | n
  · exact ⟨rfl, rfl⟩
  · cases n with
    | file | program => exact ⟨rfl, rfl⟩
    | directory | link | device => simp [IsFile, shape, hn] at h

/-- A file that is opened for writing is there, and keeps its content or loses it. -/
theorem content_of_prepared (h : fs'.node? loc = prepared mode (fs.node? loc)) :
    fs'.content loc = mode.left (fs.content loc) ∧ (fs'.node? loc).isSome = true := by
  rw [content, content, h]
  rcases fs.node? loc with _ | n
  · cases mode <;> exact ⟨rfl, rfl⟩
  · cases mode <;> cases n <;> exact ⟨rfl, rfl⟩

end FileSystem

namespace World

variable {w w' w'' : World} {c : Channel} {o o' : Outlet} {directory : String} {stream : Stream}
  {r : Option Redirection} {log more : List Delivery}

/-! ## 3. What the machine gets -/

/-- The machine gets what the deliveries of a log say, and nothing else. -/
structure Gets (w w' : World) (log : List Delivery) : Prop where
  content : ∀ loc, w'.files.content loc = arrived (.file loc) (w.files.content loc) log
  untouched : ∀ loc, (∀ d ∈ log, d.outlet ≠ .file loc) → w'.files.node? loc = w.files.node? loc
  present : ∀ d ∈ log, ∀ loc, d.outlet = .file loc → (w'.files.node? loc).isSome = true
  terminal : w'.terminal = { w.terminal with
    output := arrived (.terminal .stdout) w.terminal.output log
    errors := arrived (.terminal .stderr) w.terminal.errors log }
  keeps : w.Keeps w'

namespace Gets

theorem silent (hfiles : w'.files = w.files) (hterminal : w'.terminal = w.terminal)
    (hdirectory : w'.directory = w.directory) : w.Gets w' [] where
  content loc := by rw [hfiles, arrived_nil]
  untouched loc _ := by rw [hfiles]
  present := nofun
  terminal := hterminal
  keeps := .of_same hdirectory hfiles

theorem trans (h : w.Gets w' log) (h' : w'.Gets w'' more) : w.Gets w'' (log ++ more) where
  content loc := by rw [h'.content, h.content, arrived_append]
  untouched loc hnot := by
    obtain ⟨hlog, hmore⟩ := List.forall_mem_append.mp hnot
    rw [h'.untouched loc hmore, h.untouched loc hlog]
  present d hd loc hloc := by
    by_cases hmore : ∃ d ∈ more, d.outlet = .file loc
    · obtain ⟨d', hd', hloc'⟩ := hmore
      exact h'.present d' hd' loc hloc'
    · have hnot : ∀ d ∈ more, d.outlet ≠ .file loc := fun d' hd' hloc' => hmore ⟨d', hd', hloc'⟩
      rw [h'.untouched loc hnot]
      rcases List.mem_append.mp hd with hlog | hd
      · exact h.present d hlog loc hloc
      · exact absurd hloc (hnot d hd)
  terminal := by
    rw [h'.terminal, h.terminal]
    simp only [arrived_append]
  keeps := h.keeps.trans h'.keeps

theorem of_arrived (h : w.Gets w' log) (harrived : ∀ o old, arrived o old more = arrived o old log)
    (hfiles : ∀ loc, (∃ d ∈ more, d.outlet = .file loc) ↔ ∃ d ∈ log, d.outlet = .file loc) :
    w.Gets w' more where
  content loc := by rw [h.content, harrived]
  untouched loc hnot := by
    refine h.untouched loc fun d hd heq => ?_
    obtain ⟨d', hd', heq'⟩ := (hfiles loc).mpr ⟨d, hd, heq⟩
    exact hnot d' hd' heq'
  present d hd loc hloc := by
    obtain ⟨d', hd', heq'⟩ := (hfiles loc).mp ⟨d, hd, hloc⟩
    exact h.present d' hd' loc heq'
  terminal := by simp only [h.terminal, harrived]
  keeps := h.keeps

/-- Bytes that come behind others come with them. -/
theorem joined {o : Outlet} {bytes bytes' : Bytes}
    (h : w.Gets w' ([⟨o, .append, bytes⟩] ++ [⟨o, .append, bytes'⟩])) :
    w.Gets w' [⟨o, .append, bytes ++ bytes'⟩] := by
  refine h.of_arrived (fun o' old => ?_) fun loc => by simp
  by_cases heq : o = o' <;> simp [heq, WriteMode.left]

theorem of_file {loc : Location} {mode : WriteMode} {bytes : Bytes} (hkeeps : w.Keeps w')
    (hterminal : w'.terminal = w.terminal)
    (hothers : ∀ other, loc ≠ other → w'.files.node? other = w.files.node? other)
    (hcontent : w'.files.content loc = mode.left (w.files.content loc) ++ bytes)
    (hthere : (w'.files.node? loc).isSome = true) : w.Gets w' [⟨.file loc, mode, bytes⟩] where
  content other := by
    by_cases h : loc = other
    · subst h
      simp [hcontent]
    · simp [h, FileSystem.content_eq_of_node?_eq (hothers other h)]
  untouched other hnot := by
    refine hothers other fun h => ?_
    exact hnot _ (List.mem_singleton_self _) (congrArg Outlet.file h)
  present d hd other hother := by
    obtain rfl := List.mem_singleton.mp hd
    obtain rfl := Outlet.file.inj hother
    exact hthere
  terminal := by simp [hterminal]
  keeps := hkeeps

end Gets

/-! ## 4. Channels -/

/-- What is written to a channel comes to an outlet, behind what that has. -/
inductive Connects (w : World) : Channel → Outlet → Prop
  | output : Connects w .terminalOutput (.terminal .stdout)
  | errors : Connects w .terminalError (.terminal .stderr)
  | null : Connects w (.device .null) .nowhere
  | zero : Connects w (.device .zero) .nowhere
  | file {number : Nat} {f : OpenFile} (hf : w.openFiles[number]? = some f)
      (hend : f.append = true ∨ f.position = (w.files.content f.location).length)
      (hfile : w.files.IsFile f.location) (hthere : (w.files.node? f.location).isSome = true) :
      Connects w (.file number) (.file f.location)

theorem overlay_end (old new : Bytes) : overlay old old.length new = old ++ new := by
  simp [overlay]

/-- What is written through an open file goes behind the content, whether the file is extended or
was written from its start. -/
theorem writeFile_at_end {number : Nat} {f : OpenFile} (hf : w.openFiles[number]? = some f)
    (hend : f.append = true ∨ f.position = (w.files.content f.location).length) (bytes : Bytes) :
    w.writeFile number bytes = { w with
      files := w.files.setContent f.location (w.files.content f.location ++ bytes)
      openFiles := w.openFiles.insert number
        { f with position := (w.files.content f.location ++ bytes).length } } := by
  have hposition : (if f.append = true then (w.files.content f.location).length else f.position) =
      (w.files.content f.location).length := by
    split
    · rfl
    next happend => exact hend.resolve_left happend
  simp only [writeFile, hf, hposition, overlay_end, List.length_append]

/-- **What is written to a channel is delivered**, and the channel still leads there. -/
theorem Connects.write (h : w.Connects c o) (bytes : Bytes) :
    ∃ w', w.write c bytes = .taken w' [] ∧ w.Gets w' [⟨o, .append, bytes⟩] ∧ w'.Connects c o := by
  have hnowhere : w.Gets w [⟨.nowhere, .append, bytes⟩] :=
    ⟨fun _ => rfl, fun _ _ => rfl, by simp, rfl, .refl w⟩
  cases h with
  | output =>
    refine ⟨_, rfl, ⟨fun _ => rfl, fun _ _ => rfl, by simp, ?_, .of_same rfl rfl⟩, .output⟩
    simp [WriteMode.left]
  | errors =>
    refine ⟨_, rfl, ⟨fun _ => rfl, fun _ _ => rfl, by simp, ?_, .of_same rfl rfl⟩, .errors⟩
    simp [WriteMode.left]
  | null => exact ⟨w, rfl, hnowhere, .null⟩
  | zero => exact ⟨w, rfl, hnowhere, .zero⟩
  | @file number f hf hend hfile _ =>
    have hkeeps := keeps_writeFile w number bytes
    obtain ⟨hcontent, hthere⟩ :=
      FileSystem.content_setContent hfile (w.files.content f.location ++ bytes)
    refine ⟨w.writeFile number bytes, rfl, ?_⟩
    rw [writeFile_at_end hf hend bytes] at hkeeps ⊢
    refine ⟨.of_file hkeeps rfl (fun other hne => ?_) hcontent hthere, ?_⟩
    · rw [FileSystem.node?_setContent, if_neg hne]
    · exact .file (f := { f with position := (w.files.content f.location ++ bytes).length })
        Std.ExtTreeMap.getElem?_insert_self (.inr (congrArg List.length hcontent).symm)
        (hfile.of_sameShape hkeeps.files) hthere

theorem Connects.nothing (h : w.Connects c o) : w.Gets w [⟨o, .append, []⟩] where
  content loc := by simp [WriteMode.left]
  untouched _ _ := rfl
  present d hd loc hloc := by
    obtain rfl := List.mem_singleton.mp hd
    cases h with
    | file _ _ _ hthere =>
      obtain rfl := Outlet.file.inj hloc
      exact hthere
    | _ => cases hloc
  terminal := by simp [WriteMode.left]
  keeps := .refl w

/-- A channel that leads to an outlet takes bytes. -/
theorem Connects.refuses (h : w.Connects c o) : c.refuses = false := by
  cases h <;> rfl

/-- A channel leads where it led when nothing is done to its file. -/
theorem Connects.later (h : w.Connects c o) (hgets : w.Gets w' log)
    (hopen : ∀ number, c = .file number → w'.openFiles[number]? = w.openFiles[number]?)
    (hnot : ∀ d ∈ log, d.outlet ≠ o) : w'.Connects c o := by
  cases h with
  | output => exact .output
  | errors => exact .errors
  | null => exact .null
  | zero => exact .zero
  | @file number f hf hend hfile hthere =>
    refine .file ((hopen number rfl).trans hf) ?_ (hfile.of_sameShape hgets.keeps.files) ?_
    · rwa [hgets.content, arrived_of_forall_ne hnot]
    · rwa [hgets.untouched _ hnot]

end World

/-! ## 5. Opening -/

/-- Where what is written to an open target arrives, if the target takes bytes. -/
def Target.outlet? : Target → Option Outlet
  | .file loc => some (.file loc)
  | .device .null => some .nowhere
  | .device .zero => some .nowhere
  | .device (.own 1) => some (.terminal .stdout)
  | .device (.own 2) => some (.terminal .stderr)
  | .device _ => none

namespace Outlet

/-- How bytes come to an outlet through a redirection: only the content of a file is replaced. -/
def mode (o : Outlet) (r : Option Redirection) : WriteMode :=
  match o, r with
  | .file _, some r => r.mode
  | _, _ => .append

/-- What opening an outlet delivers: no bytes, but a file may be emptied. -/
def opening (o : Outlet) (r : Option Redirection) : Delivery := ⟨o, o.mode r, []⟩

end Outlet

namespace World

variable {w w' : World} {c : Channel} {o : Outlet} {directory : String} {stream : Stream}
  {r : Option Redirection}

/-- Where a stream leads, if its target can be opened and takes bytes. -/
def outlet? (w : World) (directory : String) (stream : Stream) (r : Option Redirection) :
    Option Outlet :=
  match r with
  | none => some (.terminal stream)
  | some r =>
    match w.files.locateForCreation w.directory (Path.join directory r.target) with
    | .ok loc => (w.files.targetAt loc).outlet?
    | .error _ => none

theorem outlet?_some (w : World) (directory : String) (stream : Stream) (r : Redirection) :
    w.outlet? directory stream (some r) =
      match w.files.locateForCreation w.directory (Path.join directory r.target) with
      | .ok loc => (w.files.targetAt loc).outlet?
      | .error _ => none := by
  unfold outlet?
  rfl

/-- A redirected stream leads to an outlet through its target. -/
theorem outlet?_some_iff {r : Redirection} : w.outlet? directory stream (some r) = some o ↔
    ∃ loc, w.files.locateForCreation w.directory (Path.join directory r.target) = .ok loc ∧
      (w.files.targetAt loc).outlet? = some o := by
  rw [outlet?_some]
  rcases w.files.locateForCreation w.directory (Path.join directory r.target) with f | loc
  · simp
  · simp

/-- Where a stream leads is a question about the shape of the files. -/
theorem outlet?_of_keeps (h : w.Keeps w') : w'.outlet? directory stream r =
    w.outlet? directory stream r := by
  cases r with
  | none => rfl
  | some r =>
    ext1 o
    rw [outlet?_some_iff, outlet?_some_iff, h.directory]
    simp only [FileSystem.locateForCreation_iff h.files, FileSystem.targetAt_of_sameShape h.files]

/-- What takes bytes once it is open leads to an outlet. -/
theorem isSome_outlet?_of_channelTo {number : Nat} {target : Target}
    (h : channelTo number target = some c) (htakes : c.refuses = false) :
    target.outlet?.isSome = true := by
  cases target with
  | file loc => rfl
  | device d =>
    cases d with
    | null | zero => rfl
    | full =>
      obtain rfl := Option.some.inj h
      cases htakes
    | own fd =>
      rcases fd with _ | _ | _ | fd
      · obtain rfl := Option.some.inj h
        cases htakes
      · rfl
      · rfl
      · cases h

/-- A device that leads to an outlet is a channel to it, under any number and at any time. -/
theorem exists_channelTo_device {d : Device} (h : Target.outlet? (.device d) = some o) :
    ∃ c, (∀ number, channelTo number (.device d) = some c ∧ c ≠ .file number) ∧
      (∀ w : World, w.Connects c o) ∧ ∀ r, o.mode r = .append := by
  cases d with
  | null =>
    obtain rfl := Option.some.inj h
    exact ⟨.device .null, fun _ => ⟨rfl, nofun⟩, fun _ => .null, fun _ => rfl⟩
  | zero =>
    obtain rfl := Option.some.inj h
    exact ⟨.device .zero, fun _ => ⟨rfl, nofun⟩, fun _ => .zero, fun _ => rfl⟩
  | full => cases h
  | own fd =>
    rcases fd with _ | _ | _ | fd
    · cases h
    · obtain rfl := Option.some.inj h
      exact ⟨.terminalOutput, fun _ => ⟨rfl, nofun⟩, fun _ => .output, fun _ => rfl⟩
    · obtain rfl := Option.some.inj h
      exact ⟨.terminalError, fun _ => ⟨rfl, nofun⟩, fun _ => .errors, fun _ => rfl⟩
    · cases h

/-- A file that is opened for writing keeps its content or loses it, and is connected to. -/
theorem opened_file {number : Nat} {mode : WriteMode} {files : FileSystem} {loc : Location}
    (hfile : w.files.IsFile loc) (hshape : w.files.SameShape files)
    (hnodes : ∀ other, files.node? other =
      if loc = other then FileSystem.prepared mode (w.files.node? loc) else w.files.node? other) :
    let w' := { w with
      files, openFiles := w.openFiles.insert number ⟨loc, 0, mode == .append⟩ }
    w.Gets w' [⟨.file loc, mode, []⟩] ∧ w'.Connects (.file number) (.file loc) := by
  intro w'
  obtain ⟨hcontent, hthere⟩ := FileSystem.content_of_prepared ((hnodes loc).trans (if_pos rfl))
  refine ⟨.of_file ⟨rfl, hshape⟩ rfl (fun other hne => ?_) ?_ hthere, ?_⟩
  · exact (hnodes other).trans (if_neg hne)
  · rw [hcontent, List.append_nil]
  · refine Connects.file (f := ⟨loc, 0, mode == .append⟩) Std.ExtTreeMap.getElem?_insert_self ?_
      (hfile.of_sameShape hshape) hthere
    -- It is extended, or it is empty by now.
    cases mode with
    | append => exact .inl rfl
    | overwrite =>
      refine .inr ?_
      rw [hcontent]
      rfl

/-- **A stream that leads to an outlet is opened**, and then connected to it.  Of all open files
only the one under its own number is changed. -/
theorem exists_openOutlet_of_outlet? (first : Nat) (h : w.outlet? directory stream r = some o) :
    ∃ c w', w.openOutlet directory first stream r = .ok (c, w') ∧ w.Gets w' [o.opening r] ∧
      w'.Connects c o ∧ ∀ number, number ≠ outletNumber first stream →
        c ≠ .file number ∧ w'.openFiles[number]? = w.openFiles[number]? := by
  cases r with
  | none =>
    obtain rfl := Option.some.inj h
    have hconnects : w.Connects (standard stream) (.terminal stream) := by
      cases stream
      · exact .output
      · exact .errors
    refine ⟨standard stream, w, rfl, hconnects.nothing, hconnects, fun number _ => ⟨?_, rfl⟩⟩
    cases stream <;> nofun
  | some r =>
    obtain ⟨loc, hloc, htarget⟩ := outlet?_some_iff.mp h
    obtain ⟨files, hopen, hnodes⟩ := FileSystem.exists_openForWriting r.mode hloc
    have hshape := FileSystem.sameShape_of_openForWriting hopen
    rcases ht : w.files.targetAt loc with place | d
    · obtain ⟨rfl, hfile⟩ := FileSystem.isFile_of_targetAt hloc ht
      rw [ht] at htarget hopen
      obtain rfl := Option.some.inj htarget
      obtain ⟨hgets, hconnects⟩ := opened_file hfile hshape hnodes
      refine ⟨_, _, openOutlet_some_iff.mpr ⟨_, files, hopen, rfl, rfl⟩, hgets, hconnects,
        fun number hne => ⟨fun heq => hne (Channel.file.inj heq).symm, ?_⟩⟩
      simp [openedAs, Std.ExtTreeMap.getElem?_insert, Ne.symm hne]
    · have hdevice := FileSystem.node?_of_targetAt_device ht
      rw [ht] at htarget hopen
      obtain ⟨c, hc, hconnects, hmode⟩ := exists_channelTo_device htarget
      -- A device is opened as it is.
      have hsame : files = w.files := by
        ext1 other
        rw [hnodes, hdevice, FileSystem.prepared_device]
        split
        next heq => rw [← heq, hdevice]
        next => rfl
      refine ⟨c, _, openOutlet_some_iff.mpr ⟨_, files, hopen, (hc _).1, rfl⟩, ?_, hconnects _,
        fun number _ => ⟨(hc number).2, rfl⟩⟩
      rw [hsame, Outlet.opening, hmode]
      exact (hconnects w).nothing

/-- **A stream leads to an outlet exactly if it can be opened and takes bytes.** -/
theorem isSome_outlet?_iff (first : Nat) : (w.outlet? directory stream r).isSome = true ↔
    ∃ c w', w.openOutlet directory first stream r = .ok (c, w') ∧ c.refuses = false := by
  constructor
  · intro h
    obtain ⟨o, ho⟩ := Option.isSome_iff_exists.mp h
    obtain ⟨c, w', hopen, -, hconnects, -⟩ := exists_openOutlet_of_outlet? first ho
    exact ⟨c, w', hopen, hconnects.refuses⟩
  · rintro ⟨c, w', hopen, htakes⟩
    cases r with
    | none => rfl
    | some r =>
      obtain ⟨target, files, hopen, hc, -⟩ := openOutlet_some_iff.mp hopen
      obtain ⟨loc, hloc, rfl, -⟩ := FileSystem.openForWriting_eq_ok hopen
      rw [outlet?_some, hloc]
      exact isSome_outlet?_of_channelTo hc htakes

end World

/-! ## 6. Both streams -/

namespace Session

variable {s s' : Session} {stage : Stage} {stream : Stream} {o : Outlet}

/-- Where a stream of a stage leads, if its target can be opened and takes bytes. -/
def outlet? (s : Session) (stage : Stage) (stream : Stream) : Option Outlet :=
  s.world.outlet? s.env.directory stream (stage.redirection? stream)

/-- **The streams of a single command are opened** if they lead to two outlets, and then each is
connected to its own. -/
theorem exists_openBoth {output errors : Outlet} (hout : s.outlet? stage .stdout = some output)
    (herr : s.outlet? stage .stderr = some errors) (hne : output ≠ errors) :
    ∃ stdout stderr w, (Action.openBoth stage).run.run s = (.ok (stdout, stderr), ⟨s.env, w⟩) ∧
      s.world.Gets w [output.opening (stage.redirection? .stdout),
        errors.opening (stage.redirection? .stderr)] ∧
      w.Connects stdout output ∧ w.Connects stderr errors := by
  have hnumbered : s.world.Gets { s.world with nextFile := s.world.nextFile + 2 } [] :=
    .silent rfl rfl rfl
  rw [outlet?, ← World.outlet?_of_keeps hnumbered.keeps] at hout
  obtain ⟨stdout, w₁, hopen, hgets, hconnects, hnumber⟩ :=
    World.exists_openOutlet_of_outlet? s.world.nextFile hout
  rw [outlet?, ← World.outlet?_of_keeps (hnumbered.keeps.trans hgets.keeps)] at herr
  obtain ⟨stderr, w₂, hopen', hgets', hconnects', hnumber'⟩ :=
    World.exists_openOutlet_of_outlet? s.world.nextFile herr
  refine ⟨stdout, stderr, w₂, ?_, hnumbered.trans (hgets.trans hgets'), ?_, hconnects'⟩
  · simp only [Stage.redirection?] at hopen hopen'
    simp only [Action.openBoth, run_bind, Action.run_takeNumbers, Action.run_openOutlet, hopen,
      hopen', run_pure]
  · refine hconnects.later hgets' (fun number hfile => (hnumber' number ?_).2) fun d hd heq => ?_
    · rintro rfl
      exact (hnumber _ (by simp [World.outletNumber])).1 hfile
    · obtain rfl := List.mem_singleton.mp hd
      exact hne heq.symm

end Session
end CommandShell
