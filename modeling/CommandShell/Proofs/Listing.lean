/-
# Listing programs and finding them

Programs are listed for completion by reading the directories of the search list, and found by
probing the path of a name in each of them.  Both come to the same (`mem_executables_iff_resolve`):
a name without a slash is listed exactly if it begins as asked and the look-up finds it.

Three things lie between the two.  A listed name is one that a directory has, while a probed one may
also be empty, `.` or `..`; but these lead to directories only (`mem_namesAt_of_isExecutable`).  A
path is followed through a directory to what is in it, whichever way their texts are joined
(`locate_join_iff`).  And a relative directory is read from where the machine is, while it is probed
behind the path of that place; this leads to the same through as many links (`locate_join_place`),
since there are none on the way to a place (`IsPlace`).
-/
import CommandShell.Proofs.Creation
import CommandShell.Proofs.Home

namespace CommandShell

/-! ## 1. Paths in directories -/

/-- Characters that are no separators belong to the field that was begun. -/
theorem Text.fieldsFrom_plain_append {sep : Char} {front : List Char} (h : sep ∉ front)
    (field : String) (rest : List Char) :
    fieldsFrom sep field (front ++ rest) = fieldsFrom sep (field ++ String.ofList front) rest := by
  induction front generalizing field with
  | nil => simp
  | cons c front ih =>
    obtain ⟨hc, hfront⟩ : sep ≠ c ∧ sep ∉ front := by simpa using h
    rw [List.cons_append, fieldsFrom, if_neg (Ne.symm hc), ih hfront]
    congr 1
    simp [← String.toList_inj]

namespace Path

variable {dir path : String}

/-- The segments of the path of a location are its names, behind the root. -/
theorem segments_path {loc : Location} (h : ∀ name ∈ loc, '/' ∉ name.toList) (hne : loc ≠ []) :
    segments loc.path = "" :: loc := by
  have hnames : ∀ (field : String), Text.fieldsFrom '/' field
      (String.join (loc.map ("/" ++ ·))).toList = field :: loc := by
    clear hne
    induction loc with
    | nil => simp [Text.fieldsFrom]
    | cons name rest ih =>
      intro field
      obtain ⟨hname, hrest⟩ := List.forall_mem_cons.mp h
      have hfirst : (String.join ((name :: rest).map ("/" ++ ·))).toList =
          '/' :: (name.toList ++ (String.join (rest.map ("/" ++ ·))).toList) := by
        simp [String.toList_join]
      rw [hfirst, Text.fieldsFrom, if_pos rfl, Text.fieldsFrom_plain_append hname, ih hrest]
      simp
  cases loc with
  | nil => exact absurd rfl hne
  | cons name rest => exact hnames ""

theorem segments_of_bare {name : String} (h : hasSlash name = false) : segments name = [name] := by
  have hname : '/' ∉ name.toList := by simpa [hasSlash] using h
  have hfield := Text.fieldsFrom_plain_append hname "" []
  rw [List.append_nil] at hfield
  simp [segments, Text.fields, hfield, Text.fieldsFrom]

/-- The segments of a path in a directory are those of both, up to an empty one between them. -/
theorem segments_join (hdir : dir ≠ "") (hpath : isAbsolute path = false) :
    (∃ front, segments dir = front ++ [""] ∧ segments (join dir path) = front ++ segments path) ∨
      segments (join dir path) = segments dir ++ segments path := by
  by_cases hlast : dir.toList.getLast? = some '/'
  · obtain ⟨front, rfl⟩ := exists_of_getLast?_slash hlast
    refine .inl ⟨segments front, segments_slash front, ?_⟩
    rw [join, if_neg (by simp [hpath]), if_pos (by simp), segments_append]
  · refine .inr ?_
    rw [join, if_neg (by simp [hpath]), if_neg (by simp [hdir, hlast]), segments_append]

/-- A path in a directory starts where the directory does. -/
theorem isAbsolute_join_of_relative (hdir : dir ≠ "") (hpath : isAbsolute path = false) :
    isAbsolute (join dir path) = isAbsolute dir := by
  obtain ⟨c, cs, hcs⟩ := List.exists_cons_of_ne_nil (by simpa using hdir : dir.toList ≠ [])
  rw [join, if_neg (by simp [hpath])]
  split <;> simp [isAbsolute, hcs]

/-- Every relative path gets the same in front of it. -/
theorem exists_join (front : String) : ∃ lead, (lead = front ∨ lead = front ++ "/") ∧
    ∀ path, isAbsolute path = false → join front path = lead ++ path := by
  by_cases h : (front = "" || front.toList.getLast? == some '/') = true
  · exact ⟨front, .inl rfl, fun path hpath => by rw [join, hpath, if_neg (by simp), if_pos h]⟩
  · exact ⟨front ++ "/", .inr rfl, fun path hpath => by
      rw [join, hpath, if_neg (by simp), if_neg h]⟩

theorem mem_join_iff {c : Char} (hc : c ≠ '/') (hpath : isAbsolute path = false) :
    c ∈ (join dir path).toList ↔ c ∈ dir.toList ∨ c ∈ path.toList := by
  obtain ⟨lead, rfl | rfl, hjoin⟩ := exists_join dir <;> simp [hjoin path hpath, hc]

theorem join_ne_empty (hdir : dir ≠ "") (path : String) : join dir path ≠ "" := by
  rw [join]
  split_ifs with habs
  · rintro rfl
    cases habs
  · simp [hdir]
  · simp [hdir]

/-- What stands in front of a directory stands in front of the paths in it. -/
theorem join_append (hdir : dir ≠ "") (hpath : isAbsolute path = false) (lead : String) :
    join (lead ++ dir) path = lead ++ join dir path := by
  have hends : (lead ++ dir).toList.getLast? = dir.toList.getLast? := by
    rw [String.toList_append, List.getLast?_append_of_ne_nil _ (by simpa using hdir)]
  rw [join, join, hends, hpath]
  simp only [hdir, String.append_eq_empty_iff, and_false, Bool.false_eq_true, if_false]
  split <;> simp [String.append_assoc]

theorem join_join (hdir : dir ≠ "") (front path : String) :
    join (join front dir) path = join front (join dir path) := by
  cases hpath : isAbsolute path with
  | true => rw [join_of_absolute hpath, join_of_absolute hpath, join_of_absolute hpath]
  | false =>
    have hstart := isAbsolute_join_of_relative hdir hpath
    cases habs : isAbsolute dir with
    | true => rw [join_of_absolute habs, join_of_absolute (hstart.trans habs)]
    | false =>
      obtain ⟨lead, -, hlead⟩ := exists_join front
      rw [hlead dir habs, hlead _ (hstart.trans habs), join_append hdir hpath]

end Path

namespace FileSystem

variable {fs : FileSystem} {base loc mid result result' : Location} {links left left' : Nat}
  {dir path name : String} {names : List String}

/-! ## 2. Following a path through a directory -/

theorem requireValid_iff : requireValid path = .ok () ↔
    '\x00' ∉ path.toList ∧ path ≠ "" ∧ path.utf8ByteSize < pathLimit := by
  simp only [requireValid, List.contains_iff_mem]
  split_ifs with hnul hempty hlong <;> simp_all

/-- The directory of a proper path is a proper path. -/
theorem requireValid_of_join (hdir : dir ≠ "") (hpath : Path.isAbsolute path = false)
    (h : requireValid (Path.join dir path) = .ok ()) : requireValid dir = .ok () := by
  obtain ⟨hnul, -, hlong⟩ := requireValid_iff.mp h
  rw [Path.mem_join_iff (by decide) hpath] at hnul
  refine requireValid_iff.mpr ⟨fun hmem => hnul (.inl hmem), hdir, ?_⟩
  obtain ⟨lead, hlead, hjoin⟩ := Path.exists_join dir
  rw [hjoin path hpath, String.utf8ByteSize_append] at hlong
  rcases hlead with rfl | rfl
  · omega
  · rw [String.utf8ByteSize_append] at hlong
    omega

/-- Behind a proper directory, a path is as proper as by itself, if it is not too long there. -/
theorem requireValid_join_iff (hdir : requireValid dir = .ok ()) (hne : path ≠ "")
    (hpath : Path.isAbsolute path = false)
    (hlong : (Path.join dir path).utf8ByteSize < pathLimit) :
    requireValid (Path.join dir path) = .ok () ↔ requireValid path = .ok () := by
  obtain ⟨hnul, hdir, -⟩ := requireValid_iff.mp hdir
  have hlong' : path.utf8ByteSize < pathLimit := by
    obtain ⟨lead, -, hjoin⟩ := Path.exists_join dir
    rw [hjoin path hpath, String.utf8ByteSize_append] at hlong
    omega
  rw [requireValid_iff, requireValid_iff, Path.mem_join_iff (by decide) hpath,
    and_iff_left ⟨Path.join_ne_empty hdir path, hlong⟩, and_iff_left ⟨hne, hlong'⟩]
  simp [hnul]

theorem Leads.unique (h : fs.Leads left result links loc names)
    (h' : fs.Leads left' result' links loc names) : left = left' ∧ result = result' := by
  induction h with
  | done =>
    cases h'
    exact ⟨rfl, rfl⟩
  | stay _ hname _ ih => exact ih (h'.of_stay hname)
  | up _ _ ih =>
    cases h' with
    | stay _ hname => rcases hname with h | h <;> exact absurd h (by decide)
    | up _ h' => exact ih h'
    | down _ _ hup => exact absurd rfl hup
    | link _ _ hup => exact absurd rfl hup
  | down _ hstay hup _ hn hlink _ ih =>
    cases h' with
    | stay _ hname => exact absurd hname hstay
    | up => exact absurd rfl hup
    | down _ _ _ _ _ _ h' => exact ih h'
    | link _ _ _ _ hn' => exact absurd (Option.some.inj (hn.symm.trans hn')) (hlink _)
  | link _ hstay hup _ hn _ ih =>
    cases h' with
    | stay _ hname => exact absurd hname hstay
    | up => exact absurd rfl hup
    | down _ _ _ _ hn' hlink => exact absurd (Option.some.inj (hn'.symm.trans hn)) (hlink _)
    | link _ _ _ _ hn' h' =>
      obtain rfl := Node.link.inj (Option.some.inj (hn.symm.trans hn'))
      exact ih h'

/-- A path in a directory leads through the directory. -/
theorem leads_join_iff (hdir : dir ≠ "") (hpath : Path.isAbsolute path = false) :
    fs.Leads left result links loc (Path.segments (Path.join dir path)) ↔
      ∃ between mid, fs.Leads between mid links loc (Path.segments dir) ∧
        fs.Leads left result between mid (Path.segments path) := by
  rcases Path.segments_join hdir hpath with ⟨front, hfront, hjoin⟩ | hjoin
  · -- The directory ends with a slash, and so must lead to a directory, as it does.
    obtain ⟨first, rest, hrest⟩ := List.exists_cons_of_ne_nil (Path.segments_ne_nil path)
    rw [hjoin, hfront]
    simp only [leads_append_iff, leads_empty_iff]
    constructor
    · rintro ⟨between, mid, hfront, hbelow⟩
      exact ⟨between, mid, ⟨between, mid, hfront, (hrest ▸ hbelow).directory, rfl, rfl⟩, hbelow⟩
    · rintro ⟨between, mid, ⟨_, _, hfront, -, rfl, rfl⟩, hbelow⟩
      exact ⟨_, _, hfront, hbelow⟩
  · rw [hjoin, leads_append_iff]

/-- **A path in a directory is followed through the directory.** -/
theorem locate_join_iff (hdir : dir ≠ "") (hpath : Path.isAbsolute path = false) :
    fs.locate base (Path.join dir path) = .ok result ↔
      requireValid (Path.join dir path) = .ok () ∧ ∃ between mid left,
        fs.Leads between mid linkLimit (start base dir) (Path.segments dir) ∧
        fs.Leads left result between mid (Path.segments path) := by
  have hstart : start base (Path.join dir path) = start base dir := by
    rw [start, start, Path.isAbsolute_join_of_relative hdir hpath]
  rw [locate_eq_ok_iff, walk_eq_ok_iff, hstart]
  simp only [leads_join_iff hdir hpath]
  constructor
  · rintro ⟨hvalid, left, between, mid, h⟩
    exact ⟨hvalid, between, mid, left, h⟩
  · rintro ⟨hvalid, between, mid, left, h⟩
    exact ⟨hvalid, left, between, mid, h⟩

theorem isExecutable_iff : fs.isExecutable base path = true ↔
    ∃ loc n, fs.locate base path = .ok loc ∧ fs.node? loc = some n ∧ n.isExecutable = true := by
  rw [isExecutable, nodeAt?]
  cases fs.locate base path <;> simp [Option.any_eq_true]

/-! ## 3. The place of a machine -/

/-- A directory that a machine can be in: its own path leads to it. -/
structure IsPlace (fs : FileSystem) (loc : Location) : Prop where
  directory : fs.node? loc = some .directory
  reached : fs.locate loc loc.path = .ok loc

/-- Names of directories lead down through them. -/
theorem Leads.of_directories (h : fs.Leads left result links loc names)
    (hname : ∀ name ∈ names, IsName name)
    (hdown : ∀ front, front <+: names → fs.node? (loc ++ front) = some .directory) :
    left = links := by
  induction h with
  | done => rfl
  | @stay _ _ name _ _ hstay =>
    obtain ⟨hempty, hdot, -⟩ := hname name List.mem_cons_self
    exact absurd hstay (not_or.mpr ⟨hempty, hdot⟩)
  | up => exact absurd rfl (hname _ List.mem_cons_self).2.2.1
  | @down _ _ name _ _ _ _ _ _ _ _ _ ih =>
    refine ih (fun other hother => hname other (List.mem_cons_of_mem _ hother))
      fun front hfront => ?_
    simpa using hdown (name :: front) (List.cons_prefix_cons.mpr ⟨rfl, hfront⟩)
  | @link _ _ name _ _ _ _ _ _ hn =>
    rw [hdown [name] (by simp)] at hn
    cases hn

namespace IsPlace

/-- No link leads to a place. -/
theorem rooted (h : fs.IsPlace base) : fs.IsRooted base := by
  have hwalk := (locate_eq_ok_iff.mp h.reached).2
  rw [start, if_pos (Path.isAbsolute_path base)] at hwalk
  exact isRooted_of_walk _ (.root fs) (fun _ => Path.slash_not_mem_segments) hwalk

/-- What leads to a place takes no links. -/
theorem leads (h : fs.IsPlace base) :
    fs.Leads linkLimit base linkLimit [] (Path.segments base.path) := by
  obtain ⟨left, hleads⟩ := walk_eq_ok_iff.mp (locate_eq_ok_iff.mp h.reached).2
  rw [start, if_pos (Path.isAbsolute_path base)] at hleads
  by_cases hne : base = []
  · subst hne
    have hroot : Path.segments (Location.path []) = ["", ""] := by decide
    rw [hroot]
    exact .stay h.directory (.inl rfl) (.stay h.directory (.inl rfl) .done)
  · have hnames := Path.segments_path (fun name hname => (h.rooted.names name hname).2.2.2) hne
    rw [hnames] at hleads ⊢
    obtain rfl := (hleads.of_stay (.inl rfl)).of_directories h.rooted.names fun front hfront => by
      by_cases heq : front = base
      · exact heq ▸ h.directory
      · exact h.rooted.above front hfront heq
    exact hleads

/-- **A path from a place leads where it leads behind the path of the place.** -/
theorem locate_join (h : fs.IsPlace base) (hpath : path ≠ "")
    (hlong : (Path.join base.path path).utf8ByteSize < pathLimit) :
    fs.locate base (Path.join base.path path) = .ok result ↔ fs.locate base path = .ok result := by
  cases habs : Path.isAbsolute path with
  | true => rw [Path.join_of_absolute habs]
  | false =>
    have hbase : base.path ≠ "" := by
      intro hempty
      have := hempty ▸ Path.isAbsolute_path base
      cases this
    rw [locate_join_iff hbase habs, locate_eq_ok_iff, walk_eq_ok_iff,
      requireValid_join_iff (locate_eq_ok_iff.mp h.reached).1 hpath habs hlong]
    refine and_congr_right fun _ => ?_
    rw [start, if_pos (Path.isAbsolute_path base), start, if_neg (by simp [habs])]
    constructor
    · rintro ⟨between, mid, left, hbase, hbelow⟩
      obtain ⟨rfl, rfl⟩ := hbase.unique h.leads
      exact ⟨left, hbelow⟩
    · rintro ⟨left, hbelow⟩
      exact ⟨_, _, left, h.leads, hbelow⟩

theorem isExecutable_join (h : fs.IsPlace base) (hpath : path ≠ "")
    (hlong : (Path.join base.path path).utf8ByteSize < pathLimit) :
    fs.isExecutable base (Path.join base.path path) = fs.isExecutable base path := by
  rw [Bool.eq_iff_iff, isExecutable_iff, isExecutable_iff]
  simp only [h.locate_join hpath hlong]

end IsPlace

/-! ## 4. Names in a directory -/

theorem mem_names_iff {dir : Location} : name ∈ fs.names dir ↔
    (fs.node? (dir ++ [name])).isSome := by
  have hkey : (fs.node? (dir ++ [name])).isSome ↔ dir ++ [name] ∈ fs.nodes := by
    rw [node?, Std.ExtTreeMap.isSome_getElem?_iff_mem]
  simp only [hkey, names, List.mem_filterMap, Std.ExtTreeMap.mem_keys]
  constructor
  · rintro ⟨loc, hloc, hname⟩
    split_ifs at hname with hdir
    obtain ⟨-, rfl⟩ := hdir
    rwa [List.dropLast_append_getLast? name hname]
  · intro h
    exact ⟨dir ++ [name], h, by simp⟩

theorem mem_namesAt_iff : name ∈ fs.namesAt base dir ↔ ∃ loc, fs.locate base dir = .ok loc ∧
    fs.node? loc = some .directory ∧ (fs.node? (loc ++ [name])).isSome := by
  rw [namesAt]
  split
  next loc hloc => split_ifs with hd <;> simp [hloc, hd, mem_names_iff]
  next hloc => simp [hloc]

/-- Above a place that no link leads to is a directory. -/
theorem IsRooted.dropLast (h : fs.IsRooted loc) (hd : fs.node? loc = some .directory) :
    fs.node? loc.dropLast = some .directory := by
  by_cases heq : loc.dropLast = loc
  · rw [heq, hd]
  · exact h.above _ (List.dropLast_prefix loc) heq

/-- **A program is a name of its directory.** -/
theorem mem_namesAt_of_isExecutable (hbase : fs.IsRooted base) (hdir : dir ≠ "")
    (hname : Path.hasSlash name = false)
    (h : fs.isExecutable base (Path.join dir name) = true) : name ∈ fs.namesAt base dir := by
  have hrel : Path.isAbsolute name = false := by
    by_contra habs
    have hslash := Path.hasSlash_of_absolute (by simpa using habs)
    rw [hname] at hslash
    cases hslash
  obtain ⟨loc, n, hloc, hn, hexec⟩ := isExecutable_iff.mp h
  obtain ⟨hvalid, between, mid, left, hfront, hbelow⟩ := (locate_join_iff hdir hrel).mp hloc
  have hwalk := walk_eq_ok_iff.mpr ⟨between, hfront⟩
  have hlocate : fs.locate base dir = .ok mid :=
    locate_eq_ok_iff.mpr ⟨requireValid_of_join hdir hrel hvalid, hwalk⟩
  have hmid : fs.IsRooted mid :=
    isRooted_of_walk _ (hbase.start dir) (fun _ => Path.slash_not_mem_segments) hwalk
  rw [Path.segments_of_bare hname] at hbelow
  -- No directory is a program, so the name is neither empty nor `.` nor `..`.
  have hnot : fs.node? loc ≠ some .directory := by
    rintro hd
    obtain rfl := Option.some.inj (hn.symm.trans hd)
    cases hexec
  refine mem_namesAt_iff.mpr ⟨mid, hlocate, hbelow.directory, ?_⟩
  cases hbelow with
  | stay hd _ h =>
    cases h
    exact absurd hd hnot
  | up hd h =>
    cases h
    exact absurd (hmid.dropLast hd) hnot
  | down _ _ _ _ hn => rw [hn]; rfl
  | link _ _ _ _ hn => rw [hn]; rfl

end FileSystem

namespace Search

open FileSystem

variable {fs : FileSystem} {base : Location} {dirs : List String} {start name dir : String}

/-! ## 5. Lists -/

theorem beginsWith_iff : beginsWith start name = true ↔ start.toList <+: name.toList :=
  List.isPrefixOf_iff_prefix

/-- **What is listed:** the names of the directories that begin as asked and are those of
programs. -/
theorem mem_executables_iff : name ∈ executables dirs fs base start ↔ start.toList <+: name.toList ∧
    ∃ dir ∈ dirs,
      name ∈ fs.namesAt base dir ∧ fs.isExecutable base (Path.join dir name) = true := by
  simp only [executables, Std.ExtTreeSet.mem_ofList, List.contains_iff_mem, List.mem_flatMap,
    executablesIn, List.mem_filter, Bool.and_eq_true, beginsWith_iff]
  constructor
  · rintro ⟨dir, hdir, hname, hstart, hexec⟩
    exact ⟨hstart, dir, hdir, hname, hexec⟩
  · rintro ⟨hstart, dir, hdir, hname, hexec⟩
    exact ⟨dir, hdir, hname, hstart, hexec⟩

/-- No directory of a search path is blank. -/
theorem ne_empty_of_mem_split {value : String} (h : dir ∈ split value) : dir ≠ "" := by
  simpa using (List.mem_filter.mp h).2

/-- **Neither is one of a list that is made of search paths and prepended directories.** -/
theorem ne_empty_of_mem_after {value : String} {uses : List Use}
    (huses : ∀ dirs, Use.replaceDirs dirs ∉ uses) (h : dir ∈ ((ofPath value).after uses).dirs) :
    dir ≠ "" := by
  induction uses using List.reverseRecOn with
  | nil => exact ne_empty_of_mem_split h
  | append_singleton uses u ih =>
    have ih := ih fun dirs hmem => huses dirs (List.mem_append_left _ hmem)
    rw [after_append] at h
    cases u with
    | ask q =>
      rw [dirs_afterUse_ask] at h
      exact ih h
    | replaceDirs dirs => exact absurd (by simp) (huses dirs)
    | setPath value => exact ne_empty_of_mem_split h
    | prepend front =>
      simp only [afterUse, prepend] at h
      split_ifs at h with hblank
      · exact ih h
      · rcases List.mem_cons.mp h with rfl | h
        · exact hblank
        · exact ih h

/-- A bare name is found if it is that of a program in one of the directories. -/
theorem isSome_lookup_iff {cwd : String} (hname : Path.hasSlash name = false) :
    (lookup dirs fs base name cwd).isSome ↔ name ≠ "" ∧
      ∃ dir ∈ dirs, fs.isExecutable base (Path.join (Path.join cwd dir) name) = true := by
  by_cases hempty : name = ""
  · simp [lookup, hempty]
  · simp [lookup, hempty, hname]

/-- An empty name is no program's, since its path is that of a directory. -/
theorem ne_empty_of_isExecutable (hdir : dir ≠ "")
    (h : fs.isExecutable base (Path.join dir name) = true) : name ≠ "" := by
  rintro rfl
  obtain ⟨loc, n, hloc, hn, hexec⟩ := isExecutable_iff.mp h
  obtain ⟨-, between, mid, left, -, hbelow⟩ := (locate_join_iff hdir rfl).mp hloc
  obtain ⟨hd, -, rfl⟩ := leads_empty_iff.mp hbelow
  obtain rfl := Option.some.inj (hn.symm.trans hd)
  cases hexec

/-- **What is listed is what is found.**  On a list that is made of search paths and prepended
directories, used in any way, from a place of the machine: a name without a slash is listed among
those that begin with `start` exactly if it begins with it and a search list that remembers nothing
finds a program for it. -/
theorem mem_executables_iff_resolve (hplace : fs.IsPlace base) {value : String} {uses : List Use}
    (huses : ∀ dirs, Use.replaceDirs dirs ∉ uses) (hname : Path.hasSlash name = false)
    (hlong : ∀ dir ∈ ((ofPath value).after uses).dirs,
      (Path.join (Path.join base.path dir) name).utf8ByteSize < pathLimit) :
    name ∈ executables ((ofPath value).after uses).dirs fs base start ↔
      start.toList <+: name.toList ∧
        ((ofDirs ((ofPath value).after uses).dirs).resolve fs base name base.path).1.isSome := by
  generalize hdirs : ((ofPath value).after uses).dirs = dirs at hlong ⊢
  have hblank : ∀ dir ∈ dirs, dir ≠ "" := fun dir hdir =>
    ne_empty_of_mem_after huses (hdirs ▸ hdir)
  -- A program behind the path of the place is one where the list is read.
  have hprobe : ∀ dir ∈ dirs, fs.isExecutable base (Path.join (Path.join base.path dir) name) =
      fs.isExecutable base (Path.join dir name) := by
    intro dir hdir
    have hjoin := Path.join_join (hblank dir hdir) base.path name
    rw [hjoin]
    exact hplace.isExecutable_join (Path.join_ne_empty (hblank dir hdir) name)
      (hjoin ▸ hlong dir hdir)
  have hresolve : ((ofDirs dirs).resolve fs base name base.path).1 =
      lookup dirs fs base name base.path := answer_ofDirs dirs ⟨fs, base, name, base.path⟩
  rw [hresolve, isSome_lookup_iff hname, mem_executables_iff]
  refine and_congr_right fun _ => ?_
  constructor
  · rintro ⟨dir, hdir, -, hexec⟩
    exact ⟨ne_empty_of_isExecutable (hblank dir hdir) hexec, dir, hdir, hprobe dir hdir ▸ hexec⟩
  · rintro ⟨-, dir, hdir, hexec⟩
    rw [hprobe dir hdir] at hexec
    exact ⟨dir, hdir, mem_namesAt_of_isExecutable hplace.rooted (hblank dir hdir) hname hexec,
      hexec⟩

/-- A machine with a link to a directory that has a program and a link to it. -/
def linkedTools : FileSystem :=
  let directories := (FileSystem.empty.set ["w"] .directory).set ["w", "bin"] .directory
  let tools := (directories.set ["w", "bin", "tool"] (.file [] true)).set ["w", "bin", "tap"]
    (.link "./tool")
  tools.set ["w", "l"] (.link "bin")

/-- A search path with a directory that does not exist, behind the link. -/
def linkedSearch : Search := (ofPath "none: ").after [.prepend " l/ "]

/-- The link in that directory is listed and found. -/
theorem mem_executables_iff_resolve_linked :
    linkedTools.IsPlace ["w"] ∧ (∀ dirs, Use.replaceDirs dirs ∉ [Use.prepend " l/ "]) ∧
      (∀ dir ∈ linkedSearch.dirs,
        (Path.join (Path.join (Location.path ["w"]) dir) "tap").utf8ByteSize < pathLimit) ∧
      ("tap" ∈ executables linkedSearch.dirs linkedTools ["w"] "ta" ↔ "ta".toList <+: "tap".toList ∧
        ((ofDirs linkedSearch.dirs).resolve linkedTools ["w"] "tap"
          (Location.path ["w"])).1.isSome) ∧
      ((ofDirs linkedSearch.dirs).resolve linkedTools ["w"] "tap" (Location.path ["w"])).1 =
        some "/w/l/tap" := by
  have hplace : linkedTools.IsPlace ["w"] := ⟨by decide, by decide⟩
  have huses : ∀ dirs, Use.replaceDirs dirs ∉ [Use.prepend " l/ "] := by simp
  have hlong : ∀ dir ∈ linkedSearch.dirs,
      (Path.join (Path.join (Location.path ["w"]) dir) "tap").utf8ByteSize < pathLimit := by decide
  exact ⟨hplace, huses, hlong, mem_executables_iff_resolve hplace huses (by decide) hlong,
    by decide +kernel⟩

end Search
end CommandShell
