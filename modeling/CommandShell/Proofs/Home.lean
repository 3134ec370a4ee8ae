/-
# `cd` and HOME

A target of `cd` that is `~`, or starts with `~` and a slash, is a path in HOME.  What stands behind
the slash is joined to HOME as a path of its own, so the tilde stands for HOME, and the slash for a
slash, unless that path is absolute: then it is the target, and HOME makes no difference
(`cd_home_iff`, `cd_home_ne`).

Two commands that change the directory are alike (`CdAlike`) when they do the same to the shell,
apart from the text that is reported when there is no directory to change to.
-/
import CommandShell.Proofs.Arguments
import CommandShell.Proofs.Following

namespace CommandShell

namespace Path

variable {home rest : String}

/-! ## 1. Paths in HOME -/

/-- A path in a directory is the text of the directory, a slash and the path; there is no other
slash if the directory ends with one. -/
theorem join_of_relative (hhome : isAbsolute home = true) (hrest : isAbsolute rest = false) :
    (∃ front, home = front ++ "/" ∧ join home rest = front ++ "/" ++ rest) ∨
      join home rest = home ++ "/" ++ rest := by
  have hne : home ≠ "" := by
    rintro rfl
    cases hhome
  by_cases hlast : home.toList.getLast? = some '/'
  · obtain ⟨front, rfl⟩ := exists_of_getLast?_slash hlast
    exact .inl ⟨front, rfl, by simp [join, hrest]⟩
  · exact .inr (by simp [join, hrest, hne, hlast])

/-- **A path in a directory has the components of the directory, and those of the path behind
them.** -/
theorem components_join_of_relative (hhome : isAbsolute home = true)
    (hrest : isAbsolute rest = false) :
    components (join home rest) = components home ++ (segments rest).filter counts := by
  rw [components, if_pos (isAbsolute_join hhome rest), components, if_pos hhome, List.cons_append]
  congr 1
  rcases join_of_relative hhome hrest with ⟨front, rfl, hjoin⟩ | hjoin
  · rw [hjoin, segments_append, segments_slash]
    simp [counts]
  · rw [hjoin, segments_append, List.filter_append]

end Path

namespace Builtin

open Deed FileSystem

variable {s : Session} {job : Job} {home rest text text' path path' : String} {loc : Location}

/-! ## 2. Where targets lead -/

theorem expandHome_of_absolute {env : Environment} (h : Path.isAbsolute text = true) :
    expandHome env text = .ok text := by
  simp only [Path.isAbsolute, beq_iff_eq] at h
  simp only [expandHome]
  split
  next htext => simp [htext] at h
  next htext => simp [htext] at h
  next => rfl

theorem expandHome_tilde {env : Environment} (hhome : env.value? "HOME" = some home) :
    expandHome env "~" = .ok (Path.join home "") := by
  simp [expandHome, hhome]

theorem expandHome_tilde_slash {env : Environment} (hhome : env.value? "HOME" = some home)
    (rest : String) : expandHome env ("~/" ++ rest) = .ok (Path.join home rest) := by
  simp [expandHome, hhome]

/-- Where `cd` leads to, by an absolute path: where its names do, if that is a directory. -/
theorem destination_eq_ok_iff (hpath : expandHome s.env text = .ok path)
    (habs : Path.isAbsolute path = true) :
    destination s text = .ok loc ↔ '\x00' ∉ path.toList ∧
      s.world.files.nameable.walk linkLimit [] (Path.segments path) = .ok loc ∧
      s.world.files.nameable.node? loc = some .directory := by
  have hne : path ≠ "" := by
    rintro rfl
    cases habs
  have hstart : start s.world.directory path = [] := if_pos habs
  have hlocate (loc : Location) := @locateStepwise_eq_some_iff s.world.files s.world.directory loc
    path
  simp only [hstart, ne_eq, hne, not_false_eq_true, true_and] at hlocate
  simp only [destination, hpath, bind, Except.bind, Path.join_of_absolute habs]
  rw [← and_assoc, ← hlocate]
  split
  next hnone => simp [hnone]
  next found hfound =>
    split
    next hd => simpa [hfound] using fun heq => heq ▸ hd
    next hd =>
      simp only [hfound, reduceCtorEq, Option.some.injEq, false_iff]
      rintro ⟨rfl, hd'⟩
      exact hd hd'

section Home

variable (hhome : s.env.value? "HOME" = some home) (habs : Path.isAbsolute home = true)
include hhome habs

/-- **A path behind the tilde leads where it leads behind HOME,** unless it is absolute. -/
theorem destination_tilde_slash (hrest : Path.isAbsolute rest = false) :
    destination s ("~/" ++ rest) = .ok loc ↔ destination s (home ++ "/" ++ rest) = .ok loc := by
  have habs' : Path.isAbsolute (home ++ "/" ++ rest) = true :=
    Path.isAbsolute_append (Path.isAbsolute_append habs _) _
  rw [destination_eq_ok_iff (expandHome_tilde_slash hhome rest) (Path.isAbsolute_join habs rest),
    destination_eq_ok_iff (expandHome_of_absolute habs') habs']
  rcases Path.join_of_relative habs hrest with ⟨front, rfl, hjoin⟩ | hjoin
  · -- HOME ends with a slash, and the second slash makes an empty name between the two.
    obtain ⟨name, names, hnames⟩ := List.exists_cons_of_ne_nil (Path.segments_ne_nil rest)
    have hdouble : Path.segments (front ++ "/" ++ "/" ++ rest) =
        Path.segments front ++ "" :: name :: names := by
      rw [Path.segments_append, Path.segments_slash, hnames, List.append_assoc,
        List.singleton_append]
    rw [hjoin, Path.segments_append, hnames, hdouble, walk_append_empty_cons]
    simp
  · rw [hjoin]

/-- **An absolute path behind the tilde leads where it leads by itself.** -/
theorem destination_tilde_absolute (hrest : Path.isAbsolute rest = true) :
    destination s ("~/" ++ rest) = .ok loc ↔ destination s rest = .ok loc := by
  have hjoin : Path.join home rest = rest := Path.join_of_absolute hrest home
  rw [destination_eq_ok_iff (expandHome_tilde_slash hhome rest) (Path.isAbsolute_join habs rest),
    destination_eq_ok_iff (expandHome_of_absolute hrest) hrest, hjoin]

/-- **The tilde alone leads to HOME.** -/
theorem destination_tilde : destination s "~" = .ok loc ↔ destination s home = .ok loc := by
  rw [destination_eq_ok_iff (expandHome_tilde hhome) (Path.isAbsolute_join habs ""),
    destination_eq_ok_iff (expandHome_of_absolute habs) habs]
  rcases @Path.join_of_relative home "" habs rfl with ⟨front, rfl, hjoin⟩ | hjoin
  · rw [hjoin, String.append_empty]
  · rw [hjoin, Path.segments_append, Path.segments_empty, walk_append_empty]
    simp only [String.toList_append, List.mem_append, and_assoc, and_self_iff]
    simp

/-- **What the tilde leads to is in HOME:** straight below where HOME leads, if there is no `..`
behind it and no link on the way. -/
theorem destination_tilde_below (hrest : Path.isAbsolute rest = false)
    (hup : ".." ∉ Path.segments rest) (h : destination s ("~/" ++ rest) = .ok loc) :
    ∃ top, destination s home = .ok top ∧
      ((∀ front, front <+: (Path.segments rest).filter Path.counts → front ≠ [] →
        ∀ target, s.world.files.node? (top ++ front) ≠ some (.link target)) →
      loc = top ++ (Path.segments rest).filter Path.counts) := by
  have habs' : Path.isAbsolute (home ++ "/" ++ rest) = true :=
    Path.isAbsolute_append (Path.isAbsolute_append habs _) _
  rw [destination_tilde_slash hhome habs hrest,
    destination_eq_ok_iff (expandHome_of_absolute habs') habs', Path.segments_append,
    walk_eq_ok_iff] at h
  obtain ⟨hnul, ⟨left, hleads⟩, -⟩ := h
  obtain ⟨between, top, htop, hbelow⟩ := hleads.exists_of_append
  obtain ⟨name, names, hnames⟩ := List.exists_cons_of_ne_nil (Path.segments_ne_nil rest)
  refine ⟨top, ?_, fun hlink => hbelow.eq_append hup fun front hfront hne target hn =>
    hlink front hfront hne target (node?_of_nameable hn)⟩
  rw [destination_eq_ok_iff (expandHome_of_absolute habs) habs]
  exact ⟨fun hmem => hnul (by simp [hmem]), walk_eq_ok_iff.mpr ⟨between, htop⟩,
    (hnames ▸ hbelow).directory⟩

end Home

/-! ## 3. Commands that are alike -/

/-- What `cd` does when it is called with some arguments. -/
def callCd (args : List String) : Deed Int := run (ofName .cd args)

/-- What remains to do when there is no directory to change to: to say so. -/
def reportNoDirectory (target : String) : Deed Int := do
  print .stderr ((Failure.noDirectory target).message ++ "\n")
  pure 1

/-- Saying so is no success. -/
theorem run_reportNoDirectory_ne (target : String) (job : Job) :
    ((reportNoDirectory target).run.run job).1 ≠ .ok 0 := by
  rw [reportNoDirectory, run_bind]
  rcases (print .stderr ((Failure.noDirectory target).message ++ "\n")).run.run job with
    ⟨f | _, job'⟩
  · exact nofun
  · exact fun h => absurd (Except.ok.inj h) (by decide)

/-- Two ways to call `cd` that do the same: they change to the same directory, or else there is none
for both of them, and all that they may do differently is what they say about it. -/
def CdAlike (job : Job) (args args' : List String) : Prop :=
  (callCd args).run.run job = (callCd args').run.run job ∨
    ∃ target target', (callCd args).run.run job = (reportNoDirectory target).run.run job ∧
      (callCd args').run.run job = (reportNoDirectory target').run.run job

namespace CdAlike

variable {args args' args'' : List String}

theorem symm (h : CdAlike job args args') : CdAlike job args' args := by
  rcases h with heq | ⟨target, target', h, h'⟩
  · exact .inl heq.symm
  · exact .inr ⟨target', target, h', h⟩

theorem trans (h : CdAlike job args args') (h' : CdAlike job args' args'') :
    CdAlike job args args'' := by
  rcases h with heq | ⟨target, target', hargs, hargs'⟩
  · rwa [CdAlike, heq]
  · rcases h' with heq' | ⟨-, target'', -, hargs''⟩
    · exact .inr ⟨target, target', hargs, heq' ▸ hargs'⟩
    · exact .inr ⟨target, target'', hargs, hargs''⟩

end CdAlike

/-- What `cd` does, by where it leads to. -/
theorem run_cd_of_asked {target : Option String} (h : asked? job.session.env target = some text) :
    (run (.cd target)).run.run job =
      match destination job.session text with
      | .ok loc => (.ok 0, { job with session := enter job.session loc })
      | .error _ => (reportNoDirectory text).run.run job := by
  have hrun : run (.cd target) = tryCatch (performCd target) fun f =>
      (print .stderr (f.message ++ "\n") >>= fun _ => pure 1) := rfl
  rw [hrun, run_tryCatch, run_performCd, h]
  rcases destination_cases job.session text with ⟨loc, -, hd, -⟩ | hd
  · simp only [hd]
  · simp only [hd]
    rfl

/-- Commands that lead to the same directories are alike. -/
theorem cdAlike_of_destination {args args' : List String} {target target' : Option String}
    (hargs : ofName .cd args = .cd target) (hargs' : ofName .cd args' = .cd target')
    (hasked : asked? job.session.env target = some text)
    (hasked' : asked? job.session.env target' = some text')
    (h : ∀ loc, destination job.session text = .ok loc ↔ destination job.session text' = .ok loc) :
    CdAlike job args args' := by
  rw [CdAlike, callCd, callCd, hargs, hargs', run_cd_of_asked hasked, run_cd_of_asked hasked']
  rcases hd : destination job.session text with f | loc
  · rcases hd' : destination job.session text' with f' | loc'
    · exact .inr ⟨text, text', rfl, rfl⟩
    · cases hd.symm.trans ((h loc').mpr hd')
  · rw [(h loc).mp hd]
    exact .inl rfl

/-- A target that does not look like an option is one. -/
theorem ofName_cd (hhelp : Grammar.asksForHelp text = false)
    (hoption : Grammar.looksLikeOption text = false) : ofName .cd [text] = .cd (some text) := by
  have hne : text ≠ "help" := by
    rintro rfl
    cases hhelp
  have hread : cdGrammar.read [text] = .ok { operands := [text] } :=
    Grammar.read_single rfl hoption hne rfl
  exact ofArgs_of_read hread rfl _

/-- A target that starts at the root is one. -/
theorem ofName_cd_of_absolute (h : Path.isAbsolute text = true) :
    ofName .cd [text] = .cd (some text) := by
  have hhead : text.toList.head? = some '/' := by simpa [Path.isAbsolute] using h
  refine ofName_cd ?_ (by simp [Grammar.looksLikeOption, hhead])
  rw [Grammar.asksForHelp, Bool.or_eq_false_iff]
  constructor <;>
  · rw [beq_eq_false_iff_ne]
    rintro rfl
    cases h

theorem ofName_cd_tilde_slash (rest : String) :
    ofName .cd ["~/" ++ rest] = .cd (some ("~/" ++ rest)) := by
  have hhead (other : String) (h : other.toList.head? ≠ some '~') : "~/" ++ rest ≠ other := by
    rintro rfl
    exact h (by simp)
  refine ofName_cd ?_ (by simp [Grammar.looksLikeOption])
  rw [Grammar.asksForHelp, Bool.or_eq_false_iff, beq_eq_false_iff_ne, beq_eq_false_iff_ne]
  exact ⟨hhead _ (by decide), hhead _ (by decide)⟩

theorem asked?_of_ne {env : Environment} (h : text ≠ "") : asked? env (some text) = some text := by
  simp [asked?, Option.filter, h]

/-! ## 4. HOME -/

/-- **When the tilde stands for HOME.**  `cd` to a path behind the tilde is like `cd` to HOME with a
slash and the path, exactly if the path is a relative one or leads by itself where it leads behind
HOME; an absolute path is all that counts.  Without a target, with an empty one and with the tilde
alone, `cd` is like `cd` to HOME.  A relative path behind the tilde stands for one with the
components of HOME at its start, and where it leads to is straight below where HOME leads to, if
there is no `..` in it and no link on the way. -/
theorem cd_home_iff {job : Job} {home : String}
    (hhome : job.session.env.value? "HOME" = some home) (habs : Path.isAbsolute home = true) :
    (∀ rest, CdAlike job ["~/" ++ rest] [home ++ "/" ++ rest] ↔
      Path.isAbsolute rest = false ∨ CdAlike job [rest] [home ++ "/" ++ rest]) ∧
    (∀ rest, Path.isAbsolute rest = true → CdAlike job ["~/" ++ rest] [rest]) ∧
    (∀ args ∈ [[], [""], ["~"]], CdAlike job args [home]) ∧
    ∀ rest, Path.isAbsolute rest = false →
      (∃ path, expandHome job.session.env ("~/" ++ rest) = .ok path ∧
        Path.components path =
          Path.components home ++ (Path.segments rest).filter Path.counts) ∧
      ∀ loc, destination job.session ("~/" ++ rest) = .ok loc → ".." ∉ Path.segments rest →
        ∃ top, destination job.session home = .ok top ∧
          ((∀ front, front <+: (Path.segments rest).filter Path.counts → front ≠ [] →
            ∀ target, job.session.world.files.node? (top ++ front) ≠ some (.link target)) →
          loc = top ++ (Path.segments rest).filter Path.counts) := by
  have htilde (rest : String) :
      asked? job.session.env (some ("~/" ++ rest)) = some ("~/" ++ rest) :=
    asked?_of_ne (by simp [← String.toList_inj])
  have hslash {path : String} (h : Path.isAbsolute path = true) :
      asked? job.session.env (some path) = some path :=
    asked?_of_ne (by rintro rfl; cases h)
  have habsolute (rest : String) (h : Path.isAbsolute rest = true) :
      CdAlike job ["~/" ++ rest] [rest] :=
    cdAlike_of_destination (ofName_cd_tilde_slash rest) (ofName_cd_of_absolute h) (htilde rest)
      (hslash h) fun _ => destination_tilde_absolute hhome habs h
  refine ⟨fun rest => ?_, habsolute, fun args hargs => ?_, fun rest hrest => ⟨?_, ?_⟩⟩
  · have hbehind : Path.isAbsolute (home ++ "/" ++ rest) = true :=
      Path.isAbsolute_append (Path.isAbsolute_append habs _) _
    cases hrest : Path.isAbsolute rest with
    | false =>
      refine iff_of_true ?_ (.inl rfl)
      exact cdAlike_of_destination (ofName_cd_tilde_slash rest) (ofName_cd_of_absolute hbehind)
        (htilde rest) (hslash hbehind) fun _ => destination_tilde_slash hhome habs hrest
    | true =>
      have hsame := habsolute rest hrest
      exact ⟨fun h => .inr (hsame.symm.trans h),
        fun h => hsame.trans (h.resolve_left (by decide))⟩
  · have hasked : asked? job.session.env none = some home ∧
        asked? job.session.env (some "") = some home := by
      simp [asked?, hhome, Option.filter]
    simp only [List.mem_cons, List.not_mem_nil, or_false] at hargs
    rcases hargs with rfl | rfl | rfl
    · exact cdAlike_of_destination rfl (ofName_cd_of_absolute habs) hasked.1 (hslash habs)
        fun _ => .rfl
    · exact cdAlike_of_destination rfl (ofName_cd_of_absolute habs) hasked.2 (hslash habs)
        fun _ => .rfl
    · exact cdAlike_of_destination rfl (ofName_cd_of_absolute habs) (asked?_of_ne (by decide))
        (hslash habs) fun _ => destination_tilde hhome habs
  · exact ⟨_, expandHome_tilde_slash hhome rest, Path.components_join_of_relative habs hrest⟩
  · exact fun loc hloc hup => destination_tilde_below hhome habs hrest hup hloc

/-- A command in the root of a machine with two directories, one in the other. -/
def homeJob (home : String) : Job where
  session :=
    { env := { directory := "/", vars := (∅ : Std.ExtTreeMap String String).insert "HOME" home }
      world := { files := (FileSystem.empty.set ["h"] .directory).set ["h", "sub"] .directory } }
  stdout := .channel .terminalOutput
  stderr := .channel .terminalError

/-- HOME with a slash at its end: `cd ~/sub` goes to a directory in HOME, and `cd ~` to HOME. -/
theorem cd_home_iff_sub :
    (homeJob "/h/").session.env.value? "HOME" = some "/h/" ∧ Path.isAbsolute "/h/" = true ∧
      CdAlike (homeJob "/h/") ["~/sub"] ["/h//sub"] ∧ CdAlike (homeJob "/h/") ["~"] ["/h/"] ∧
      destination (homeJob "/h/").session "~/sub" = .ok ["h", "sub"] ∧
      ∃ top, destination (homeJob "/h/").session "/h/" = .ok top ∧
        ["h", "sub"] = top ++ ["sub"] := by
  have hhome : (homeJob "/h/").session.env.value? "HOME" = some "/h/" := rfl
  have habs : Path.isAbsolute "/h/" = true := rfl
  obtain ⟨hiff, -, halike, hbelow⟩ := cd_home_iff hhome habs
  obtain ⟨-, hin⟩ := hbelow "sub" rfl
  have hsub : destination (homeJob "/h/").session "~/sub" = .ok ["h", "sub"] := by decide +kernel
  have hh : destination (homeJob "/h/").session "/h/" = .ok ["h"] := by decide +kernel
  obtain ⟨top, htop, -⟩ := hin ["h", "sub"] hsub (by decide)
  obtain rfl : top = ["h"] := Except.ok.inj (htop.symm.trans hh)
  exact ⟨hhome, habs, (hiff "sub").mpr (.inl rfl), halike ["~"] (by simp), hsub, ["h"], htop, rfl⟩

/-- **A second slash behind the tilde leaves HOME:** `cd ~//` goes to the root, while `cd` to HOME
with two slashes behind it goes to HOME. -/
theorem cd_home_ne :
    ∃ (job : Job) (home rest : String), job.session.env.value? "HOME" = some home ∧
      Path.isAbsolute home = true ∧ ¬ CdAlike job ["~/" ++ rest] [home ++ "/" ++ rest] ∧
      ((callCd ["~/" ++ rest]).run.run job).2.session.env.directory = "/" ∧
      ((callCd [home ++ "/" ++ rest]).run.run job).2.session.env.directory = home := by
  have hgoes (target : String) (loc : Location) (hargs : ofName .cd [target] = .cd (some target))
      (hne : target ≠ "") (hd : destination (homeJob "/h").session target = .ok loc) :
      (callCd [target]).run.run (homeJob "/h") =
        (.ok 0, { homeJob "/h" with session := enter (homeJob "/h").session loc }) := by
    rw [callCd, hargs, run_cd_of_asked (asked?_of_ne hne), hd]
  have htilde := hgoes _ [] (ofName_cd_tilde_slash "/") (by decide) (by decide +kernel)
  have hbehind := hgoes "/h//" ["h"] (ofName_cd_of_absolute rfl) (by decide) (by decide +kernel)
  refine ⟨homeJob "/h", "/h", "/", rfl, rfl, ?_, ?_, ?_⟩
  · rintro (heq | ⟨target, -, hreport, -⟩)
    · have hsame := congrArg (·.2.session.env.directory) (htilde.symm.trans (heq.trans hbehind))
      exact absurd hsame (by decide)
    · exact run_reportNoDirectory_ne target _ (congrArg Prod.fst (hreport.symm.trans htilde))
  · exact congrArg (·.2.session.env.directory) htilde
  · exact congrArg (·.2.session.env.directory) hbehind

end Builtin
end CommandShell
