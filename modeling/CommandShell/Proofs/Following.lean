/-
# Names that lead from one location to another

Following names from a location takes one step for each name, and one for each link, which puts the
names of its target in place of its own.  `Leads` is the relation between where the names start and
where they end, with the number of links that may still be followed; names are followed to a
location exactly if they lead there (`walk_eq_ok_iff`).

In this form a list of names can be cut anywhere (`leads_append_iff`), so names that lead alike can
be put in each other's place.  An empty name inside leads nowhere, and one at the end asks for a
directory.  Names that meet no link and no `..` lead below where they start, one step down for each
name that counts (`Leads.eq_append`).
-/
import CommandShell.Proofs.Directory

namespace CommandShell

/-! ## 1. Segments of a path -/

/-- A separator ends the last field of what stands before it. -/
theorem Text.fieldsFrom_append (sep : Char) (front rest : List Char) (field : String) :
    fieldsFrom sep field (front ++ sep :: rest) =
      fieldsFrom sep field front ++ fieldsFrom sep "" rest := by
  induction front generalizing field with
  | nil => simp [fieldsFrom]
  | cons c front ih =>
    simp only [List.cons_append, fieldsFrom]
    split
    · rw [ih, List.cons_append]
    · exact ih _

theorem Text.fieldsFrom_ne_nil (sep : Char) (cs : List Char) (field : String) :
    fieldsFrom sep field cs ≠ [] := by
  induction cs generalizing field with
  | nil => exact List.cons_ne_nil _ _
  | cons c cs ih =>
    rw [fieldsFrom]
    split
    · exact List.cons_ne_nil _ _
    · exact ih _

namespace Path

/-- A slash between two texts is between their segments. -/
theorem segments_append (front rest : String) :
    segments (front ++ "/" ++ rest) = segments front ++ segments rest := by
  simpa [segments, Text.fields] using Text.fieldsFrom_append '/' front.toList rest.toList ""

@[simp] theorem segments_empty : segments "" = [""] := rfl

theorem segments_slash (front : String) : segments (front ++ "/") = segments front ++ [""] := by
  simpa using segments_append front ""

theorem segments_ne_nil (path : String) : segments path ≠ [] :=
  Text.fieldsFrom_ne_nil _ _ _

/-- A text that ends with a slash is one in front of a slash. -/
theorem exists_of_getLast?_slash {path : String} (h : path.toList.getLast? = some '/') :
    ∃ front, path = front ++ "/" := by
  obtain ⟨front, hfront⟩ := List.getLast?_eq_some_iff.mp h
  exact ⟨String.ofList front, by simp [← String.toList_inj, hfront]⟩

end Path

namespace FileSystem

/-! ## 2. The relation -/

/-- Names lead from a location to another one.  So many links may be followed at the start, and so
many may still be followed at the end. -/
inductive Leads (fs : FileSystem) (left : Nat) (result : Location) :
    Nat → Location → List String → Prop
  | done : Leads fs left result left result []
  | stay {links : Nat} {loc : Location} {name : String} {rest : List String}
      (hd : fs.node? loc = some .directory) (hname : name = "" ∨ name = ".")
      (h : Leads fs left result links loc rest) : Leads fs left result links loc (name :: rest)
  | up {links : Nat} {loc : Location} {rest : List String}
      (hd : fs.node? loc = some .directory) (h : Leads fs left result links loc.dropLast rest) :
      Leads fs left result links loc (".." :: rest)
  | down {links : Nat} {loc : Location} {name : String} {rest : List String} {n : Node}
      (hd : fs.node? loc = some .directory) (hstay : ¬ (name = "" ∨ name = "."))
      (hup : name ≠ "..") (hlong : name.utf8ByteSize ≤ nameLimit)
      (hn : fs.node? (loc ++ [name]) = some n) (hlink : ∀ target, n ≠ .link target)
      (h : Leads fs left result links (loc ++ [name]) rest) :
      Leads fs left result links loc (name :: rest)
  | link {links : Nat} {loc : Location} {name target : String} {rest : List String}
      (hd : fs.node? loc = some .directory) (hstay : ¬ (name = "" ∨ name = "."))
      (hup : name ≠ "..") (hlong : name.utf8ByteSize ≤ nameLimit)
      (hn : fs.node? (loc ++ [name]) = some (.link target))
      (h : Leads fs left result links (start loc target) (Path.segments target ++ rest)) :
      Leads fs left result (links + 1) loc (name :: rest)

variable {fs : FileSystem} {loc mid result : Location} {links left : Nat} {name : String}
  {names front rest : List String}

/-- What a link is replaced by is followed through one link less. -/
def followed (fs : FileSystem) : Nat → Location → List String → Except OsError Location
  | 0 => fun _ _ => .error .linkLoop
  | links + 1 => fs.walk links

/-- Names are followed one at a time, through however many links. -/
theorem walk_eq_walkWith (links : Nat) : fs.walk links = fs.walkWith (fs.followed links) := by
  cases links <;> rfl

/-- **Names are followed to where they lead.** -/
theorem walk_eq_ok_iff :
    fs.walk links loc names = .ok result ↔ ∃ left, fs.Leads left result links loc names := by
  constructor
  · -- The links are counted first, and then the names are taken one by one.
    suffices hwith : ∀ links, (∀ {loc names}, fs.followed links loc names = .ok result →
        ∃ fewer left, links = fewer + 1 ∧ fs.Leads left result fewer loc names) →
        ∀ (names : List String) {loc}, fs.walkWith (fs.followed links) loc names = .ok result →
          ∃ left, fs.Leads left result links loc names by
      rw [walk_eq_walkWith]
      induction links generalizing loc names with
      | zero => exact hwith 0 (fun h => by cases h) names
      | succ links ih =>
        refine hwith (links + 1) (fun h => ?_) names
        rw [followed, walk_eq_walkWith] at h
        obtain ⟨left, h⟩ := ih h
        exact ⟨links, left, rfl, h⟩
    intro links hfollow names
    induction names with
    | nil =>
      intro loc h
      obtain rfl := Except.ok.inj h
      exact ⟨links, .done⟩
    | cons name rest ih =>
      intro loc h
      rw [walkWith] at h
      split at h
      next hd =>
        simp only [pass] at h
        split_ifs at h with hstay hup hlong
        · obtain ⟨left, h⟩ := ih h
          exact ⟨left, .stay hd hstay h⟩
        · obtain ⟨left, h⟩ := ih h
          exact ⟨left, hup ▸ .up hd h⟩
        · split at h
          next => cases h
          next target hn =>
            obtain ⟨fewer, left, rfl, hleads⟩ := hfollow h
            exact ⟨left, .link hd hstay hup (Nat.le_of_not_lt hlong) hn hleads⟩
          next n hlink hn =>
            obtain ⟨left, h⟩ := ih h
            refine ⟨left, .down hd hstay hup (Nat.le_of_not_lt hlong) hn (fun target => ?_) h⟩
            rintro rfl
            exact hlink target rfl
      next => cases h
      next => cases h
  · rintro ⟨left, h⟩
    rw [walk_eq_walkWith]
    induction h with
    | done => rfl
    | stay hd hname h ih => simpa [walkWith, hd, pass, hname] using ih
    | up hd h ih => simpa [walkWith, hd, pass] using ih
    | @down links loc name rest n hd hstay hup hlong hn hlink h ih =>
      cases n with
      | link target => exact absurd rfl (hlink target)
      | _ => simpa [walkWith, hd, pass, hstay, hup, Nat.not_lt.mpr hlong, hn] using ih
    | link hd hstay hup hlong hn h ih =>
      rw [← walk_eq_walkWith] at ih
      simpa [walkWith, hd, pass, hstay, hup, Nat.not_lt.mpr hlong, hn, followed] using ih

/-! ## 3. Names in parts -/

namespace Leads

theorem directory (h : fs.Leads left result links loc (name :: rest)) :
    fs.node? loc = some .directory := by
  cases h <;> assumption

theorem of_stay (h : fs.Leads left result links loc (name :: rest))
    (hname : name = "" ∨ name = ".") : fs.Leads left result links loc rest := by
  cases h with
  | stay _ _ h => exact h
  | up => rcases hname with h | h <;> exact absurd h (by decide)
  | down _ hstay => exact absurd hname hstay
  | link _ hstay => exact absurd hname hstay

theorem append {between : Nat} (h : fs.Leads between mid links loc front)
    (h' : fs.Leads left result between mid rest) :
    fs.Leads left result links loc (front ++ rest) := by
  induction h with
  | done => exact h'
  | stay hd hname _ ih => exact .stay hd hname ih
  | up hd _ ih => exact .up hd ih
  | down hd hstay hup hlong hn hlink _ ih => exact .down hd hstay hup hlong hn hlink ih
  | link hd hstay hup hlong hn _ ih =>
    rw [List.append_assoc] at ih
    exact .link hd hstay hup hlong hn ih

/-- Names that were followed can be cut anywhere. -/
theorem exists_of_append (h : fs.Leads left result links loc (front ++ rest)) :
    ∃ between mid, fs.Leads between mid links loc front ∧
      fs.Leads left result between mid rest := by
  generalize hnames : front ++ rest = names at h
  induction h generalizing front with
  | done =>
    obtain ⟨rfl, rfl⟩ := List.append_eq_nil_iff.mp hnames
    exact ⟨left, result, .done, .done⟩
  | @stay links loc name tail hd hname h ih =>
    rcases List.append_eq_cons_iff.mp hnames with ⟨rfl, rfl⟩ | ⟨front, rfl, rfl⟩
    · exact ⟨links, loc, .done, .stay hd hname h⟩
    · obtain ⟨between, mid, hfront, hrest⟩ := ih rfl
      exact ⟨between, mid, .stay hd hname hfront, hrest⟩
  | @up links loc tail hd h ih =>
    rcases List.append_eq_cons_iff.mp hnames with ⟨rfl, rfl⟩ | ⟨front, rfl, rfl⟩
    · exact ⟨links, loc, .done, .up hd h⟩
    · obtain ⟨between, mid, hfront, hrest⟩ := ih rfl
      exact ⟨between, mid, .up hd hfront, hrest⟩
  | @down links loc name tail n hd hstay hup hlong hn hlink h ih =>
    rcases List.append_eq_cons_iff.mp hnames with ⟨rfl, rfl⟩ | ⟨front, rfl, rfl⟩
    · exact ⟨links, loc, .done, .down hd hstay hup hlong hn hlink h⟩
    · obtain ⟨between, mid, hfront, hrest⟩ := ih rfl
      exact ⟨between, mid, .down hd hstay hup hlong hn hlink hfront, hrest⟩
  | @link links loc name target tail hd hstay hup hlong hn h ih =>
    rcases List.append_eq_cons_iff.mp hnames with ⟨rfl, rfl⟩ | ⟨front, rfl, rfl⟩
    · exact ⟨links + 1, loc, .done, .link hd hstay hup hlong hn h⟩
    · obtain ⟨between, mid, hfront, hrest⟩ := ih (List.append_assoc ..)
      exact ⟨between, mid, .link hd hstay hup hlong hn hfront, hrest⟩

end Leads

/-- **Names lead where their parts lead, one after the other.** -/
theorem leads_append_iff : fs.Leads left result links loc (front ++ rest) ↔
    ∃ between mid, fs.Leads between mid links loc front ∧
      fs.Leads left result between mid rest :=
  ⟨Leads.exists_of_append, fun ⟨_, _, hfront, hrest⟩ => hfront.append hrest⟩

/-! ## 4. Names that make no difference -/

/-- An empty name in front of another one makes no difference. -/
theorem leads_empty_cons_iff : fs.Leads left result links loc ("" :: name :: rest) ↔
    fs.Leads left result links loc (name :: rest) :=
  ⟨fun h => h.of_stay (.inl rfl), fun h => .stay h.directory (.inl rfl) h⟩

/-- Neither does one among other names. -/
theorem walk_append_empty_cons (front : List String) :
    fs.walk links loc (front ++ "" :: name :: rest) = .ok result ↔
      fs.walk links loc (front ++ name :: rest) = .ok result := by
  simp only [walk_eq_ok_iff, leads_append_iff, leads_empty_cons_iff]

/-- An empty name at the end asks for a directory. -/
theorem leads_empty_iff : fs.Leads left result links loc [""] ↔
    fs.node? loc = some .directory ∧ links = left ∧ loc = result := by
  constructor
  · intro h
    refine ⟨h.directory, ?_⟩
    cases h.of_stay (.inl rfl)
    exact ⟨rfl, rfl⟩
  · rintro ⟨hd, rfl, rfl⟩
    exact .stay hd (.inl rfl) .done

/-- Names with a slash behind them lead to a directory. -/
theorem walk_append_empty (front : List String) :
    fs.walk links loc (front ++ [""]) = .ok result ↔
      fs.walk links loc front = .ok result ∧ fs.node? result = some .directory := by
  simp only [walk_eq_ok_iff, leads_append_iff, leads_empty_iff]
  constructor
  · rintro ⟨left, between, mid, hfront, hd, rfl, rfl⟩
    exact ⟨⟨between, hfront⟩, hd⟩
  · rintro ⟨⟨left, hfront⟩, hd⟩
    exact ⟨left, left, result, hfront, hd, rfl, rfl⟩

/-! ## 5. Names without links -/

/-- **Names that meet no link and no `..` lead straight down,** one step for each that counts. -/
theorem Leads.eq_append (h : fs.Leads left result links loc names) (hup : ".." ∉ names)
    (hlink : ∀ front, front <+: names.filter Path.counts → front ≠ [] →
      ∀ target, fs.node? (loc ++ front) ≠ some (.link target)) :
    result = loc ++ names.filter Path.counts := by
  induction h with
  | done => simp
  | @stay links loc name rest hd hname h ih =>
    have hname : Path.counts name = false := by rcases hname with rfl | rfl <;> rfl
    have hfilter : (name :: rest).filter Path.counts = rest.filter Path.counts :=
      List.filter_cons_of_neg (by simp [hname])
    rw [hfilter] at hlink ⊢
    exact ih (List.not_mem_of_not_mem_cons hup) hlink
  | up => exact absurd List.mem_cons_self hup
  | @down links loc name rest n hd hstay _ _ _ _ h ih =>
    have hname : Path.counts name = true := by simpa [Path.counts, not_or] using hstay
    have hfilter : (name :: rest).filter Path.counts = name :: rest.filter Path.counts :=
      List.filter_cons_of_pos hname
    rw [hfilter] at hlink ⊢
    rw [ih (List.not_mem_of_not_mem_cons hup) fun front hfront hne target => ?_]
    · simp
    · simpa using hlink (name :: front) (by simpa using hfront) (List.cons_ne_nil _ _) target
  | @link links loc name target rest hd hstay _ _ hn h ih =>
    have hname : Path.counts name = true := by simpa [Path.counts, not_or] using hstay
    refine absurd hn (hlink [name] ?_ (List.cons_ne_nil _ _) target)
    rw [List.filter_cons_of_pos hname]
    simp

end FileSystem
end CommandShell
