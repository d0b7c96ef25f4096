import Mathlib.Data.List.Induction
import Mathlib.Tactic.Common
import CloudSession.Settings

/-! # Which file settles an option

Files are read one after another, and for every parser the last one that sets an option counts.
What that is depends on the order in which the files that were found are brought. It is the last one
that the search found, whatever the order, exactly if no two files set the option differently.
-/

namespace CloudSession.Settings

/-- The text that a file gives an option. -/
def textIn (parser : Parser) (files : Files) (group name path : String) : Option String :=
  (files path).bind fun file => parser.text? [file] group name

/-- The text that the last of some files which sets an option gives it. -/
def lastText (parser : Parser) (files : Files) (paths : List String) (group name : String) :
    Option String :=
  paths.reverse.findSome? (textIn parser files group name)

/-- No two of some files set an option differently. -/
def Agree (parser : Parser) (files : Files) (paths : List String) (group name : String) : Prop :=
  ∀ path ∈ paths, ∀ other ∈ paths, ∀ text text',
    textIn parser files group name path = some text →
      textIn parser files group name other = some text' → text = text'

/-- The files that are found for a project, as often as they are found. -/
def found (search : Search) (project program : Option String) : List String :=
  (searches project program).flatMap fun (project, program) => search project program

/-- Files in the order they are found, each as often as it is found. -/
def inSearchOrder (s : Settings) (files : Files) (paths : List String) : Settings :=
  { s with contents := paths.filterMap files }

/-- A file that is there and well formed. -/
def Readable (parser : Parser) (files : Files) (path : String) : Prop :=
  ∃ file, files path = some file ∧ parser.wellFormed file = true

instance (parser : Parser) (files : Files) (path : String) :
    Decidable (Readable parser files path) :=
  decidable_of_iff _ (Option.any_eq_true parser.wellFormed (files path))

variable {parser : Parser} {files : Files} {paths : List String} {group name : String}

/-! ## Files one after another -/

/-- Of files that were read, the last that sets an option counts. -/
theorem text?_filterMap (paths : List String) :
    parser.text? (paths.filterMap files) group name = lastText parser files paths group name := by
  induction paths using List.reverseRecOn with
  | nil => exact parser.text?_nil group name
  | append_singleton paths path ih =>
    rw [List.filterMap_append, lastText, List.reverse_append, List.reverse_singleton,
      List.singleton_append, List.findSome?_cons, textIn]
    cases there : files path with
    | none => rw [List.filterMap_cons_none there, List.filterMap_nil, List.append_nil, ih]; rfl
    | some file =>
      rw [List.filterMap_cons_some there, List.filterMap_nil, parser.last_counts, ih]
      cases set : parser.text? [file] group name <;> simp [set, lastText]

/-- Files are all readable if none of them is missing and those that are there are well formed. -/
theorem forall_readable_iff : (∀ path ∈ paths, Readable parser files path) ↔
    (paths.filterMap files).all parser.wellFormed = true ∧
      (paths.any fun path => (files path).isNone) = false := by
  rw [List.all_eq_true, List.any_eq_false]
  constructor
  · refine fun readable => ⟨fun file among => ?_, fun path within => ?_⟩
    · obtain ⟨path, within, there⟩ := List.mem_filterMap.mp among
      obtain ⟨_, same, good⟩ := readable path within
      rwa [Option.some.inj (there.symm.trans same)]
    · obtain ⟨_, there, -⟩ := readable path within
      rw [there]
      exact Bool.false_ne_true
  · rintro ⟨good, there⟩ path within
    obtain ⟨file, found⟩ := Option.ne_none_iff_exists'.mp (mt Option.isNone_iff_eq_none.mpr
      (there path within))
    exact ⟨file, found, good file (List.mem_filterMap.mpr ⟨path, within, found⟩)⟩

/-- Files are read if all of them can be, and then what is in them is kept. -/
theorem readFiles_eq_ok_iff {contents : List String} :
    readFiles parser files paths = .ok contents ↔
      (∀ path ∈ paths, Readable parser files path) ∧ contents = paths.filterMap files := by
  rw [forall_readable_iff]
  unfold readFiles
  dsimp only
  split_ifs with malformed missing
  · rw [Bool.not_eq_true'] at malformed
    simp [malformed]
  · simp [missing]
  · rw [Bool.not_eq_true', Bool.not_eq_false] at malformed
    rw [Bool.not_eq_true] at missing
    rw [malformed, missing, Except.ok.injEq, eq_comm]
    simp

theorem mem_distinct {path : String} : path ∈ distinct paths ↔ path ∈ paths := by
  suffices kept : ∀ kept : List String,
      path ∈ paths.foldl (fun kept path => if kept.contains path then kept else kept ++ [path])
        kept ↔ path ∈ kept ∨ path ∈ paths by
    simpa [distinct] using kept []
  induction paths with
  | nil => simp
  | cons first rest ih =>
    intro kept
    rw [List.foldl_cons, ih, List.mem_cons]
    by_cases known : first ∈ kept
    · rw [List.contains_iff_mem.mpr known, if_pos rfl]
      constructor
      · exact fun within => within.imp_right .inr
      · rintro (within | rfl | within)
        · exact .inl within
        · exact .inl known
        · exact .inr within
    · rw [if_neg (mt List.contains_iff_mem.mp known), List.mem_append, List.mem_singleton, or_assoc]

/-! ## Files that agree -/

/-- Files that agree on an option give it the text that any of them gives it. -/
theorem lastText_eq_some_iff (agree : Agree parser files paths group name) {text : String} :
    lastText parser files paths group name = some text ↔
      ∃ path ∈ paths, textIn parser files group name path = some text := by
  constructor
  · intro last
    obtain ⟨path, within, set⟩ := List.exists_of_findSome?_eq_some last
    exact ⟨path, List.mem_reverse.mp within, set⟩
  · rintro ⟨path, within, set⟩
    cases last : lastText parser files paths group name with
    | none =>
      have unset := List.findSome?_eq_none_iff.mp last path (List.mem_reverse.mpr within)
      rw [set] at unset
      cases unset
    | some other =>
      obtain ⟨path', within', set'⟩ := List.exists_of_findSome?_eq_some last
      rw [agree path' (List.mem_reverse.mp within') path within other text set' set]

theorem Agree.of_subset {others : List String} (agree : Agree parser files paths group name)
    (within : ∀ path ∈ others, path ∈ paths) : Agree parser files others group name :=
  fun path among other also => agree path (within path among) other (within other also)

/-- The order of files that agree makes no difference, nor does how often each one is there. -/
theorem Agree.lastText_eq {others : List String} (agree : Agree parser files paths group name)
    (same : ∀ path, path ∈ others ↔ path ∈ paths) :
    lastText parser files others group name = lastText parser files paths group name := by
  refine Option.ext fun text => ?_
  rw [lastText_eq_some_iff agree, lastText_eq_some_iff (agree.of_subset fun path => (same path).mp)]
  exact exists_congr fun path => and_congr_left fun _ => same path

/-- An order that brings one file to the end. -/
def lastly (last : String) (paths : List String) : List String :=
  if last ∈ paths then paths.erase last ++ [last] else paths

theorem lastly_perm (last : String) (paths : List String) : (lastly last paths).Perm paths := by
  unfold lastly
  split_ifs with within
  · exact (List.perm_append_singleton last _).trans (List.perm_cons_erase within).symm
  · exact .refl paths

theorem lastText_lastly {last text : String} (within : last ∈ paths)
    (set : textIn parser files group name last = some text) :
    lastText parser files (lastly last paths) group name = some text := by
  rw [lastText, lastly, if_pos within, List.reverse_append, List.reverse_singleton,
    List.singleton_append, List.findSome?_cons, set]

/-! ## Options -/

/-- The value of an option depends on nothing but what options there are and what files give
them. -/
theorem find_congr {s t : Settings} (groups : s.groups = t.groups) (parser : s.parser = t.parser)
    (given : ∀ group name, s.given? group name = t.given? group name) (depth : Nat) :
    ∀ group name, s.find depth group name = t.find depth group name := by
  induction depth with
  | zero => exact fun _ _ => rfl
  | succ depth ih =>
    intro group name
    -- References are followed with one less to go, so the induction covers them.
    have read : s.find depth = t.find depth := funext fun group => funext (ih group)
    have referred : s.referred (s.find depth) group = t.referred (t.find depth) group := by
      funext name
      rw [read, Settings.referred, Settings.referred, groups]
    rw [find, find, referred, given, spec?, spec?, groups, parser]

theorem get_congr {s t : Settings} (groups : s.groups = t.groups) (parser : s.parser = t.parser)
    (given : ∀ group name, s.given? group name = t.given? group name) (group name : String) :
    s.get group name = t.get group name := by
  rw [get, get, size, size, groups]
  exact find_congr groups parser given _ group name

/-! ## Loading -/

/-- A way to bring files into an order. -/
def Orders (order : List String → List String) : Prop := ∀ paths, (order paths).Perm paths

theorem orders_lastly (last : String) : Orders (lastly last) := lastly_perm last

section

variable {s : Settings} {search : Search} {project program : Option String}
variable {order : List String → List String}

theorem Orders.mem_iff (orders : Orders order) {path : String} :
    path ∈ order (distinct paths) ↔ path ∈ paths :=
  (orders _).mem_iff.trans mem_distinct

/-- Files that are all readable are read in the order they are brought into. -/
theorem load_eq (fresh : s.loaded = false) (orders : Orders order)
    (readable : ∀ path ∈ found search project program, Readable s.parser files path) :
    s.load search files order project program =
      { settings :=
          { inSearchOrder s files (order (distinct (found search project program))) with
            loaded := true
            given := order (distinct (found search project program)) }
        asked := searches project program } := by
  have all : readFiles s.parser files (order (distinct (found search project program))) = _ :=
    readFiles_eq_ok_iff.mpr ⟨fun path within => readable path (orders.mem_iff.mp within), rfl⟩
  unfold load
  simp only [fresh, Bool.false_eq_true, if_false]
  rw [show order (distinct ((searches project program).flatMap fun (project, program) =>
    search project program)) = order (distinct (found search project program)) from rfl, all]
  rfl

theorem given?_load (fresh : s.loaded = false) (orders : Orders order)
    (readable : ∀ path ∈ found search project program, Readable s.parser files path)
    (group name : String) :
    (s.load search files order project program).settings.given? group name =
      lastText s.parser files (order (distinct (found search project program))) group name := by
  rw [load_eq fresh orders readable]
  exact text?_filterMap _

/-- An option has the text that the last of the files found gives it, whatever order they are
brought into, exactly if no two of them set it differently. -/
theorem given?_load_eq_last_iff (fresh : s.loaded = false)
    (readable : ∀ path ∈ found search project program, Readable s.parser files path)
    (group name : String) :
    (∀ order, Orders order →
      (s.load search files order project program).settings.given? group name =
        lastText s.parser files (found search project program) group name) ↔
      Agree s.parser files (found search project program) group name := by
  constructor
  · intro last path within other also text text' set set'
    -- Either of two files can come last, and what the search found last is the same both times.
    have first := last _ (orders_lastly path)
    have second := last _ (orders_lastly other)
    rw [given?_load fresh (orders_lastly _) readable, lastText_lastly (mem_distinct.mpr within) set]
      at first
    rw [given?_load fresh (orders_lastly _) readable, lastText_lastly (mem_distinct.mpr also) set']
      at second
    exact Option.some.inj (first.trans second.symm)
  · intro agree order orders
    rw [given?_load fresh orders readable]
    exact agree.lastText_eq fun path => orders.mem_iff

end

/-- Settings are read from all the files that were found, and what the last of them gives an option
in the order they were brought into counts. That is the last one found, whatever the order, exactly
for an option that no two files set differently. If there is no other option, every order leads to
the values that the files have one after another. -/
theorem load_keeps_search_order (s : Settings) (search : Search) (files : Files)
    (project program : Option String) (fresh : s.loaded = false)
    (readable : ∀ path ∈ found search project program, Readable s.parser files path) :
    (∀ order, Orders order →
      (s.load search files order project program).fault = none ∧
        ∀ group name, (s.load search files order project program).settings.given? group name =
          lastText s.parser files (order (distinct (found search project program))) group name) ∧
      (∀ group name, (∀ order, Orders order →
        (s.load search files order project program).settings.given? group name =
          lastText s.parser files (found search project program) group name) ↔
        Agree s.parser files (found search project program) group name) ∧
      ((∀ group name, Agree s.parser files (found search project program) group name) →
        ∀ order, Orders order → ∀ group name,
          (s.load search files order project program).settings.get group name =
            (inSearchOrder s files (found search project program)).get group name) := by
  refine ⟨fun order orders => ⟨?_, given?_load fresh orders readable⟩,
    given?_load_eq_last_iff fresh readable, fun agree order orders => get_congr ?_ ?_ ?_⟩
  · rw [load_eq fresh orders readable]
  · rw [load_eq fresh orders readable]
    rfl
  · rw [load_eq fresh orders readable]
    rfl
  · intro group name
    rw [(given?_load_eq_last_iff fresh readable group name).mpr (agree group name) order orders]
    exact (text?_filterMap _).symm

/-- The file of the library and the file of a project. -/
def twoFiles (common own : String) : Files := fun path =>
  if path = "vcompute.conf" then some common
  else if path = "vcompute-x.conf" then some own
  else none

/-- A search that comes upon the file of the library first and last. -/
def twice : Search := fun _ _ => ["vcompute.conf", "vcompute-x.conf", "vcompute.conf"]

/-- Files that set how long sessions are kept to the same. -/
def alike : Files :=
  twoFiles "[session]\nsession_interval = 7\n"
    "[session]\nsession_interval = 7\ngreen = yes\n"

/-- An option that two files set to the same. -/
theorem load_keeps_search_order_of_alike :
    ({} : Settings).loaded = false ∧
      (∀ path ∈ found twice (some "vcompute-x") none, Readable .ini alike path) ∧
      ∀ order, Orders order →
        (({} : Settings).load twice alike order (some "vcompute-x") none).settings.given?
          "session" "session_interval" = some "7" := by
  have readable : ∀ path ∈ found twice (some "vcompute-x") none, Readable .ini alike path := by
    decide +kernel
  have same : ∀ path ∈ found twice (some "vcompute-x") none,
      textIn .ini alike "session" "session_interval" path = some "7" := by
    decide +kernel
  have agree : Agree .ini alike (found twice (some "vcompute-x") none)
      "session" "session_interval" := by
    intro path within other also text text' set set'
    rw [same path within] at set
    rw [same other also] at set'
    exact Option.some.inj (set.symm.trans set')
  obtain ⟨-, last, -⟩ :=
    load_keeps_search_order {} twice alike (some "vcompute-x") none rfl readable
  refine ⟨rfl, readable, fun order orders => ?_⟩
  rw [(last _ _).mpr agree order orders]
  decide +kernel

/-- It is not so that the last file the search found counts, whatever the order. -/
theorem not_load_last_found_of_order :
    ¬ ∀ (files : Files) (order : List String → List String), Orders order →
      (∀ path ∈ found twice (some "vcompute-x") none, Readable .ini files path) →
        ∀ group name,
          (({} : Settings).load twice files order (some "vcompute-x") none).settings.given?
            group name = lastText .ini files (found twice (some "vcompute-x") none) group name := by
  let files := twoFiles "[session]\nsession_interval = 5\n" "[session]\nsession_interval = 7\n"
  intro claimed
  have readable : ∀ path ∈ found twice (some "vcompute-x") none, Readable .ini files path := by
    decide +kernel
  have same := claimed files id (fun paths => .refl paths) readable "session" "session_interval"
  exact absurd same (by decide +kernel)

end CloudSession.Settings
