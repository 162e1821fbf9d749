import Remedy.Pipeline
import Remedy.Proofs.FileTree.Spelling

/-!
# Excluded directories

A filter compares the beginnings of spellings. For spellings whose steps are all names that tells
whether a path leads into an excluded directory. A path that gets there by a detour, over a point,
over two points or from the root, begins like none of the excluded ones and is kept.
-/

set_option autoImplicit false

namespace Remedy

/-! ## Paths into a directory -/

namespace Path

/-- Carried out, the steps of a path lead to something in a directory, seen from another one. -/
def LeadsInto (directory : Path) (dir spelling : String) : Prop :=
  ∃ names ≠ [], denoted directory spelling = denoted directory dir ++ names

/-- The steps of a path begin with those of a directory, whose last step is the empty one behind
its slash. -/
def SpelledThrough (dir spelling : String) : Prop :=
  ∃ rest ≠ [], steps spelling = (steps dir).dropLast ++ rest

def Plain (spelling : String) : Prop :=
  ∀ step ∈ steps spelling, IsName step

/-- A spelling of a directory, with a slash at its end, all of whose steps are names. -/
def PlainDirectory (dir : String) : Prop :=
  ∀ step ∈ (steps dir).dropLast, IsName step

theorem denoted_of_plain (directory : Path) {spelling : String} (plain : Plain spelling) :
    denoted directory spelling = directory ++ steps spelling := by
  obtain ⟨step, rest, whole⟩ := List.exists_cons_of_ne_nil (steps_ne_nil spelling)
  have relative : isAbsolute spelling = false :=
    isAbsolute_of_first_isName whole (plain step (by simp [whole]))
  rw [denoted, start, relative, foldl_advance_of_names plain]
  rfl

theorem denoted_of_plainDirectory (directory : Path) {dir : String}
    (slash : endsInSlash dir = true) (plain : PlainDirectory dir) :
    denoted directory dir = directory ++ (steps dir).dropLast := by
  obtain ⟨front, -, stepsEq⟩ := steps_of_endsInSlash slash
  have before : (steps dir).dropLast = (splitChars front).map String.ofList := by
    rw [stepsEq, List.dropLast_concat]
  obtain ⟨step, rest, whole⟩ : ∃ step rest, (splitChars front).map String.ofList = step :: rest :=
    List.exists_cons_of_ne_nil (by simp [splitChars_ne_nil])
  have begins : steps dir = step :: (rest ++ [""]) := by
    rw [stepsEq, whole, List.cons_append]
  have relative : isAbsolute dir = false :=
    isAbsolute_of_first_isName begins (plain step (by simp [before, whole]))
  rw [before]
  rw [PlainDirectory, before] at plain
  rw [denoted, start, relative, stepsEq, List.foldl_append, foldl_advance_of_names plain]
  simp [advance]

/-- Without detours a path leads into a directory just if it is spelled through it. -/
theorem leadsInto_iff_of_plain (directory : Path) {dir spelling : String}
    (slash : endsInSlash dir = true) (plainDir : PlainDirectory dir) (plain : Plain spelling) :
    LeadsInto directory dir spelling ↔ SpelledThrough dir spelling := by
  rw [LeadsInto, SpelledThrough, denoted_of_plain directory plain,
    denoted_of_plainDirectory directory slash plainDir]
  simp only [List.append_assoc, List.append_cancel_left_eq]

end Path

/-! ## What a filter keeps -/

namespace PathFilter

variable {filter : PathFilter}

theorem mem_selectFrom_iff (seen : List String) (paths : List String) (path : String) :
    path ∈ filter.selectFrom seen paths ↔
      path ∈ paths ∧ filter.keeps path = true ∧ path ∉ seen := by
  induction paths generalizing seen with
  | nil => simp [selectFrom]
  | cons first rest ih =>
    simp only [selectFrom]
    split
    · next kept =>
      simp only [Bool.and_eq_true, Bool.not_eq_true', List.contains_eq_mem,
        decide_eq_false_iff_not] at kept
      rw [List.mem_cons, ih, List.mem_cons]
      by_cases same : path = first
      · subst same
        simp [kept.1, kept.2]
      · simp [same]
    · next dropped =>
      rw [ih, List.mem_cons]
      by_cases same : path = first
      · subst same
        simp only [Bool.and_eq_true, Bool.not_eq_true', List.contains_eq_mem,
          decide_eq_false_iff_not] at dropped
        simp only [true_or, true_and]
        tauto
      · simp [same]

theorem mem_select_iff (raw : List String) (path : String) :
    path ∈ filter.select raw ↔ path ∈ raw.map normalize ∧ filter.keeps path = true := by
  rw [select, mem_selectFrom_iff]
  simp

theorem keeps_iff_of_directories
    (directories : ∀ dir ∈ filter.excluded, Path.endsInSlash dir = true) (path : String) :
    filter.keeps path = true ↔ path ≠ "" ∧ filter.hasExtension path = true ∧
      ¬ ∃ dir ∈ filter.excluded, Path.SpelledThrough dir path := by
  have through (dir : String) (member : dir ∈ filter.excluded) :
      beginsWith path dir = true ↔ Path.SpelledThrough dir path :=
    Path.isPrefixOf_iff_steps (directories dir member) path
  have excluded : filter.excludes path = true ↔
      ∃ dir ∈ filter.excluded, Path.SpelledThrough dir path := by
    rw [excludes, List.any_eq_true]
    exact exists_congr fun dir => and_congr_right (through dir)
  rw [keeps, Bool.and_eq_true, Bool.and_eq_true, Bool.not_eq_true', ← Bool.not_eq_true, excluded,
    and_assoc, decide_eq_true_eq]

end PathFilter

/-! ## Filters as values -/

namespace Selection

theorem endsInOne_texts (path : String) (endings : List String) :
    endsInOne path (endings.map .str) = .ok (endings.any fun e => PathFilter.endsIn path e) := by
  induction endings with
  | nil => rfl
  | cons ending rest ih =>
    rw [List.map_cons, endsInOne, ih, List.any_cons]
    cases PathFilter.endsIn path ending <;> rfl

theorem beginsWithOne_texts (path : String) (starts : List String) :
    beginsWithOne path (starts.map .str) =
      .ok (starts.any fun start => PathFilter.beginsWith path start) := by
  induction starts with
  | nil => rfl
  | cons start rest ih =>
    rw [List.map_cons, beginsWithOne, ih, List.any_cons]
    cases PathFilter.beginsWith path start <;> rfl

theorem keepsNamed_ofFilter (filter : PathFilter) (path name : String) :
    (ofFilter filter).keepsNamed path name =
      .ok (filter.hasExtension name && !filter.excludes path) := by
  have extension : (ofFilter filter).hasExtension name = .ok (filter.hasExtension name) :=
    endsInOne_texts name filter.extensions
  have excluded : (ofFilter filter).excludes path = .ok (filter.excludes path) :=
    beginsWithOne_texts path filter.excluded
  rw [keepsNamed, extension, excluded]
  cases filter.hasExtension name <;> rfl

theorem selectFrom_ofFilter (filter : PathFilter) (seen paths : List String) :
    (ofFilter filter).selectFrom seen paths = .ok (filter.selectFrom seen paths) := by
  induction paths generalizing seen with
  | nil => rfl
  | cons path rest ih =>
    rw [selectFrom, PathFilter.selectFrom, PathFilter.keeps, keepsNamed_ofFilter, ih, ih]
    by_cases empty : path = ""
    · simp [empty]
    · cases known : seen.contains path with
      | true => simp
      | false =>
        cases filter.hasExtension path <;> cases filter.excludes path <;> simp [empty, Except.map]

theorem select_ofFilter (filter : PathFilter) (raw : List String) :
    (ofFilter filter).select raw = .ok (filter.select raw) :=
  selectFrom_ofFilter filter [] _

end Selection

namespace PathFilter

variable {filter : PathFilter}

/-- Excluded directories are left out exactly if every path that leads into one is spelled through
one, as plain spellings are. Any other path into an excluded directory is kept, and so it is where
the filter comes from settings. -/
theorem select_outside_iff
    (directories : ∀ dir ∈ filter.excluded, Path.endsInSlash dir = true)
    (directory : Path) (raw : List String) :
    ((∀ path ∈ filter.select raw, ∀ dir ∈ filter.excluded,
        ¬ Path.LeadsInto directory dir path) ↔
      ∀ path ∈ raw.map normalize, path ≠ "" → filter.hasExtension path = true →
        (∃ dir ∈ filter.excluded, Path.LeadsInto directory dir path) →
        ∃ dir ∈ filter.excluded, Path.SpelledThrough dir path) ∧
    (∀ path, Path.Plain path → ∀ dir ∈ filter.excluded, Path.PlainDirectory dir →
      (Path.LeadsInto directory dir path ↔ Path.SpelledThrough dir path)) ∧
    (Selection.ofFilter filter).select raw = .ok (filter.select raw) := by
  refine ⟨⟨?_, ?_⟩, ?_, Selection.select_ofFilter filter raw⟩
  · rintro outside path candidate filled extended ⟨dir, member, leads⟩
    by_contra detour
    have kept : path ∈ filter.select raw :=
      (mem_select_iff raw path).mpr ⟨candidate,
        (keeps_iff_of_directories directories path).mpr ⟨filled, extended, detour⟩⟩
    exact outside path kept dir member leads
  · intro spelled path kept dir member leads
    obtain ⟨candidate, keeps⟩ := (mem_select_iff raw path).mp kept
    obtain ⟨filled, extended, notThrough⟩ := (keeps_iff_of_directories directories path).mp keeps
    exact notThrough (spelled path candidate filled extended ⟨dir, member, leads⟩)
  · intro path plain dir member plainDir
    exact Path.leadsInto_iff_of_plain directory (directories dir member) plainDir plain

/-- Names that only begin like an excluded directory are kept, and nothing in it is. -/
theorem select_outside_plain :
    (∀ dir ∈ PathFilter.default.excluded, Path.endsInSlash dir = true) ∧
      PathFilter.default.select ["scripts/fix.js", "scripts.js"] = ["scripts.js"] ∧
      ∀ path ∈ PathFilter.default.select ["scripts/fix.js", "scripts.js"],
        ∀ dir ∈ PathFilter.default.excluded, ¬ Path.LeadsInto ["work"] dir path := by
  have directories : ∀ dir ∈ PathFilter.default.excluded, Path.endsInSlash dir = true := by
    decide
  have plain : ∀ path ∈ ["scripts/fix.js", "scripts.js"].map normalize,
      ∀ step ∈ Path.steps path, Path.IsName step := by
    decide
  have plainDirectories : ∀ dir ∈ PathFilter.default.excluded,
      ∀ step ∈ (Path.steps dir).dropLast, Path.IsName step := by
    decide
  obtain ⟨guarded, alike, -⟩ :=
    select_outside_iff directories ["work"] ["scripts/fix.js", "scripts.js"]
  refine ⟨directories, by decide, guarded.mpr ?_⟩
  rintro path candidate - - ⟨dir, member, leads⟩
  exact ⟨dir, member,
    (alike path (plain path candidate) dir member (plainDirectories dir member)).mp leads⟩

/-- A point in front is detour enough: a run over a script in an excluded directory rewrites it. -/
theorem detour_into_excluded :
    let pipeline : Pipeline := ⟨"", ⟨"", .str "main", .str "origin",
      Selection.ofFilter PathFilter.default⟩, .standard [], false⟩
    let generate : Generator Unit := fun _ asked => Step.done asked (some "run(x)")
    let around : Surroundings := ⟨["work"], "k", fun _ => none, .notInstalled⟩
    let state : RunState Unit := ⟨.initial, ⟨[(["work"], .directory),
      (["work", "scripts"], .directory),
      (["work", "scripts", "x.js"], .file (Text.Utf8.encode "exec(x)\n") 0o644)]⟩, ()⟩
    (∀ dir ∈ PathFilter.default.excluded, Path.isAbsolute dir = false ∧
        Path.endsInSlash dir = true) ∧
      PathFilter.default.select ["./scripts/x.js"] = ["./scripts/x.js"] ∧
      "scripts/" ∈ PathFilter.default.excluded ∧
      Path.LeadsInto around.directory "scripts/" "./scripts/x.js" ∧
      (pipeline.run generate around (some ["./scripts/x.js"]) state).state.tree.find?
          ["work", "scripts", "x.js"] =
        some (.file (Text.Utf8.encode "run(x)\n") 0o644) := by
  intro pipeline generate around state
  refine ⟨by decide, by decide, by decide, ⟨["x.js"], by decide, ?_⟩, ?_⟩
  · decide
  · decide +kernel

end PathFilter

end Remedy
