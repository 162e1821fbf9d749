import Remedy.ChangeSet
import Remedy.Proofs.PathFilter.Exclusion
import Remedy.Proofs.Text.Joining
import Remedy.Proofs.Text.Trim

/-!
# What a filter selects, and in which order

Selecting goes through the paths once and remembers those that it kept. What it remembers takes the
same paths out of every later part (`selectFrom_eq_filter`), so of each path that a filter keeps the
first occurrence is selected, paths in a row are selected one part after the other, and selecting
from what was selected changes nothing.
-/

set_option autoImplicit false

namespace Remedy.PathFilter

/-! ## Normal paths -/

def slashed (c : Char) : Char :=
  if c = '\\' then '/' else c

theorem isBlank_slashed (c : Char) : Text.isBlank (slashed c) = Text.isBlank c := by
  unfold slashed
  split
  · next backslash =>
    rw [backslash]
    decide
  · rfl

theorem slashed_slashed (c : Char) : slashed (slashed c) = slashed c := by
  unfold slashed
  split <;> simp_all

theorem normalize_eq (raw : String) :
    normalize raw = String.ofList ((Text.stripChars raw.toList).map slashed) := rfl

theorem trimmed_map_slashed {text : List Char} (trimmed : Text.Trimmed text) :
    Text.Trimmed (text.map slashed) := by
  constructor
  · intro c head
    rw [List.head?_map] at head
    obtain ⟨d, isHead, rfl⟩ := Option.map_eq_some_iff.mp head
    rw [isBlank_slashed]
    exact trimmed.1 d isHead
  · intro c last
    rw [List.getLast?_map] at last
    obtain ⟨d, isLast, rfl⟩ := Option.map_eq_some_iff.mp last
    rw [isBlank_slashed]
    exact trimmed.2 d isLast

theorem normalize_normalize (raw : String) : normalize (normalize raw) = normalize raw := by
  have trimmed := trimmed_map_slashed (Text.trimmed_stripChars raw.toList)
  rw [normalize_eq, normalize_eq, String.toList_ofList, Text.stripChars_of_trimmed trimmed,
    List.map_map]
  congr 1
  exact List.map_congr_left fun c _ => slashed_slashed c

/-! ## Selecting with a memory -/

variable {filter : PathFilter}

theorem keeps_iff (path : String) :
    filter.keeps path = true ↔ path ≠ "" ∧
      (∃ ending ∈ filter.extensions, ending.toList <:+ path.toList) ∧
      ∀ start ∈ filter.excluded, ¬ start.toList <+: path.toList := by
  have excluded : filter.excludes path = false ↔
      ∀ start ∈ filter.excluded, ¬ start.toList <+: path.toList := by
    simp only [excludes, beginsWith, List.any_eq_false, List.isPrefixOf_iff_prefix]
  simp only [keeps, hasExtension, endsIn, Bool.and_eq_true, Bool.not_eq_true', excluded,
    decide_eq_true_eq, List.any_eq_true, List.isSuffixOf_iff_suffix, and_assoc]

/-- What is remembered is taken out of the paths that are selected, and that is all it does. -/
theorem selectFrom_eq_filter (seen paths : List String) :
    filter.selectFrom seen paths =
      (filter.selectFrom [] paths).filter fun path => path ∉ seen := by
  induction paths generalizing seen with
  | nil => rfl
  | cons path rest ih =>
    have behind : (filter.selectFrom [path] rest).filter (fun other => other ∉ seen) =
        filter.selectFrom (path :: seen) rest := by
      rw [ih [path], ih (path :: seen), List.filter_filter]
      refine List.filter_congr fun other _ => ?_
      simp [Bool.and_comm]
    cases kept : filter.keeps path with
    | false => simpa [selectFrom, kept] using ih seen
    | true =>
      have first : filter.selectFrom [] (path :: rest) = path :: filter.selectFrom [path] rest := by
        simp [selectFrom, kept]
      rw [first, List.filter_cons, behind]
      by_cases known : path ∈ seen
      · have same : filter.selectFrom (path :: seen) rest = filter.selectFrom seen rest := by
          rw [ih (path :: seen), ih seen]
          refine List.filter_congr fun other _ => ?_
          simp only [List.mem_cons, not_or, decide_eq_decide, and_iff_right_iff_imp]
          rintro fresh rfl
          exact fresh known
        simp [selectFrom, kept, known, same]
      · simp [selectFrom, kept, known]

theorem selectFrom_append (seen paths more : List String) :
    filter.selectFrom seen (paths ++ more) =
      filter.selectFrom seen paths ++
        (filter.selectFrom seen more).filter fun path => path ∉ filter.selectFrom seen paths := by
  induction paths generalizing seen with
  | nil => simp [selectFrom]
  | cons path rest ih =>
    rw [List.cons_append, selectFrom, selectFrom]
    split
    · rw [ih, List.cons_append, selectFrom_eq_filter (path :: seen) more,
        selectFrom_eq_filter seen more, List.filter_filter, List.filter_filter]
      congr 2
      refine List.filter_congr fun other _ => ?_
      simp only [List.mem_cons, not_or, Bool.decide_and]
      ac_rfl
    · exact ih seen

/-- Each selected path first occurs behind those that are selected before it. -/
theorem selectFrom_pairwise (seen paths : List String) :
    (filter.selectFrom seen paths).Pairwise fun first second =>
      paths.idxOf first < paths.idxOf second := by
  induction paths generalizing seen with
  | nil => exact List.Pairwise.nil
  | cons path rest ih =>
    have behind {seen : List String} (gone : path ∉ filter.selectFrom seen rest) {other : String}
        (member : other ∈ filter.selectFrom seen rest) :
        (path :: rest).idxOf other = rest.idxOf other + 1 :=
      List.idxOf_cons_ne rest fun same => gone (same ▸ member)
    have shifted {seen : List String} (gone : path ∉ filter.selectFrom seen rest) :
        (filter.selectFrom seen rest).Pairwise fun first second =>
          (path :: rest).idxOf first < (path :: rest).idxOf second := by
      refine (ih seen).imp_of_mem fun first second before => ?_
      rw [behind gone first, behind gone second]
      exact Nat.succ_lt_succ before
    rw [selectFrom]
    split
    · have gone : path ∉ filter.selectFrom (path :: seen) rest := by
        simp [mem_selectFrom_iff]
      refine List.pairwise_cons.mpr ⟨fun other member => ?_, shifted gone⟩
      rw [List.idxOf_cons_self, behind gone member]
      exact Nat.succ_pos _
    · next dropped =>
      refine shifted fun member => ?_
      obtain ⟨-, kept, fresh⟩ := (mem_selectFrom_iff seen rest path).mp member
      exact dropped (by simp [kept, fresh])

theorem nodup_selectFrom (seen paths : List String) : (filter.selectFrom seen paths).Nodup :=
  (selectFrom_pairwise seen paths).imp fun before same => by
    rw [same] at before
    exact Nat.lt_irrefl _ before

theorem selectFrom_of_all {paths : List String} (distinct : paths.Nodup)
    (kept : ∀ path ∈ paths, filter.keeps path = true) : filter.selectFrom [] paths = paths := by
  induction paths with
  | nil => rfl
  | cons path rest ih =>
    obtain ⟨fresh, distinctRest⟩ := List.nodup_cons.mp distinct
    obtain ⟨first, others⟩ := List.forall_mem_cons.mp kept
    have all : (filter.selectFrom [] rest).filter (fun other => other ∉ [path]) = rest := by
      rw [ih distinctRest others]
      refine List.filter_eq_self.mpr fun other member => ?_
      have different : other ≠ path := fun same => fresh (same ▸ member)
      simpa using different
    rw [selectFrom, selectFrom_eq_filter [path] rest, all]
    simp [first]

/-! ## Selecting -/

theorem select_append (raw more : List String) :
    filter.select (raw ++ more) = filter.select raw ++
      (filter.select more).filter fun path => path ∉ filter.select raw := by
  rw [select, List.map_append, selectFrom_append]
  rfl

theorem select_select (raw : List String) :
    filter.select (filter.select raw) = filter.select raw := by
  have normal : (filter.select raw).map normalize = filter.select raw := by
    rw [List.map_congr_left fun path member => ?_, List.map_id]
    obtain ⟨candidate, -⟩ := (mem_select_iff raw path).mp member
    obtain ⟨text, -, rfl⟩ := List.mem_map.mp candidate
    exact normalize_normalize text
  rw [select, normal]
  exact selectFrom_of_all (nodup_selectFrom [] _) fun path member =>
    ((mem_select_iff raw path).mp member).2

/-- What version control prints with a line feed behind each name is selected from as the list of
the names is. -/
theorem resolve_names {changes : ChangeSet} (selected : changes.selection = .ofFilter filter)
    {names : List String} (inside : ∀ name ∈ names, ∀ c ∈ name.toList, Text.isLineEnd c = false) :
    (changes.resolve (.names (String.join (names.map fun name => name ++ "\n")))).2 =
      .ok (filter.select names) := by
  simp only [ChangeSet.resolve, Text.lines_join_feeds inside, selected,
    Selection.select_ofFilter]

/-- A filter selects exactly the normal paths that are not empty, have one of the extensions and
none of the excluded starts, each once and in the order of the first occurrences. Selecting again
changes nothing, more paths add what is new among them, and a change set is selected from the names
that version control prints. -/
theorem select_first_occurrences (filter : PathFilter) (raw more : List String) :
    (∀ path, path ∈ filter.select raw ↔
      (∃ text ∈ raw, normalize text = path) ∧ path ≠ "" ∧
        (∃ ending ∈ filter.extensions, ending.toList <:+ path.toList) ∧
        ∀ start ∈ filter.excluded, ¬ start.toList <+: path.toList) ∧
    (filter.select raw).Nodup ∧
    ((filter.select raw).Pairwise fun first second =>
      (raw.map normalize).idxOf first < (raw.map normalize).idxOf second) ∧
    filter.select (filter.select raw) = filter.select raw ∧
    filter.select (raw ++ more) = filter.select raw ++
      (filter.select more).filter (fun path => path ∉ filter.select raw) ∧
    (Selection.ofFilter filter).select raw = .ok (filter.select raw) ∧
    ∀ changes : ChangeSet, changes.selection = .ofFilter filter → ∀ names : List String,
      (∀ name ∈ names, ∀ c ∈ name.toList, Text.isLineEnd c = false) →
      (changes.resolve (.names (String.join (names.map fun name => name ++ "\n")))).2 =
        .ok (filter.select names) := by
  refine ⟨fun path => ?_, nodup_selectFrom [] _, selectFrom_pairwise [] _, select_select raw,
    select_append raw more, Selection.select_ofFilter filter raw,
    fun changes selected names inside => resolve_names selected inside⟩
  rw [mem_select_iff, List.mem_map, keeps_iff]

/-- Two spellings of a script, which only their white space and a backslash tell apart. -/
theorem select_first_occurrences_two_spellings :
    let changes : ChangeSet :=
      ⟨".", .str "main", .str "origin", Selection.ofFilter PathFilter.default⟩
    let names := ["src\\b.js", "a.js", " src/b.js", "scripts/fix.js"]
    (∀ name ∈ names, ∀ c ∈ name.toList, Text.isLineEnd c = false) ∧
      (changes.resolve (.names "src\\b.js\na.js\n src/b.js\nscripts/fix.js\n")).2.toOption =
        some ["src/b.js", "a.js"] := by
  intro changes names
  have noEnds : ∀ name ∈ names, name.toList.any Text.isLineEnd = false := by
    decide
  have inside : ∀ name ∈ names, ∀ c ∈ name.toList, Text.isLineEnd c = false :=
    fun name member c inName =>
      eq_false_of_ne_true (List.any_eq_false.mp (noEnds name member) c inName)
  have printed : String.join (names.map fun name => name ++ "\n") =
      "src\\b.js\na.js\n src/b.js\nscripts/fix.js\n" := by
    decide
  have selected : PathFilter.default.select names = ["src/b.js", "a.js"] := by
    decide
  have resolved := (select_first_occurrences PathFilter.default names []).2.2.2.2.2.2
    changes rfl names inside
  rw [printed, selected] at resolved
  exact ⟨inside, by rw [resolved]; rfl⟩

end Remedy.PathFilter
