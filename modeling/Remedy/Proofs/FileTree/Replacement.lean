import Remedy.FileTree.Replace
import Remedy.Proofs.FileTree.Shape
import Remedy.Proofs.Text.Utf8

/-!
# Replacing a file in one step

A replacement either carries out all of its steps, and then the tree differs from the one before at
the target alone, or it leaves the tree that it found. Up to the last step the tree is the one
before with a temporary file in a place that was free (`Staged`); this is what every step but the
last keeps, and what the clean-up takes back.
-/

set_option autoImplicit false

namespace Remedy.Replacement

open FileTree

/-! ## Steps in a row -/

section Steps

variable {stages : List (FileTree → Except ReplaceError FileTree)} {tree : FileTree}

/-- Every one of the steps succeeds when they are carried out one after the other. -/
def AllSucceed (tree : FileTree) : List (FileTree → Except ReplaceError FileTree) → Prop
  | [] => True
  | stage :: rest => ∃ next, stage tree = .ok next ∧ AllSucceed next rest

theorem allSucceed_iff : AllSucceed tree stages ↔ (carryOut tree stages).2 = none := by
  induction stages generalizing tree with
  | nil => simp [AllSucceed, carryOut]
  | cons stage rest ih =>
    simp only [AllSucceed, carryOut]
    cases stage tree with
    | error error => simp
    | ok next => simp [ih]

theorem carryOut_of_failure {P : FileTree → Prop}
    (keeps : ∀ stage ∈ stages.dropLast, ∀ t next, P t → stage t = .ok next → P next)
    (start : P tree) (failure : (carryOut tree stages).2 ≠ none) : P (carryOut tree stages).1 := by
  induction stages generalizing tree with
  | nil => simp [carryOut] at failure
  | cons stage rest ih =>
    simp only [carryOut] at failure ⊢
    cases done : stage tree with
    | error error => exact start
    | ok next =>
      simp only [done] at failure ⊢
      cases rest with
      | nil => simp [carryOut] at failure
      | cons second more =>
        have kept : P next := keeps stage (by simp) tree next start done
        exact ih (fun s member => keeps s (by simp [member])) kept failure

theorem getLast?_treesAlong :
    (treesAlong tree stages).getLast? = some (carryOut tree stages).1 := by
  induction stages generalizing tree with
  | nil => rfl
  | cons stage rest ih =>
    simp only [treesAlong, carryOut]
    cases stage tree with
    | error error => rfl
    | ok next =>
      simp only [List.getLast?_cons, ih]
      rfl

end Steps

variable (r : Replacement) (content : String) (tree : FileTree)

def Succeeds : Prop :=
  AllSucceed tree (r.stages content)

/-- The permission bits that the replaced file gets: those of the target, or those of a private
file if there is none. -/
def modeAfter : Nat :=
  match tree.find? r.place with
  | some (.file _ mode) => mode
  | _ => privateMode

def replacedWith (bytes : List UInt8) : FileTree :=
  tree.put r.place (.file bytes (r.modeAfter tree))

def replaced : FileTree :=
  tree.put r.place (.file (Text.Utf8.encode content) (r.modeAfter tree))

/-- The codec of the replacement is there, and writes some bytes to a file for a content. -/
def Streams (bytes : List UInt8) : Prop :=
  ∃ codec, r.encoding.codec? = some codec ∧ codec.stream content = .ok bytes

def Staged (t : FileTree) : Prop :=
  ∃ bytes mode, t = tree.put r.temporary (.file bytes mode)

variable {r content tree}

/-! ## What a single step does -/

theorem check_eq_ok {α : Type} {step : ReplaceStep} {next : Except ReplaceError α} {a : α}
    (done : (r.check step >>= fun _ => next) = .ok a) : r.faults step = none ∧ next = .ok a := by
  simp only [check] at done
  cases fault : r.faults step with
  | some text =>
    rw [fault] at done
    cases done
  | none =>
    rw [fault] at done
    exact ⟨rfl, done⟩

theorem create_eq_ok {made : FileTree} (done : r.create tree = .ok made) :
    tree.find? r.temporary = none ∧ made = tree.put r.temporary (.file [] privateMode) := by
  obtain ⟨-, done⟩ := check_eq_ok done
  split at done
  · cases done
  · split at done
    · cases done
    · split at done
      · cases done
      · next free =>
        cases done
        exact ⟨by simpa using free, rfl⟩

theorem streams_utf8_iff (utf8 : r.encoding = "utf-8") {bytes : List UInt8} :
    r.Streams content bytes ↔ bytes = Text.Utf8.encode content := by
  simp only [Streams, utf8, Text.Encoding.codec?_ofName_utf8, Option.some.injEq, exists_eq_left',
    Text.Charset.codec_stream, Text.Charset.encode_utf8, Except.ok.injEq]
  exact eq_comm

theorem write_eq_ok {next : FileTree} (done : r.write content tree = .ok next) :
    ∃ bytes, r.Streams content bytes ∧
      next = tree.put r.temporary (.file bytes privateMode) := by
  simp only [write] at done
  split at done
  · cases done
  · next codec named =>
    split at done
    · cases done
    · next bytes encoded =>
      obtain ⟨-, done⟩ := check_eq_ok done
      cases done
      exact ⟨bytes, ⟨codec, named, encoded⟩, rfl⟩

theorem sync_eq_ok {next : FileTree} (done : r.sync tree = .ok next) : next = tree := by
  obtain ⟨-, done⟩ := check_eq_ok done
  cases done
  rfl

/-- The temporary file gets the bits of the target, if that is a file, and keeps its bytes. -/
theorem copyMode_eq_ok {bytes : List UInt8} {former : Nat} {staged next : FileTree}
    (shape : staged = tree.put r.temporary (.file bytes former)) (below : r.temporary ≠ [])
    (done : r.copyMode staged = .ok next) :
    next = tree.put r.temporary (.file bytes
      (match staged.lookAt r.directory r.target with
        | some (.file _ mode) => mode
        | _ => former)) := by
  have held : staged.find? r.temporary = some (.file bytes former) := by
    rw [shape, find?_put_self tree below]
  simp only [copyMode] at done
  cases looked : staged.lookAt r.directory r.target with
  | none =>
    rw [looked] at done
    cases done
    exact shape
  | some entry =>
    simp only [looked] at done
    have copied := (check_eq_ok done).2
    cases entry with
    | directory =>
      cases copied
      exact shape
    | file old mode =>
      rw [held] at copied
      cases copied
      simp only [shape, put_put]

theorem destination_eq_ok {reached : Path} (leads : r.destination tree = .ok reached) :
    tree.locate r.directory r.target = .ok reached ∧ reached = r.place := by
  simp only [destination] at leads
  split at leads
  · split at leads <;> cases leads
  · have located := locate_of_locateTarget leads
    exact ⟨located, locate_eq located⟩

/-- The temporary file takes the target's place, in which there is no directory. -/
theorem rename_eq_ok {next : FileTree} (done : r.rename tree = .ok next) :
    r.target.toList.contains '\x00' = false ∧
    tree.locate r.directory r.target = .ok r.place ∧
    tree.find? r.place ≠ some .directory ∧
    ∃ entry, tree.find? r.temporary = some entry ∧
      next = (tree.remove r.temporary).put r.place entry := by
  obtain ⟨-, done⟩ := check_eq_ok done
  split at done
  · cases done
  · next noNul =>
    split at done
    · cases done
    · next reached leads =>
      obtain ⟨located, rfl⟩ := destination_eq_ok leads
      split at done
      · cases done
      · cases done
      · next entry held notDirectory =>
        cases done
        exact ⟨by simpa using noNul, located, notDirectory, entry, held, rfl⟩

/-! ## What every step but the last keeps -/

/-- Before the target is touched a tree has a temporary file more than the one at the start. -/
theorem staged_of_stage (below : r.temporary ≠ []) :
    ∀ stage ∈ (r.laterStages content).dropLast, ∀ t next,
      r.Staged tree t → stage t = .ok next → r.Staged tree next := by
  intro stage member t next staged done
  obtain ⟨bytes, mode, shape⟩ := staged
  simp only [laterStages, List.dropLast, List.mem_cons, List.not_mem_nil, or_false] at member
  rcases member with rfl | rfl | rfl
  · obtain ⟨written, -, rfl⟩ := write_eq_ok done
    exact ⟨written, privateMode, by rw [shape, put_put]⟩
  · exact ⟨bytes, mode, (sync_eq_ok done).trans shape⟩
  · exact ⟨_, _, copyMode_eq_ok shape below done⟩

theorem sameShape_staged {first second : Nat} {a b : List UInt8} :
    SameShape (tree.put r.temporary (.file a first)) (tree.put r.temporary (.file b second)) := by
  intro place
  by_cases h : place = r.temporary
  · subst h
    by_cases root : r.temporary = []
    · simp [kind?, root]
    · simp [kind?, find?_put_self _ root, Entry.isDirectory]
  · simp [kind?, find?_put_of_ne _ h]

theorem Staged.find?_of_ne {t : FileTree} (staged : r.Staged tree t) {place : Path}
    (other : place ≠ r.temporary) : t.find? place = tree.find? place := by
  obtain ⟨bytes, mode, rfl⟩ := staged
  exact find?_put_of_ne tree other _

theorem copiedMode_eq {t : FileTree} {bytes : List UInt8}
    (shape : t = tree.put r.temporary (.file bytes privateMode))
    (free : tree.find? r.temporary = none) (noNul : r.target.toList.contains '\x00' = false)
    (leads : t.locate r.directory r.target = .ok r.place) :
    (match t.lookAt r.directory r.target with
      | some (.file _ mode) => mode
      | _ => privateMode) = r.modeAfter tree := by
  have looked : t.lookAt r.directory r.target = t.find? r.place := by
    simp only [lookAt, noNul, leads, Bool.false_eq_true, if_false]
  rw [looked, modeAfter, shape]
  by_cases h : r.place = r.temporary
  · rw [h, find?_put_self tree (ne_root_of_find?_eq_none free), free]
  · rw [find?_put_of_ne tree h]

/-! ## The whole replacement -/

/-- When all steps succeed only the target changes, to what the character set writes. -/
theorem carryOut_of_succeeds (all : r.Succeeds content tree) :
    ∃ bytes made, r.Streams content bytes ∧ r.create tree = .ok made ∧
      carryOut made (r.laterStages content) = (r.replacedWith tree bytes, none) := by
  obtain ⟨made, created, written, wrote, synced, flushed, copied, copy, moved, move, -⟩ := all
  obtain ⟨free, madeEq⟩ := create_eq_ok created
  have below := ne_root_of_find?_eq_none free
  obtain ⟨bytes, streams, writtenEq⟩ := write_eq_ok wrote
  rw [madeEq, put_put] at writtenEq
  have syncedEq := (sync_eq_ok flushed).trans writtenEq
  have copiedEq := copyMode_eq_ok syncedEq below copy
  obtain ⟨noNul, leads, -, entry, held, movedEq⟩ := rename_eq_ok move
  have leadsBefore : synced.locate r.directory r.target = .ok r.place := by
    rw [← leads, syncedEq, copiedEq]
    exact sameShape_staged.locate _ _
  rw [copiedMode_eq syncedEq free noNul leadsBefore] at copiedEq
  have entryEq : entry = .file bytes (r.modeAfter tree) := by
    rw [copiedEq, find?_put_self tree below] at held
    exact (Option.some.inj held).symm
  refine ⟨bytes, made, streams, created, ?_⟩
  simp only [laterStages, carryOut, wrote, flushed, copy, move]
  rw [movedEq, entryEq, copiedEq, remove_put free, replacedWith]

theorem run_of_succeeds (all : r.Succeeds content tree) :
    ∃ bytes, r.Streams content bytes ∧
      r.run content tree = (r.replacedWith tree bytes, .ok ()) := by
  obtain ⟨bytes, made, streams, created, carried⟩ := carryOut_of_succeeds all
  exact ⟨bytes, streams, by simp only [run, created, carried]⟩

theorem run_of_not_succeeds (notAll : ¬ r.Succeeds content tree) :
    ∃ error, r.run content tree = (tree, .error error) := by
  cases created : r.create tree with
  | error error => exact ⟨error, by simp only [run, created]⟩
  | ok made =>
    obtain ⟨free, madeEq⟩ := create_eq_ok created
    have below := ne_root_of_find?_eq_none free
    have failure : (carryOut made (r.laterStages content)).2 ≠ none := by
      intro allDone
      exact notAll ⟨made, created, allSucceed_iff.mpr allDone⟩
    obtain ⟨bytes, mode, lastEq⟩ : r.Staged tree (carryOut made (r.laterStages content)).1 :=
      carryOut_of_failure (staged_of_stage below) ⟨_, _, madeEq⟩ failure
    cases ended : carryOut made (r.laterStages content) with
    | mk last error =>
      rw [ended] at failure lastEq
      cases error with
      | none => exact absurd rfl failure
      | some error =>
        refine ⟨error, ?_⟩
        simp only [run, created, ended]
        rw [show last = _ from lastEq, remove_put free]

theorem place_ne_root (all : r.Succeeds content tree) : r.place ≠ [] := by
  obtain ⟨made, created, written, wrote, synced, flushed, copied, copy, moved, move, -⟩ := all
  obtain ⟨-, -, notDirectory, -⟩ := rename_eq_ok move
  intro root
  rw [root] at notDirectory
  exact notDirectory (find?_root copied)

theorem find?_replacedWith (all : r.Succeeds content tree) (bytes : List UInt8) :
    (r.replacedWith tree bytes).find? r.place = some (.file bytes (r.modeAfter tree)) :=
  find?_put_self tree (place_ne_root all) _

theorem find?_replacedWith_of_ne {other : Path} (different : other ≠ r.place)
    (bytes : List UInt8) : (r.replacedWith tree bytes).find? other = tree.find? other :=
  find?_put_of_ne tree different _

/-- A replacement ends with the last of the trees that it goes through, from which a temporary file
that is left is taken away. -/
theorem run_eq_of_history (content : String) (tree : FileTree) :
    ∃ last, (r.history content tree).getLast? = some last ∧
      ((r.run content tree).1 = last ∨ (r.run content tree).1 = last.remove r.temporary) := by
  refine ⟨(carryOut tree (r.stages content)).1, getLast?_treesAlong, ?_⟩
  cases created : r.create tree with
  | error error =>
    left
    simp only [run, stages, carryOut, created]
  | ok made =>
    cases ended : carryOut made (r.laterStages content) with
    | mk last failure =>
      have lastEq : (carryOut tree (r.stages content)).1 = last := by
        simp only [stages, carryOut, created, ended]
      rw [lastEq]
      cases failure with
      | none =>
        left
        simp only [run, created, ended]
      | some error =>
        right
        simp only [run, created, ended]

end Remedy.Replacement
