import Remedy.Proofs.Completion.Cleaning
import Remedy.Proofs.Remediation.Encoding

/-!
# What is written

An artifact is trimmed, so it lacks a line terminator and is given that of the file. What a
completion leaves in a file is therefore a text without fences that is trimmed up to its terminator,
and the terminator is the one that the file had. Such a text is its own artifact: given as a
completion for itself it is recognized and left alone.
-/

set_option autoImplicit false

namespace Remedy.Completion

open Text

/-! ## The terminator of a text -/

/-- The line terminator that a text ends with; a carriage return before the line feed belongs to
it. -/
def terminator (text : String) : String :=
  if endsWith text "\r\n" then "\r\n" else if endsWith text "\n" then "\n" else ""

variable {before artifact : String}

theorem endsWith_feed_of_pair {text : String} (pair : endsWith text "\r\n" = true) :
    endsWith text "\n" = true := by
  rw [endsWith_iff] at pair ⊢
  have part : "\n".toList <:+ "\r\n".toList := ⟨['\r'], rfl⟩
  exact part.trans pair

theorem terminator_cases (text : String) :
    terminator text = "" ∨ terminator text = "\n" ∨ terminator text = "\r\n" := by
  rw [terminator]
  split
  · exact Or.inr (Or.inr rfl)
  · split
    · exact Or.inr (Or.inl rfl)
    · exact Or.inl rfl

theorem terminator_eq_pair_iff (text : String) :
    terminator text = "\r\n" ↔ endsWith text "\r\n" = true := by
  rw [terminator]
  split_ifs with pair single
  · exact iff_of_true rfl pair
  · exact iff_of_false (by decide) pair
  · exact iff_of_false (by decide) pair

theorem terminator_ne_empty_iff (text : String) :
    terminator text ≠ "" ↔ endsWith text "\n" = true := by
  rw [terminator]
  split_ifs with pair single
  · exact iff_of_true (by decide) (endsWith_feed_of_pair pair)
  · exact iff_of_true (by decide) single
  · exact iff_of_false (by decide) single

/-- A trimmed artifact is given the terminator that the file had, whichever it was. -/
theorem restoreEnding_of_trimmed (trimmed : Trimmed artifact.toList) :
    restoreEnding before artifact = artifact ++ terminator before := by
  have bare : endsWith artifact "\n" = false := endsWith_of_trimmed trimmed rfl isBlank_lineFeed
  rw [restoreEnding, terminator, bare, if_neg Bool.false_ne_true]
  split_ifs
  · rfl
  · rfl
  · exact String.append_empty.symm

theorem terminator_append (trimmed : Trimmed artifact.toList) :
    terminator (artifact ++ terminator before) = terminator before := by
  rcases terminator_cases before with none | single | pair
  · have bare (ending : String) (last : ending.toList.getLast? = some '\n') :
        endsWith artifact ending = false := endsWith_of_trimmed trimmed last isBlank_lineFeed
    rw [none, String.append_empty, terminator, bare "\r\n" rfl, bare "\n" rfl]
    rfl
  · rw [single, terminator, endsWith_pair_of_trimmed trimmed, endsWith_append]
    rfl
  · rw [pair, terminator, endsWith_append]
    rfl

theorem restoreEnding_clean_self (trimmed : Trimmed artifact.toList)
    (fenceless : Fenceless artifact.toList) :
    restoreEnding (artifact ++ terminator before) (clean (artifact ++ terminator before)) =
      artifact ++ terminator before := by
  obtain ⟨bare, single, pair⟩ := settled_of_append trimmed fenceless
  refine (restoreEnding_clean_echo_iff .plain).mpr ?_
  rcases terminator_cases before with shape | shape | shape
  · rw [shape, String.append_empty]
    exact bare
  · rw [shape]
    exact single
  · rw [shape]
    exact pair

end Remedy.Completion

namespace Remedy.Remediation

open Completion Text

variable {r : Remediation} {tree : FileTree} {artifact completion : String}

/-- An artifact that gives back what the file holds is not written, whatever else is asked for. -/
theorem apply_of_revised_eq (same : r.revised artifact = r.current) :
    (r.apply tree artifact).EndsAs .flaggedUnfixed ∧ (r.apply tree artifact).tree = tree := by
  have rejected : ¬ r.Accepts artifact := fun accepted => accepted.2.1 same
  obtain ⟨kept, message, diff, ended⟩ := @apply_of_not_accepts r tree artifact rejected
  exact ⟨(Effect.endsAs_iff_of_ok ended _).mpr rfl, kept⟩

/-- What a completion leaves in a file that it fixed: a text without fences, with the terminator
that the file had, before which it is not empty and has no white space at its ends. The same text
as a completion for itself leaves every file that holds it alone. -/
theorem apply_clean_settles (isFixed : (r.apply tree (clean completion)).Fixed) :
    ∃ written bytes, r.replacement.Streams written bytes ∧
      (r.apply tree (clean completion)).tree.find? r.replacement.place =
        some (.file bytes (r.replacement.modeAfter tree)) ∧
      Fenceless written.toList ∧
      (endsWith written "\r\n" = true ↔ endsWith r.current "\r\n" = true) ∧
      (endsWith written "\n" = true ↔ endsWith r.current "\n" = true) ∧
      (∃ body, written = body ++ terminator written ∧ body ≠ "" ∧ Trimmed body.toList) ∧
      ∀ (again : Remediation) (later : FileTree), again.current = written →
        (again.apply later (clean written)).EndsAs .flaggedUnfixed ∧
          (again.apply later (clean written)).tree = later := by
  have trimmed := trimmed_clean completion
  have fenceless := fenceless_clean completion
  obtain ⟨accepted, all⟩ := written_of_fixed isFixed
  obtain ⟨bytes, streams, treeEq⟩ := tree_of_succeeds accepted all
  have written : r.revised (clean completion) = clean completion ++ terminator r.current :=
    restoreEnding_of_trimmed trimmed
  have same : terminator (r.revised (clean completion)) = terminator r.current := by
    rw [written, terminator_append trimmed]
  refine ⟨r.revised (clean completion), bytes, streams, ?_, ?_, ?_, ?_, ?_, ?_⟩
  · rw [treeEq]
    exact Replacement.find?_replacedWith all bytes
  · have fixedPoint : restoreEnding (clean completion ++ terminator r.current)
        (clean (clean completion ++ terminator r.current)) =
          clean completion ++ terminator r.current :=
      restoreEnding_clean_self trimmed fenceless
    have settled := (restoreEnding_clean_echo_iff .plain).mp fixedPoint
    rw [written]
    exact settled.1
  · rw [← terminator_eq_pair_iff, same, terminator_eq_pair_iff]
  · rw [← terminator_ne_empty_iff, same, terminator_ne_empty_iff]
  · exact ⟨clean completion, by rw [same, written], accepted.1, trimmed⟩
  · intro again later holds
    refine apply_of_revised_eq ?_
    rw [revised, holds, written]
    exact restoreEnding_clean_self trimmed fenceless

/-- A script that ends with a carriage return and a line feed, and a block of code without the
former: the pair is restored. -/
theorem apply_clean_settles_pair :
    let r : Remediation := ⟨"a.js", "exec(x)\r\n", [.commandInjection], false,
      ⟨["work"], "a.js", "k", "utf-8", fun _ => none⟩⟩
    let tree : FileTree := ⟨[(["work"], .directory),
      (["work", "a.js"], .file (Text.Utf8.encode "exec(x)\r\n") 0o644)]⟩
    let completion := "\x60\x60\x60js\nrun(x)\n\x60\x60\x60"
    (r.apply tree (clean completion)).Fixed ∧
      ∃ written, endsWith written "\r\n" = true ∧ Fenceless written.toList ∧
        ∀ again : Remediation, again.current = written →
          (again.apply tree (clean written)).tree = tree := by
  intro r tree completion
  have isFixed : (r.apply tree (clean completion)).Fixed :=
    Effect.endsAs_of_result (by decide)
  obtain ⟨written, bytes, -, -, fenceless, pair, -, -, again⟩ := apply_clean_settles isFixed
  have given : endsWith r.current "\r\n" = true := by
    decide
  exact ⟨isFixed, written, pair.mpr given, fenceless, fun other holds => (again other tree holds).2⟩

end Remedy.Remediation
