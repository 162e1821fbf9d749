import Remedy.Proofs.Text.Parts
import Remedy.Report.Format

/-!
# Colours are presentation only

A terminal takes a colour sequence, which is an escape character, a bracket, a number and the letter
m, out of the text that it shows. What it shows of a report with colours is the report without them,
and each sequence that begins a colour is followed by the one that ends all colours, before another
begins. This holds as long as none of the texts that go into the report has an escape character.
-/

set_option autoImplicit false

namespace Remedy

namespace Report

def EscapeFree (text : String) : Prop :=
  '\x1b' ∉ text.toList

instance (text : String) : Decidable (EscapeFree text) :=
  inferInstanceAs (Decidable ('\x1b' ∉ text.toList))

/-! ## Terminals -/

namespace Terminal

/-- The number of the colour sequence that a text begins with, if it begins with one. -/
def number? : List Char → Option (List Char)
  | '\x1b' :: '[' :: rest =>
    let number := rest.takeWhile Char.isDigit
    if number ≠ [] ∧ (rest.dropWhile Char.isDigit).head? = some 'm' then some number else none
  | _ => none

/-- What a terminal takes from a text: a character to show, or a colour sequence with its number. -/
inductive Sign where
  | shown (c : Char)
  | color (number : List Char)
  deriving Repr, DecidableEq

def Sign.shown? : Sign → Option Char
  | shown c => some c
  | color _ => none

def Sign.number? : Sign → Option (List Char)
  | shown _ => none
  | color number => some number

/-- The signs of a text whose first characters, so many, still belong to the sequence before it. -/
def scan : Nat → List Char → List Sign
  | _, [] => []
  | covered + 1, _ :: rest => scan covered rest
  | 0, c :: rest =>
    match number? (c :: rest) with
    | some number => .color number :: scan (number.length + 2) rest
    | none => .shown c :: scan 0 rest

def shown (text : String) : String :=
  String.ofList ((scan 0 text.toList).filterMap Sign.shown?)

/-- The numbers of the colour sequences of a text, in their order. -/
def numbers (text : String) : List (List Char) :=
  (scan 0 text.toList).filterMap Sign.number?

def reset : List Char := ['0']

/-- Every number that begins a colour is followed by the one that ends it. -/
inductive Closed : List (List Char) → Prop where
  | nil : Closed []
  | pair {number : List Char} {rest : List (List Char)} (begins : number ≠ reset)
      (behind : Closed rest) : Closed (number :: reset :: rest)

theorem Closed.append {first second : List (List Char)} (closed : Closed first)
    (others : Closed second) : Closed (first ++ second) := by
  induction closed with
  | nil => exact others
  | pair begins _ ih => exact .pair begins ih

def Reads (text : List Char) (signs : List Sign) : Prop :=
  ∀ rest, scan 0 (text ++ rest) = signs ++ scan 0 rest

theorem Reads.append {first second : List Char} {a b : List Sign} (reads : Reads first a)
    (others : Reads second b) : Reads (first ++ second) (a ++ b) := by
  intro rest
  rw [List.append_assoc, reads, others, List.append_assoc]

theorem scan_length (front rest : List Char) : scan front.length (front ++ rest) = scan 0 rest := by
  induction front with
  | nil => rfl
  | cons c front ih => exact ih

theorem reads_of_free {text : List Char} (free : '\x1b' ∉ text) :
    Reads text (text.map .shown) := by
  intro rest
  induction text with
  | nil => rfl
  | cons c text ih =>
    have none : number? (c :: (text ++ rest)) = none := by
      unfold number?
      split
      · next begins =>
        exact absurd (List.cons.inj begins).1.symm (List.ne_of_not_mem_cons free)
      · rfl
    rw [List.cons_append, scan, none, ih (List.not_mem_of_not_mem_cons free)]
    rfl

theorem number?_sequence {number : List Char} (some : number ≠ [])
    (digits : ∀ c ∈ number, c.isDigit = true) (rest : List Char) :
    number? ('\x1b' :: '[' :: (number ++ 'm' :: rest)) = .some number := by
  have taken : (number ++ 'm' :: rest).takeWhile Char.isDigit = number := by
    rw [List.takeWhile_append_of_pos digits]
    exact List.append_nil number
  have left : (number ++ 'm' :: rest).dropWhile Char.isDigit = 'm' :: rest := by
    rw [List.dropWhile_append_of_pos digits]
    rfl
  simp only [number?, taken, left]
  exact if_pos ⟨some, rfl⟩

theorem reads_sequence {number : List Char} (some : number ≠ [])
    (digits : ∀ c ∈ number, c.isDigit = true) :
    Reads ('\x1b' :: '[' :: (number ++ ['m'])) [.color number] := by
  intro rest
  have behind : scan (number.length + 2) ('[' :: (number ++ 'm' :: rest)) = scan 0 rest := by
    have whole := scan_length ('[' :: (number ++ ['m'])) rest
    simpa using whole
  simp only [List.cons_append, List.append_assoc, List.nil_append]
  rw [scan, number?_sequence some digits rest]
  simp only [behind]

/-- A text with colours shows as another text, and closes its colours. -/
def Presents (colored plain : String) : Prop :=
  ∃ signs, Reads colored.toList signs ∧ signs.filterMap Sign.shown? = plain.toList ∧
    Closed (signs.filterMap Sign.number?)

namespace Presents

theorem shown_eq {colored plain : String} (presents : Presents colored plain) :
    shown colored = plain := by
  obtain ⟨signs, reads, same, -⟩ := presents
  have all := reads []
  rw [List.append_nil, scan, List.append_nil] at all
  rw [shown, all, same, String.ofList_toList]

theorem closed {colored plain : String} (presents : Presents colored plain) :
    Closed (numbers colored) := by
  obtain ⟨signs, reads, -, closed⟩ := presents
  have all := reads []
  rw [List.append_nil, scan, List.append_nil] at all
  rwa [numbers, all]

theorem append {first second a b : String} (presents : Presents first a)
    (others : Presents second b) : Presents (first ++ second) (a ++ b) := by
  obtain ⟨signs, reads, same, closed⟩ := presents
  obtain ⟨more, readsMore, sameMore, closedMore⟩ := others
  refine ⟨signs ++ more, ?_, ?_, ?_⟩
  · rw [String.toList_append]
    exact reads.append readsMore
  · rw [List.filterMap_append, same, sameMore, String.toList_append]
  · rw [List.filterMap_append]
    exact closed.append closedMore

end Presents

theorem shown?_map_shown (text : List Char) :
    (text.map Sign.shown).filterMap Sign.shown? = text := by
  rw [List.filterMap_map]
  exact List.filterMap_some

theorem number?_map_shown (text : List Char) :
    (text.map Sign.shown).filterMap Sign.number? = [] := by
  rw [List.filterMap_map, List.filterMap_eq_nil_iff]
  exact fun _ _ => rfl

theorem presents_self {text : String} (free : EscapeFree text) : Presents text text :=
  ⟨text.toList.map .shown, reads_of_free free, shown?_map_shown _,
    number?_map_shown text.toList ▸ .nil⟩

theorem reads_opening (style : Style) :
    Reads style.opening.toList [.color style.code.toList] := by
  have shape : style.opening.toList = '\x1b' :: '[' :: (style.code.toList ++ ['m']) := by
    simp only [Style.opening, String.toList_append]
    rfl
  have digits : style.code.toList.all Char.isDigit = true := by
    cases style <;> decide
  rw [shape]
  refine reads_sequence ?_ (List.all_eq_true.mp digits)
  cases style <;> decide

theorem reads_closing : Reads Style.closing.toList [.color reset] := by
  have shape : Style.closing.toList = '\x1b' :: '[' :: (reset ++ ['m']) := by
    decide
  rw [shape]
  exact reads_sequence (by decide) (List.forall_mem_singleton.mpr rfl)

theorem code_ne_reset (style : Style) : style.code.toList ≠ reset := by
  cases style <;> decide

theorem presents_styled (style : Style) {text : String} (free : EscapeFree text) :
    Presents (style.opening ++ text ++ Style.closing) text := by
  refine ⟨[.color style.code.toList] ++ text.toList.map .shown ++ [.color reset], ?_, ?_, ?_⟩
  · simp only [String.toList_append]
    exact ((reads_opening style).append (reads_of_free free)).append reads_closing
  · simp only [List.filterMap_append, shown?_map_shown]
    exact List.append_nil _
  · simp only [List.filterMap_append, number?_map_shown]
    exact .pair (code_ne_reset style) .nil

end Terminal

/-! ## Styled lines -/

/-- A line all of whose texts are without escape characters. -/
def StyledLine.EscapeFree (line : StyledLine) : Prop :=
  ∀ span ∈ line, Report.EscapeFree span.text

open Terminal

theorem presents_span {span : Span} (free : EscapeFree span.text) :
    Presents (span.render true) (span.render false) := by
  cases span with
  | mk style text =>
    cases style with
    | none => exact presents_self free
    | some style => exact presents_styled style free

theorem presents_empty : Presents "" "" :=
  presents_self (by decide)

theorem presents_line {line : StyledLine} (free : line.EscapeFree) :
    Presents (line.render true) (line.render false) := by
  unfold StyledLine.render
  induction line with
  | nil => exact presents_empty
  | cons span line ih =>
    obtain ⟨here, later⟩ := List.forall_mem_cons.mp free
    rw [List.map_cons, List.map_cons, String.join_cons, String.join_cons]
    exact (presents_span here).append (ih later)

theorem presents_renderLines {lines : List StyledLine} (free : ∀ line ∈ lines, line.EscapeFree) :
    Presents (renderLines true lines) (renderLines false lines) := by
  unfold renderLines
  induction lines with
  | nil => exact presents_empty
  | cons line lines ih =>
    obtain ⟨here, later⟩ := List.forall_mem_cons.mp free
    have first := presents_line here
    cases lines with
    | nil =>
      simpa only [List.map_cons, List.map_nil, String.intercalate_singleton] using first
    | cons next lines =>
      have feed : Presents "\n" "\n" := presents_self (by decide)
      simp only [List.map_cons, String.intercalate_cons_cons] at ih ⊢
      exact (first.append feed).append (ih later)

/-! ## Texts without escape characters -/

@[simp] theorem escapeFree_append {first second : String} :
    EscapeFree (first ++ second) ↔ EscapeFree first ∧ EscapeFree second := by
  simp only [EscapeFree, String.toList_append, List.mem_append, not_or]

theorem escapeFree_toString (n : Nat) : EscapeFree (toString n) := by
  intro member
  rw [show (toString n).toList = Nat.toDigits 10 n from Nat.toList_repr] at member
  exact absurd (Nat.isDigit_of_mem_toDigits (by decide) (by decide) member) (by decide)

theorem escapeFree_toString_int (n : Int) : EscapeFree (toString n) := by
  cases n with
  | ofNat n => exact escapeFree_toString n
  | negSucc n => exact escapeFree_append.mpr ⟨by decide, escapeFree_toString (n + 1)⟩

theorem escapeFree_repeated (count : Nat) {c : Char} (other : c ≠ '\x1b') :
    EscapeFree (repeated count c) := by
  rw [EscapeFree, repeated, String.toList_ofList]
  exact fun member => other (List.eq_of_mem_replicate member).symm

theorem escapeFree_intercalate {separator : String} {texts : List String}
    (plain : EscapeFree separator) (free : ∀ text ∈ texts, EscapeFree text) :
    EscapeFree (separator.intercalate texts) := by
  induction texts with
  | nil => exact List.not_mem_nil
  | cons text texts ih =>
    obtain ⟨here, later⟩ := List.forall_mem_cons.mp free
    cases texts with
    | nil => simpa only [String.intercalate_singleton] using here
    | cons next texts =>
      rw [String.intercalate_cons_cons]
      exact escapeFree_append.mpr ⟨escapeFree_append.mpr ⟨here, plain⟩, ih later⟩

theorem escapeFree_labels (categories : List Category) :
    EscapeFree (Category.labels categories) := by
  refine escapeFree_intercalate (by decide) fun text member => ?_
  obtain ⟨category, -, rfl⟩ := List.mem_map.mp member
  cases category <;> decide

theorem escapeFree_of_mem_lines {text line : String} (free : EscapeFree text)
    (member : line ∈ Text.lines text) : EscapeFree line := by
  obtain ⟨parts, among, rfl⟩ := List.mem_map.mp member
  rw [EscapeFree, String.toList_ofList]
  exact fun inside => free ((Text.Line.body_infix_of_mem_split among).subset inside)

theorem escapeFree_leading (count : Int) {text : String} (free : EscapeFree text) :
    EscapeFree (leading count text) := by
  unfold leading
  split
  · rw [EscapeFree, String.toList_ofList]
    exact fun inside => free (List.mem_of_mem_take inside)
  · rw [EscapeFree, String.toList_ofList]
    exact fun inside => free (List.mem_of_mem_take inside)

theorem escapeFree_abridge (limit : Int) {mark text : String} (free : EscapeFree text)
    (plain : EscapeFree mark) : EscapeFree (abridge limit mark text) := by
  unfold abridge
  split
  · exact free
  · exact escapeFree_append.mpr ⟨escapeFree_leading _ free, plain⟩

/-! ## Reports -/

theorem escapeFree_blankLine : StyledLine.EscapeFree blankLine :=
  List.forall_mem_nil _

theorem escapeFree_plainLine {text : String} (free : EscapeFree text) :
    StyledLine.EscapeFree (plainLine text) :=
  List.forall_mem_singleton.mpr free

theorem escapeFree_styledLine (style : Style) {text : String} (free : EscapeFree text) :
    StyledLine.EscapeFree (styledLine style text) :=
  List.forall_mem_singleton.mpr free

theorem escapeFree_header {title : String} (free : EscapeFree title) :
    ∀ line ∈ header title, line.EscapeFree := by
  have rule : StyledLine.EscapeFree (styledLine .dim (repeated 70 '=')) :=
    escapeFree_styledLine .dim (escapeFree_repeated 70 (by decide))
  have named : StyledLine.EscapeFree (styledLine .bold (" " ++ title ++ " ")) := by
    apply escapeFree_styledLine
    simpa using ⟨⟨by decide, free⟩, by decide⟩
  simp only [header, List.forall_mem_cons]
  exact ⟨escapeFree_blankLine, rule, named, rule, escapeFree_blankLine, List.forall_mem_nil _⟩

theorem escapeFree_sectionHead {title : String} (free : EscapeFree title) :
    ∀ line ∈ sectionHead title, line.EscapeFree := by
  simp only [sectionHead, List.forall_mem_cons]
  exact ⟨escapeFree_styledLine .bold free,
    escapeFree_styledLine .dim (escapeFree_repeated 40 (by decide)), List.forall_mem_nil _⟩

theorem escapeFree_figure {name : String} (free : EscapeFree name) (number : Nat) :
    StyledLine.EscapeFree (figure name number) :=
  escapeFree_plainLine (escapeFree_append.mpr
    ⟨escapeFree_append.mpr ⟨by decide, free⟩, escapeFree_toString number⟩)

theorem escapeFree_figures (outcome : RunOutcome) (failOnError : Bool) :
    ∀ line ∈ figures outcome failOnError, line.EscapeFree := by
  simp only [figures, List.forall_mem_cons]
  refine ⟨?_, ?_, ?_, ?_, ?_, ?_, escapeFree_blankLine, List.forall_mem_nil _⟩ <;>
    exact escapeFree_figure (by decide) _

theorem escapeFree_detail {name text : String} (plain : EscapeFree name) (free : EscapeFree text) :
    StyledLine.EscapeFree (detail name text) := by
  have told : EscapeFree (" " ++ text) := escapeFree_append.mpr ⟨by decide, free⟩
  simp only [detail, StyledLine.EscapeFree, List.forall_mem_cons]
  exact ⟨by decide, plain, told, List.forall_mem_nil _⟩

theorem escapeFree_diffBlock {diff : String} (free : EscapeFree diff) :
    ∀ line ∈ diffBlock diff, line.EscapeFree := by
  have all : ∀ line ∈ (Text.lines diff).map diffLine, line.EscapeFree := by
    intro line member
    obtain ⟨text, among, rfl⟩ := List.mem_map.mp member
    simp only [diffLine, StyledLine.EscapeFree, List.forall_mem_cons]
    exact ⟨by decide, escapeFree_of_mem_lines free among, List.forall_mem_nil _⟩
  simp only [diffBlock, List.forall_mem_append, List.forall_mem_cons]
  exact ⟨⟨escapeFree_blankLine, all⟩, escapeFree_blankLine, List.forall_mem_nil _⟩

end Report

/-- What a report tells of an outcome is without escape characters. -/
structure FileOutcome.EscapeFree (file : FileOutcome) : Prop where
  filePath : Report.EscapeFree file.filePath
  message : Report.EscapeFree file.message
  diff : Report.EscapeFree file.diff

/-- What a report tells of a verdict is without escape characters. -/
structure Verdict.EscapeFree (verdict : Verdict) : Prop where
  filePath : Report.EscapeFree verdict.filePath
  ruleId : ∀ finding ∈ verdict.findings, Report.EscapeFree finding.ruleId
  matchedText : ∀ finding ∈ verdict.findings, Report.EscapeFree finding.matchedText

namespace Report

theorem escapeFree_resultMark (result : FileResult) :
    EscapeFree (resultMark result).1 ∧ EscapeFree (resultMark result).2.1 := by
  cases result <;> decide

theorem escapeFree_fileLines (verbose : Bool) {file : FileOutcome} (free : file.EscapeFree) :
    ∀ line ∈ fileLines verbose file, line.EscapeFree := by
  obtain ⟨glyph, name⟩ := escapeFree_resultMark file.result
  have path : EscapeFree (" " ++ file.filePath) := escapeFree_append.mpr ⟨by decide, free.filePath⟩
  have front : EscapeFree ("  " ++ (resultMark file.result).1 ++ " ") :=
    escapeFree_append.mpr ⟨escapeFree_append.mpr ⟨by decide, glyph⟩, by decide⟩
  simp only [fileLines, List.forall_mem_append]
  refine ⟨⟨⟨?_, ?_⟩, ?_⟩, ?_⟩
  · simp only [List.forall_mem_cons, StyledLine.EscapeFree]
    exact ⟨⟨front, name, path, List.forall_mem_nil _⟩, List.forall_mem_nil _⟩
  · split
    · exact List.forall_mem_nil _
    · exact List.forall_mem_singleton.mpr
        (escapeFree_detail (by decide) (escapeFree_labels file.categories))
  · split
    · exact List.forall_mem_nil _
    · exact List.forall_mem_singleton.mpr (escapeFree_detail (by decide) free.message)
  · split
    · exact escapeFree_diffBlock free.diff
    · exact List.forall_mem_nil _

theorem escapeFree_outcomeLines (verbose : Bool) {outcome : RunOutcome}
    (free : ∀ file ∈ outcome.files, file.EscapeFree) (failOnError : Bool) :
    ∀ line ∈ outcomeLines verbose outcome failOnError, line.EscapeFree := by
  simp only [outcomeLines, List.forall_mem_append]
  refine ⟨⟨⟨escapeFree_header (by decide), escapeFree_sectionHead (by decide)⟩,
    escapeFree_figures outcome failOnError⟩, ?_⟩
  split
  · simp only [List.forall_mem_cons]
    exact ⟨escapeFree_styledLine .green (by decide), escapeFree_blankLine, List.forall_mem_nil _⟩
  · simp only [List.forall_mem_append]
    refine ⟨⟨escapeFree_sectionHead (by decide), fun line member => ?_⟩,
      List.forall_mem_singleton.mpr escapeFree_blankLine⟩
    obtain ⟨file, among, inside⟩ := List.mem_flatMap.mp member
    exact escapeFree_fileLines verbose (free file among) line inside

theorem escapeFree_findingLine {finding : Finding} (ruleId : EscapeFree finding.ruleId)
    (matchedText : EscapeFree finding.matchedText) :
    StyledLine.EscapeFree (findingLine finding) := by
  have place : EscapeFree ("    " ++ padLeft 4 (toString finding.line) ++ " │ ") := by
    simp only [padLeft, escapeFree_append]
    exact ⟨⟨by decide, escapeFree_repeated _ (by decide), escapeFree_toString_int finding.line⟩,
      by decide⟩
  have quoted : EscapeFree (" " ++ abridge matchLimit "..." finding.matchedText) :=
    escapeFree_append.mpr ⟨by decide, escapeFree_abridge matchLimit matchedText (by decide)⟩
  simp only [findingLine, StyledLine.EscapeFree, List.forall_mem_cons]
  exact ⟨place, ruleId, quoted, List.forall_mem_nil _⟩

theorem escapeFree_hidden (hidden : Nat) :
    ∀ line ∈ if hidden = 0 then []
      else [styledLine .dim ("    ... " ++ toString hidden ++ " more (use -v)")],
      line.EscapeFree := by
  have told : EscapeFree ("    ... " ++ toString hidden ++ " more (use -v)") :=
    escapeFree_append.mpr ⟨escapeFree_append.mpr ⟨by decide, escapeFree_toString hidden⟩, by decide⟩
  split
  · exact List.forall_mem_nil _
  · exact List.forall_mem_singleton.mpr (escapeFree_styledLine .dim told)

theorem escapeFree_verdictLines (verbose : Bool) {verdict : Verdict} (free : verdict.EscapeFree) :
    ∀ line ∈ verdictLines verbose verdict, line.EscapeFree := by
  have named : EscapeFree ("🚨 " ++ verdict.filePath) :=
    escapeFree_append.mpr ⟨by decide, free.filePath⟩
  have sorted : EscapeFree ("  [" ++ Category.labels verdict.categories ++ "]") :=
    escapeFree_append.mpr ⟨escapeFree_append.mpr ⟨by decide, escapeFree_labels _⟩, by decide⟩
  simp only [verdictLines, List.forall_mem_append]
  refine ⟨⟨⟨?_, ?_⟩, ?_⟩, List.forall_mem_singleton.mpr escapeFree_blankLine⟩
  · simp only [List.forall_mem_cons, StyledLine.EscapeFree]
    exact ⟨⟨named, sorted, List.forall_mem_nil _⟩, List.forall_mem_nil _⟩
  · intro line member
    obtain ⟨finding, shown, rfl⟩ := List.mem_map.mp member
    have among : finding ∈ verdict.findings := by
      split at shown
      · exact shown
      · exact List.mem_of_mem_take shown
    exact escapeFree_findingLine (free.ruleId finding among) (free.matchedText finding among)
  · exact escapeFree_hidden _

theorem escapeFree_verdictsLines (verbose : Bool) {verdicts : List Verdict}
    (free : ∀ verdict ∈ verdicts, verdict.EscapeFree) :
    ∀ line ∈ verdictsLines verbose verdicts, line.EscapeFree := by
  simp only [verdictsLines, List.forall_mem_append]
  refine ⟨⟨escapeFree_header (by decide), ?_⟩, ?_⟩
  · simp only [List.forall_mem_cons]
    exact ⟨escapeFree_figure (by decide) _, escapeFree_figure (by decide) _, escapeFree_blankLine,
      List.forall_mem_nil _⟩
  split
  · simp only [List.forall_mem_cons]
    exact ⟨escapeFree_styledLine .green (by decide), escapeFree_blankLine, List.forall_mem_nil _⟩
  · intro line member
    obtain ⟨verdict, among, inside⟩ := List.mem_flatMap.mp member
    exact escapeFree_verdictLines verbose (free verdict (List.mem_filter.mp among).1) line inside

/-- A report with colours shows as the report without them, on a run and on verdicts, and closes
every colour before another begins. -/
theorem colored_shows_plain (verbose failOnError : Bool) {outcome : RunOutcome}
    (outcomeFree : ∀ file ∈ outcome.files, file.EscapeFree) {verdicts : List Verdict}
    (verdictsFree : ∀ verdict ∈ verdicts, verdict.EscapeFree) :
    let colored : Writer := ⟨.text, verbose, true⟩
    let plain : Writer := ⟨.text, verbose, false⟩
    Terminal.shown (colored.outcome outcome failOnError) = plain.outcome outcome failOnError ∧
      Terminal.Closed (Terminal.numbers (colored.outcome outcome failOnError)) ∧
      Terminal.shown (colored.verdicts verdicts) = plain.verdicts verdicts ∧
      Terminal.Closed (Terminal.numbers (colored.verdicts verdicts)) := by
  have run := presents_renderLines (escapeFree_outcomeLines verbose outcomeFree failOnError)
  have scan := presents_renderLines (escapeFree_verdictsLines verbose verdictsFree)
  exact ⟨run.shown_eq, run.closed, scan.shown_eq, scan.closed⟩

/-- A script was fixed, and another one is flagged. -/
theorem colored_shows_plain_script :
    let file : FileOutcome := ⟨"a.js", .flaggedFixed, [.xss], "done", "--- a\n+++ b\n-a;\n+b;\n"⟩
    let verdict : Verdict := ⟨"b.js", [.xss], [⟨"XSS", .xss, "b.js", 1, "innerHTML =", ""⟩]⟩
    let colored : Writer := ⟨.text, true, true⟩
    let plain : Writer := ⟨.text, true, false⟩
    (∀ other ∈ [file], other.EscapeFree) ∧ (∀ other ∈ [verdict], other.EscapeFree) ∧
      Terminal.shown (colored.outcome ⟨[file]⟩ false) = plain.outcome ⟨[file]⟩ false ∧
      Terminal.Closed (Terminal.numbers (colored.outcome ⟨[file]⟩ false)) ∧
      Terminal.shown (colored.verdicts [verdict]) = plain.verdicts [verdict] ∧
      Terminal.Closed (Terminal.numbers (colored.verdicts [verdict])) := by
  intro file verdict colored plain
  have fileFree : ∀ other ∈ [file], other.EscapeFree :=
    List.forall_mem_singleton.mpr ⟨by decide, by decide, by decide⟩
  have verdictFree : ∀ other ∈ [verdict], other.EscapeFree :=
    List.forall_mem_singleton.mpr ⟨by decide, by decide, by decide⟩
  exact ⟨fileFree, verdictFree, colored_shows_plain true false fileFree verdictFree⟩

end Report

end Remedy
