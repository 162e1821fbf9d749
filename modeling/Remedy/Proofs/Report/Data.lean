import Remedy.Proofs.Json.Ascii
import Remedy.Proofs.Json.RoundTrip
import Remedy.Report.Format

/-!
# Reports as data

The report on a run, written as JSON, is read back as the data it was made of, in every layout and
with any characters in paths, messages and diffs. The report without details is the same but for
the diffs of the files. The only number that grows with a run is the number of its files; where it
has more digits than a reader takes, reading stops there.
-/

set_option autoImplicit false

namespace Remedy

open Json Number Report Text

namespace Json

def without (name : String) : Json → Json
  | obj members => obj (members.filter fun member => member.1 ≠ name)
  | j => j

def mapItems (change : Json → Json) : Json → Json
  | arr items => arr (items.map change)
  | j => j

def mapMember (name : String) (change : Json → Json) : Json → Json
  | obj members => obj (members.map fun member =>
      if member.1 = name then (member.1, change member.2) else member)
  | j => j

end Json

/-! ## Readable reports -/

theorem readable_namesJson (categories : List Category) :
    Readable (Category.namesJson categories) := by
  refine .arr (List.forall_mem_map.mpr fun category _ => ?_)
  exact .str category.name

namespace FileOutcome

theorem readable_summaryMembers (outcome : FileOutcome) :
    ∀ member ∈ outcome.summaryMembers, Readable member.2 := by
  simp only [summaryMembers, List.forall_mem_cons]
  exact ⟨.str _, .str _, readable_namesJson _, .str _, List.forall_mem_nil _⟩

theorem readable_toSummary (outcome : FileOutcome) : Readable outcome.toSummary := by
  have distinct : (outcome.summaryMembers.map Prod.fst).Nodup := by
    simp [summaryMembers]
  exact .obj distinct outcome.readable_summaryMembers

theorem readable_toJson (outcome : FileOutcome) : Readable outcome.toJson := by
  rw [toJson]
  split
  · exact outcome.readable_toSummary
  · have distinct : ((outcome.summaryMembers ++ [("diff", Json.str outcome.diff)]).map
        Prod.fst).Nodup := by
      simp [summaryMembers]
    exact .obj distinct (List.forall_mem_append.mpr
      ⟨outcome.readable_summaryMembers, List.forall_mem_singleton.mpr (.str _)⟩)

theorem nesting_summaryMembers (outcome : FileOutcome) :
    ∀ member ∈ outcome.summaryMembers, member.2.nesting ≤ 1 := by
  have names : (Category.namesJson outcome.categories).nesting ≤ 1 :=
    nesting_arr_le_succ_iff.mpr (List.forall_mem_map.mpr fun _ _ => Nat.le_refl 0)
  simp only [summaryMembers, List.forall_mem_cons]
  exact ⟨Nat.zero_le _, Nat.zero_le _, names, Nat.zero_le _, List.forall_mem_nil _⟩

theorem nesting_toSummary (outcome : FileOutcome) : outcome.toSummary.nesting ≤ 2 :=
  nesting_obj_le_succ_iff.mpr outcome.nesting_summaryMembers

theorem nesting_toJson (outcome : FileOutcome) : outcome.toJson.nesting ≤ 2 := by
  rw [toJson]
  split
  · exact outcome.nesting_toSummary
  · exact nesting_obj_le_succ_iff.mpr (List.forall_mem_append.mpr
      ⟨outcome.nesting_summaryMembers, List.forall_mem_singleton.mpr (Nat.zero_le _)⟩)

theorem without_diff_toJson (outcome : FileOutcome) :
    outcome.toJson.without "diff" = outcome.toSummary := by
  rw [toJson]
  split
  · simp [toSummary, without, summaryMembers]
  · simp [toSummary, without, summaryMembers]

end FileOutcome

namespace RunOutcome

variable (outcome : RunOutcome) (failOnError : Bool)

/-- What reading a report with some data gives: the data, unless there are too many files for
their number to be read. -/
def decoded (value : Json) : Except ReadError (Json (List Point)) :=
  if IsShort outcome.files.length then .ok (value.map points)
  else .error (.tooLong (Nat.toDigits 10 outcome.files.length).length)

theorem isShort_exitCode : IsShort (outcome.exitCode failOnError) := by
  have short : IsShort 130 := by decide
  refine short.mono ?_
  rw [exitCode]
  cases outcome.exitStatus failOnError <;> decide

theorem readable_summary (countable : IsShort outcome.files.length) :
    Readable (outcome.summary failOnError) := by
  have count (result : FileResult) : IsShort (outcome.count result) :=
    countable.mono List.countP_le_length
  refine .obj (by simp) ?_
  simp only [List.forall_mem_cons]
  exact ⟨.int countable, .int (count _), .int (count _), .int (count _), .int (count _), .bool _,
    .int (outcome.isShort_exitCode failOnError), List.forall_mem_nil _⟩

theorem readable_toJsonWith (countable : IsShort outcome.files.length)
    {file : FileOutcome → Json} (files : ∀ f, Readable (file f)) :
    Readable (outcome.toJsonWith failOnError file) := by
  refine .obj (by simp) ?_
  simp only [List.forall_mem_cons]
  exact ⟨outcome.readable_summary failOnError countable,
    .arr (List.forall_mem_map.mpr fun f _ => files f), List.forall_mem_nil _⟩

theorem stops_toJsonWith (uncountable : ¬ IsShort outcome.files.length)
    (file : FileOutcome → Json) (layout : Layout) :
    Stops layout (outcome.toJsonWith failOnError file)
      (.tooLong (Nat.toDigits 10 outcome.files.length).length) := by
  have long : ¬ IsShort (outcome.files.length : Int).natAbs := uncountable
  have number := stops_int long layout
  exact (number.first_member (fun depth => starts_int _ layout depth) _).first_member
    (fun depth => starts_obj layout depth _) _

theorem nesting_toJsonWith {file : FileOutcome → Json} (flat : ∀ f, (file f).nesting ≤ 2) :
    (outcome.toJsonWith failOnError file).nesting ≤ 4 := by
  have summary : (outcome.summary failOnError).nesting ≤ 3 :=
    nesting_obj_le_succ_iff.mpr (by simp [nesting])
  have files : (Json.arr (outcome.files.map file)).nesting ≤ 3 :=
    nesting_arr_le_succ_iff.mpr (List.forall_mem_map.mpr fun f _ => flat f)
  exact nesting_obj_le_succ_iff.mpr
    (List.forall_mem_cons.mpr ⟨summary, List.forall_mem_singleton.mpr files⟩)

theorem read_toJsonWith {file : FileOutcome → Json} (files : ∀ f, Readable (file f))
    (flat : ∀ f, (file f).nesting ≤ 2) {room : Nat} (roomy : 4 ≤ room) (layout : Layout) :
    Json.read room ((outcome.toJsonWith failOnError file).render layout) =
      outcome.decoded (outcome.toJsonWith failOnError file) := by
  have within := Nat.le_trans (outcome.nesting_toJsonWith failOnError flat) roomy
  rw [decoded]
  split
  · next countable =>
    exact read_render (outcome.readable_toJsonWith failOnError countable files) layout within
  · next uncountable =>
    exact read_render_of_stops
      (outcome.stops_toJsonWith failOnError uncountable file layout)
      (starts_obj layout 0 _) within

theorem toJsonWith_toSummary :
    outcome.toJsonWith failOnError FileOutcome.toSummary =
      (outcome.toJson failOnError).mapMember "files" (mapItems (without "diff")) := by
  have files : outcome.files.map FileOutcome.toSummary =
      (outcome.files.map FileOutcome.toJson).map (without "diff") := by
    rw [List.map_map]
    exact List.map_congr_left fun f _ => f.without_diff_toJson.symm
  rw [toJsonWith, files]
  rfl

/-- In every layout the text of a run is ASCII and read back as its data, by a reader with room for
four containers in each other. As a report in the data format it is read back as the same data if
all details are given, and otherwise as the data without the diffs of the files. -/
theorem jsonText_decodes (outcome : RunOutcome) (failOnError : Bool) {room : Nat}
    (roomy : 4 ≤ room) :
    (∀ layout, Ascii (outcome.jsonText failOnError layout).toList ∧
      Json.read room (outcome.jsonText failOnError layout) =
        outcome.decoded (outcome.toJson failOnError)) ∧
    (∀ layout,
      Json.read room (dataOutcome layout true outcome failOnError) =
        outcome.decoded (outcome.toJson failOnError) ∧
      Json.read room (dataOutcome layout false outcome failOnError) =
        outcome.decoded
          ((outcome.toJson failOnError).mapMember "files" (mapItems (without "diff")))) ∧
    ∀ colored,
      Json.read room (Writer.outcome ⟨.json, true, colored⟩ outcome failOnError) =
        outcome.decoded (outcome.toJson failOnError) ∧
      Json.read room (Writer.outcome ⟨.json, false, colored⟩ outcome failOnError) =
        outcome.decoded
          ((outcome.toJson failOnError).mapMember "files" (mapItems (without "diff"))) := by
  have whole := outcome.read_toJsonWith failOnError FileOutcome.readable_toJson
    FileOutcome.nesting_toJson roomy
  have short := outcome.read_toJsonWith failOnError FileOutcome.readable_toSummary
    FileOutcome.nesting_toSummary roomy
  rw [toJsonWith_toSummary] at short
  have reports (layout : Layout) :
      Json.read room (dataOutcome layout true outcome failOnError) =
        outcome.decoded (outcome.toJson failOnError) ∧
      Json.read room (dataOutcome layout false outcome failOnError) =
        outcome.decoded
          ((outcome.toJson failOnError).mapMember "files" (mapItems (without "diff"))) := by
    refine ⟨whole layout, ?_⟩
    rw [← short layout, ← toJsonWith_toSummary]
    rfl
  exact ⟨fun layout => ⟨ascii_render layout _, whole layout⟩, reports,
    fun _ => reports Writer.dataLayout⟩

/-- A path with a quote and a character beyond the first plane, and a diff with a tab, come back
as they were. -/
theorem jsonText_decodes_astral :
    let outcome : RunOutcome :=
      ⟨[⟨"a\"𝄞.js", .flaggedFixed, [.commandInjection], "é\\", "-\texec(x)\n+\x00\n"⟩]⟩
    4 ≤ 960 ∧
      Json.read 960 (outcome.jsonText false (.indented 0)) =
        .ok ((outcome.toJson false).map points) ∧
      Json.read 960 (Writer.outcome ⟨.json, false, false⟩ outcome false) =
        .ok (((outcome.toJson false).mapMember "files"
          (mapItems (without "diff"))).map points) := by
  intro outcome
  have roomy : 4 ≤ 960 := by decide
  have countable : IsShort outcome.files.length := by decide
  obtain ⟨texts, -, reports⟩ := jsonText_decodes outcome false roomy
  have read (value : Json) : outcome.decoded value = .ok (value.map points) := if_pos countable
  rw [(texts (.indented 0)).2, (reports false).2, read, read]
  exact ⟨roomy, rfl, rfl⟩

end RunOutcome

end Remedy
