import Remedy.Proofs.Pipeline.Traffic

/-!
# What a log says about files

The outcome of a file is recorded once, by a record that begins with the mark of its result, the
path and a colon. Whatever becomes of a file, its step says so exactly one time (`tells_process`),
also when it breaks off halfway; by induction a run that nobody interrupts has one such record for
each of its files, in their order, and all of them are of some weight.
-/

set_option autoImplicit false

namespace Remedy

/-! ## Records of outcomes -/

def outcomeMarks : List String :=
  ["· ", "✅ ", "❌ ", "⚠ ", "[DRY RUN] "]

/-- A text that does not begin like the record of an outcome. -/
def Unmarked (text : String) : Prop :=
  ∀ mark ∈ outcomeMarks, ¬ mark.toList <+: text.toList

/-- A text is unmarked if it begins with a character that no mark begins with. -/
theorem unmarked_of_head {text : String} {c : Char} (begins : text.toList.head? = some c)
    (other : ∀ mark ∈ outcomeMarks, mark.toList.head? ≠ some c) : Unmarked text := by
  intro mark among front
  have notEmpty : ∀ mark ∈ outcomeMarks, mark.toList ≠ [] := by
    decide
  obtain ⟨rest, whole⟩ := front
  rw [← whole, List.head?_append_of_ne_nil _ (notEmpty mark among)] at begins
  exact other mark among begins

def LogRecord.Announces (mark path : String) (record : LogRecord) : Prop :=
  (mark ++ path ++ ":").toList <+: record.message.toList

instance (mark path : String) (record : LogRecord) : Decidable (record.Announces mark path) :=
  inferInstanceAs (Decidable ((mark ++ path ++ ":").toList <+: record.message.toList))

/-- Whether a record looks like that of the outcome of one of some files. -/
def isOutcomeRecord (paths : List String) (record : LogRecord) : Bool :=
  outcomeMarks.any fun mark => paths.any fun path => decide (record.Announces mark path)

/-- A record tells the outcome of a file: it carries the mark of the result and no other one, and
it is shown unless only warnings are. -/
structure Reports (file : FileOutcome) (record : LogRecord) : Prop where
  level : record.level.reaches .info = true
  skipped : record.Announces "· " file.filePath ↔ file.result = .skipped
  fixed : record.Announces "✅ " file.filePath ↔ file.result = .flaggedFixed
  error : record.Announces "❌ " file.filePath ↔ file.result = .error
  unfixed : record.Announces "⚠ " file.filePath ↔
    file.result = .flaggedUnfixed ∧ file.message ≠ "dry run"
  rehearsed : record.Announces "[DRY RUN] " file.filePath ↔
    file.result = .flaggedUnfixed ∧ file.message = "dry run"

def FileOutcome.mark (file : FileOutcome) : String :=
  match file.result with
  | .skipped => "· "
  | .flaggedFixed => "✅ "
  | .error => "❌ "
  | .flaggedUnfixed => if file.message = "dry run" then "[DRY RUN] " else "⚠ "

theorem FileOutcome.mark_mem (file : FileOutcome) : file.mark ∈ outcomeMarks := by
  unfold FileOutcome.mark
  split
  · decide
  · decide
  · decide
  · split <;> decide

namespace LogRecord

variable {mark other path : String} {record : LogRecord}

theorem Announces.mark_prefix (announced : record.Announces mark path) :
    mark.toList <+: record.message.toList := by
  rw [Announces, String.append_assoc, String.toList_append] at announced
  exact (List.prefix_append _ _).trans announced

theorem Announces.colon_mem (announced : record.Announces mark path) :
    ':' ∈ record.message.toList := by
  refine announced.subset ?_
  simp

theorem eq_of_mark_prefix {text : List Char} (first : mark ∈ outcomeMarks)
    (second : other ∈ outcomeMarks) (begins : mark.toList <+: text)
    (beginsToo : other.toList <+: text) : mark = other := by
  have apart : ∀ a ∈ outcomeMarks, ∀ b ∈ outcomeMarks,
      a.toList <+: b.toList → a = b := by
    decide
  rcases List.prefix_or_prefix_of_prefix begins beginsToo with within | within
  · exact apart mark first other second within
  · exact (apart other second mark first within).symm

theorem announces_iff (announced : record.Announces mark path) (first : mark ∈ outcomeMarks)
    (second : other ∈ outcomeMarks) : record.Announces other path ↔ mark = other := by
  constructor
  · intro announcedToo
    exact eq_of_mark_prefix first second announced.mark_prefix announcedToo.mark_prefix
  · rintro rfl
    exact announced

end LogRecord

theorem reports_of_announces {file : FileOutcome} {record : LogRecord}
    (announced : record.Announces file.mark file.filePath)
    (level : record.level.reaches .info = true) : Reports file record := by
  have carries {other : String} (among : other ∈ outcomeMarks) :
      record.Announces other file.filePath ↔ file.mark = other :=
    LogRecord.announces_iff announced file.mark_mem among
  have marks : (file.mark = "· " ↔ file.result = .skipped) ∧
      (file.mark = "✅ " ↔ file.result = .flaggedFixed) ∧
      (file.mark = "❌ " ↔ file.result = .error) ∧
      (file.mark = "⚠ " ↔ file.result = .flaggedUnfixed ∧ file.message ≠ "dry run") ∧
      (file.mark = "[DRY RUN] " ↔ file.result = .flaggedUnfixed ∧ file.message = "dry run") := by
    unfold FileOutcome.mark
    cases file.result with
    | flaggedUnfixed => by_cases dry : file.message = "dry run" <;> simp [dry]
    | _ => simp
  obtain ⟨skipped, fixed, error, unfixed, rehearsed⟩ := marks
  exact ⟨level, (carries (by decide)).trans skipped, (carries (by decide)).trans fixed,
    (carries (by decide)).trans error, (carries (by decide)).trans unfixed,
    (carries (by decide)).trans rehearsed⟩

/-! ## Other records -/

/-- A record of no outcome. It can look like one only if it is there for following details and the
path of some file itself begins with a mark. -/
def Aside (paths : List String) (record : LogRecord) : Prop :=
  isOutcomeRecord paths record = true →
    record.level = .debug ∧ ∃ path ∈ paths, ¬ Unmarked path

section Asides

variable {paths : List String} {record : LogRecord}

theorem isOutcomeRecord_iff : isOutcomeRecord paths record = true ↔
    ∃ mark ∈ outcomeMarks, ∃ path ∈ paths, record.Announces mark path := by
  simp [isOutcomeRecord]

theorem aside_of_unmarked (unmarked : Unmarked record.message) : Aside paths record := by
  intro looks
  obtain ⟨mark, among, path, -, announced⟩ := isOutcomeRecord_iff.mp looks
  exact absurd announced.mark_prefix (unmarked mark among)

theorem aside_of_head {c : Char} (begins : record.message.toList.head? = some c)
    (other : ∀ mark ∈ outcomeMarks, mark.toList.head? ≠ some c) : Aside paths record :=
  aside_of_unmarked (unmarked_of_head begins other)

theorem aside_of_no_colon (none : ':' ∉ record.message.toList) : Aside paths record := by
  intro looks
  obtain ⟨mark, -, path, -, announced⟩ := isOutcomeRecord_iff.mp looks
  exact absurd announced.colon_mem none

/-- What is noted in detail about a file may look like the outcome of another one. -/
theorem aside_detail {path : String} (among : path ∈ paths) (text : String) :
    Aside paths ⟨.debug, path ++ ":" ++ text⟩ := by
  intro looks
  obtain ⟨mark, isMark, other, -, announced⟩ := isOutcomeRecord_iff.mp looks
  refine ⟨rfl, path, among, fun unmarked => unmarked mark isMark ?_⟩
  have begins : mark.toList <+: path.toList ++ ':' :: text.toList := by
    simpa using announced.mark_prefix
  rcases List.prefix_or_prefix_of_prefix begins (List.prefix_append _ _) with within | beyond
  · exact within
  obtain ⟨more, whole⟩ := beyond
  rw [← whole, List.prefix_append_right_inj] at begins
  rw [← whole]
  cases more with
  | nil => simp
  | cons c more =>
    have noColon : ∀ mark ∈ outcomeMarks, ':' ∉ mark.toList := by
      decide
    obtain ⟨rfl, -⟩ := List.cons_prefix_cons.mp begins
    exact absurd (by rw [← whole]; simp) (noColon mark isMark)

end Asides

theorem Reports.announces {file : FileOutcome} {record : LogRecord}
    (reports : Reports file record) : record.Announces file.mark file.filePath := by
  unfold FileOutcome.mark
  cases result : file.result with
  | skipped => exact reports.skipped.mpr result
  | flaggedFixed => exact reports.fixed.mpr result
  | error => exact reports.error.mpr result
  | flaggedUnfixed =>
    simp only
    split
    · next dry => exact reports.rehearsed.mpr ⟨result, dry⟩
    · next other => exact reports.unfixed.mpr ⟨result, other⟩

theorem Reports.isOutcomeRecord {file : FileOutcome} {record : LogRecord}
    (reports : Reports file record) {paths : List String} (among : file.filePath ∈ paths) :
    isOutcomeRecord paths record = true :=
  isOutcomeRecord_iff.mpr ⟨_, file.mark_mem, _, among, reports.announces⟩

/-- A generator whose own records do not begin like those of outcomes. -/
def Generator.Discreet {σ : Type} (generate : Generator σ) : Prop :=
  ∀ prompt asked, ∀ record ∈ (generate prompt asked).journal.records, Unmarked record.message

/-! ## Records of services -/

namespace Retry

open Number

variable {σ : Type} {transport : Transport σ} {policy : RetryPolicy} {provider : String}
  {request : Request}

/-- What is said about a passing trouble begins with the name of the provider. -/
theorem message_of_judge [Interpreter] {delivery : Delivery} {error : GeneratorError}
    (again : judge provider delivery = .again error) :
    ∃ text, error.message = provider ++ text := by
  cases delivery with
  | interrupted => cases again
  | failure kind text =>
    cases again
    exact ⟨" request failed: " ++ kind ++ ": " ++ text, by
      simp [GeneratorError.message, String.append_assoc]⟩
  | response status body =>
    simp only [judge] at again
    split at again
    · cases again
      exact ⟨" returned HTTP " ++ toString status, by
        simp [GeneratorError.message, String.append_assoc]⟩
    · split at again <;> cases again

theorem records_interlude {error : GeneratorError} {attempt attempts : Nat} {between : Journal}
    (paused : interlude policy error attempt attempts = .ok between) :
    ∃ text, between.records = [⟨.warning, error.message ++ text⟩] := by
  simp only [interlude] at paused
  split at paused
  · cases paused
  · next delay _ =>
    cases shown : oneDecimal delay with
    | error fault =>
      rw [shown] at paused
      cases paused
    | ok text =>
      rw [shown] at paused
      cases paused
      refine ⟨" (attempt " ++ toString attempt ++ "/" ++ toString attempts ++ "); retrying in " ++
        text ++ "s", ?_⟩
      simp only [String.append_assoc]
      split <;> rfl

theorem message_of_mem_attemptFrom [Interpreter] (attempts left attempt : Nat) (state : σ) :
    ∀ record ∈ (attemptFrom transport policy provider request attempts left attempt
      state).journal.records, ∃ text, record.message = provider ++ text := by
  induction left generalizing attempt state with
  | zero =>
    rw [attemptFrom.eq_def]
    cases judged : judge provider (transport request state).1 with
    | again error => simp [judged, Step.after, Step.halted, Journal.records]
    | settled result =>
      cases result <;> simp [judged, Step.after, Step.halted, Step.done, Journal.records]
    | interrupted => simp [judged, Step.after, Step.halted, Journal.records]
  | succ left ih =>
    rw [attemptFrom.eq_def]
    cases judged : judge provider (transport request state).1 with
    | interrupted => simp [judged, Step.after, Step.halted, Journal.records]
    | settled result =>
      cases result <;> simp [judged, Step.after, Step.halted, Step.done, Journal.records]
    | again error =>
      cases paused : interlude policy error attempt attempts with
      | error fault => simp [judged, paused, Step.after, Step.halted, Journal.records]
      | ok between =>
        obtain ⟨text, told⟩ := records_interlude paused
        obtain ⟨trouble, named⟩ := message_of_judge judged
        simp only [judged, paused, Step.after_journal, Journal.records_append, told]
        refine List.forall_mem_append.mpr ⟨List.forall_mem_singleton.mpr ?_, ih _ _⟩
        exact ⟨trouble ++ text, by rw [named, String.append_assoc]⟩

end Retry

namespace Client

variable {σ : Type} (client : Client) (transport : Transport σ) (prompt : String) (state : σ)

theorem unmarked_callRecord :
    ∀ record ∈ Journal.records [client.service.callRecord prompt], Unmarked record.message := by
  cases client.service with
  | gemini key model =>
    exact List.forall_mem_singleton.mpr (unmarked_of_head (c := 'C') (by simp) (by decide))
  | ollama model address =>
    exact List.forall_mem_singleton.mpr (unmarked_of_head (c := 'C') (by simp) (by decide))

theorem unmarked_post [Interpreter] :
    ∀ record ∈ (Retry.post transport client.policy client.service.name (client.request prompt)
      state).journal.records, Unmarked record.message := by
  have named (text : String) : Unmarked (client.service.name ++ text) := by
    cases client.service with
    | gemini key model => exact unmarked_of_head (c := 'g') (by simp [Service.name]) (by decide)
    | ollama model address => exact unmarked_of_head (c := 'o') (by simp [Service.name]) (by decide)
  unfold Retry.post
  split
  · exact List.forall_mem_nil _
  · intro record told
    obtain ⟨text, message⟩ := Retry.message_of_mem_attemptFrom _ _ _ _ record told
    rw [message]
    exact named text

theorem unmarked_completion (members : Reply.Members) :
    ∀ record ∈ (client.service.completion members).1.records, Unmarked record.message := by
  cases client.service with
  | gemini key model =>
    simp only [Service.completion]
    split
    · split <;> exact List.forall_mem_nil _
    · exact List.forall_mem_singleton.mpr (unmarked_of_head (c := 'G') (by simp) (by decide))
  | ollama model address =>
    simp only [Service.completion]
    split <;> exact List.forall_mem_nil _

/-- Nothing that is recorded on the way to a service begins like the record of an outcome. -/
theorem generator_discreet [Interpreter] : Generator.Discreet (client.generator transport) := by
  intro prompt state
  have posted := unmarked_post client transport prompt state
  rw [generator, Step.map_journal, submit, Step.after_journal, Journal.records_append]
  refine List.forall_mem_append.mpr ⟨unmarked_callRecord client prompt, ?_⟩
  cases ended : (Retry.post transport client.policy client.service.name (client.request prompt)
      state).result with
  | error halt =>
    rw [Step.andThen_of_error ended]
    exact posted
  | ok members =>
    have read := unmarked_completion client members
    rw [Step.andThen_of_ok ended, Step.after_journal, Journal.records_append]
    refine List.forall_mem_append.mpr ⟨posted, ?_⟩
    cases found : client.service.completion members with
    | mk journal result =>
      rw [found] at read
      cases result with
      | ok completion =>
        rw [Step.after_journal, Journal.records_append]
        exact List.forall_mem_append.mpr ⟨read, List.forall_mem_nil _⟩
      | error error =>
        rw [Step.after_journal, Journal.records_append]
        exact List.forall_mem_append.mpr ⟨read, List.forall_mem_nil _⟩

end Client

/-! ## One file -/

/-- Records of which exactly one tells the outcome of a file. -/
def Tells (paths : List String) (file : FileOutcome) (records : List LogRecord) : Prop :=
  ∃ before record after, records = before ++ record :: after ∧
    (∀ other ∈ before ++ after, Aside paths other) ∧ Reports file record

theorem Tells.after {paths : List String} {file : FileOutcome} {front records : List LogRecord}
    (tells : Tells paths file records) (asides : ∀ other ∈ front, Aside paths other) :
    Tells paths file (front ++ records) := by
  obtain ⟨before, record, after, rfl, others, reports⟩ := tells
  refine ⟨front ++ before, record, after, (List.append_assoc ..).symm, ?_, reports⟩
  rw [List.append_assoc]
  exact List.forall_mem_append.mpr ⟨asides, others⟩

/-- A way to pick records that leaves asides out and takes those of outcomes. -/
structure Picks (paths : List String) (picks : LogRecord → Bool) : Prop where
  asides : ∀ record, Aside paths record → picks record = false
  outcomes : ∀ file record, Reports file record → file.filePath ∈ paths → picks record = true

theorem Picks.filter_asides {paths : List String} {picks : LogRecord → Bool}
    (choice : Picks paths picks) {records : List LogRecord}
    (asides : ∀ other ∈ records, Aside paths other) : records.filter picks = [] :=
  List.filter_eq_nil_iff.mpr fun record member => by
    simp [choice.asides record (asides record member)]

theorem Tells.exists_picked {paths : List String} {file : FileOutcome} {records : List LogRecord}
    (tells : Tells paths file records) (among : file.filePath ∈ paths) :
    ∃ record, Reports file record ∧
      ∀ picks, Picks paths picks → records.filter picks = [record] := by
  obtain ⟨before, record, after, rfl, others, reports⟩ := tells
  obtain ⟨front, back⟩ := List.forall_mem_append.mp others
  refine ⟨record, reports, fun picks choice => ?_⟩
  rw [List.filter_append, List.filter_cons_of_pos (choice.outcomes file record reports among),
    choice.filter_asides front, choice.filter_asides back, List.nil_append]

/-- An activity that comes to an outcome tells it once, and one that comes to none does not look as
if it did. -/
def Speaks {ε : Type} (paths : List String) (journal : Journal) (result : Except ε FileOutcome) :
    Prop :=
  (∃ file, result = .ok file ∧ Tells paths file journal.records) ∨
    ∃ error, result = .error error ∧ ∀ other ∈ journal.records, Aside paths other

namespace Speaks

variable {ε : Type} {paths : List String} {journal : Journal} {result : Except ε FileOutcome}

theorem record {file : FileOutcome} {level : LogLevel} {text : String}
    (announced : LogRecord.Announces file.mark file.filePath ⟨level, text⟩)
    (shown : level.reaches .info = true) :
    Speaks (ε := ε) paths [.log ⟨level, text⟩] (.ok file) :=
  Or.inl ⟨file, rfl, [], _, [], rfl, List.forall_mem_nil _, reports_of_announces announced shown⟩

theorem silent (error : ε) : Speaks paths [] (.error error) :=
  Or.inr ⟨error, rfl, List.forall_mem_nil _⟩

theorem after (speaks : Speaks paths journal result) {front : Journal}
    (asides : ∀ other ∈ front.records, Aside paths other) :
    Speaks paths (front ++ journal) result := by
  rw [Speaks, Journal.records_append]
  rcases speaks with ⟨file, ended, tells⟩ | ⟨error, ended, others⟩
  · exact Or.inl ⟨file, ended, tells.after asides⟩
  · exact Or.inr ⟨error, ended, List.forall_mem_append.mpr ⟨asides, others⟩⟩

theorem mapError (speaks : Speaks paths journal result) {δ : Type} (f : ε → δ) :
    Speaks paths journal (result.mapError f) := by
  rcases speaks with ⟨file, rfl, tells⟩ | ⟨error, rfl, others⟩
  · exact Or.inl ⟨file, rfl, tells⟩
  · exact Or.inr ⟨f error, rfl, others⟩

end Speaks

theorem Remediation.speaks_apply (paths : List String) (r : Remediation) (tree : FileTree)
    (artifact : String) :
    Speaks paths (r.apply tree artifact).journal (r.apply tree artifact).result := by
  have failed (tree : FileTree) (error : ReplaceError) (diff : String) :
      Speaks paths (r.failed tree error diff).journal (r.failed tree error diff).result := by
    unfold Remediation.failed
    split
    · exact .record (by simp [LogRecord.Announces, FileOutcome.mark, outcome]) rfl
    · exact .silent error
  have applied (tree : FileTree) (content diff : String) :
      Speaks paths (r.applied tree content diff).journal (r.applied tree content diff).result := by
    unfold Remediation.applied
    split
    · exact .silent _
    · exact .silent _
    · exact .record (by simp [LogRecord.Announces, FileOutcome.mark, outcome]) rfl
  simp only [apply]
  split
  · exact .record (by simp [LogRecord.Announces, FileOutcome.mark, outcome]) rfl
  · split
    · exact .record (by simp [LogRecord.Announces, FileOutcome.mark, outcome]) rfl
    · simp only [replace]
      split
      · exact .record (by simp [LogRecord.Announces, FileOutcome.mark, outcome]) rfl
      · split
        · exact failed _ _ _
        · exact applied _ _ _

namespace Pipeline

variable {σ : Type} {pipeline : Pipeline} {generate : Generator σ} {around : Surroundings}
  {paths : List String} {path : String} {state : RunState σ}

theorem asides_announcement (among : path ∈ paths) (content prompt : String) :
    ∀ other ∈ (announcement (pipeline.detector.detect content path) prompt).records,
      Aside paths other := by
  have detail : ∀ other ∈ (pipeline.detector.detect content path).journal.records,
      Aside paths other := by
    unfold Verdict.journal
    split
    · refine List.forall_mem_singleton.mpr ?_
      have noted := aside_detail among (" " ++
        toString (pipeline.detector.detect content path).findings.length ++ " finding(s) in " ++
        ", ".intercalate (Category.sortedNames (pipeline.detector.detect content path).categories))
      simp only [String.append_assoc] at noted ⊢
      exact noted
    · exact List.forall_mem_nil _
  rw [announcement, Journal.records_append]
  refine List.forall_mem_append.mpr ⟨detail, List.forall_mem_singleton.mpr ?_⟩
  exact aside_of_head (c := '🚨') (by simp) (by decide)

theorem speaks_settle (verdict : Verdict) (content : String)
    (reply : Except Halt (Option String)) :
    Speaks paths (pipeline.settle around verdict content state reply).journal
      (pipeline.settle around verdict content state reply).result := by
  rcases reply with (fault | _) | _ | completion
  · cases fault
    case generator error =>
      exact .record (by simp [LogRecord.Announces, FileOutcome.mark, errorOutcome]) rfl
    all_goals exact .silent _
  · exact .silent _
  · exact .record (by simp [LogRecord.Announces, FileOutcome.mark]) rfl
  · simp only [settle, applyCompletion]
    exact (Remediation.speaks_apply paths _ _ _).mapError _

theorem speaks_examine (discreet : generate.Discreet) (among : path ∈ paths) :
    Speaks paths (pipeline.examine generate around path state).journal
      (pipeline.examine generate around path state).result := by
  unfold examine
  cases state.tree.readText around.directory (pipeline.locationOf path) with
  | error error =>
    cases error
    case nulCharacter => exact .silent _
    all_goals
      exact .record (by simp [LogRecord.Announces, FileOutcome.mark, errorOutcome]) rfl
  | ok content =>
    simp only [treat]
    split
    · refine (speaks_settle _ _ _).after ?_
      rw [Journal.records_append]
      exact List.forall_mem_append.mpr ⟨asides_announcement among _ _,
        fun other told => aside_of_unmarked (discreet _ _ other told)⟩
    · exact .record (by simp [LogRecord.Announces, FileOutcome.mark]) rfl

theorem tells_process (discreet : generate.Discreet) (among : path ∈ paths) {file : FileOutcome}
    (ended : (pipeline.process generate around path state).result = .ok file) :
    Tells paths file (pipeline.process generate around path state).journal.records := by
  have speaks : Speaks paths (pipeline.examine generate around path state).journal
      (pipeline.examine generate around path state).result := speaks_examine discreet among
  revert ended
  rw [process]
  generalize pipeline.examine generate around path state = step at speaks
  obtain ⟨journal, later, result⟩ := step
  intro ended
  rcases speaks with ⟨other, rfl, tells⟩ | ⟨halt, rfl, asides⟩
  · cases ended
    exact tells
  · cases halt with
    | interrupted => cases ended
    | fault fault =>
      cases ended
      simp only [contain, Journal.records_append]
      refine Tells.after ?_ asides
      refine ⟨[], _, [⟨.debug, "Traceback for " ++ path⟩], rfl,
        List.forall_mem_singleton.mpr (aside_of_head (c := 'T') (by simp) (by decide)), ?_⟩
      exact reports_of_announces
        (by simp [LogRecord.Announces, FileOutcome.mark, errorOutcome]) rfl

/-! ## Many files -/

theorem Course.exists_reports {files : List String} {last : RunState σ}
    {outcomes : List FileOutcome} (discreet : generate.Discreet)
    (course : Course pipeline generate around files state outcomes last)
    (within : ∀ path ∈ files, path ∈ paths) :
    ∃ reports, List.Forall₂ Reports outcomes reports ∧ ∀ picks, Picks paths picks →
      (pipeline.processAll generate around files state).journal.records.filter picks = reports := by
  induction course with
  | done => exact ⟨[], .nil, fun _ _ => rfl⟩
  | @file path rest state last outcome outcomes p _ ih =>
    obtain ⟨among, others⟩ := List.forall_mem_cons.mp within
    obtain ⟨reports, each, later⟩ := ih others
    obtain ⟨record, told, first⟩ :=
      (tells_process discreet among p.ended).exists_picked (p.labelled.symm ▸ among)
    refine ⟨record :: reports, .cons told each, fun picks choice => ?_⟩
    rw [journal_processAll_cons p, Journal.records_append, List.filter_append, first picks choice,
      later picks choice]
    rfl

/-! ## A run -/

theorem asides_candidates (pipeline : Pipeline) (around : Surroundings)
    (given : Option (List String)) :
    ∀ other ∈ (pipeline.candidates around given).1.records, Aside paths other := by
  cases given with
  | some given => exact List.forall_mem_nil _
  | none =>
    simp only [candidates, ChangeSet.resolve]
    split
    · exact List.forall_mem_singleton.mpr (aside_of_head (c := 'N') (by simp) (by decide))
    · exact List.forall_mem_singleton.mpr (aside_of_head (c := 'g') (by simp) (by decide))
    · exact List.forall_mem_singleton.mpr (aside_of_head (c := 'g') (by simp) (by decide))
    · split
      · exact List.forall_mem_nil _
      · exact List.forall_mem_singleton.mpr (aside_of_head (c := 'R') (by simp) (by decide))

theorem asides_closing (outcome : RunOutcome) :
    ∀ other ∈ (closing outcome).records, Aside paths other := by
  have noColon (n : Nat) : ':' ∉ Nat.toDigits 10 n := by
    intro member
    cases Nat.isDigit_of_mem_toDigits (by decide) (by decide) member
  have applied : ∀ other ∈ Journal.records (if outcome.anyChangeApplied then
      [.info ("🔁 Remediation applied to " ++ toString (outcome.count .flaggedFixed) ++
        " file(s); changes need re-validation.")]
      else [.info "✅ No remediation applied."]), Aside paths other := by
    split
    · exact List.forall_mem_singleton.mpr (aside_of_head (c := '🔁') (by simp) (by decide))
    · exact List.forall_mem_singleton.mpr (aside_of_no_colon (by decide))
  rw [closing, Journal.records_append]
  refine List.forall_mem_append.mpr ⟨applied, ?_⟩
  split
  · exact List.forall_mem_nil _
  · refine List.forall_mem_singleton.mpr (aside_of_no_colon ?_)
    simp [noColon]

theorem aside_enter (phase : Phase) (state : RunState σ) :
    ∀ other ∈ (enter phase state).journal.records, Aside paths other :=
  List.forall_mem_singleton.mpr (aside_of_head (c := 'P') (by simp) (by decide))

theorem exists_journal_run (calm : generate.Uninterrupted) {given : Option (List String)}
    (resolved : (pipeline.candidates around given).2 = .ok paths) (state : RunState σ) :
    ∃ opening closing : Journal, (pipeline.run generate around given state).journal =
        opening ++ (pipeline.processAll generate around paths
          { state with phase := .processing }).journal ++ closing ∧
      (∀ other ∈ opening.records, Aside paths other) ∧
      ∀ other ∈ closing.records, Aside paths other := by
  have chosen : ∀ other ∈ (pipeline.candidates around given).1.records, Aside paths other :=
    asides_candidates pipeline around given
  cases found : pipeline.candidates around given with
  | mk journal result =>
    rw [found] at resolved chosen
    simp only [run, found, show result = .ok paths from resolved]
    cases paths with
    | nil =>
      refine ⟨(enter .resolvingChanges state).journal ++ (journal ++
        ([.info "No changed source files found; nothing to do."] ++
          (enter .doneClean (enter .resolvingChanges state).state).journal)), [], ?_, ?_,
        List.forall_mem_nil _⟩
      · rw [Step.andThen_of_ok rfl, runOver, if_pos List.isEmpty_nil, Step.andThen_of_ok rfl]
        simp [processAll, Step.done]
      · simp only [Journal.records_append, List.forall_mem_append]
        exact ⟨aside_enter _ _, chosen,
          List.forall_mem_singleton.mpr (aside_of_no_colon (by decide)), aside_enter _ _⟩
    | cons path rest =>
      obtain ⟨outcomes, ended, -⟩ :=
        exists_course pipeline around calm (path :: rest) { state with phase := .processing }
      refine ⟨(enter .resolvingChanges state).journal ++ (journal ++
        (enter .processing (enter .resolvingChanges state).state).journal),
        (finish outcomes (pipeline.processAll generate around (path :: rest)
          { state with phase := .processing }).state).journal, ?_, ?_, ?_⟩
      · rw [Step.andThen_of_ok rfl, runOver, if_neg (by simp), Step.andThen_of_ok rfl]
        have processed := Step.andThen_of_ok ended (finish (σ := σ))
        simp only [enter, Step.after_journal] at processed ⊢
        rw [processed]
        simp
      · simp only [Journal.records_append, List.forall_mem_append]
        exact ⟨aside_enter _ _, chosen, aside_enter _ _⟩
      · rw [finish, Step.andThen_of_ok rfl]
        simp only [Step.after_journal, Journal.records_append, List.forall_mem_append]
        exact ⟨aside_enter _ _, asides_closing _, List.forall_mem_nil _⟩

/-- A run that nobody interrupts tells the outcome of each file once, in the order of the files. At
the level of plain information the records that look like those of outcomes are these and no
others; so it is at every level unless a path itself begins like such a record. -/
theorem run_tells_each_file (calm : generate.Uninterrupted) (discreet : generate.Discreet)
    {given : Option (List String)} {chosen : List String}
    (resolved : (pipeline.candidates around given).2 = .ok chosen) (state : RunState σ) :
    ∃ outcome reports, (pipeline.run generate around given state).result = .ok outcome ∧
      outcome.files.map FileOutcome.filePath = chosen ∧
      List.Forall₂ Reports outcome.files reports ∧
      ((pipeline.run generate around given state).journal.atLeast .info).records.filter
          (isOutcomeRecord chosen) = reports ∧
      ((∀ path ∈ chosen, Unmarked path) →
        (pipeline.run generate around given state).journal.records.filter
          (isOutcomeRecord chosen) = reports) := by
  obtain ⟨outcomes, last, course, ended, -⟩ := run_course calm resolved state
  obtain ⟨reports, each, told⟩ := course.exists_reports discreet fun _ among => among
  obtain ⟨opening, closing, journal, before, behind⟩ := exists_journal_run calm resolved state
  have picked (picks : LogRecord → Bool) (choice : Picks chosen picks) :
      (pipeline.run generate around given state).journal.records.filter picks = reports := by
    rw [journal, Journal.records_append, Journal.records_append, List.filter_append,
      List.filter_append, choice.filter_asides before, choice.filter_asides behind,
      told picks choice, List.nil_append, List.append_nil]
  refine ⟨⟨outcomes⟩, reports, ended, course.filePaths, each, ?_, fun unmarked => picked _ ?_⟩
  · rw [Journal.records_atLeast, List.filter_filter]
    refine picked _ ⟨fun record aside => ?_, fun file record reports among => ?_⟩
    · by_contra looks
      rw [Bool.not_eq_false, Bool.and_eq_true] at looks
      obtain ⟨detail, -⟩ := aside looks.1
      rw [detail] at looks
      cases looks.2
    · rw [reports.isOutcomeRecord among, reports.level]
      rfl
  · refine ⟨fun record aside => ?_, fun file record reports => reports.isOutcomeRecord⟩
    by_contra looks
    obtain ⟨-, path, among, marked⟩ := aside (Bool.not_eq_false _ ▸ looks)
    exact marked (unmarked path among)

/-- A script that a service corrects once it is in order again, one with nothing to correct, and
one that is gone. -/
theorem run_tells_each_file_three :
    let client : Client := ⟨.ollama (.str "llama3") "http://localhost",
      ⟨.int 120, .int 1, .int 0⟩⟩
    let transport : Transport Nat := fun _ asked =>
      (if asked = 0 then .response 503 []
        else .response 200 (Text.Utf8.encode "\x7b\"response\": \"run(x)\"\x7d"), asked + 1)
    let pipeline : Pipeline := ⟨"", ⟨"", .str "main", .str "origin",
      ⟨.list [.str ".js"], .list []⟩⟩, .standard [], false⟩
    let around : Surroundings := ⟨[], "k", fun _ => none, .notInstalled⟩
    let state : RunState Nat := ⟨.initial,
      ⟨[(["a.js"], .file (Text.Utf8.encode "exec(x)\n") 0o644),
        (["b.js"], .file (Text.Utf8.encode "let b;\n") 0o644)]⟩, 0⟩
    let generate := client.generator transport
    let chosen := ["a.js", "b.js", "gone.js"]
    generate.Uninterrupted ∧ generate.Discreet ∧
      (pipeline.candidates around (some chosen)).2 = .ok chosen ∧
      (∀ path ∈ chosen, Unmarked path) ∧
      ∃ outcome reports, (pipeline.run generate around (some chosen) state).result = .ok outcome ∧
        outcome.files.map FileOutcome.filePath = chosen ∧
        List.Forall₂ Reports outcome.files reports ∧
        (pipeline.run generate around (some chosen) state).journal.records.filter
          (isOutcomeRecord chosen) = reports ∧
        reports.map LogRecord.message = ["✅ a.js: remediation applied (8 -> 7 bytes)",
          "· b.js: no vulnerability patterns; skipped",
          "❌ gone.js: could not read file: [Errno 2] No such file or directory: 'gone.js'"] := by
  intro client transport pipeline around state generate chosen
  have calm : generate.Uninterrupted := by
    refine client.generator_uninterrupted fun request asked interrupted => ?_
    simp only [transport] at interrupted
    split at interrupted <;> cases interrupted
  have discreet : generate.Discreet := client.generator_discreet transport
  have resolved : (pipeline.candidates around (some chosen)).2 = .ok chosen := by
    rfl
  have plain : ∀ path ∈ chosen, Unmarked path := by
    unfold Unmarked
    decide
  obtain ⟨outcome, reports, ended, paths, each, shown, all⟩ :=
    run_tells_each_file calm discreet resolved state
  refine ⟨calm, discreet, resolved, plain, outcome, reports, ended, paths, each, all plain, ?_⟩
  rw [← shown]
  decide +kernel

end Pipeline

end Remedy
