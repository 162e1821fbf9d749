import Remedy.Proofs.FileTree.Spelling
import Remedy.Proofs.Generator.Traffic
import Remedy.Proofs.Pipeline.Run

/-!
# What leaves the machine

Of a run only its prompts and the requests for them leave the machine. A file is asked about if it
is among the chosen ones, can be read and is flagged, and then once; whether it is, is known before
the run begins, for the other files of the run do not touch it. What goes wrong on the way may only
leave out requests.
-/

set_option autoImplicit false

namespace Remedy

/-! ## What is chosen -/

namespace Selection

variable {selection : Selection}

theorem keepsNamed_of_mem_selectFrom {seen raw chosen : List String}
    (selected : selection.selectFrom seen raw = .ok chosen) {path : String}
    (member : path ∈ chosen) : selection.keepsNamed path path = .ok true := by
  induction raw generalizing seen chosen with
  | nil =>
    cases selected
    cases member
  | cons first rest ih =>
    simp only [selectFrom] at selected
    split at selected
    · exact ih selected member
    · split at selected
      · cases selected
      · exact ih selected member
      · next keeps =>
        cases later : selection.selectFrom (first :: seen) rest with
        | error fault =>
          rw [later] at selected
          cases selected
        | ok more =>
          rw [later] at selected
          cases selected
          rcases List.mem_cons.mp member with rfl | among
          · exact keeps
          · exact ih later among

theorem keepsNamed_of_mem_select {raw chosen : List String}
    (selected : selection.select raw = .ok chosen) {path : String} (member : path ∈ chosen) :
    selection.keepsNamed path path = .ok true :=
  keepsNamed_of_mem_selectFrom selected member

end Selection

theorem Prompt.content_suffix_text (prompt : Prompt) :
    prompt.content.toList <:+ prompt.text.toList := by
  have parted : prompt.instructions ++ ["", "File: " ++ prompt.filePath, "", "Code:",
      prompt.content] = (prompt.instructions ++ ["", "File: " ++ prompt.filePath, "", "Code:"]) ++
        [prompt.content] := by
    simp
  rw [text, parted, String.toList_intercalate, List.map_append,
    Path.intercalate_append _ (by simp) (by simp), List.map_singleton, List.intercalate_singleton]
  exact List.suffix_append _ _

theorem Remediation.traffic_apply (r : Remediation) (tree : FileTree) (artifact : String) :
    (r.apply tree artifact).journal.traffic = [] := by
  have failed (tree : FileTree) (error : ReplaceError) (diff : String) :
      (r.failed tree error diff).journal.traffic = [] := by
    simp only [Remediation.failed]
    split <;> rfl
  have applied (tree : FileTree) (content diff : String) :
      (r.applied tree content diff).journal.traffic = [] := by
    simp only [Remediation.applied]
    split <;> rfl
  simp only [apply]
  split
  · rfl
  · split
    · rfl
    · simp only [replace]
      split
      · rfl
      · split
        · exact failed _ _ _
        · exact applied _ _ _

namespace Pipeline

variable {σ : Type} {pipeline : Pipeline} {generate : Generator σ} {around : Surroundings}
  {path : String} {state : RunState σ} {content : String} {request : String → Request}
  {allowed : Nat → Prop}

/-- The prompt that a file of a tree gives rise to, if it can be read and is flagged. -/
def promptIn (pipeline : Pipeline) (around : Surroundings) (tree : FileTree) (path : String) :
    Option String :=
  match tree.readText around.directory (pipeline.locationOf path) with
  | .ok content =>
    if (pipeline.detector.detect content path).isFlagged then
      some (pipeline.promptOf path content)
    else none
  | .error _ => none

def exchange (request : String → Request) (prompt : String) (posts : Nat) : Journal :=
  .prompt prompt :: List.replicate posts (.post (request prompt))

theorem promptIn_eq_some {tree : FileTree} {prompt : String}
    (asked : pipeline.promptIn around tree path = some prompt) :
    ∃ content, tree.readText around.directory (pipeline.locationOf path) = .ok content ∧
      (pipeline.detector.detect content path).isFlagged = true ∧
      prompt = pipeline.promptOf path content := by
  unfold promptIn at asked
  split at asked
  · next content readable =>
    split at asked
    · next flagged => exact ⟨content, readable, flagged, (Option.some.inj asked).symm⟩
    · cases asked
  · cases asked

theorem promptIn_congr {a b : FileTree} (same : FileTree.SameShape a b)
    (held : a.find? (pipeline.placeOf around path) = b.find? (pipeline.placeOf around path)) :
    pipeline.promptIn around a path = pipeline.promptIn around b path := by
  have read : a.readText around.directory (pipeline.locationOf path) =
      b.readText around.directory (pipeline.locationOf path) := by
    simp only [FileTree.readText, FileTree.readBytes_congr same held]
  unfold promptIn
  rw [read]

/-! ## One file -/

theorem traffic_contain (step : Step (RunState σ) FileOutcome) :
    (contain path step).journal.traffic = step.journal.traffic := by
  simp only [contain]
  split
  · simp
  · rfl

theorem traffic_announcement (verdict : Verdict) (prompt : String) :
    (announcement verdict prompt).traffic = [.prompt prompt] := by
  simp only [announcement, Verdict.journal]
  split <;> rfl

theorem traffic_settle (verdict : Verdict) (reply : Except Halt (Option String)) :
    (pipeline.settle around verdict content state reply).journal.traffic = [] := by
  rcases reply with (fault | _) | _ | completion
  · cases fault <;> rfl
  · rfl
  · rfl
  · simp only [settle, applyCompletion, Remediation.traffic_apply]

/-- A file that gives rise to a prompt is asked about, and another one is not. -/
theorem traffic_process (generate : Generator σ) :
    (pipeline.process generate around path state).journal.traffic =
      match pipeline.promptIn around state.tree path with
      | some prompt => .prompt prompt :: (generate prompt state.generator).journal.traffic
      | none => [] := by
  rw [process, traffic_contain]
  unfold examine promptIn
  cases readable : state.tree.readText around.directory (pipeline.locationOf path) with
  | error error => cases error <;> rfl
  | ok content =>
    simp only [treat]
    cases flagged : (pipeline.detector.detect content path).isFlagged with
    | false => rfl
    | true =>
      simp only [if_true, Step.after_journal, Journal.traffic_append, traffic_announcement,
        traffic_settle, List.append_nil]
      rfl

/-! ## Many files -/

theorem Processed.promptIn_eq {outcome : FileOutcome} {later : String}
    (p : Processed pipeline generate around path state outcome)
    (other : pipeline.placeOf around later ≠ pipeline.placeOf around path) :
    pipeline.promptIn around (pipeline.process generate around path state).state.tree later =
      pipeline.promptIn around state.tree later :=
  promptIn_congr p.sameShape.symm (p.find?_of_ne other)

theorem journal_processAll_cons {outcome : FileOutcome}
    (p : Processed pipeline generate around path state outcome) (rest : List String) :
    (pipeline.processAll generate around (path :: rest) state).journal =
      (pipeline.process generate around path state).journal ++
        (pipeline.processAll generate around rest
          (pipeline.process generate around path state).state).journal := by
  simp only [processAll, Step.andThen, p.ended, Step.after_journal]
  cases (pipeline.processAll generate around rest
    (pipeline.process generate around path state).state).result with
  | error halt => rfl
  | ok outcomes => simp [Step.after, Step.done]

/-- Different files lead to one exchange each for those that give rise to a prompt before any of
them is touched. -/
theorem traffic_processAll (calm : generate.Uninterrupted)
    (posting : generate.Posts request allowed)
    {paths : List String} (distinct : (paths.map (pipeline.placeOf around)).Nodup)
    (state : RunState σ) :
    ∃ posts : List Nat,
      posts.length = (paths.filterMap (pipeline.promptIn around state.tree)).length ∧
      (∀ count ∈ posts, allowed count) ∧
      (pipeline.processAll generate around paths state).journal.traffic =
        (List.zipWith (exchange request) (paths.filterMap (pipeline.promptIn around state.tree))
          posts).flatten := by
  induction paths generalizing state with
  | nil => exact ⟨[], rfl, by simp, rfl⟩
  | cons path rest ih =>
    rw [List.map_cons, List.nodup_cons] at distinct
    obtain ⟨outcome, p⟩ := exists_processed pipeline around calm path state
    obtain ⟨posts, many, permitted, sent⟩ :=
      ih distinct.2 (pipeline.process generate around path state).state
    have untouched : rest.filterMap (pipeline.promptIn around
        (pipeline.process generate around path state).state.tree) =
          rest.filterMap (pipeline.promptIn around state.tree) := by
      refine List.filterMap_congr fun later among => p.promptIn_eq fun same => ?_
      exact distinct.1 (same ▸ List.mem_map_of_mem among)
    rw [untouched] at many sent
    rw [journal_processAll_cons p, Journal.traffic_append, sent, traffic_process]
    cases asked : pipeline.promptIn around state.tree path with
    | none =>
      rw [List.filterMap_cons_none asked]
      exact ⟨posts, many, permitted, rfl⟩
    | some prompt =>
      obtain ⟨count, fits, posted⟩ := posting prompt state.generator
      rw [List.filterMap_cons_some asked]
      refine ⟨count :: posts, by simp [many], List.forall_mem_cons.mpr ⟨fits, permitted⟩, ?_⟩
      simp only [posted]
      rfl

theorem prompts_exchanges (prompts : List String) {posts : List Nat}
    (many : posts.length = prompts.length) :
    Journal.prompts (List.zipWith (exchange request) prompts posts).flatten = prompts := by
  induction prompts generalizing posts with
  | nil => simp [Journal.prompts]
  | cons prompt rest ih =>
    cases posts with
    | nil => cases many
    | cons count posts =>
      rw [List.zipWith_cons_cons, List.flatten_cons, Journal.prompts_append,
        ih (Nat.succ.inj many)]
      have requested : Journal.prompts (List.replicate count (.post (request prompt))) = [] := by
        simp [Journal.prompts]
      exact congrArg (prompt :: · ++ rest) requested

/-! ## A run -/

theorem traffic_candidates (pipeline : Pipeline) (around : Surroundings)
    (paths : Option (List String)) :
    (pipeline.candidates around paths).1.traffic = [] := by
  cases paths with
  | some paths => rfl
  | none =>
    simp only [candidates, ChangeSet.resolve]
    split
    · rfl
    · rfl
    · rfl
    · split <;> rfl

theorem keepsNamed_of_mem_candidates {paths : Option (List String)} {chosen : List String}
    (resolved : (pipeline.candidates around paths).2 = .ok chosen) (member : path ∈ chosen) :
    pipeline.changes.selection.keepsNamed path path = .ok true := by
  have nothing (none : Except.ok (ε := TypeFault) [] = .ok chosen) :
      pipeline.changes.selection.keepsNamed path path = .ok true := by
    cases none
    cases member
  cases paths with
  | some paths => exact Selection.keepsNamed_of_mem_select resolved member
  | none =>
    simp only [candidates, ChangeSet.resolve] at resolved
    split at resolved
    · exact nothing resolved
    · exact nothing resolved
    · exact nothing resolved
    · split at resolved
      · cases resolved
      · next selected =>
        cases resolved
        exact Selection.keepsNamed_of_mem_select selected member

theorem traffic_closing (outcome : RunOutcome) : (closing outcome).traffic = [] := by
  simp only [closing]
  split <;> split <;> rfl

theorem traffic_run (calm : generate.Uninterrupted) {paths : Option (List String)}
    {chosen : List String} (resolved : (pipeline.candidates around paths).2 = .ok chosen)
    (state : RunState σ) :
    (pipeline.run generate around paths state).journal.traffic =
      (pipeline.processAll generate around chosen
        { state with phase := .processing }).journal.traffic := by
  have quiet := traffic_candidates pipeline around paths
  cases found : pipeline.candidates around paths with
  | mk journal result =>
    rw [found] at resolved quiet
    simp only [run, enter, Step.andThen, found, show result = .ok chosen from resolved,
      Step.after_journal, Journal.traffic_append, Journal.traffic_debug, Journal.traffic_nil,
      List.nil_append, show journal.traffic = [] from quiet]
    cases chosen with
    | nil => rfl
    | cons path rest =>
      obtain ⟨outcomes, ended, -⟩ :=
        exists_course pipeline around calm (path :: rest) { state with phase := .processing }
      simp only [runOver, List.isEmpty_cons, Bool.false_eq_true, if_false, enter, Step.andThen,
        Step.after, ended, finish, Step.done]
      simp [traffic_closing]

/-! ## Files without a completion -/

/-- What becomes of a flagged file that the generator has no completion for: the answer is logged,
and nothing is brought into the file. -/
def leftAlone (verdict : Verdict) (prompt : String) (answer : Step σ (Option String))
    (state : RunState σ) : Step (RunState σ) FileOutcome :=
  ⟨announcement verdict prompt ++ answer.journal ++
      [.warning ("⚠ " ++ verdict.filePath ++ ": AI returned no result; file left unchanged")],
    { state with generator := answer.state },
    .ok ⟨verdict.filePath, .flaggedUnfixed, verdict.categories, "no result from backend", ""⟩⟩

theorem process_eq_leftAlone
    (readable : state.tree.readText around.directory (pipeline.locationOf path) = .ok content)
    (flagged : (pipeline.detector.detect content path).isFlagged = true)
    (unanswered : (generate (pipeline.promptOf path content) state.generator).result = .ok none) :
    pipeline.process generate around path state =
      leftAlone (pipeline.detector.detect content path) (pipeline.promptOf path content)
        (generate (pipeline.promptOf path content) state.generator) state := by
  rw [process_of_flagged readable flagged, unanswered]
  rfl

theorem Course.turn {earlier later : List String} {last : RunState σ}
    {outcomes : List FileOutcome}
    (course : Course pipeline generate around (earlier ++ path :: later) state outcomes last) :
    ∃ before outcome after, outcomes = before ++ outcome :: after ∧
      before.length = earlier.length ∧
      Course pipeline generate around earlier state before
        (pipeline.processAll generate around earlier state).state ∧
      Processed pipeline generate around path
        (pipeline.processAll generate around earlier state).state outcome ∧
      Course pipeline generate around later
        (pipeline.process generate around path
          (pipeline.processAll generate around earlier state).state).state after last := by
  induction earlier generalizing state outcomes with
  | nil =>
    cases course with
    | @file _ _ _ _ outcome after p rest => exact ⟨[], outcome, after, rfl, rfl, .done _, p, rest⟩
  | cons first rest ih =>
    cases course with
    | @file _ _ _ _ firstOutcome outcomes p course =>
      obtain ⟨before, outcome, after, rfl, many, front, processed, back⟩ := ih course
      rw [(processAll_cons p rest).1]
      exact ⟨firstOutcome :: before, outcome, after, rfl, congrArg (· + 1) many, .file p front,
        processed, back⟩

/-- A file that the generator has no completion for in its turn is left alone in a run over
different files. -/
theorem run_leaves_alone (calm : generate.Uninterrupted) {paths : Option (List String)}
    {earlier later : List String}
    (resolved : (pipeline.candidates around paths).2 = .ok (earlier ++ path :: later))
    (distinct : ((earlier ++ path :: later).map (pipeline.placeOf around)).Nodup)
    {state turn : RunState σ}
    (reached : (pipeline.processAll generate around earlier
      { state with phase := .processing }).state = turn)
    (readable : state.tree.readText around.directory (pipeline.locationOf path) = .ok content)
    (flagged : (pipeline.detector.detect content path).isFlagged = true)
    (unanswered : (generate (pipeline.promptOf path content) turn.generator).result = .ok none) :
    pipeline.process generate around path turn =
        leftAlone (pipeline.detector.detect content path) (pipeline.promptOf path content)
          (generate (pipeline.promptOf path content) turn.generator) turn ∧
      (∃ outcome, (pipeline.run generate around paths state).result = .ok outcome ∧
        outcome.files[earlier.length]? = some ⟨path, .flaggedUnfixed,
          (pipeline.detector.detect content path).categories, "no result from backend", ""⟩) ∧
      (pipeline.run generate around paths state).state.tree.find? (pipeline.placeOf around path) =
        state.tree.find? (pipeline.placeOf around path) := by
  rw [List.map_append, List.map_cons, List.nodup_append, List.nodup_cons] at distinct
  obtain ⟨-, ⟨notLater, -⟩, apart⟩ := distinct
  have notEarlier : pipeline.placeOf around path ∉ earlier.map (pipeline.placeOf around) :=
    fun among => apart _ among _ (List.mem_cons_self ..) rfl
  obtain ⟨outcomes, last, course, ended, stateEq⟩ := run_course calm resolved state
  obtain ⟨before, outcome, after, rfl, many, front, processed, back⟩ := course.turn
  rw [reached] at front processed back
  have held : turn.tree.find? (pipeline.placeOf around path) =
      state.tree.find? (pipeline.placeOf around path) :=
    front.find?_of_not_mem notEarlier
  have stillReadable : turn.tree.readText around.directory (pipeline.locationOf path) =
      .ok content := by
    rw [← readable, FileTree.readText, FileTree.readBytes_congr front.sameShape.symm held]
    rfl
  have left := process_eq_leftAlone stillReadable flagged unanswered
  refine ⟨left, ⟨_, ended, ?_⟩, ?_⟩
  · have known := processed.ended
    rw [left] at known
    rw [List.getElem?_append_right (Nat.le_of_eq many), many, Nat.sub_self,
      List.getElem?_cons_zero, ← Except.ok.inj known]
    rfl
  · rw [left] at back
    rw [stateEq]
    exact (back.find?_of_not_mem notLater).trans held

/-! ## Runs with a service -/

/-- A run over different files asks about the files among them that can be read and are flagged as
the run finds them, each once and in order. A prompt ends with all that its file holds; requests
follow it that are all the same, as many as the setting for retries allows; and a file that there
is no completion for is left alone. -/
theorem run_sends_flagged_only [Interpreter] {settings : Settings} {client : Client}
    (served : Client.ofSettings settings = .ok client) {transport : Transport σ}
    (calm : transport.Uninterrupted) {paths : Option (List String)} {chosen : List String}
    (resolved : (pipeline.candidates around paths).2 = .ok chosen)
    (distinct : (chosen.map (pipeline.placeOf around)).Nodup) (state : RunState σ) :
    let generate := client.generator transport
    let run := pipeline.run generate around paths state
    let prompts := chosen.filterMap (pipeline.promptIn around state.tree)
    run.journal.prompts = prompts ∧
      (∀ prompt ∈ prompts, ∃ path ∈ chosen,
        pipeline.changes.selection.keepsNamed path path = .ok true ∧
        ∃ bytes mode content,
          state.tree.find? (pipeline.placeOf around path) = some (.file bytes mode) ∧
          Text.Utf8.decode bytes = .ok content ∧
          (pipeline.detector.detect content path).isFlagged = true ∧
          prompt = pipeline.promptOf path content ∧ content.toList <:+ prompt.toList) ∧
      (∃ posts : List Nat, posts.length = prompts.length ∧
        (∀ count ∈ posts, Retry.Allows (settings .maxRetries) count) ∧
        run.journal.traffic =
          (List.zipWith (exchange client.request) prompts posts).flatten) ∧
      ∀ earlier path later content, chosen = earlier ++ path :: later →
        state.tree.readText around.directory (pipeline.locationOf path) = .ok content →
        (pipeline.detector.detect content path).isFlagged = true →
        let turn := (pipeline.processAll generate around earlier
          { state with phase := .processing }).state
        (generate (pipeline.promptOf path content) turn.generator).result = .ok none →
        pipeline.process generate around path turn =
            leftAlone (pipeline.detector.detect content path) (pipeline.promptOf path content)
              (generate (pipeline.promptOf path content) turn.generator) turn ∧
          (∃ outcome, run.result = .ok outcome ∧
            outcome.files[earlier.length]? = some ⟨path, .flaggedUnfixed,
              (pipeline.detector.detect content path).categories, "no result from backend", ""⟩) ∧
          run.state.tree.find? (pipeline.placeOf around path) =
            state.tree.find? (pipeline.placeOf around path) := by
  intro generate run prompts
  have quiet : generate.Uninterrupted := client.generator_uninterrupted calm
  obtain ⟨posts, many, permitted, sent⟩ := traffic_processAll quiet
    (Client.generator_posts served transport) distinct { state with phase := .processing }
  have traffic : run.journal.traffic =
      (List.zipWith (exchange client.request) prompts posts).flatten :=
    (traffic_run quiet resolved state).trans sent
  refine ⟨?_, ?_, ⟨posts, many, permitted, traffic⟩, ?_⟩
  · rw [← Journal.prompts_traffic, traffic, prompts_exchanges prompts many]
  · intro prompt member
    obtain ⟨path, among, asked⟩ := List.mem_filterMap.mp member
    obtain ⟨content, readable, flagged, rfl⟩ := promptIn_eq_some asked
    obtain ⟨bytes, mode, held, decoded⟩ := FileTree.readText_eq_ok readable
    exact ⟨path, among, keepsNamed_of_mem_candidates resolved among, bytes, mode, content, held,
      decoded, flagged, rfl, Prompt.content_suffix_text (Prompt.build path content _)⟩
  · rintro earlier path later content rfl readable flagged turn unanswered
    exact run_leaves_alone quiet resolved distinct rfl readable flagged unanswered

/-- Of two scripts one is flagged. The service is out of order for a moment and then has nothing
to say, so the prompt leads to two requests. -/
theorem run_sends_flagged_only_two_files :
    let settings := Settings.ofEntries [(.str "provider", .str "local")]
    let transport : Transport Nat := fun _ asked =>
      (if asked = 0 then .response 503 []
        else .response 200 (Text.Utf8.encode "\x7b\"response\": \"\"\x7d"), asked + 1)
    let pipeline : Pipeline := ⟨"", ⟨"", .str "main", .str "origin",
      ⟨.list [.str ".js"], .list []⟩⟩, .standard [], false⟩
    let around : Surroundings := ⟨[], "k", fun _ => none, .notInstalled⟩
    let state : RunState Nat := ⟨.initial,
      ⟨[(["a.js"], .file (Text.Utf8.encode "exec(x)\n") 0o644),
        (["b.js"], .file (Text.Utf8.encode "let b;\n") 0o644)]⟩, 0⟩
    ∃ client, Client.ofSettings settings = .ok client ∧ transport.Uninterrupted ∧
      (pipeline.candidates around (some ["a.js", "b.js"])).2 = .ok ["a.js", "b.js"] ∧
      (["a.js", "b.js"].map (pipeline.placeOf around)).Nodup ∧
      (pipeline.run (client.generator transport) around (some ["a.js", "b.js"])
        state).journal.prompts =
        [pipeline.promptOf "a.js" "exec(x)\n"] ∧
      (pipeline.run (client.generator transport) around (some ["a.js", "b.js"])
        state).journal.requests.length = 2 := by
  intro settings transport pipeline around state
  have calm : transport.Uninterrupted := by
    intro request asked interrupted
    simp only [transport] at interrupted
    split at interrupted <;> cases interrupted
  have resolved : (pipeline.candidates around (some ["a.js", "b.js"])).2 =
      .ok ["a.js", "b.js"] := by
    rfl
  have distinct : (["a.js", "b.js"].map (pipeline.placeOf around)).Nodup := by
    decide
  have sends {client : Client} (served : Client.ofSettings settings = .ok client) :=
    run_sends_flagged_only served calm resolved distinct state
  refine ⟨_, rfl, calm, resolved, distinct, (sends rfl).1.trans ?_, ?_⟩
  · decide +kernel
  · decide +kernel

/-- With a number of retries that is positive but not whole a run asks about a script, and yet it
posts no request: settings may have such a number. -/
theorem run_asks_without_request :
    let settings := Settings.ofEntries [(.str "provider", .str "local"),
      (.str "max_retries", .float (.ofRatio false 2 1))]
    let transport : Transport Unit := fun _ asked =>
      (.response 200 (Text.Utf8.encode "\x7b\"response\": \"a;\"\x7d"), asked)
    let pipeline : Pipeline := ⟨"", ⟨"", .str "main", .str "origin",
      ⟨.list [.str ".js"], .list []⟩⟩, .standard [], false⟩
    let around : Surroundings := ⟨[], "k", fun _ => none, .notInstalled⟩
    let state : RunState Unit := ⟨.initial,
      ⟨[(["a.js"], .file (Text.Utf8.encode "exec(x)") 0o644)]⟩, ()⟩
    settings.validate = .ok () ∧ ∃ client, Client.ofSettings settings = .ok client ∧
      (pipeline.run (client.generator transport) around (some ["a.js"]) state).journal.prompts =
        [pipeline.promptOf "a.js" "exec(x)"] ∧
      (pipeline.run (client.generator transport) around (some ["a.js"])
        state).journal.requests.length =
        0 := by
  intro settings transport pipeline around state
  refine ⟨rfl, _, rfl, ?_, ?_⟩
  · decide +kernel
  · decide +kernel

end Pipeline

end Remedy
