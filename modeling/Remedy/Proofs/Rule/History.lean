import Mathlib.Data.Finset.Card
import Remedy.Proofs.FirstOccurrences
import Remedy.Verdict

/-!
# The history of a rule book

A rule book is what registering rules and switching ids made of it, and its history tells all that
it holds: of each id the rule that was registered last, switched as it was switched last since then,
in the order in which ids were first registered. One operation keeps a book to its history
(`Follows.perform`), so any number of them do.
-/

set_option autoImplicit false

namespace Remedy

/-! ## Histories -/

/-- What is done to a rule book: a rule is registered, or the rule of an id switched on or off. -/
inductive Operation (π : Type := Pattern) where
  | register (rule : Rule π)
  | switch (id : String) (on : Bool)

namespace Operation

variable {π : Type}

def registeredId? : Operation π → Option String
  | register rule => some rule.id
  | switch .. => none

def setting? (id : String) : Operation π → Option Bool
  | register _ => none
  | switch other on => if other = id then some on else none

/-- The ids of the registrations in a history, one after the other. -/
def registeredIds (history : List (Operation π)) : List String :=
  history.filterMap registeredId?

def lastSetting? (id : String) (history : List (Operation π)) : Option Bool :=
  (history.filterMap (setting? id)).getLast?

/-- A history leaves an entry: the last registration of the id is that of the rule, and the switch
is as it was last set since then, or as the rule has it by default. -/
def Leaves (history : List (Operation π)) (entry : RuleEntry π) : Prop :=
  ∃ before since, history = before ++ .register entry.rule :: since ∧
    entry.rule.id ∉ registeredIds since ∧
    entry.enabled = (lastSetting? entry.rule.id since).getD entry.rule.enabledByDefault

theorem registeredIds_concat (history : List (Operation π)) (operation : Operation π) :
    registeredIds (history ++ [operation]) =
      registeredIds history ++ operation.registeredId?.toList := by
  rw [registeredIds, registeredIds, List.filterMap_append]
  cases operation <;> rfl

theorem lastSetting?_concat (id : String) (history : List (Operation π)) (operation : Operation π) :
    lastSetting? id (history ++ [operation]) =
      (operation.setting? id).or (lastSetting? id history) := by
  rw [lastSetting?, lastSetting?, List.filterMap_append, List.getLast?_append]
  cases set : operation.setting? id <;> simp [set]

/-- What a longer history leaves was registered by its last operation or before that. -/
theorem leaves_concat_iff {history : List (Operation π)} {operation : Operation π}
    {entry : RuleEntry π} :
    Leaves (history ++ [operation]) entry ↔
      (operation = .register entry.rule ∧ entry.enabled = entry.rule.enabledByDefault) ∨
      ∃ before since, history = before ++ .register entry.rule :: since ∧
        entry.rule.id ∉ registeredIds (since ++ [operation]) ∧
        entry.enabled =
          (lastSetting? entry.rule.id (since ++ [operation])).getD entry.rule.enabledByDefault := by
  constructor
  · rintro ⟨before, since, whole, last, setting⟩
    rcases List.eq_nil_or_concat since with rfl | ⟨earlier, final, rfl⟩
    · have same : operation = .register entry.rule := by
        simpa using (List.append_inj' whole rfl).2
      exact Or.inl ⟨same, setting⟩
    · rw [List.concat_eq_append] at whole last setting
      rw [← List.cons_append, ← List.append_assoc] at whole
      obtain ⟨front, back⟩ := List.append_inj' whole rfl
      cases back
      exact Or.inr ⟨before, earlier, front, last, setting⟩
  · rintro (⟨rfl, setting⟩ | ⟨before, since, rfl, last, setting⟩)
    · exact ⟨history, [], rfl, List.not_mem_nil, setting⟩
    · exact ⟨before, since ++ [operation], by simp, last, setting⟩

theorem leaves_register_iff {history : List (Operation π)} {rule : Rule π} {entry : RuleEntry π} :
    Leaves (history ++ [.register rule]) entry ↔
      entry = ⟨rule, rule.enabledByDefault⟩ ∨
        Leaves history entry ∧ entry.rule.id ≠ rule.id := by
  obtain ⟨held, enabled⟩ := entry
  have fresh : Operation.register rule = .register held ∧ enabled = held.enabledByDefault ↔
      (⟨held, enabled⟩ : RuleEntry π) = ⟨rule, rule.enabledByDefault⟩ := by
    constructor
    · rintro ⟨same, rfl⟩
      cases same
      rfl
    · intro same
      cases same
      exact ⟨rfl, rfl⟩
  rw [leaves_concat_iff, fresh]
  refine or_congr_right ?_
  simp only [registeredIds_concat, lastSetting?_concat, registeredId?, setting?,
    Option.toList_some, List.mem_append, List.mem_singleton, not_or, Option.none_or]
  constructor
  · rintro ⟨before, since, rfl, ⟨last, other⟩, setting⟩
    exact ⟨⟨before, since, rfl, last, setting⟩, other⟩
  · rintro ⟨⟨before, since, rfl, last, setting⟩, other⟩
    exact ⟨before, since, rfl, ⟨last, other⟩, setting⟩

theorem leaves_switch_iff {history : List (Operation π)} {id : String} {on : Bool}
    {entry : RuleEntry π} :
    Leaves (history ++ [.switch id on]) entry ↔
      Leaves history entry ∧ entry.rule.id ≠ id ∨
        entry.rule.id = id ∧ entry.enabled = on ∧ ∃ was, Leaves history ⟨entry.rule, was⟩ := by
  obtain ⟨held, enabled⟩ := entry
  rw [leaves_concat_iff]
  simp only [registeredIds_concat, lastSetting?_concat, registeredId?, setting?,
    Option.toList_none, List.append_nil, reduceCtorEq, false_and, false_or]
  by_cases same : id = held.id
  · subst same
    simp only [if_true, Option.some_or, Option.getD_some, ne_eq, not_true, and_false, false_or,
      true_and]
    constructor
    · rintro ⟨before, since, rfl, last, setting⟩
      exact ⟨setting, (lastSetting? held.id since).getD held.enabledByDefault, before, since, rfl,
        last, rfl⟩
    · rintro ⟨setting, was, before, since, rfl, last, -⟩
      exact ⟨before, since, rfl, last, setting⟩
  · simp only [if_neg same, Option.none_or, ne_eq, Ne.symm same, not_false_iff, and_true,
      false_and, or_false]
    rfl

end Operation

namespace RuleBook

variable {π : Type}

/-! ## Books by their entries -/

def ids (book : RuleBook π) : List String :=
  book.entries.map fun e => e.rule.id

section Put

variable {α : Type} (key : α → String)

theorem map_key_put (item : α) (items : List α) :
    (put key item items).map key =
      if key item ∈ items.map key then items.map key else items.map key ++ [key item] := by
  induction items with
  | nil => rfl
  | cons other rest ih =>
    by_cases same : key other = key item
    · simp [put, same]
    · rw [put, if_neg same, List.map_cons, ih, List.map_cons]
      by_cases present : key item ∈ rest.map key
      · rw [if_pos present, if_pos (List.mem_cons_of_mem _ present)]
      · rw [if_neg present, if_neg (by simpa [Ne.symm same] using present), List.cons_append]

theorem mem_put_iff {item other : α} {items : List α} (distinct : (items.map key).Nodup) :
    other ∈ put key item items ↔ other = item ∨ other ∈ items ∧ key other ≠ key item := by
  induction items with
  | nil => simp [put]
  | cons first rest ih =>
    obtain ⟨fresh, distinctRest⟩ := List.nodup_cons.mp distinct
    by_cases same : key first = key item
    · have others (member : other ∈ rest) : key other ≠ key item := fun again =>
        fresh (same ▸ again ▸ List.mem_map_of_mem member)
      rw [put, if_pos same, List.mem_cons, List.mem_cons]
      constructor
      · rintro (rfl | later)
        · exact Or.inl rfl
        · exact Or.inr ⟨Or.inr later, others later⟩
      · rintro (rfl | ⟨rfl | later, different⟩)
        · exact Or.inl rfl
        · exact absurd same different
        · exact Or.inr later
    · rw [put, if_neg same, List.mem_cons, List.mem_cons, ih distinctRest]
      constructor
      · rintro (rfl | rfl | ⟨later, different⟩)
        · exact Or.inr ⟨Or.inl rfl, same⟩
        · exact Or.inl rfl
        · exact Or.inr ⟨Or.inr later, different⟩
      · rintro (rfl | ⟨rfl | later, different⟩)
        · exact Or.inr (Or.inl rfl)
        · exact Or.inl rfl
        · exact Or.inr (Or.inr ⟨later, different⟩)

theorem map_put {β : Type} (f : β → α) (item : β) (items : List β) :
    (put (fun b => key (f b)) item items).map f = put key (f item) (items.map f) := by
  induction items with
  | nil => rfl
  | cons other rest ih =>
    by_cases same : key (f other) = key (f item) <;> simp [put, same, ih]

end Put

section Operations

variable {book : RuleBook π}

theorem ids_register (rule : Rule π) :
    (book.register rule).ids =
      if rule.id ∈ book.ids then book.ids else book.ids ++ [rule.id] :=
  map_key_put (fun e : RuleEntry π => e.rule.id) ⟨rule, rule.enabledByDefault⟩ book.entries

theorem ids_setEnabled (id : String) (on : Bool) : (book.setEnabled id on).ids = book.ids := by
  rw [ids, setEnabled, List.map_map]
  refine List.map_congr_left fun e _ => ?_
  rw [Function.comp_apply]
  split <;> rfl

theorem mem_entries_setEnabled_iff {id : String} {on : Bool} {entry : RuleEntry π} :
    entry ∈ (book.setEnabled id on).entries ↔
      entry ∈ book.entries ∧ entry.rule.id ≠ id ∨
        entry.rule.id = id ∧ entry.enabled = on ∧ ∃ was, ⟨entry.rule, was⟩ ∈ book.entries := by
  simp only [setEnabled, List.mem_map]
  constructor
  · rintro ⟨former, member, rfl⟩
    split
    · next same => exact Or.inr ⟨same, rfl, former.enabled, member⟩
    · next different => exact Or.inl ⟨member, different⟩
  · rintro (⟨member, different⟩ | ⟨same, rfl, was, member⟩)
    · exact ⟨entry, member, if_neg different⟩
    · exact ⟨_, member, if_pos same⟩

theorem find?_eq_some_iff (distinct : book.ids.Nodup) {id : String} {entry : RuleEntry π} :
    book.find? id = some entry ↔ entry ∈ book.entries ∧ entry.rule.id = id := by
  constructor
  · intro found
    exact ⟨List.mem_of_find?_eq_some found, by simpa using List.find?_some found⟩
  · rintro ⟨member, rfl⟩
    cases found : book.find? entry.rule.id with
    | none =>
      have absent := List.find?_eq_none.mp found entry member
      simp at absent
    | some other =>
      have same : other.rule.id = entry.rule.id := by simpa using List.find?_some found
      rw [List.inj_on_of_nodup_map distinct (List.mem_of_find?_eq_some found) member same]

/-- Switching an id changes nothing if its rule is switched so already, or if there is none. -/
theorem setEnabled_eq_self (distinct : book.ids.Nodup) {id : String} {on : Bool}
    (already : ∀ entry, book.find? id = some entry → entry.enabled = on) :
    book.setEnabled id on = book := by
  have same : (book.entries.map fun e => if e.rule.id = id then { e with enabled := on } else e) =
      book.entries := by
    conv_rhs => rw [← List.map_id book.entries]
    refine List.map_congr_left fun e member => ?_
    split
    · next named => rw [← already e ((find?_eq_some_iff distinct).mpr ⟨member, named⟩), id_eq]
    · rfl
  rw [setEnabled, same]

theorem mem_enabledRules_iff {rule : Rule π} :
    rule ∈ book.enabledRules ↔ ⟨rule, true⟩ ∈ book.entries := by
  simp only [enabledRules, List.mem_map, List.mem_filter]
  constructor
  · rintro ⟨⟨held, enabled⟩, ⟨member, rfl⟩, rfl⟩
    exact member
  · intro member
    exact ⟨_, ⟨member, rfl⟩, rfl⟩

theorem enabledRules_sublist (book : RuleBook π) :
    book.enabledRules.Sublist (book.entries.map fun e => e.rule) :=
  List.filter_sublist.map _

theorem rulesFor_eq_filter (book : RuleBook π) (category : Category) :
    book.rulesFor category =
      book.enabledRules.filter fun rule => rule.category = category := by
  rw [rulesFor, enabledRules, List.filter_map, List.filter_filter]
  rfl

end Operations

/-! ## Books by their history -/

def perform (book : RuleBook π) : Operation π → RuleBook π
  | .register rule => book.register rule
  | .switch id on => book.setEnabled id on

def after (history : List (Operation π)) : RuleBook π :=
  history.foldl perform empty

theorem ofRules_eq_after (rules : List (Rule π)) : ofRules rules = after (rules.map .register) := by
  rw [ofRules, after, List.foldl_map]
  rfl

structure Follows (history : List (Operation π)) (book : RuleBook π) : Prop where
  ids_eq : book.ids = (Operation.registeredIds history).eraseDups
  mem_entries_iff : ∀ entry, entry ∈ book.entries ↔ Operation.Leaves history entry
  rules_eq : book.rules = book.entries.map fun e => e.rule

namespace Follows

variable {history : List (Operation π)} {book : RuleBook π}

theorem distinct (follows : Follows history book) : book.ids.Nodup := by
  rw [follows.ids_eq]
  exact nodup_eraseDups _

theorem empty : Follows [] (RuleBook.empty : RuleBook π) where
  ids_eq := rfl
  mem_entries_iff entry := by
    refine ⟨fun member => absurd member List.not_mem_nil, ?_⟩
    rintro ⟨before, since, whole, -⟩
    cases before <;> cases whole
  rules_eq := rfl

theorem register (follows : Follows history book) (rule : Rule π) :
    Follows (history ++ [.register rule]) (book.register rule) where
  ids_eq := by
    have known : rule.id ∈ book.ids ↔ rule.id ∈ Operation.registeredIds history := by
      rw [follows.ids_eq, List.mem_eraseDups]
    rw [ids_register, Operation.registeredIds_concat, follows.ids_eq]
    simp only [Operation.registeredId?, Option.toList_some, eraseDups_concat,
      List.mem_eraseDups]
  mem_entries_iff entry := by
    rw [Operation.leaves_register_iff, ← follows.mem_entries_iff]
    exact mem_put_iff (fun e : RuleEntry π => e.rule.id) follows.distinct
  rules_eq := by
    simp only [RuleBook.register, follows.rules_eq]
    exact (map_put Rule.id (fun e : RuleEntry π => e.rule) ⟨rule, rule.enabledByDefault⟩
      book.entries).symm

theorem setEnabled (follows : Follows history book) (id : String) (on : Bool) :
    Follows (history ++ [.switch id on]) (book.setEnabled id on) where
  ids_eq := by
    rw [ids_setEnabled, Operation.registeredIds_concat, follows.ids_eq]
    simp only [Operation.registeredId?, Option.toList_none, List.append_nil]
  mem_entries_iff entry := by
    rw [mem_entries_setEnabled_iff, Operation.leaves_switch_iff]
    simp only [follows.mem_entries_iff]
  rules_eq := by
    simp only [RuleBook.setEnabled, follows.rules_eq, List.map_map]
    refine List.map_congr_left fun e _ => ?_
    rw [Function.comp_apply]
    split <;> rfl

theorem perform (follows : Follows history book) (operation : Operation π) :
    Follows (history ++ [operation]) (book.perform operation) := by
  cases operation with
  | register rule => exact follows.register rule
  | switch id on => exact follows.setEnabled id on

theorem run (follows : Follows history book) (more : List (Operation π)) :
    Follows (history ++ more) (more.foldl RuleBook.perform book) := by
  induction more generalizing history book with
  | nil => rwa [List.append_nil]
  | cons operation rest ih =>
    rw [List.foldl_cons, List.append_cons]
    exact ih (follows.perform operation)

end Follows

theorem follows_after (history : List (Operation π)) : Follows history (after history) :=
  Follows.empty.run history

/-! ## Books by category -/

/-- Rules taken by category are the rules, each once for each time that it stands there. -/
theorem perm_flatMap_category (rules : List (Rule π)) :
    (Category.all.flatMap fun category => rules.filter fun rule => rule.category = category).Perm
      rules := by
  classical
  rw [List.perm_iff_count]
  intro rule
  have share (category : Category) :
      (rules.filter fun other => other.category = category).count rule =
        if rule.category = category then rules.count rule else 0 := by
    split
    · next same => exact List.count_filter (by simpa using same)
    · next other => exact List.count_eq_zero_of_not_mem (by simp [other])
  simp only [Category.all, List.flatMap_cons, List.flatMap_nil, List.count_append, List.count_nil,
    share]
  cases rule.category <;> simp

theorem rules_of_single (book : RuleBook π) (category : Category) :
    (Detector.mk book [category]).rules = book.rulesFor category := by
  rw [rulesFor_eq_filter, Detector.rules]
  refine List.filter_congr fun rule _ => ?_
  simp [Detector.covers, eq_comm]

/-- A rule book holds what its history leaves, whether some rules were there from the start or not.
It counts the ids that were registered, and has them in the order of their first registrations, each
once; its entries are those that the history leaves. The rules that are switched on keep this order,
and the categories divide them as detectors of one category do. -/
theorem holds_what_history_leaves (preset : List (Rule π)) (operations : List (Operation π)) :
    let book := operations.foldl perform (ofRules preset)
    let history := preset.map .register ++ operations
    book.size = (Operation.registeredIds history).toFinset.card ∧
      book.ids = (Operation.registeredIds history).eraseDups ∧
      book.ids.Nodup ∧
      book.rules = book.entries.map (fun e => e.rule) ∧
      (∀ entry, entry ∈ book.entries ↔ Operation.Leaves history entry) ∧
      (∀ rule, rule ∈ book.enabledRules ↔ Operation.Leaves history ⟨rule, true⟩) ∧
      book.enabledRules.Sublist book.rules ∧
      (Category.all.flatMap book.rulesFor).Perm book.enabledRules ∧
      ∀ category, (book.rulesFor category).Sublist book.enabledRules ∧
        (∀ rule, rule ∈ book.rulesFor category ↔
          rule ∈ book.enabledRules ∧ rule.category = category) ∧
        (Detector.mk book [category]).rules = book.rulesFor category := by
  intro book history
  have follows : Follows history book := by
    have start := follows_after (preset.map .register)
    rw [← ofRules_eq_after] at start
    exact start.run operations
  have counted : book.size = book.ids.length := by
    rw [size, follows.rules_eq, List.length_map, ids, List.length_map]
  have byCategory : book.rulesFor = fun category =>
      book.enabledRules.filter fun rule => rule.category = category :=
    funext book.rulesFor_eq_filter
  refine ⟨?_, follows.ids_eq, follows.distinct, follows.rules_eq, follows.mem_entries_iff,
    fun rule => ?_, ?_, ?_, fun category => ⟨?_, fun rule => ?_, book.rules_of_single category⟩⟩
  · rw [counted, ← List.toFinset_card_of_nodup follows.distinct, follows.ids_eq]
    congr 1
    ext id
    simp
  · rw [mem_enabledRules_iff, follows.mem_entries_iff]
  · rw [follows.rules_eq]
    exact book.enabledRules_sublist
  · rw [byCategory]
    exact perm_flatMap_category book.enabledRules
  · rw [byCategory]
    exact List.filter_sublist
  · rw [byCategory]
    simp

/-- Registered again, a rule that was switched off is back in its place. -/
example :
    let first : Rule := ⟨"A", "", .xss, none, true, []⟩
    let second : Rule := ⟨"B", "", .xss, none, true, []⟩
    (after [.register first, .register second, .switch "A" false,
      .register first]).enabledRules = [first, second] := by
  decide

end RuleBook

end Remedy
