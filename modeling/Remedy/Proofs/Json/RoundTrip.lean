import Remedy.Proofs.Json.Numbers

/-!
# Documents are read as they were written

However a document is laid out, reading what was written gives the document again, for white space
between its parts is passed over. Numbers with a fraction are left out here, the names of an object
have to be distinct, and a whole number must not have more digits than the reader takes; one that
has stops the reader wherever it stands first.
-/

set_option autoImplicit false

namespace Remedy.Json

open Number Text

/-! ## Values -/

/-- A document that is read as it was written: no number in it has a fraction, an exponent or more
digits than the reader takes, and no object has two members of one name. -/
inductive Readable : Json → Prop where
  | null : Readable null
  | bool (b : Bool) : Readable (bool b)
  | int {n : Int} (short : IsShort n.natAbs) : Readable (int n)
  | str (s : String) : Readable (str s)
  | arr {items : List Json} (all : ∀ item ∈ items, Readable item) : Readable (arr items)
  | obj {members : List (String × Json)} (distinct : (members.map Prod.fst).Nodup)
    (all : ∀ member ∈ members, Readable member.2) : Readable (obj members)

theorem starts_int (n : Int) (layout : Layout) (depth : Nat) :
    Starts (print layout depth (int n)) := by
  obtain ⟨digit, digits, shape, isDigit⟩ := exists_toDigits n.natAbs
  rw [print, toList_toString, shape]
  split
  · exact ⟨'-', _, rfl, rfl, by decide, by decide⟩
  · exact starts_digit isDigit digits

theorem starts_arr (layout : Layout) (depth : Nat) (items : List Json) :
    Starts (print layout depth (arr items)) := by
  rw [print.eq_def]
  cases items with
  | nil => exact ⟨'[', _, rfl, rfl, by decide, by decide⟩
  | cons item rest => exact ⟨'[', _, rfl, rfl, by decide, by decide⟩

theorem starts_obj (layout : Layout) (depth : Nat) (members : List (String × Json)) :
    Starts (print layout depth (obj members)) := by
  cases members with
  | nil => exact ⟨'\x7b', _, rfl, rfl, by decide, by decide⟩
  | cons member rest => exact ⟨'\x7b', _, rfl, rfl, by decide, by decide⟩

theorem Readable.starts {j : Json} (readable : Readable j) (layout : Layout) (depth : Nat) :
    Starts (print layout depth j) := by
  cases readable with
  | null => exact ⟨'n', _, rfl, rfl, by decide, by decide⟩
  | bool b =>
    cases b with
    | true => exact ⟨'t', _, rfl, rfl, by decide, by decide⟩
    | false => exact ⟨'f', _, rfl, rfl, by decide, by decide⟩
  | @int n => exact starts_int n layout depth
  | str s => exact starts_quote s
  | @arr items => exact starts_arr layout depth items
  | @obj members => exact starts_obj layout depth members

/-! ## Texts of code points -/

theorem points_inj {text other : String} : points text = points other ↔ text = other := by
  refine ⟨fun same => ?_, congrArg points⟩
  rw [← legible_points text, same, legible_points]

/-! ## Containers in each other -/

mutual

def nesting : Json → Nat
  | arr items => nestingOfItems items + 1
  | obj members => nestingOfMembers members + 1
  | _ => 0

def nestingOfItems : List Json → Nat
  | [] => 0
  | j :: rest => max (nesting j) (nestingOfItems rest)

def nestingOfMembers : List (String × Json) → Nat
  | [] => 0
  | (_, j) :: rest => max (nesting j) (nestingOfMembers rest)

end

theorem nestingOfItems_le_iff {items : List Json} {room : Nat} :
    nestingOfItems items ≤ room ↔ ∀ j ∈ items, j.nesting ≤ room := by
  induction items with
  | nil => simp [nestingOfItems]
  | cons j rest ih => rw [nestingOfItems, Nat.max_le, ih, List.forall_mem_cons]

theorem nestingOfMembers_le_iff {members : List (String × Json)} {room : Nat} :
    nestingOfMembers members ≤ room ↔ ∀ member ∈ members, member.2.nesting ≤ room := by
  induction members with
  | nil => simp [nestingOfMembers]
  | cons member rest ih => rw [nestingOfMembers, Nat.max_le, ih, List.forall_mem_cons]

theorem nesting_arr_le_succ_iff {items : List Json} {room : Nat} :
    (arr items).nesting ≤ room + 1 ↔ ∀ j ∈ items, j.nesting ≤ room := by
  rw [nesting, Nat.succ_le_succ_iff, nestingOfItems_le_iff]

theorem nesting_obj_le_succ_iff {members : List (String × Json)} {room : Nat} :
    (obj members).nesting ≤ room + 1 ↔ ∀ member ∈ members, member.2.nesting ≤ room := by
  rw [nesting, Nat.succ_le_succ_iff, nestingOfMembers_le_iff]

/-! ## Reading what was written -/

/-- Wherever a document is written it is read, if something may follow that does. -/
def Reads (layout : Layout) (j : Json) : Prop :=
  ∀ depth fuel room rest, 2 * (print layout depth j).length ≤ fuel → j.nesting ≤ room →
    Follows rest →
      readValue fuel room ((print layout depth j).map .char ++ rest) = .ok (j.map points, rest)

section Steps

variable {fuel room : Nat} {text after rest : List Point}

theorem map_quote_append (text : String) (rest : List Point) :
    (quote text).map .char ++ rest =
      .char '"' :: ((text.toList.flatMap escapeChar).map .char ++ .char '"' :: rest) := by
  simp [quote]

theorem readValue_quote (text : String) (rest : List Point) :
    readValue (fuel + 1) room ((quote text).map .char ++ rest) = .ok (str (points text), rest) := by
  rw [map_quote_append, readValue, readString_quote]
  rfl

theorem readValue_items {items : List Char} (starts : Starts items)
    (opened : skipGap text = items.map .char ++ rest) :
    readValue (fuel + 1) (room + 1) (.char '[' :: text) =
      (readItems fuel room (items.map .char ++ rest)).map
        fun (items, after) => (arr items, after) := by
  obtain ⟨c, more, rfl, -, open', -⟩ := starts
  rw [readValue]
  simp only [opened, List.map_cons, List.cons_append]
  split
  · next same => exact absurd (Point.char.inj (List.cons.inj same).1) open'
  · rfl

theorem readValue_members {name : String}
    (opened : skipGap text = (quote name).map .char ++ rest) :
    readValue (fuel + 1) (room + 1) (.char '\x7b' :: text) =
      (readMembers fuel room [] ((quote name).map .char ++ rest)).map
        fun (members, after) => (obj members, after) := by
  rw [readValue]
  simp only [opened]
  rfl

theorem readItems_last {item : Json (List Point)}
    (reads : readValue fuel room text = .ok (item, after))
    (close : skipGap after = .char ']' :: rest) :
    readItems (fuel + 1) room text = .ok ([item], rest) := by
  rw [readItems, reads]
  simp only [close]

theorem readItems_more {item : Json (List Point)}
    (reads : readValue fuel room text = .ok (item, after))
    (comma : skipGap after = .char ',' :: rest) :
    readItems (fuel + 1) room text =
      (readItems fuel room (skipGap rest)).map fun (items, left) => (item :: items, left) := by
  rw [readItems, reads]
  simp only [comma]

section Member

variable {before : List (List Point × Json (List Point))} (name : String)
  {value : Json (List Point)}

theorem skipGap_colon (text : List Point) :
    skipGap (.char ':' :: text) = .char ':' :: text := rfl

theorem readMembers_last (reads : readValue fuel room (skipGap text) = .ok (value, after))
    (close : skipGap after = .char '\x7d' :: rest) :
    readMembers (fuel + 1) room before ((quote name).map .char ++ .char ':' :: text) =
      .ok (insert (points name) value before, rest) := by
  rw [map_quote_append, readMembers]
  simp only [readString_quote, skipGap_colon, reads, close]

theorem readMembers_more (reads : readValue fuel room (skipGap text) = .ok (value, after))
    (comma : skipGap after = .char ',' :: rest) :
    readMembers (fuel + 1) room before ((quote name).map .char ++ .char ':' :: text) =
      readMembers fuel room (insert (points name) value before) (skipGap rest) := by
  rw [map_quote_append, readMembers]
  simp only [readString_quote, skipGap_colon, reads, comma]

theorem readMembers_stop {stop : Stop}
    (stops : readValue fuel room (skipGap text) = .error stop) :
    readMembers (fuel + 1) room before ((quote name).map .char ++ .char ':' :: text) =
      .error stop := by
  rw [map_quote_append, readMembers]
  simp only [readString_quote, skipGap_colon, stops]

end Member

end Steps

section Containers

variable {layout : Layout} {depth outer fuel room : Nat}

theorem skipGap_closeBreak (layout : Layout) (outer : Nat) {bracket : Char}
    (stops : isGap bracket = false) (rest : List Point) :
    skipGap ((closeBreak layout outer).map .char ++ .char bracket :: rest) =
      .char bracket :: rest :=
  skipGap_append (isGap_openBreak layout outer) stops rest

theorem readItems_print {item : Json} {items : List Json}
    (all : ∀ j ∈ item :: items, Readable j ∧ Reads layout j)
    (enough : 2 * ((print layout depth item).length + (printItems layout depth items).length) ≤
      fuel)
    (roomy : ∀ j ∈ item :: items, j.nesting ≤ room) (after : List Point) :
    readItems (fuel + 1) room ((print layout depth item).map .char ++
      ((printItems layout depth items).map .char ++
        ((closeBreak layout outer).map .char ++ .char ']' :: after))) =
          .ok (item.map points :: mapArray points items, after) := by
  induction items generalizing item fuel with
  | nil =>
    obtain ⟨-, reads⟩ := all item (List.mem_singleton_self item)
    rw [printItems, List.length_nil, Nat.add_zero] at enough
    rw [printItems, List.map_nil, List.nil_append]
    exact readItems_last (reads depth fuel room _ enough (roomy item (List.mem_singleton_self item))
      (follows_closeBreak layout outer (Or.inl rfl) after))
      (skipGap_closeBreak layout outer rfl after)
  | cons next items ih =>
    obtain ⟨⟨readable, reads⟩, others⟩ := List.forall_mem_cons.mp all
    obtain ⟨here, later⟩ := List.forall_mem_cons.mp roomy
    obtain ⟨gaps, comma, blank⟩ := itemBreak_eq layout depth
    have starts := (others next (List.mem_cons_self ..)).1.starts layout depth
    have some := (readable.starts layout depth).length_pos
    rw [printItems, comma] at enough ⊢
    simp only [List.length_append, List.length_cons] at enough
    obtain ⟨fuel, rfl⟩ := Nat.exists_eq_succ_of_ne_zero (show fuel ≠ 0 by omega)
    simp only [List.map_append, List.map_cons, List.cons_append, List.append_assoc]
    rw [readItems_more (reads depth _ room _ (by omega) here (follows_cons (Or.inl rfl) _)) rfl,
      starts.skipGap_append blank, ih others (by omega) later]
    rfl

theorem insert_of_not_mem {name : String} {members : List (String × Json)}
    (absent : name ∉ members.map Prod.fst) (value : Json) :
    insert (points name) (value.map points) (mapObject points members) =
      mapObject points (members ++ [(name, value)]) := by
  induction members with
  | nil => rfl
  | cons member rest ih =>
    have differs : points member.1 ≠ points name :=
      mt points_inj.mp (List.ne_of_not_mem_cons absent).symm
    rw [mapObject, insert, if_neg differs, ih (List.not_mem_of_not_mem_cons absent)]
    rfl

theorem skipGap_space {text : List Char} (starts : Starts text) (rest : List Point) :
    skipGap (.char ' ' :: (text.map .char ++ rest)) = text.map .char ++ rest :=
  have blank : ∀ c ∈ [' '], isGap c = true := List.forall_mem_singleton.mpr rfl
  starts.skipGap_append blank rest

theorem Reads.behind_name {value : Json} (reads : Reads layout value) (readable : Readable value)
    (enough : 2 * (print layout depth value).length ≤ fuel) (roomy : value.nesting ≤ room)
    {rest : List Point}
    (follows : Follows rest) :
    readValue fuel room (skipGap (.char ' ' :: ((print layout depth value).map .char ++ rest))) =
      .ok (value.map points, rest) := by
  rw [skipGap_space (readable.starts layout depth)]
  exact reads depth fuel room rest enough roomy follows

/-- The members of an object are read up to its brace and added to those before them. -/
theorem readMembers_print {before : List (String × Json)} {name : String} {value : Json}
    {members : List (String × Json)}
    (distinct : ((before ++ (name, value) :: members).map Prod.fst).Nodup)
    (all : ∀ member ∈ (name, value) :: members, Readable member.2 ∧ Reads layout member.2)
    (enough : 2 * ((print layout depth value).length +
      (printMembers layout depth members).length) ≤ fuel)
    (roomy : ∀ member ∈ (name, value) :: members, member.2.nesting ≤ room) (after : List Point) :
    readMembers (fuel + 1) room (mapObject points before)
      ((quote name).map .char ++ .char ':' :: .char ' ' ::
        ((print layout depth value).map .char ++ ((printMembers layout depth members).map .char ++
          ((closeBreak layout outer).map .char ++ .char '\x7d' :: after)))) =
            .ok (mapObject points (before ++ (name, value) :: members), after) := by
  have absent {before members : List (String × Json)} {name : String} {value : Json}
      (distinct : ((before ++ (name, value) :: members).map Prod.fst).Nodup) :
      name ∉ before.map Prod.fst := by
    rw [List.map_append] at distinct
    exact fun among => (List.nodup_append.mp distinct).2.2 _ among _ (List.mem_cons_self ..) rfl
  induction members generalizing before name value fuel with
  | nil =>
    obtain ⟨readable, reads⟩ := all _ (List.mem_singleton_self _)
    rw [printMembers, List.length_nil, Nat.add_zero] at enough
    rw [printMembers, List.map_nil, List.nil_append, ← insert_of_not_mem (absent distinct)]
    exact readMembers_last name (reads.behind_name readable enough
      (roomy _ (List.mem_singleton_self _)) (follows_closeBreak layout outer (Or.inr rfl) after))
      (skipGap_closeBreak layout outer rfl after)
  | cons member members ih =>
    obtain ⟨other, next⟩ := member
    obtain ⟨first, others⟩ := List.forall_mem_cons.mp all
    obtain ⟨readable, reads⟩ : Readable value ∧ Reads layout value := first
    obtain ⟨here, later⟩ := List.forall_mem_cons.mp roomy
    obtain ⟨gaps, comma, blank⟩ := itemBreak_eq layout depth
    have some := (readable.starts layout depth).length_pos
    have distinct' :
        ((before ++ [(name, value)] ++ (other, next) :: members).map Prod.fst).Nodup := by
      rw [List.append_assoc]
      exact distinct
    rw [printMembers, comma] at enough ⊢
    simp only [List.length_append, List.length_cons] at enough
    obtain ⟨fuel, rfl⟩ := Nat.exists_eq_succ_of_ne_zero (show fuel ≠ 0 by omega)
    simp only [List.map_append, List.map_cons, List.cons_append, List.append_assoc]
    rw [readMembers_more name
        (reads.behind_name readable (by omega) here (follows_cons (Or.inl rfl) _)) rfl,
      (starts_quote other).skipGap_append blank, insert_of_not_mem (absent distinct),
      ih distinct' others (by omega) later, List.append_assoc]
    rfl

theorem reads_of_succ {j : Json} (starts : ∀ depth, Starts (print layout depth j))
    (reads : ∀ depth fuel room rest, 2 * (print layout depth j).length ≤ fuel + 1 →
      j.nesting ≤ room → Follows rest →
        readValue (fuel + 1) room ((print layout depth j).map .char ++ rest) =
          .ok (j.map points, rest)) : Reads layout j := by
  intro depth fuel room rest enough roomy follows
  have some := (starts depth).length_pos
  obtain ⟨fuel, rfl⟩ := Nat.exists_eq_succ_of_ne_zero (show fuel ≠ 0 by omega)
  exact reads depth fuel room rest enough roomy follows

theorem reads_arr {items : List Json} (all : ∀ item ∈ items, Readable item ∧ Reads layout item) :
    Reads layout (arr items) := by
  refine reads_of_succ (fun depth => starts_arr layout depth items)
    fun depth fuel room rest enough roomy follows => ?_
  obtain ⟨room, rfl⟩ := Nat.exists_eq_add_of_le' (Nat.le_trans (Nat.le_add_left 1 _) roomy)
  have within := nesting_arr_le_succ_iff.mp roomy
  cases items with
  | nil => rfl
  | cons item items =>
    have starts := (all item (List.mem_cons_self ..)).1.starts layout (depth + 1)
    rw [print] at enough ⊢
    simp only [List.length_append, List.length_cons] at enough
    obtain ⟨fuel, rfl⟩ := Nat.exists_eq_succ_of_ne_zero (show fuel ≠ 0 by omega)
    have bound : 2 * ((print layout (depth + 1) item).length +
        (printItems layout (depth + 1) items).length) ≤ fuel := by omega
    simp only [List.map_append, List.map_cons, List.map_nil, List.cons_append, List.append_assoc,
      List.nil_append]
    rw [readValue_items starts (starts.skipGap_append (isGap_openBreak layout (depth + 1)) _),
      readItems_print all bound within rest]
    rfl

theorem reads_obj {members : List (String × Json)} (distinct : (members.map Prod.fst).Nodup)
    (all : ∀ member ∈ members, Readable member.2 ∧ Reads layout member.2) :
    Reads layout (obj members) := by
  refine reads_of_succ (fun depth => starts_obj layout depth members)
    fun depth fuel room rest enough roomy follows => ?_
  obtain ⟨room, rfl⟩ := Nat.exists_eq_add_of_le' (Nat.le_trans (Nat.le_add_left 1 _) roomy)
  have within := nesting_obj_le_succ_iff.mp roomy
  cases members with
  | nil => rfl
  | cons member members =>
    obtain ⟨name, value⟩ := member
    rw [print] at enough ⊢
    simp only [List.length_append, List.length_cons] at enough
    obtain ⟨fuel, rfl⟩ := Nat.exists_eq_succ_of_ne_zero (show fuel ≠ 0 by omega)
    have bound : 2 * ((print layout (depth + 1) value).length +
        (printMembers layout (depth + 1) members).length) ≤ fuel := by omega
    simp only [List.map_append, List.map_cons, List.map_nil, List.cons_append, List.append_assoc,
      List.nil_append]
    rw [readValue_members
      ((starts_quote name).skipGap_append (isGap_openBreak layout (depth + 1)) _)]
    have read := @readMembers_print layout (depth + 1) depth fuel room [] name value members
      distinct
      all bound within rest
    rw [mapObject] at read
    rw [read]
    rfl

theorem Readable.reads {j : Json} (readable : Readable j) (layout : Layout) : Reads layout j := by
  induction readable with
  | null => exact reads_of_succ (Readable.null.starts layout) fun _ _ _ _ _ _ _ => rfl
  | bool b =>
    exact reads_of_succ ((Readable.bool b).starts layout) fun _ _ _ _ _ _ _ => by cases b <;> rfl
  | @int n short =>
    refine reads_of_succ (starts_int n layout) fun _ fuel room _ _ _ follows => ?_
    rw [print, readValue_toString fuel _ n follows, if_pos short]
    rfl
  | str s =>
    refine reads_of_succ ((Readable.str s).starts layout) fun _ fuel room rest _ _ _ => ?_
    rw [print]
    exact readValue_quote s rest
  | arr all ih => exact reads_arr fun item member => ⟨all item member, ih item member⟩
  | obj distinct all ih =>
    exact reads_obj distinct fun member among => ⟨all member among, ih member among⟩

end Containers

/-! ## Whole texts -/

section Whole

variable {text : List Char}

theorem readDocument_of_ok (starts : Starts text) {room : Nat} {j : Json (List Point)}
    (reads : readValue (2 * text.length + 2) room (text.map .char) = .ok (j, [])) :
    readDocument room (text.map .char) = .ok j := by
  have begun := starts.skipGap_append (List.forall_mem_nil _) []
  have ended : skipGap [] = [] := rfl
  rw [List.map_nil, List.nil_append, List.append_nil] at begun
  rw [readDocument]
  simp only [begun, List.length_map, reads, ended]

theorem readDocument_of_error (starts : Starts text) {room : Nat} {stop : Stop}
    (stops : readValue (2 * text.length + 2) room (text.map .char) = .error stop) :
    readDocument room (text.map .char) = .error stop := by
  have begun := starts.skipGap_append (List.forall_mem_nil _) []
  rw [List.map_nil, List.nil_append, List.append_nil] at begun
  rw [readDocument]
  simp only [begun, List.length_map, stops]

theorem read_of_starts (starts : Starts text) (room : Nat) :
    read room (String.ofList text) = ofPoints room (text.map .char) := by
  rw [read, points, String.toList_ofList]
  obtain ⟨c, rest, shape, -, -, noMark⟩ := starts
  rw [shape]
  simp only [List.map_cons]
  split
  · next same => exact absurd (Point.char.inj (List.cons.inj same).1) noMark
  · rfl

end Whole

/-- A document that is written is read again, in whatever layout, if there is room for it. -/
theorem read_render {j : Json} (readable : Readable j) (layout : Layout) {room : Nat}
    (roomy : j.nesting ≤ room) : read room (j.render layout) = .ok (j.map points) := by
  have starts := readable.starts layout 0
  have reads := readable.reads layout 0 (2 * (print layout 0 j).length + 2) room []
    (Nat.le_add_right _ _) roomy fun _ none => nomatch none
  rw [List.append_nil] at reads
  rw [render, read_of_starts starts, ofPoints, readDocument_of_ok starts reads]

/-! ## Numbers that are too long -/

def Stops (layout : Layout) (j : Json) (stop : Stop) : Prop :=
  ∀ depth fuel room rest, 2 * (print layout depth j).length ≤ fuel → j.nesting ≤ room →
    Follows rest →
      readValue fuel room ((print layout depth j).map .char ++ rest) = .error stop

theorem stops_int {n : Int} (long : ¬ IsShort n.natAbs) (layout : Layout) :
    Stops layout (int n) (.tooLong (Nat.toDigits 10 n.natAbs).length) := by
  intro depth fuel room rest enough _ follows
  have some := (starts_int n layout depth).length_pos
  obtain ⟨fuel, rfl⟩ := Nat.exists_eq_succ_of_ne_zero (show fuel ≠ 0 by omega)
  rw [print, readValue_toString fuel room n follows, if_neg long]

/-- Behind the first member of an object stands a comma or what closes the object. -/
theorem follows_printMembers (layout : Layout) (depth : Nat) (members : List (String × Json))
    (rest : List Point) :
    Follows ((printMembers layout (depth + 1) members).map .char ++
      ((closeBreak layout depth).map .char ++ .char '\x7d' :: rest)) := by
  cases members with
  | nil => exact follows_closeBreak layout depth (Or.inr rfl) rest
  | cons member members =>
    obtain ⟨gaps, comma, -⟩ := itemBreak_eq layout (depth + 1)
    simp only [printMembers, comma, List.cons_append, List.map_cons]
    exact follows_cons (Or.inl rfl) _

/-- A document that stops the reader stops it as the first member of an object. -/
theorem Stops.first_member {layout : Layout} {name : String} {value : Json} {stop : Stop}
    (stops : Stops layout value stop) (starts : ∀ depth, Starts (print layout depth value))
    (members : List (String × Json)) : Stops layout (obj ((name, value) :: members)) stop := by
  intro depth fuel room rest enough roomy follows
  have ends := follows_printMembers layout depth members rest
  obtain ⟨room, rfl⟩ := Nat.exists_eq_add_of_le' (Nat.le_trans (Nat.le_add_left 1 _) roomy)
  have within := (List.forall_mem_cons.mp (nesting_obj_le_succ_iff.mp roomy)).1
  rw [print] at enough ⊢
  simp only [List.length_append, List.length_cons] at enough
  obtain ⟨fuel, rfl⟩ := Nat.exists_eq_add_of_le' (show 2 ≤ fuel by omega)
  have stop := stops (depth + 1) fuel room _ (by omega) within ends
  simp only [List.map_append, List.map_cons, List.map_nil, List.cons_append, List.append_assoc,
    List.nil_append]
  rw [readValue_members
      ((starts_quote name).skipGap_append (isGap_openBreak layout (depth + 1)) _),
    readMembers_stop name (by rw [skipGap_space (starts (depth + 1)), stop])]
  rfl

theorem read_render_of_stops {layout : Layout} {j : Json} {digits room : Nat}
    (stops : Stops layout j (.tooLong digits)) (starts : Starts (print layout 0 j))
    (roomy : j.nesting ≤ room) : read room (j.render layout) = .error (.tooLong digits) := by
  have reads := stops 0 (2 * (print layout 0 j).length + 2) room [] (Nat.le_add_right _ _) roomy
    fun _ none => nomatch none
  rw [List.append_nil] at reads
  rw [render, read_of_starts starts, ofPoints, readDocument_of_error starts reads]

end Remedy.Json
