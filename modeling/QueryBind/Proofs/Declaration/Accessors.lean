/-
# QueryBind.Proofs.Declaration.Accessors — one index, one field

The table of a declared record and its two selections grow together, so an index means the same
field in all three of them: the one at that place among the members that no tag leaves out.

* `Tag.skipped_of_read`: a field is left out exactly if one of its tags is `-`, whatever the other
  tags say and wherever they stand.
* `Accessors.Follows` is what the accessors are to the members added so far. A member that is left
  out changes nothing (`add_of_skipped`), any other one becomes the next field (`Follows.add`).
* `exists_expand_iff`: which declarations are accepted. An accepted one has an index that a path
  can keep for each of its fields.
-/
import Mathlib.Data.List.Nodup
import QueryBind.Declaration
import QueryBind.Proofs.Data.List
import QueryBind.Proofs.Record.FieldPath

namespace QueryBind.Declaration

set_option autoImplicit false

/-! ## Fields that are left out -/

/-- The attribute is the tag `-`. -/
def Attribute.leavesOut (a : Attribute) : Bool :=
  a.isNamed Tag.attributeName && a.string.toOption = some ['-']

/-- One of the member's tags is `-`. -/
def Member.leftOut (m : Member) : Bool := m.attributes.any Attribute.leavesOut

namespace Tag

variable {tag tag' : Tag}

theorem skipped_of_extend {text : List Char} (extended : tag.extend text = .ok tag') :
    tag'.skipped = (tag.skipped || text = ['-']) := by
  simp only [extend] at extended
  split at extended
  · next dash =>
      cases extended
      simp [dash]
  · next other =>
      have kept : tag'.skipped = tag.skipped := by
        split at extended
        · cases extended
          rfl
        · split at extended
          · cases extended
          · split at extended
            · cases extended
              rfl
            · split at extended <;> cases extended <;> rfl
      simp [kept, other]

theorem skipped_of_extendBy {a : Attribute} (extended : tag.extendBy a = .ok tag') :
    tag'.skipped = (tag.skipped || a.leavesOut) := by
  simp only [extendBy] at extended
  split at extended
  · next named =>
      split at extended
      · cases extended
      · next text read =>
          rw [skipped_of_extend extended]
          simp [Attribute.leavesOut, named, read, Except.toOption]
  · next unnamed =>
      cases extended
      simp [Attribute.leavesOut, unnamed]

/-- No tag takes a `-` back. -/
theorem skipped_of_foldlM {attributes : List Attribute}
    (extended : attributes.foldlM extendBy tag = .ok tag') :
    tag'.skipped = (tag.skipped || attributes.any Attribute.leavesOut) := by
  induction attributes generalizing tag with
  | nil =>
      cases extended
      simp
  | cons a rest ih =>
      obtain ⟨next, first, others⟩ := List.foldlM_cons_eq_ok_iff.mp extended
      rw [ih others, skipped_of_extendBy first, List.any_cons, Bool.or_assoc]

end Tag

/-- The tag that a member's attributes give its field. -/
def Member.tag (m : Member) : Except TagError Tag := Tag.read m.name.toList m.attributes

theorem Tag.skipped_of_read {m : Member} {tag : Tag} (tagged : m.tag = .ok tag) :
    tag.skipped = m.leftOut := by
  rw [skipped_of_foldlM tagged, ofMember, Bool.false_or, Member.leftOut]

/-! ## The table and the selections -/

namespace Accessors

/-- The index selects the member in the table, for writing and for reading. A nested member goes on
with the table of its own type. -/
structure Denotes (a : Accessors) (i : Nat) (m : Member) (tag : Tag) : Prop where
  tagged : m.tag = .ok tag
  entry : a.table[i]? = some ⟨tag.name, if tag.nested then some m.type else none⟩
  writer : a.writer? i = some ⟨i, tag.nested, m.name⟩
  reader : a.reader? i = some ⟨i, tag.nested, m.name⟩

/-- The accessors have the members for their fields, in the same order. -/
structure Follows (a : Accessors) (bound : List Member) : Prop where
  length : a.table.length = bound.length
  alike : a.readers = a.writers
  below : ∀ arm ∈ a.writers, arm.index < a.table.length
  each : ∀ i m, bound[i]? = some m → ∃ tag, a.Denotes i m tag

variable {a : Accessors} {bound : List Member}

theorem follows_empty : Accessors.empty.Follows [] where
  length := rfl
  alike := rfl
  below _ member := nomatch member
  each _ _ found := nomatch found

theorem Follows.reader?_eq (follows : a.Follows bound) (i : Nat) : a.reader? i = a.writer? i := by
  rw [reader?, writer?, follows.alike]

/-- No arm has the next index yet. -/
theorem Follows.writer?_eq_none (follows : a.Follows bound) {i : Nat} (past : a.table.length ≤ i) :
    a.writer? i = none := by
  rw [writer?, List.find?_eq_none]
  intro arm member
  have inside := follows.below arm member
  simp only [decide_eq_true_eq]
  omega

theorem add_of_skipped {m : Member} {tag : Tag} (skipped : tag.skipped = true) :
    a.add m tag = a := by
  simp only [add, skipped, if_true]

theorem writer?_add {m : Member} {tag : Tag} (kept : tag.skipped = false) (i : Nat) :
    (a.add m tag).writer? i = (a.writer? i).or
      (if a.table.length = i then some ⟨a.table.length, tag.nested, m.name⟩ else none) := by
  simp only [add, kept, Bool.false_eq_true, if_false, writer?, List.find?_append,
    List.find?_singleton, decide_eq_true_eq]

/-- A member that is not left out is the next field. The earlier fields keep their indices. -/
theorem Follows.add (follows : a.Follows bound) {m : Member} {tag : Tag} (tagged : m.tag = .ok tag)
    (kept : tag.skipped = false) : (a.add m tag).Follows (bound ++ [m]) := by
  have table : (a.add m tag).table =
      a.table ++ [⟨tag.name, if tag.nested then some m.type else none⟩] := by
    simp only [Accessors.add, kept, Bool.false_eq_true, if_false]
  have writers : (a.add m tag).writers = a.writers ++ [⟨a.table.length, tag.nested, m.name⟩] := by
    simp only [Accessors.add, kept, Bool.false_eq_true, if_false]
  have alike : (a.add m tag).readers = (a.add m tag).writers := by
    simp only [Accessors.add, kept, Bool.false_eq_true, if_false, follows.alike]
  have same (i : Nat) : (a.add m tag).reader? i = (a.add m tag).writer? i := by
    rw [reader?, writer?, alike]
  refine ⟨by simp [table, follows.length], alike, fun arm member => ?_, fun i m' found => ?_⟩
  · rw [table, List.length_append, List.length_singleton]
    rw [writers, List.mem_append, List.mem_singleton] at member
    rcases member with earlier | rfl
    · exact Nat.lt_succ_of_lt (follows.below arm earlier)
    · exact Nat.lt_succ_self _
  · rcases Nat.lt_or_ge i bound.length with inside | past
    · -- An earlier field: what was found before is still found first.
      rw [List.getElem?_append_left inside] at found
      obtain ⟨tag', denotes⟩ := follows.each i m' found
      have writer : (a.add m tag).writer? i = some ⟨i, tag'.nested, m'.name⟩ := by
        rw [writer?_add kept, denotes.writer, Option.some_or]
      refine ⟨tag', denotes.tagged, ?_, writer, (same i).trans writer⟩
      rw [table, List.getElem?_append_left (follows.length ▸ inside), denotes.entry]
    · -- The new field: no earlier arm has its index.
      obtain ⟨rfl, rfl⟩ : i = bound.length ∧ m' = m := by
        rw [List.getElem?_append_right past, List.getElem?_singleton] at found
        split at found
        · exact ⟨by omega, (Option.some.inj found).symm⟩
        · cases found
      have writer : (a.add m' tag).writer? bound.length =
          some ⟨bound.length, tag.nested, m'.name⟩ := by
        rw [writer?_add kept, follows.writer?_eq_none (Nat.le_of_eq follows.length), Option.none_or,
          if_pos follows.length, follows.length]
      refine ⟨tag, tagged, ?_, writer, (same _).trans writer⟩
      rw [table, ← follows.length, List.getElem?_concat_length]

theorem Follows.addMember (follows : a.Follows bound) {m : Member} {a' : Accessors}
    (added : a.addMember m = .ok a') :
    a'.Follows (bound ++ if m.leftOut then [] else [m]) := by
  simp only [Accessors.addMember] at added
  split at added
  · cases added
  · next tag tagged =>
      cases added
      have skipped := Tag.skipped_of_read (m := m) tagged
      cases left : m.leftOut with
      | true => simpa [add_of_skipped (skipped.trans left)] using follows
      | false => simpa using follows.add tagged (skipped.trans left)

/-- Adding members one by one follows those of them that are not left out. -/
theorem Follows.foldlM (follows : a.Follows bound) {members : List Member} {a' : Accessors}
    (added : members.foldlM Accessors.addMember a = .ok a') :
    a'.Follows (bound ++ members.filter fun m => !m.leftOut) := by
  induction members generalizing a bound with
  | nil =>
      cases added
      simpa using follows
  | cons m rest ih =>
      obtain ⟨next, first, others⟩ := List.foldlM_cons_eq_ok_iff.mp added
      have followed := ih (follows.addMember first) others
      rw [List.append_assoc] at followed
      cases left : m.leftOut <;> simpa [left] using followed

theorem exists_addMember_iff {m : Member} :
    (∃ a', a.addMember m = .ok a') ↔ ∃ tag, m.tag = .ok tag := by
  simp only [addMember, Member.tag]
  cases Tag.read m.name.toList m.attributes <;> simp

/-- All members are added exactly if all their tags can be read. -/
theorem exists_foldlM_iff {members : List Member} : (∃ a', members.foldlM addMember a = .ok a') ↔
    ∀ m ∈ members, ∃ tag, m.tag = .ok tag := by
  induction members generalizing a with
  | nil => simp [pure, Except.pure]
  | cons m rest ih =>
      rw [List.forall_mem_cons, ← exists_addMember_iff (a := a)]
      simp only [List.foldlM_cons_eq_ok_iff]
      constructor
      · rintro ⟨last, next, first, others⟩
        exact ⟨⟨next, first⟩, ih.mp ⟨last, others⟩⟩
      · rintro ⟨⟨next, first⟩, readable⟩
        obtain ⟨last, others⟩ := ih.mpr readable
        exact ⟨last, next, first, others⟩

end Accessors

/-! ## Accepted declarations -/

variable {d : Declaration}

/-- The members that have a field, in the order of the declaration. -/
def bound (d : Declaration) : List Member := d.members.filter fun m => !m.leftOut

theorem expand_of_record (plain : d.isGeneric = false) (record : d.form = .named)
    {accessors : Accessors} (added : d.members.foldlM Accessors.addMember .empty = .ok accessors) :
    d.expand =
      if FieldPath.terminator ≤ accessors.table.length then .error .tooManyFields
      else (relationshipsOf d.attributes).map fun path? => ⟨d.name, accessors, path?⟩ := by
  simp only [expand, plain, record, added, Bool.false_eq_true, if_false]

theorem record_of_expand {e : Expansion} (expanded : d.expand = .ok e) :
    d.isGeneric = false ∧ d.form = .named ∧
      ∃ accessors, d.members.foldlM Accessors.addMember .empty = .ok accessors := by
  simp only [expand] at expanded
  split at expanded
  · cases expanded
  · next plain =>
      split at expanded
      · cases expanded
      · cases expanded
      · next record =>
          split at expanded
          · cases expanded
          · next accessors added => exact ⟨by simpa using plain, record, accessors, added⟩

theorem follows_of_foldlM {accessors : Accessors}
    (added : d.members.foldlM Accessors.addMember .empty = .ok accessors) :
    accessors.Follows d.bound := by
  rw [bound]
  simpa using Accessors.follows_empty.foldlM added

theorem expand_eq_ok_iff_of_record (plain : d.isGeneric = false) (record : d.form = .named)
    {accessors : Accessors} (added : d.members.foldlM Accessors.addMember .empty = .ok accessors)
    {e : Expansion} : d.expand = .ok e ↔
      accessors = e.accessors ∧ d.bound.length < FieldPath.terminator ∧ e.typeName = d.name ∧
        relationshipsOf d.attributes = .ok e.relationships? := by
  obtain ⟨name, built, path?⟩ := e
  rw [expand_of_record plain record added, (follows_of_foldlM added).length]
  split
  · next full => simp [Nat.not_lt.mpr full]
  · next room =>
      have fits := Nat.not_le.mp room
      cases relationshipsOf d.attributes with
      | error e => simp [Except.map]
      | ok found? => simp [Except.map, fits, eq_comm, and_left_comm]

/-- What an accepted declaration is made into. -/
theorem expand_eq_ok_iff {e : Expansion} : d.expand = .ok e ↔
    d.isGeneric = false ∧ d.form = .named ∧
      d.members.foldlM Accessors.addMember .empty = .ok e.accessors ∧
      d.bound.length < FieldPath.terminator ∧
      e.typeName = d.name ∧ relationshipsOf d.attributes = .ok e.relationships? := by
  constructor
  · intro expanded
    obtain ⟨plain, record, accessors, added⟩ := record_of_expand expanded
    obtain ⟨rfl, rest⟩ := (expand_eq_ok_iff_of_record plain record added).mp expanded
    exact ⟨plain, record, added, rest⟩
  · rintro ⟨plain, record, added, rest⟩
    exact (expand_eq_ok_iff_of_record plain record added).mpr ⟨rfl, rest⟩

/-- The accepted declarations: of a record with named fields and without generic parameters, whose
attributes can be read and leave at most 254 fields. -/
theorem exists_expand_iff : (∃ e, d.expand = .ok e) ↔
    d.isGeneric = false ∧ d.form = .named ∧ (∀ m ∈ d.members, ∃ tag, m.tag = .ok tag) ∧
      d.bound.length < FieldPath.terminator ∧ ∃ path?, relationshipsOf d.attributes = .ok path? := by
  rw [← Accessors.exists_foldlM_iff (a := .empty)]
  constructor
  · rintro ⟨e, expanded⟩
    obtain ⟨plain, record, added, room, -, related⟩ := expand_eq_ok_iff.mp expanded
    exact ⟨plain, record, ⟨_, added⟩, room, _, related⟩
  · rintro ⟨plain, record, ⟨accessors, added⟩, room, path?, related⟩
    exact ⟨⟨d.name, accessors, path?⟩,
      expand_eq_ok_iff.mpr ⟨plain, record, added, room, rfl, related⟩⟩

/-- The table and the selections have one field for each of the members, in the same order. -/
structure Accessors.LinedUp (a : Accessors) (bound : List Member) : Prop where
  length : a.table.length = bound.length
  /-- At most 254 fields, so below the byte that ends a path. -/
  room : a.table.length < FieldPath.terminator
  each : ∀ i m, bound[i]? = some m → ∃ tag, a.Denotes i m tag
  beyond : ∀ i, a.table.length ≤ i → a.writer? i = none ∧ a.reader? i = none
  /-- Trails of indices of the table have their path. -/
  encoded : ∀ trail : List Nat, trail ≠ [] → trail.length ≤ FieldPath.maxDepth →
    (∀ i ∈ trail, i < a.table.length) →
      ∃ path, FieldPath.ofIndices trail = .ok path ∧ path.indices = trail

theorem Accessors.Follows.linedUp {a : Accessors} {bound : List Member} (follows : a.Follows bound)
    (room : a.table.length < FieldPath.terminator) : a.LinedUp bound where
  length := follows.length
  room := room
  each := follows.each
  beyond i past := by
    rw [follows.reader?_eq]
    exact ⟨follows.writer?_eq_none past, follows.writer?_eq_none past⟩
  encoded trail some_index short inside := by
    obtain ⟨path, packed⟩ := FieldPath.exists_ofIndices some_index short
      fun i member => Nat.lt_trans (inside i member) room
    exact ⟨path, packed, FieldPath.indices_ofIndices packed⟩

/-- What an index selects is one of the members. -/
theorem Accessors.LinedUp.exists_of_selected {a : Accessors} {bound : List Member}
    (lined : a.LinedUp bound) {i : Nat} {arm : Arm}
    (selected : a.writer? i = some arm ∨ a.reader? i = some arm) :
    ∃ m ∈ bound, arm.member = m.name := by
  rcases Nat.lt_or_ge i bound.length with inside | past
  · obtain ⟨tag, denotes⟩ := lined.each i _ (List.getElem?_eq_getElem inside)
    refine ⟨bound[i], List.getElem_mem inside, ?_⟩
    rcases selected with writes | reads
    · rw [← Option.some.inj (denotes.writer.symm.trans writes)]
    · rw [← Option.some.inj (denotes.reader.symm.trans reads)]
  · obtain ⟨writes, reads⟩ := lined.beyond i (lined.length ▸ past)
    simp [writes, reads] at selected

theorem linedUp_of_expand {e : Expansion} (expanded : d.expand = .ok e) :
    e.accessors.LinedUp d.bound := by
  obtain ⟨-, -, added, room, -⟩ := expand_eq_ok_iff.mp expanded
  have follows := follows_of_foldlM added
  exact follows.linedUp (follows.length ▸ room)

/-- **The table of a declared record and its accessors line up.** For every accepted declaration the
index `i` means, in the table, for writing and for reading, the `i`-th member that has no tag `-`,
as a scalar in all three or as a nested record in all three, and no index selects a member with such
a tag. A declaration with more than 254 other members is refused, and if nothing else is wrong with
it, for that reason. -/
theorem accessors_line_up (d : Declaration) :
    (∀ e, d.expand = .ok e → e.accessors.LinedUp d.bound ∧
      ((d.members.map (·.name)).Nodup → ∀ m ∈ d.members, m.leftOut → ∀ i arm,
        e.accessors.writer? i = some arm ∨ e.accessors.reader? i = some arm →
          arm.member ≠ m.name)) ∧
    (FieldPath.terminator ≤ d.bound.length → (∀ e, d.expand ≠ .ok e) ∧
      (d.isGeneric = false → d.form = .named → (∀ m ∈ d.members, ∃ tag, m.tag = .ok tag) →
        d.expand = .error .tooManyFields)) := by
  refine ⟨fun e expanded => ⟨linedUp_of_expand expanded, ?_⟩, fun full => ⟨?_, ?_⟩⟩
  · intro distinct m member left i arm selected same
    obtain ⟨other, inside, name⟩ := (linedUp_of_expand expanded).exists_of_selected selected
    obtain ⟨declared, kept⟩ := List.mem_filter.mp inside
    obtain rfl : other = m :=
      List.inj_on_of_nodup_map distinct declared member (name.symm.trans same)
    simp [left] at kept
  · intro e expanded
    have room := (linedUp_of_expand expanded).room
    rw [(linedUp_of_expand expanded).length] at room
    omega
  · intro plain record readable
    obtain ⟨accessors, added⟩ := (Accessors.exists_foldlM_iff (a := .empty)).mpr readable
    rw [expand_of_record plain record added, (follows_of_foldlM added).length, if_pos full]

/-- A declaration of five fields: `#[bind("-")] cache`, `title`, `#[bind("author,bind")] writer`,
`#[bind(",bind")] #[bind("-")] draft` and `#[bind("no")] r#number`. -/
def article : Declaration :=
  let tagged (texts : List String) := texts.map fun text => Attribute.ofString "bind" text.toList
  ⟨"Article", [], .named, [],
    [⟨"cache", [.word "Cache".toList], tagged ["-"]⟩, ⟨"title", [.word "String".toList], []⟩,
      ⟨"writer", [.word "Author".toList], tagged ["author,bind"]⟩,
      ⟨"draft", [.word "Article".toList], tagged [",bind", "-"]⟩,
      ⟨"r#number", [.word "i64".toList], tagged ["no"]⟩]⟩

/-- The title, the writer and the number of an article are its fields, in this order; no index
selects its cache or its draft. -/
theorem article_accessors : ∃ e, article.expand = .ok e ∧
    e.accessors.table = [⟨"title", none⟩, ⟨"author", some [.word "Author".toList]⟩, ⟨"no", none⟩] ∧
    e.accessors.LinedUp article.bound ∧
    (e.accessors.writer? 2 = some ⟨2, false, "r#number"⟩ ∧ e.accessors.reader? 3 = none) ∧
    ∀ i arm, e.accessors.writer? i = some arm ∨ e.accessors.reader? i = some arm →
      arm.member ≠ "cache" ∧ arm.member ≠ "draft" := by
  obtain ⟨e, expanded, table, writes⟩ : ∃ e, article.expand = .ok e ∧ e.accessors.table =
        [⟨"title", none⟩, ⟨"author", some [.word "Author".toList]⟩, ⟨"no", none⟩] ∧
      e.accessors.writer? 2 = some ⟨2, false, "r#number"⟩ := ⟨_, rfl, rfl, rfl⟩
  obtain ⟨lined, unselected⟩ := (accessors_line_up article).1 e expanded
  have distinct : (article.members.map (·.name)).Nodup := by decide
  refine ⟨e, expanded, table, lined, ⟨writes, (lined.beyond 3 (by simp [table])).2⟩,
    fun i arm selected => ⟨?_, ?_⟩⟩
  · exact unselected distinct article.members[0] (List.getElem_mem _) rfl i arm selected
  · exact unselected distinct article.members[3] (List.getElem_mem _) rfl i arm selected

end QueryBind.Declaration
