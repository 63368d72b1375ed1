/-
# QueryBind.Proofs.Query.Window — the row window of a statement

The limit has at most one place in a statement: at the head of a SELECT, before the offset or after
it (`LimitPlace`). A layout is made of parts that have nothing to do with the limit, and of the
limit in its place (`layout_eq`), so limit and offset are found by looking at these parts alone
(`row_window_written`). The head belongs to SELECT: where the dialect writes a limit without an
offset as TOP, no other statement has a place for it (`DropsLimit`), and its text is that of the
statement without a limit (`limitedDelete_runs_unlimited`).
-/
import QueryBind.Proofs.Query.Condition

namespace QueryBind

set_option autoImplicit false

open Text

namespace Query

/-! ## Sections of the row window -/

namespace Section

def isLimit : Section → Bool
  | .top _ | .limit _ | .fetchRows _ => true
  | _ => false

def isOffset : Section → Bool
  | .offset _ | .skipRows _ => true
  | _ => false

def isOrder : Section → Bool
  | .ordering _ | .anyOrder => true
  | _ => false

/-- The text of a section whose first argument has number `start`. -/
def text (d : Dialect) (start : Nat) (s : Section) : List Char :=
  Symbol.render d.numbered start (s.fragment d).symbols

/-- The text of sections one after the other. -/
def texts (d : Dialect) : (start : Nat) → List Section → List Char
  | _, [] => []
  | start, s :: rest => s.text d start ++ texts d (start + s.args.length) rest

theorem texts_append (d : Dialect) (start : Nat) (a b : List Section) :
    texts d start (a ++ b) = texts d start a ++ texts d (start + (a.flatMap args).length) b := by
  induction a generalizing start with
  | nil => rfl
  | cons s rest ih => simp [texts, ih, Nat.add_assoc]

theorem render_concat (d : Dialect) (start : Nat) (sections : List Section) :
    Symbol.render d.numbered start (Fragment.concat (sections.map (fragment d))).symbols =
      texts d start sections := by
  induction sections generalizing start with
  | nil => rfl
  | cons s rest ih =>
      have split : Fragment.concat ((s :: rest).map (fragment d)) =
          s.fragment d ++ Fragment.concat (rest.map (fragment d)) := rfl
      rw [split, Fragment.render_append, ih, args_fragment]
      rfl

@[simp] theorem text_numeral (numbered : Bool) (start n : Nat) (before after : String) :
    Symbol.render numbered start (numeral before n after).symbols =
      before.toList ++ natural n ++ after.toList :=
  Symbol.render_ofText numbered start _

/-- An order starts with the keyword, whatever its clauses are. -/
theorem orderBy_isPrefix_text {s : Section} (order : s.isOrder) (d : Dialect) (start : Nat) :
    " ORDER BY ".toList <+: s.text d start := by
  cases s with
  | ordering clauses =>
      rw [text, Section.fragment, Fragment.render_append, Fragment.ofText, Symbol.render_ofText]
      exact List.prefix_append _ _
  | anyOrder =>
      rw [text, Section.fragment, Fragment.ofText, Symbol.render_ofText]
      decide
  | _ => cases order

end Section

/-- The text of a built statement is that of its sections. -/
theorem sql_of_isBuilt {q : Query} (built : q.IsBuilt) :
    q.render.sql.toList = Section.texts q.dialect 1 q.layout ++ [';'] := by
  rw [render_of_isBuilt built, renderLayout, Fragment.render, String.toList_ofList,
    Fragment.render_append, Section.render_concat, Fragment.ofText, Symbol.render_ofText]

/-! ## The parts of a layout -/

/-- Where a statement has a place for its limit. -/
inductive LimitPlace where
  /-- At the head of a SELECT. -/
  | head
  | beforeOffset
  | afterOffset
  | nowhere
  deriving DecidableEq, Repr

/-- The statement is written as a SELECT. -/
def selects (q : Query) : Bool :=
  match q.statement with
  | .update [] | .select => true
  | _ => false

def limitPlace (q : Query) : LimitPlace :=
  if q.dialect.topRows then
    if q.offset = 0 then if q.selects then .head else .nowhere
    else .afterOffset
  else .beforeOffset

/-- The limit as the dialect writes it. -/
def limitSection (q : Query) (n : Nat) : Section :=
  if q.dialect.topRows then if q.offset = 0 then .top n else .fetchRows n else .limit n

/-- The offset as the dialect writes it. -/
def offsetSection (q : Query) : Section :=
  if q.dialect.topRows then .skipRows q.offset else .offset q.offset

/-- What stands before the head of a SELECT; for the other statements, up to the conditions. -/
def opening (q : Query) : List Section :=
  match q.statement with
  | .delete => q.preamble ++ [.keyword "DELETE FROM ", .tables q.tables]
  | .update (column :: columns) =>
      q.preamble ++
        [.keyword "UPDATE ", .tables q.tables, .keyword " SET ", .assignments (column :: columns)]
  | _ => q.preamble ++ [.keyword "SELECT "]

/-- What stands between the head and the order. -/
def body (q : Query) : List Section :=
  (if q.selects then
    [.projection q.projection, .keyword " FROM ", .tables q.tables] ++ unlessEmpty q.joins .joins
  else []) ++
    unlessEmpty q.conditions .conditions ++ unlessEmpty q.grouping .grouping ++
    unlessEmpty q.having .having

/-- The order, which an offset may need where there is none. -/
def order (q : Query) : List Section :=
  if q.ordering.isEmpty then if q.dialect.topRows && q.offset != 0 then [.anyOrder] else []
  else [.ordering q.ordering]

def skipping (q : Query) : List Section := if q.offset = 0 then [] else [q.offsetSection]

def closing (q : Query) : List Section := (q.lock.map Section.lock).toList

/-- The layout with the given sections where the limit has its place. -/
def layoutWith (q : Query) (limits : List Section) : List Section :=
  q.opening ++ (if q.limitPlace = .head then limits else []) ++ q.body ++ q.order ++
    (if q.limitPlace = .beforeOffset then limits else []) ++ q.skipping ++
    (if q.limitPlace = .afterOffset then limits else []) ++ q.closing

/-- The limit as the dialect writes it, if one is set. -/
def limits (q : Query) : List Section := (q.limit.map q.limitSection).toList

theorem head_eq (q : Query) (select : q.selects = true) :
    q.head = if q.limitPlace = .head then q.limits else [] := by
  unfold head limitPlace limits limitSection
  by_cases topRows : q.dialect.topRows <;> by_cases unshifted : q.offset = 0 <;> simp [*]

theorem limitPlace_ne_head {q : Query} (noSelect : q.selects = false) : q.limitPlace ≠ .head := by
  unfold limitPlace
  split_ifs <;> simp_all

/-- The order and the row window, taken apart. -/
theorem ordering_window_eq (q : Query) :
    unlessEmpty q.ordering .ordering ++ q.window =
      q.order ++ (if q.limitPlace = .beforeOffset then q.limits else []) ++ q.skipping ++
        if q.limitPlace = .afterOffset then q.limits else [] := by
  unfold window unlessEmpty order limitPlace skipping limits limitSection offsetSection
  by_cases topRows : q.dialect.topRows <;> by_cases unshifted : q.offset = 0 <;>
    by_cases unordered : q.ordering = [] <;> cases q.selects <;> simp [*]

theorem tail_eq (q : Query) :
    q.tail = unlessEmpty q.conditions .conditions ++ unlessEmpty q.grouping .grouping ++
      unlessEmpty q.having .having ++ (unlessEmpty q.ordering .ordering ++ q.window) ++
      q.closing := by
  simp [tail, modifiers, closing]

theorem selectLayout_eq {q : Query} (select : q.selects = true)
    (opened : q.opening = q.preamble ++ [.keyword "SELECT "]) :
    q.selectLayout = q.layoutWith q.limits := by
  simp [selectLayout, layoutWith, opened, body, select, head_eq, tail_eq, ordering_window_eq]

theorem opening_tail_eq {q : Query} (noSelect : q.selects = false) :
    q.opening ++ q.tail = q.layoutWith q.limits := by
  simp [layoutWith, body, noSelect, limitPlace_ne_head, tail_eq, ordering_window_eq]

/-- The layout of a built statement has the limit in its place. -/
theorem layout_eq {q : Query} (built : q.IsBuilt) : q.layout = q.layoutWith q.limits := by
  unfold layout
  cases kind : q.statement with
  | raw sql args => exact absurd kind (built sql args)
  | select => exact selectLayout_eq (by simp [selects, kind]) (by simp [opening, kind])
  | delete =>
      rw [← opening_tail_eq (by simp [selects, kind]), opening, kind]
      rfl
  | update columns =>
      cases columns with
      | nil => exact selectLayout_eq (by simp [selects, kind]) (by simp [opening, kind])
      | cons column columns =>
          rw [← opening_tail_eq (by simp [selects, kind]), opening, kind]
          rfl

/-! ## What stands in a layout -/

/-- The section is neither about limit or offset nor about the order of rows. -/
def Section.Plain (s : Section) : Prop :=
  s.isLimit = false ∧ s.isOffset = false ∧ s.isOrder = false

theorem plain_preamble (q : Query) : ∀ s ∈ q.preamble, s.Plain := by
  refine List.forall_mem_append.mpr ⟨forall_mem_option ?_, forall_mem_unlessEmpty ⟨rfl, rfl, rfl⟩⟩
  exact fun _ _ => ⟨rfl, rfl, rfl⟩

theorem plain_opening (q : Query) : ∀ s ∈ q.opening, s.Plain := by
  unfold opening
  split <;> refine List.forall_mem_append.mpr ⟨plain_preamble q, ?_⟩ <;>
    simp [Section.Plain, Section.isLimit, Section.isOffset, Section.isOrder]

theorem plain_body (q : Query) : ∀ s ∈ q.body, s.Plain := by
  simp only [body, List.forall_mem_append]
  refine ⟨⟨⟨?_, forall_mem_unlessEmpty ⟨rfl, rfl, rfl⟩⟩, forall_mem_unlessEmpty ⟨rfl, rfl, rfl⟩⟩,
    forall_mem_unlessEmpty ⟨rfl, rfl, rfl⟩⟩
  split
  · refine List.forall_mem_append.mpr ⟨?_, forall_mem_unlessEmpty ⟨rfl, rfl, rfl⟩⟩
    simp [Section.Plain, Section.isLimit, Section.isOffset, Section.isOrder]
  · simp

theorem plain_closing (q : Query) : ∀ s ∈ q.closing, s.Plain :=
  forall_mem_option fun _ _ => ⟨rfl, rfl, rfl⟩

theorem isLimit_limitSection (q : Query) (n : Nat) : (q.limitSection n).isLimit = true := by
  unfold limitSection
  split_ifs <;> rfl

theorem isOffset_limitSection (q : Query) (n : Nat) : (q.limitSection n).isOffset = false := by
  unfold limitSection
  split_ifs <;> rfl

theorem filter_isLimit_order (q : Query) : q.order.filter Section.isLimit = [] := by
  unfold order
  split_ifs <;> rfl

theorem filter_isOffset_order (q : Query) : q.order.filter Section.isOffset = [] := by
  unfold order
  split_ifs <;> rfl

theorem filter_isLimit_skipping (q : Query) : q.skipping.filter Section.isLimit = [] := by
  unfold skipping offsetSection
  split_ifs <;> rfl

theorem filter_isOffset_skipping (q : Query) : q.skipping.filter Section.isOffset = q.skipping := by
  unfold skipping offsetSection
  split_ifs <;> rfl

/-- A test that no plain section passes leaves of a layout what it leaves of limit, order and
offset. -/
theorem filter_layoutWith (q : Query) (limits : List Section) {p : Section → Bool}
    (special : ∀ s : Section, s.Plain → p s = false) :
    (q.layoutWith limits).filter p =
      (if q.limitPlace = .head then limits.filter p else []) ++ q.order.filter p ++
      (if q.limitPlace = .beforeOffset then limits.filter p else []) ++ q.skipping.filter p ++
      (if q.limitPlace = .afterOffset then limits.filter p else []) := by
  have none {sections : List Section} (plain : ∀ s ∈ sections, s.Plain) :
      sections.filter p = [] :=
    List.filter_eq_nil_iff.mpr fun s member => by simp [special s (plain s member)]
  simp only [layoutWith, List.filter_append, none (plain_opening q), none (plain_body q),
    none (plain_closing q), apply_ite (List.filter p), List.filter_nil, List.nil_append,
    List.append_nil]

/-- A limit stands in the statement once, if there is a place for it. -/
theorem filter_isLimit_layout {q : Query} (built : q.IsBuilt) :
    q.layout.filter Section.isLimit = if q.limitPlace = .nowhere then [] else q.limits := by
  have limit : q.limits.filter Section.isLimit = q.limits := by
    unfold limits
    cases q.limit <;> simp [isLimit_limitSection]
  rw [layout_eq built, filter_layoutWith q _ fun _ plain => plain.1, filter_isLimit_order,
    filter_isLimit_skipping, limit]
  cases q.limitPlace <;> simp

/-- An offset other than zero stands in the statement once. -/
theorem filter_isOffset_layout {q : Query} (built : q.IsBuilt) :
    q.layout.filter Section.isOffset = if q.offset = 0 then [] else [q.offsetSection] := by
  have limit : q.limits.filter Section.isOffset = [] := by
    unfold limits
    cases q.limit <;> simp [isOffset_limitSection]
  rw [layout_eq built, filter_layoutWith q _ fun _ plain => plain.2.1, filter_isOffset_order,
    filter_isOffset_skipping, limit]
  simp [skipping]

/-- Where the row window is written with FETCH, one order stands before the offset. -/
theorem order_before_offset {q : Query} (built : q.IsBuilt) (topRows : q.dialect.topRows = true)
    (shifted : q.offset ≠ 0) :
    ∃ before after, q.layout = before ++ q.offsetSection :: after ∧
      before.countP Section.isOrder = 1 := by
  have none {sections : List Section} (plain : ∀ s ∈ sections, s.Plain) :
      sections.countP Section.isOrder = 0 :=
    List.countP_eq_zero.mpr fun s member => by simp [(plain s member).2.2]
  have place : q.limitPlace = .afterOffset := by simp [limitPlace, topRows, shifted]
  have order : q.order.countP Section.isOrder = 1 := by
    unfold Query.order
    split_ifs <;> simp_all [Section.isOrder]
  refine ⟨q.opening ++ q.body ++ q.order, q.limits ++ q.closing, ?_, ?_⟩
  · simp [layout_eq built, layoutWith, place, skipping, shifted]
  · simp only [List.countP_append, none (plain_opening q), none (plain_body q), order]

/-! ## The text with the limit and without -/

/-- The query without a limit. -/
def unlimited (q : Query) : Query := { q with limit := none }

/-- The text of a limit. -/
def limitText (q : Query) (n : Nat) : List Char :=
  if q.dialect.topRows then
    if q.offset = 0 then "TOP (".toList ++ natural n ++ ") ".toList
    else " FETCH NEXT ".toList ++ natural n ++ " ROWS ONLY".toList
  else " LIMIT ".toList ++ natural n

/-- The text of the offset. -/
def offsetText (q : Query) : List Char :=
  " OFFSET ".toList ++ natural q.offset ++ if q.dialect.topRows then " ROWS".toList else []

theorem text_limitSection (q : Query) (n start : Nat) :
    (q.limitSection n).text q.dialect start = q.limitText n := by
  unfold limitSection limitText
  split_ifs <;> simp [Section.text, Section.fragment]

theorem text_offsetSection (q : Query) (start : Nat) :
    q.offsetSection.text q.dialect start = q.offsetText := by
  unfold offsetSection offsetText
  split_ifs <;> simp [Section.text, Section.fragment]

theorem args_limitSection (q : Query) (n : Nat) : (q.limitSection n).args = [] := by
  unfold limitSection
  split_ifs <;> rfl

/-- Limits go between two parts of the layout, unless there is no place for them. -/
theorem exists_layoutWith {q : Query} (place : q.limitPlace ≠ .nowhere) :
    ∃ before after, ∀ limits, q.layoutWith limits = before ++ limits ++ after := by
  cases kind : q.limitPlace with
  | head => exact ⟨q.opening, _, fun limits => by simp [layoutWith, kind]; rfl⟩
  | beforeOffset =>
      exact ⟨q.opening ++ q.body ++ q.order, _, fun limits => by simp [layoutWith, kind]; rfl⟩
  | afterOffset =>
      exact ⟨q.opening ++ q.body ++ q.order ++ q.skipping, _, fun limits => by
        simp [layoutWith, kind]; rfl⟩
  | nowhere => exact absurd kind place

theorem layout_unlimited {q : Query} (built : q.IsBuilt) :
    q.unlimited.layout = q.layoutWith [] :=
  layout_eq (q := q.unlimited) built

/-- Where the limit has a place, the statement is the one without it, with the text of the limit
put in. -/
theorem sql_limited {q : Query} (built : q.IsBuilt) {n : Nat} (limited : q.limit = some n)
    (place : q.limitPlace ≠ .nowhere) :
    ∃ before after, q.render.sql.toList = before ++ q.limitText n ++ after ∧
      q.unlimited.render.sql.toList = before ++ after := by
  obtain ⟨front, back, layout⟩ := exists_layoutWith place
  have limits : q.limits = [q.limitSection n] := by simp [Query.limits, limited]
  have unlimitedBuilt : q.unlimited.IsBuilt := built
  refine ⟨Section.texts q.dialect 1 front,
    Section.texts q.dialect (1 + (front.flatMap Section.args).length) back ++ [';'], ?_, ?_⟩
  · rw [sql_of_isBuilt built, layout_eq built, layout, limits]
    simp [Section.texts_append, Section.texts, text_limitSection, args_limitSection]
  · rw [sql_of_isBuilt unlimitedBuilt, layout_unlimited built, layout]
    simp [unlimited, Section.texts_append]

/-- The dialect writes the limit at the head of a SELECT, and the statement has no such head. -/
def DropsLimit (q : Query) : Prop :=
  q.dialect.topRows = true ∧ q.offset = 0 ∧ q.selects = false

instance (q : Query) : Decidable q.DropsLimit := inferInstanceAs (Decidable (_ ∧ _ ∧ _))

theorem limitPlace_eq_nowhere_iff (q : Query) : q.limitPlace = .nowhere ↔ q.DropsLimit := by
  unfold limitPlace DropsLimit
  split_ifs <;> simp_all

/-- **The row window is written, but for a limit without an offset on an UPDATE or DELETE where
rows are limited by TOP.** Otherwise a limit that is set stands in the statement once, and taking
it away takes its text away and nothing else. An offset other than zero stands in every
statement once, after one order where the row window is written with FETCH. -/
theorem row_window_written {q : Query} (built : q.IsBuilt) :
    q.render.sql.toList = Section.texts q.dialect 1 q.layout ++ [';'] ∧
      (∀ start, (q.layout.filter Section.isLimit).map (Section.text q.dialect start) =
        if q.DropsLimit then [] else (q.limit.map q.limitText).toList) ∧
      (∀ start, (q.layout.filter Section.isOffset).map (Section.text q.dialect start) =
        if q.offset = 0 then [] else [q.offsetText]) ∧
      (q.dialect.topRows = true → q.offset ≠ 0 → ∃ before after,
        q.layout = before ++ q.offsetSection :: after ∧ before.countP Section.isOrder = 1 ∧
          ∀ s ∈ before, s.isOrder → ∀ start, " ORDER BY ".toList <+: s.text q.dialect start) ∧
      ∀ n, q.limit = some n →
        if q.DropsLimit then q.render = q.unlimited.render
        else ∃ before after, q.render.sql.toList = before ++ q.limitText n ++ after ∧
          q.unlimited.render.sql.toList = before ++ after := by
  refine ⟨sql_of_isBuilt built, fun start => ?_, fun start => ?_, fun topRows shifted => ?_,
    fun n limited => ?_⟩
  · rw [filter_isLimit_layout built]
    simp only [limitPlace_eq_nowhere_iff, limits]
    split
    · rfl
    · cases q.limit <;> simp [text_limitSection]
  · rw [filter_isOffset_layout built]
    split <;> simp [text_offsetSection]
  · obtain ⟨before, after, layout, once⟩ := order_before_offset built topRows shifted
    exact ⟨before, after, layout, once, fun s _ order start =>
      Section.orderBy_isPrefix_text order q.dialect start⟩
  · split
    · rename_i drops
      have place : q.limitPlace = .nowhere := (limitPlace_eq_nowhere_iff q).mpr drops
      have unlimitedBuilt : q.unlimited.IsBuilt := built
      have same : q.layout = q.unlimited.layout := by
        rw [layout_eq built, layout_unlimited built]
        simp [layoutWith, place]
      rw [render_of_isBuilt built, render_of_isBuilt unlimitedBuilt, same]
      rfl
    · rename_i keeps
      exact sql_limited built limited (keeps ∘ (limitPlace_eq_nowhere_iff q).mp)

/-- An UPDATE with a limit and an offset, where the row window is written with FETCH. -/
def shiftedUpdate : Query :=
  (empty .mssql).applyAll
    [.appendFrom "t", .setUpdate [("a", .int 1)], .setLimit 5, .setOffset 10]

theorem shiftedUpdate_window :
    shiftedUpdate.IsBuilt ∧
      (shiftedUpdate.layout.filter Section.isLimit).map (Section.text .mssql 1) =
        [" FETCH NEXT 5 ROWS ONLY".toList] ∧
      (shiftedUpdate.layout.filter Section.isOffset).map (Section.text .mssql 1) =
        [" OFFSET 10 ROWS".toList] := by
  have built : shiftedUpdate.IsBuilt := fun _ _ same => by cases same
  obtain ⟨-, limit, offset, -, -⟩ := row_window_written built
  exact ⟨built, (limit 1).trans (by decide), (offset 1).trans (by decide)⟩

/-- A DELETE with a limit, where rows are limited by TOP. -/
def limitedDelete : Query :=
  (empty .mssql).applyAll [.appendFrom "t", .setDelete, .setLimit 5]

theorem limitedDelete_runs_unlimited :
    limitedDelete.limit = some 5 ∧ limitedDelete.layout.filter Section.isLimit = [] ∧
      limitedDelete.render.sql = "DELETE FROM [t];" := by
  refine ⟨rfl, rfl, ?_⟩
  decide

end Query

end QueryBind
