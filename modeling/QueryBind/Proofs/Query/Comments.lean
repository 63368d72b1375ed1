/-
# QueryBind.Proofs.Query.Comments — where a comment ends

A comment is written before the statement, each of its lines behind a mark and ended by a line feed.
An engine reads past the comment when it takes each line of it for one, and engines differ in what
ends a line (`LineEnds`): a line feed alone, or a carriage return as well. The lines of a comment are
cut at line feeds, with one carriage return before each left out. So

* for line feeds the block is the comment's lines, each with its mark (`LineEnds.lines_feeds_block`),
  and nothing of it is read as the statement (`LineEnds.behindComments_block`);
* a carriage return that is left in a line ends the line for the other engines, and what follows has
  no mark but its own (`LineEnds.Resumes`). The comments without such a line are those whose carriage
  returns all have a line feed or a mark behind them (`Text.returnsFollowed_iff`).

`Query.comment_stands_apart` says this together, and that the block is followed by the statement
without the comment.
-/
import QueryBind.Proofs.Identifier.Characters
import QueryBind.Proofs.Query.Window

namespace QueryBind

set_option autoImplicit false

open Text

/-! ## Line ends -/

namespace Text

/-- What starts a line of comment. -/
def mark : List Char := "-- ".toList

end Text

/-- The characters that end a line: the line feed is one of them, and no character of a mark is. -/
structure LineEnds where
  isEnd : Char → Bool
  feed : isEnd '\n' = true := by decide
  unmarked : ∀ c ∈ mark, isEnd c = false := by simp [mark]

namespace LineEnds

/-- A line ends at a line feed. -/
def feeds : LineEnds := { isEnd := fun c => c == '\n' }

/-- A line ends at a line feed or at a carriage return. -/
def feedsAndReturns : LineEnds := { isEnd := fun c => c == '\n' || c == '\r' }

variable (ends : LineEnds)

/-- The lines of a text, without their ends. -/
def lines : List Char → List (List Char)
  | [] => []
  | c :: rest =>
      if ends.isEnd c then [] :: lines rest
      else
        match lines rest with
        | [] => [[c]]
        | line :: others => (c :: line) :: others

/-- Every line end inside a text is followed by a mark. -/
def Resumes : List Char → Prop
  | [] => True
  | c :: rest => (ends.isEnd c = true → mark <+: rest) ∧ Resumes rest

/-- What is read behind the blanks and comments that a text starts with; `inside` tells that a
comment is being read. -/
def behindComments : (inside : Bool) → List Char → List Char
  | _, [] => []
  | true, c :: rest => behindComments (!ends.isEnd c) rest
  | false, '-' :: '-' :: rest => behindComments true rest
  | false, c :: rest => if isBlank c then behindComments false rest else c :: rest

/-- The lines of a comment, each behind a mark and ended by a line feed. -/
def block (comment : List (List Char)) : List Char :=
  comment.flatMap fun line => mark ++ line ++ ['\n']

variable {ends}

theorem block_cons (line : List Char) (comment : List (List Char)) :
    block (line :: comment) = mark ++ line ++ '\n' :: block comment := by
  simp [block]

theorem getLast?_block (comment : List (List Char)) (filled : block comment ≠ []) :
    (block comment).getLast? = some '\n' := by
  induction comment with
  | nil => exact absurd rfl filled
  | cons line comment ih =>
      rw [block_cons]
      by_cases last : block comment = []
      · simp [last]
      · simp [List.getLast?_cons, ih last]

/-! ## The lines of a block -/

theorem lines_ne_nil {s : List Char} (filled : s ≠ []) : ends.lines s ≠ [] := by
  cases s with
  | nil => exact absurd rfl filled
  | cons c rest =>
      rw [lines]
      split
      · exact List.cons_ne_nil _ _
      · split <;> exact List.cons_ne_nil _ _

/-- A line feed cuts a text in two. -/
theorem lines_append (s rest : List Char) :
    ends.lines (s ++ '\n' :: rest) = ends.lines (s ++ ['\n']) ++ ends.lines rest := by
  induction s with
  | nil => simp [lines, ends.feed]
  | cons c s ih =>
      rw [List.cons_append, List.cons_append, lines, lines, ih]
      split
      · rfl
      · have filled : ends.lines (s ++ ['\n']) ≠ [] := lines_ne_nil (by simp)
        obtain ⟨line, others, first⟩ := List.exists_cons_of_ne_nil filled
        rw [first]
        rfl

theorem lines_line {line : List Char} (free : ∀ c ∈ line, ends.isEnd c = false) :
    ends.lines (line ++ ['\n']) = [line] := by
  induction line with
  | nil => simp [lines, ends.feed]
  | cons c line ih =>
      obtain ⟨here, later⟩ := List.forall_mem_cons.mp free
      rw [List.cons_append, lines, ih later]
      simp [here]

variable (ends) in
/-- The first line opens as the text does, as far as no line end is concerned, and the other lines
have a mark if there is one behind every line end. -/
theorem exists_lines_eq_cons (s : List Char) :
    ∃ first others, ends.lines (s ++ ['\n']) = first :: others ∧
      (∀ m : List Char, (∀ c ∈ m, ends.isEnd c = false) → (m <+: first ↔ m <+: s)) ∧
      ((∀ line ∈ others, mark <+: line) ↔ ends.Resumes s) := by
  induction s with
  | nil => exact ⟨[], [], by simp [lines, ends.feed], fun _ _ => Iff.rfl, by simp [Resumes]⟩
  | cons c s ih =>
      obtain ⟨first, others, cut, opens, led⟩ := ih
      rw [List.cons_append, lines, cut]
      by_cases here : ends.isEnd c = true
      · refine ⟨[], first :: others, by simp [here], fun m free => ?_, ?_⟩
        · have apart : c ∉ m := fun member => by simp [free c member] at here
          exact (List.isPrefix_append_cons_iff apart [] s).symm
        · rw [List.forall_mem_cons, opens mark ends.unmarked, led, Resumes]
          simp [here]
      · refine ⟨c :: first, others, by simp [here], fun m free => ?_, ?_⟩
        · cases m with
          | nil => simp
          | cons d m =>
              rw [List.cons_prefix_cons, List.cons_prefix_cons,
                opens m (List.forall_mem_cons.mp free).2]
        · rw [led, Resumes]
          simp [here]

theorem resumes_mark_append (s : List Char) : ends.Resumes (mark ++ s) ↔ ends.Resumes s := by
  have free := ends.unmarked
  simp [mark] at free
  simp [mark, Resumes, free]

theorem resumes_of_free {s : List Char} (free : ∀ c ∈ s, ends.isEnd c = false) :
    ends.Resumes s := by
  induction s with
  | nil => trivial
  | cons c s ih =>
      obtain ⟨here, later⟩ := List.forall_mem_cons.mp free
      exact ⟨fun ended => by simp [here] at ended, ih later⟩

/-- The lines of a block all have a mark if there is one behind each line end inside a line of the
comment. -/
theorem led_block_iff (comment : List (List Char)) :
    (∀ line ∈ ends.lines (block comment), mark <+: line) ↔
      ∀ line ∈ comment, ends.Resumes line := by
  induction comment with
  | nil => simp [block, lines]
  | cons line comment ih =>
      obtain ⟨first, others, cut, opens, led⟩ := exists_lines_eq_cons ends (mark ++ line)
      have starts : mark <+: first :=
        (opens mark ends.unmarked).mpr (List.prefix_append _ _)
      rw [block_cons, lines_append, List.forall_mem_append, ih, cut, List.forall_mem_cons, led,
        resumes_mark_append, List.forall_mem_cons, and_iff_right starts]

/-- When lines end at line feeds, the lines of a block are those of the comment. -/
theorem lines_feeds_block {comment : List (List Char)} (free : ∀ line ∈ comment, '\n' ∉ line) :
    feeds.lines (block comment) = comment.map (mark ++ ·) := by
  induction comment with
  | nil => rfl
  | cons line comment ih =>
      obtain ⟨here, later⟩ := List.forall_mem_cons.mp free
      have whole : ∀ c ∈ mark ++ line, feeds.isEnd c = false := by
        intro c member
        rcases List.mem_append.mp member with inMark | inLine
        · exact feeds.unmarked c inMark
        · exact beq_false_of_ne fun same => here (same ▸ inLine)
      rw [block_cons, lines_append, lines_line whole, ih later]
      rfl

/-! ## Reading past a block -/

/-- At a mark it makes no difference whether a comment is being read. -/
theorem behindComments_mark {s : List Char} (starts : mark <+: s) :
    ends.behindComments false s = ends.behindComments true s := by
  obtain ⟨rest, rfl⟩ := starts
  have hyphen : ends.isEnd '-' = false := ends.unmarked _ (by decide)
  simp [mark, behindComments, hyphen]

theorem behindComments_line {line : List Char} (resumes : ends.Resumes line) (rest : List Char) :
    ends.behindComments true (line ++ '\n' :: rest) = ends.behindComments false rest := by
  induction line with
  | nil => simp [behindComments, ends.feed]
  | cons c line ih =>
      obtain ⟨followed, later⟩ := resumes
      rw [List.cons_append, behindComments]
      by_cases here : ends.isEnd c = true
      · have starts : mark <+: line ++ '\n' :: rest :=
          (followed here).trans (List.prefix_append _ _)
        rw [here, Bool.not_true, behindComments_mark starts, ih later]
      · rw [Bool.not_eq_true] at here
        rw [here, Bool.not_false, ih later]

theorem behindComments_block {comment : List (List Char)}
    (resumes : ∀ line ∈ comment, ends.Resumes line) (rest : List Char) :
    ends.behindComments false (block comment ++ rest) = ends.behindComments false rest := by
  induction comment with
  | nil => rfl
  | cons line comment ih =>
      obtain ⟨here, later⟩ := List.forall_mem_cons.mp resumes
      have starts : mark <+: mark ++ line ++ '\n' :: (block comment ++ rest) := by simp
      have whole : ends.Resumes (mark ++ line) := (resumes_mark_append line).mpr here
      rw [block_cons, List.append_assoc, List.cons_append, behindComments_mark starts,
        behindComments_line whole, ih later]

/-- A text that starts with neither a blank nor a hyphen is read as it is. -/
theorem behindComments_of_opens {c : Char} {rest : List Char} (solid : isBlank c = false)
    (noHyphen : c ≠ '-') : ends.behindComments false (c :: rest) = c :: rest := by
  rw [behindComments]
  · simp [solid]
  · rintro tail rfl
    exact absurd rfl noHyphen

end LineEnds

/-! ## The lines of a comment -/

namespace Text

open LineEnds

/-- Every carriage return is followed by a line feed or by a mark. -/
def ReturnsFollowed : List Char → Prop
  | [] => True
  | c :: rest =>
      (c = '\r' → rest.head? = some '\n' ∨ mark <+: rest) ∧ ReturnsFollowed rest

theorem dropReturn_cons_cons (c d : Char) (line : List Char) :
    dropReturn (c :: d :: line) = c :: dropReturn (d :: line) := by
  unfold dropReturn
  rw [List.getLast?_cons_cons]
  split <;> rfl

theorem not_mem_of_mem_lines {s line : List Char} (member : line ∈ lines s) : '\n' ∉ line := by
  obtain ⟨piece, listed, subset⟩ := subset_of_mem_linesOfPieces member
  exact fun found => List.not_mem_of_mem_splitOn listed (subset found)

/-- A mark is there behind a text that a line feed ends if it is there without the return. -/
theorem mark_isPrefix_dropReturn_iff (line rest : List Char) :
    mark <+: line ++ '\n' :: rest ↔ mark <+: dropReturn line := by
  unfold dropReturn
  split
  · rename_i last
    have whole : line ++ '\n' :: rest = line.dropLast ++ '\r' :: '\n' :: rest := by
      conv_lhs => rw [← List.dropLast_append_getLast? '\r' last, List.append_assoc]
      rfl
    rw [whole, List.isPrefix_append_cons_iff (by decide)]
  · rw [List.isPrefix_append_cons_iff (by decide)]

theorem isEnd_iff_of_ne {c : Char} (noFeed : c ≠ '\n') :
    feedsAndReturns.isEnd c = true ↔ c = '\r' := by
  simp [feedsAndReturns, noFeed]

/-- A piece of a comment that a line feed ends, and the rest of the comment. -/
theorem returnsFollowed_append_iff {piece : List Char} (free : '\n' ∉ piece) (rest : List Char) :
    ReturnsFollowed (piece ++ '\n' :: rest) ↔
      feedsAndReturns.Resumes (dropReturn piece) ∧ ReturnsFollowed rest := by
  induction piece with
  | nil => simp [ReturnsFollowed, Resumes, dropReturn]
  | cons c piece ih =>
      obtain ⟨noFeed, later⟩ := List.ne_and_not_mem_of_not_mem_cons free
      cases piece with
      | nil =>
          by_cases here : c = '\r'
          · simp [here, ReturnsFollowed, Resumes, dropReturn]
          · simp [here, ReturnsFollowed, Resumes, dropReturn, feedsAndReturns, noFeed.symm]
      | cons d piece =>
          have noFeed' : d ≠ '\n' := fun same => later (same ▸ List.mem_cons_self)
          rw [List.cons_append, ReturnsFollowed, ih later, mark_isPrefix_dropReturn_iff,
            dropReturn_cons_cons, Resumes, isEnd_iff_of_ne noFeed.symm, and_assoc]
          simp [noFeed']

theorem returnsFollowed_of_free_iff {piece : List Char} (free : '\n' ∉ piece) :
    ReturnsFollowed piece ↔ feedsAndReturns.Resumes piece := by
  induction piece with
  | nil => rfl
  | cons c piece ih =>
      obtain ⟨noFeed, later⟩ := List.ne_and_not_mem_of_not_mem_cons free
      have next : piece.head? ≠ some '\n' := fun head => later (List.mem_of_head? head)
      rw [ReturnsFollowed, Resumes, ih later, isEnd_iff_of_ne noFeed.symm]
      simp [next]

/-- The carriage returns of a comment are followed by a line feed or a mark if those that its lines
keep are followed by a mark. -/
theorem returnsFollowed_iff (s : List Char) :
    ReturnsFollowed s ↔ ∀ line ∈ lines s, feedsAndReturns.Resumes line := by
  have general : ∀ pieces : List (List Char), (∀ piece ∈ pieces, '\n' ∉ piece) →
      (ReturnsFollowed (['\n'].intercalate pieces) ↔
        ∀ line ∈ linesOfPieces pieces, feedsAndReturns.Resumes line) := by
    intro pieces free
    fun_induction linesOfPieces pieces with
    | case1 => simp [ReturnsFollowed, List.intercalate]
    | case2 last empty =>
        obtain rfl : last = [] := by simpa using empty
        simp [ReturnsFollowed, List.intercalate]
    | case3 last _ =>
        simp [List.intercalate, returnsFollowed_of_free_iff (free last List.mem_cons_self)]
    | case4 piece rest several ih =>
        obtain ⟨here, later⟩ := List.forall_mem_cons.mp free
        obtain ⟨second, others, rfl⟩ : ∃ second others, rest = second :: others :=
          List.exists_cons_of_ne_nil several
        rw [List.intercalate_cons_cons, List.append_assoc, List.singleton_append,
          returnsFollowed_append_iff here, ih later, List.forall_mem_cons]
  have whole := general (s.splitOn '\n') fun _ => List.not_mem_of_mem_splitOn
  rwa [List.intercalate_splitOn] at whole

end Text

/-! ## The statement behind its comment -/

namespace Query

open LineEnds

/-- The query without its comment. -/
def uncommented (q : Query) : Query := { q with comment := none }

theorem layout_commented {q : Query} (built : q.IsBuilt) {comment : String}
    (commented : q.comment = some comment) :
    q.layout = .comment comment :: q.uncommented.layout := by
  have preamble : q.preamble = .comment comment :: q.uncommented.preamble := by
    simp [Query.preamble, uncommented, commented]
  have same : q.uncommented.statement = q.statement := rfl
  unfold layout
  rw [same]
  cases kind : q.statement with
  | raw sql args => exact absurd kind (built sql args)
  | select => rw [selectLayout, preamble]; rfl
  | delete => rw [deleteLayout, preamble]; rfl
  | update columns =>
      cases columns with
      | nil => rw [selectLayout, preamble]; rfl
      | cons column columns => simp only [updateLayout, preamble]; rfl

theorem sql_commented {q : Query} (built : q.IsBuilt) {comment : String}
    (commented : q.comment = some comment) :
    q.render.sql.toList = commentText comment ++ q.uncommented.render.sql.toList := by
  have bareBuilt : q.uncommented.IsBuilt := built
  have first : Section.text q.dialect 1 (.comment comment) = commentText comment :=
    Symbol.render_ofText ..
  rw [sql_of_isBuilt built, sql_of_isBuilt bareBuilt, layout_commented built commented,
    Section.texts, first, List.append_assoc]
  rfl

theorem args_commented {q : Query} (built : q.IsBuilt) {comment : String}
    (commented : q.comment = some comment) : q.render.args = q.uncommented.render.args := by
  have bareBuilt : q.uncommented.IsBuilt := built
  rw [render_of_isBuilt built, render_of_isBuilt bareBuilt, layout_commented built commented]
  rfl

/-- The keyword that names the kind of statement comes right after the preamble. -/
theorem preamble_isPrefix_layout {q : Query} (built : q.IsBuilt) :
    ∃ keyword ∈ ["SELECT ", "UPDATE ", "DELETE FROM "],
      q.preamble ++ [.keyword keyword] <+: q.layout := by
  unfold layout
  cases kind : q.statement with
  | raw sql args => exact absurd kind (built sql args)
  | select => exact ⟨"SELECT ", by simp, by simp [selectLayout]⟩
  | delete => exact ⟨"DELETE FROM ", by simp, by simp [deleteLayout]⟩
  | update columns =>
      cases columns with
      | nil => exact ⟨"SELECT ", by simp, by simp [selectLayout]⟩
      | cons column columns => exact ⟨"UPDATE ", by simp, by simp [updateLayout]⟩

/-- A statement without a comment starts with a keyword. -/
theorem exists_keyword_isPrefix_sql {q : Query} (built : q.IsBuilt) (bare : q.comment = none) :
    ∃ keyword ∈ ["WITH ", "SELECT ", "UPDATE ", "DELETE FROM "],
      keyword.toList <+: q.render.sql.toList := by
  obtain ⟨keyword, named, rest, layout⟩ := preamble_isPrefix_layout built
  rw [sql_of_isBuilt built, ← layout, preamble, bare]
  cases tables : q.ctes with
  | nil =>
      refine ⟨keyword, List.mem_cons_of_mem _ named, ?_⟩
      have first : Section.text q.dialect 1 (.keyword keyword) = keyword.toList :=
        Symbol.render_ofText ..
      simp [unlessEmpty, Section.texts, first]
  | cons cte ctes =>
      refine ⟨"WITH ", List.mem_cons_self, ?_⟩
      have first : "WITH ".toList <+: Section.text q.dialect 1 (.ctes (cte :: ctes)) := by
        rw [Section.text, Section.fragment, Fragment.render_append, Fragment.render_append,
          Fragment.ofText, Symbol.render_ofText, List.append_assoc]
        exact List.prefix_append _ _
      simpa [unlessEmpty, Section.texts] using List.prefix_append_of_prefix first

theorem behindComments_sql {q : Query} (built : q.IsBuilt) (bare : q.comment = none)
    (ends : LineEnds) :
    ends.behindComments false q.render.sql.toList = q.render.sql.toList := by
  obtain ⟨keyword, named, rest, sql⟩ := exists_keyword_isPrefix_sql built bare
  rw [← sql]
  simp only [List.mem_cons, List.not_mem_nil, or_false] at named
  rcases named with rfl | rfl | rfl | rfl <;> exact behindComments_of_opens (by decide) (by decide)

/-- **Where a comment ends.** A built statement is a block of comment lines and behind it, with the
same arguments, the statement without the comment. The block ends in a line feed unless it is empty.
Where lines end at line feeds, its lines are those of the comment, each with a mark, and what is read
behind the comments is the statement without the comment. Where a carriage return ends a line too,
all lines of the block have a mark just when every carriage return of the comment is followed by a
line feed or a mark, and then too the statement without the comment is read. -/
theorem comment_stands_apart {q : Query} (built : q.IsBuilt) {comment : String}
    (commented : q.comment = some comment) :
    q.render.sql.toList = commentText comment ++ q.uncommented.render.sql.toList ∧
      q.render.args = q.uncommented.render.args ∧
      (commentText comment ≠ [] → (commentText comment).getLast? = some '\n') ∧
      feeds.lines (commentText comment) = (Text.lines comment.toList).map (mark ++ ·) ∧
      feeds.behindComments false q.render.sql.toList = q.uncommented.render.sql.toList ∧
      ((∀ line ∈ feedsAndReturns.lines (commentText comment), mark <+: line) ↔
        ReturnsFollowed comment.toList) ∧
      (ReturnsFollowed comment.toList →
        feedsAndReturns.behindComments false q.render.sql.toList =
          q.uncommented.render.sql.toList) := by
  have text : commentText comment = block (Text.lines comment.toList) := rfl
  have bareBuilt : q.uncommented.IsBuilt := built
  have free : ∀ line ∈ Text.lines comment.toList, '\n' ∉ line := fun _ => not_mem_of_mem_lines
  have resumes : ∀ line ∈ Text.lines comment.toList, feeds.Resumes line := fun line member =>
    resumes_of_free fun c inLine => beq_false_of_ne fun same => free line member (same ▸ inLine)
  have sql := sql_commented built commented
  refine ⟨sql, args_commented built commented, getLast?_block _, lines_feeds_block free, ?_, ?_, ?_⟩
  · rw [sql, text, behindComments_block resumes, behindComments_sql bareBuilt rfl]
  · rw [text, led_block_iff, returnsFollowed_iff]
  · intro followed
    rw [sql, text, behindComments_block ((returnsFollowed_iff _).mp followed),
      behindComments_sql bareBuilt rfl]

/-- A query whose comment has line ends of every kind, with a mark behind the lone return. -/
def notedQuery : Query :=
  (empty .postgres).applyAll
    [.appendFrom "t", .setDelete, .setComment "all\r\n\nof\r-- them\n"]

theorem notedQuery_apart :
    notedQuery.IsBuilt ∧ notedQuery.comment = some "all\r\n\nof\r-- them\n" ∧
      ReturnsFollowed "all\r\n\nof\r-- them\n".toList ∧
      notedQuery.render.sql = "-- all\n-- \n-- of\r-- them\nDELETE FROM \"t\";" ∧
      feedsAndReturns.behindComments false notedQuery.render.sql.toList =
        "DELETE FROM \"t\";".toList := by
  have built : notedQuery.IsBuilt := fun _ _ same => by cases same
  have followed : ReturnsFollowed "all\r\n\nof\r-- them\n".toList := by
    simp [ReturnsFollowed, mark]
  obtain ⟨-, -, -, -, -, -, read⟩ := comment_stands_apart built rfl
  exact ⟨built, rfl, followed, by decide, (read followed).trans (by decide)⟩

/-- A query whose comment has a carriage return inside a line. -/
def returnedQuery : Query :=
  (empty .postgres).applyAll [.appendFrom "t", .setComment "a\rDROP TABLE t; --"]

/-- What is behind the return has no mark, and is read as a statement. -/
theorem returnedQuery_leaks :
    returnedQuery.IsBuilt ∧ returnedQuery.comment = some "a\rDROP TABLE t; --" ∧
      returnedQuery.render.sql = "-- a\rDROP TABLE t; --\nSELECT * FROM \"t\";" ∧
      ¬ (∀ line ∈ feedsAndReturns.lines (commentText "a\rDROP TABLE t; --"), mark <+: line) ∧
      feedsAndReturns.behindComments false returnedQuery.render.sql.toList =
        "DROP TABLE t; --\nSELECT * FROM \"t\";".toList := by
  have built : returnedQuery.IsBuilt := fun _ _ same => by cases same
  exact ⟨built, rfl, by decide, by decide, by decide⟩

end Query

end QueryBind
