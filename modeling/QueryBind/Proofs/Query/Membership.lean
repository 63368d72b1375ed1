/-
# QueryBind.Proofs.Query.Membership — the keyword of a cut clause, and its parentheses

Cutting a clause at its keyword loses nothing: the two sides and a keyword between them make up the
clause (`Membership.ofClause?_eq_some`). A rendered clause opens and closes the same parentheses as
its text, with those of the expanded list added. The list closes what it opens when its values are a
whole number of groups (`Marker.depthAfter_placeList`), so that such a clause leaves as many
parentheses open as its text does (`Membership.keepsDepth_clauseSymbols`).
-/
import QueryBind.Proofs.Marker.Places
import QueryBind.Proofs.Text.Parentheses

namespace QueryBind

set_option autoImplicit false

open Text

/-! ## Keywords -/

namespace Membership

/-- The texts of IN, and of NOT and IN with blanks between. -/
inductive IsKeyword : (negated : Bool) → List Char → Prop where
  | plain {i n : Char} (isI : i.toLower = 'i') (isN : n.toLower = 'n') : IsKeyword false [i, n]
  | negated {n o t : Char} {blanks keyword : List Char} (isN : n.toLower = 'n')
      (isO : o.toLower = 'o') (isT : t.toLower = 't') (apart : blanks ≠ [])
      (blank : ∀ c ∈ blanks, isBlank c = true) (plain : IsKeyword false keyword) :
      IsKeyword true (n :: o :: t :: (blanks ++ keyword))

theorem afterIn?_eq_some {s right : List Char} (found : afterIn? s = some right) :
    ∃ keyword, IsKeyword false keyword ∧ s = keyword ++ right := by
  unfold afterIn? at found
  split at found
  · next i n c rest =>
      split at found
      · next letters =>
          obtain rfl : c :: rest = right := by simpa using found
          exact ⟨[i, n], .plain letters.1 letters.2.1, rfl⟩
      · cases found
  · cases found

theorem keyword?_eq_some {s right : List Char} {negated : Bool}
    (found : keyword? s = some (negated, right)) :
    ∃ keyword, IsKeyword negated keyword ∧ s = keyword ++ right := by
  have bare (found : (afterIn? s).map (fun right => (false, right)) = some (negated, right)) :
      ∃ keyword, IsKeyword negated keyword ∧ s = keyword ++ right := by
    obtain ⟨rest, after, same⟩ := Option.map_eq_some_iff.mp found
    cases same
    exact afterIn?_eq_some after
  unfold keyword? at found
  split at found
  · next n o t b rest =>
      split at found
      · next letters =>
          obtain ⟨right', after, same⟩ := Option.map_eq_some_iff.mp found
          cases same
          obtain ⟨keyword, plain, split⟩ := afterIn?_eq_some after
          refine ⟨n :: o :: t :: ((b :: rest.takeWhile isBlank) ++ keyword),
            .negated letters.1 letters.2.1 letters.2.2.1 (List.cons_ne_nil _ _) ?_ plain, ?_⟩
          · intro c member
            rcases List.mem_cons.mp member with rfl | member
            · exact letters.2.2.2
            · exact List.mem_takeWhile_imp member
          · have cut : rest.takeWhile isBlank ++ (keyword ++ right) = rest := by
              rw [← split, List.takeWhile_append_dropWhile]
            simp [cut]
      · exact bare found
  · exact bare found

theorem toLower_of_isBlank {c : Char} (blank : isBlank c = true) : c.toLower = c := by
  have points : ∀ n ∈ blankPoints, (Char.ofNat n).toLower = Char.ofNat n := by decide
  have member : c.toNat ∈ blankPoints := List.contains_iff_mem.mp blank
  have lower := points c.toNat member
  rwa [Char.ofNat_toNat] at lower

/-- A keyword does not start with a blank. -/
theorem IsKeyword.exists_cons {negated : Bool} {keyword : List Char}
    (spelled : IsKeyword negated keyword) :
    ∃ c rest, keyword = c :: rest ∧ isBlank c = false := by
  have letter {c l : Char} (lower : c.toLower = l) (notBlank : isBlank l = false) :
      isBlank c = false := by
    by_contra blank
    rw [Bool.not_eq_false] at blank
    rw [← lower, toLower_of_isBlank blank, blank] at notBlank
    cases notBlank
  cases spelled with
  | plain isI isN => exact ⟨_, _, rfl, letter isI (by decide)⟩
  | negated isN isO isT apart blank plain => exact ⟨_, _, rfl, letter isN (by decide)⟩

theorem IsKeyword.afterIn?_append {keyword : List Char} (spelled : IsKeyword false keyword)
    {c : Char} (delimiter : startsRight c = true) (rest : List Char) :
    afterIn? (keyword ++ c :: rest) = some (c :: rest) := by
  cases spelled with
  | plain isI isN => simp [afterIn?, isI, isN, delimiter]

/-- A keyword is found before a delimiter. -/
theorem IsKeyword.keyword?_append {negated : Bool} {keyword : List Char}
    (spelled : IsKeyword negated keyword) {c : Char} (delimiter : startsRight c = true)
    (rest : List Char) : keyword? (keyword ++ c :: rest) = some (negated, c :: rest) := by
  cases spelled with
  | @plain i n isI isN =>
      have found := (IsKeyword.plain isI isN).afterIn?_append delimiter rest
      have notN : i.toLower ≠ 'n' := by simp [isI]
      unfold keyword?
      split
      · next same =>
          obtain ⟨rfl, -⟩ := List.cons.inj same
          rw [if_neg fun letters => notN letters.1, found]
          rfl
      · rw [found]
        rfl
  | @negated n o t blanks keyword isN isO isT apart blank plain =>
      obtain ⟨b, blanks, rfl⟩ := List.exists_cons_of_ne_nil apart
      have skipped : (blanks ++ (keyword ++ c :: rest)).dropWhile isBlank = keyword ++ c :: rest := by
        obtain ⟨i, letters, rfl, notBlank⟩ := plain.exists_cons
        rw [List.dropWhile_append_of_pos fun d member => blank d (List.mem_cons_of_mem _ member),
          List.cons_append, List.dropWhile_cons_of_neg (by simp [notBlank])]
      simp only [List.cons_append, List.append_assoc, keyword?, isN, isO, isT,
        blank b List.mem_cons_self, and_self, if_true, skipped,
        plain.afterIn?_append delimiter rest]
      rfl

theorem startsRight_of_afterIn? {s right : List Char} (found : afterIn? s = some right) :
    ∃ c rest, right = c :: rest ∧ startsRight c = true := by
  unfold afterIn? at found
  split at found
  · next i n c rest =>
      split at found
      · next letters => exact ⟨c, rest, by simpa using found.symm, letters.2.2⟩
      · cases found
  · cases found

/-- A keyword is found before a delimiter only. -/
theorem startsRight_of_keyword? {s right : List Char} {negated : Bool}
    (found : keyword? s = some (negated, right)) :
    ∃ c rest, right = c :: rest ∧ startsRight c = true := by
  have bare {s : List Char} {mark : Bool}
      (found : (afterIn? s).map (fun right => (mark, right)) = some (negated, right)) :
      ∃ c rest, right = c :: rest ∧ startsRight c = true := by
    obtain ⟨after, cut, same⟩ := Option.map_eq_some_iff.mp found
    cases same
    exact startsRight_of_afterIn? cut
  unfold keyword? at found
  split at found
  · split at found
    · exact bare found
    · exact bare found
  · exact bare found

theorem cut?_eq_some {before s : List Char} {m : Membership} (cut : cut? before s = some m) :
    ∃ keyword, IsKeyword m.negated keyword ∧ before.reverse ++ s = m.left ++ keyword ++ m.right := by
  induction s generalizing before with
  | nil => cases cut
  | cons c rest ih =>
      have later (cut : cut? (c :: before) rest = some m) : ∃ keyword,
          IsKeyword m.negated keyword ∧
            before.reverse ++ c :: rest = m.left ++ keyword ++ m.right := by
        simpa using ih cut
      simp only [cut?] at cut
      split at cut
      · next p negated right delimiter found =>
          split at cut
          · cases cut
            obtain ⟨keyword, spelled, split⟩ := keyword?_eq_some found
            exact ⟨keyword, spelled, by simp [split]⟩
          · exact later cut
      · exact later cut

/-- The two sides of a cut clause and its keyword make up the clause. -/
theorem ofClause?_eq_some {clause : List Char} {m : Membership}
    (cut : ofClause? clause = some m) :
    ∃ keyword, IsKeyword m.negated keyword ∧ clause = m.left ++ keyword ++ m.right :=
  cut?_eq_some cut

theorem IsKeyword.depthAfter {negated : Bool} {keyword : List Char}
    (spelled : IsKeyword negated keyword) (depth : Nat) :
    Text.depthAfter depth keyword = some depth := by
  have letter {c l : Char} (lower : c.toLower = l) (opens : '('.toLower ≠ l)
      (closes : ')'.toLower ≠ l) (rest : List Char) :
      Text.depthAfter depth (c :: rest) = Text.depthAfter depth rest := by
    refine depthAfter_other ?_ ?_ depth rest
    · rintro rfl
      exact opens lower
    · rintro rfl
      exact closes lower
  induction spelled with
  | plain isI isN =>
      rw [letter isI (by decide) (by decide), letter isN (by decide) (by decide), depthAfter_nil]
  | negated isN isO isT apart blank plain ih =>
      rw [letter isN (by decide) (by decide), letter isO (by decide) (by decide),
        letter isT (by decide) (by decide), depthAfter_append, depthAfter_blanks blank,
        Option.bind_some, ih]

end Membership

/-! ## Rendered clauses -/

open QueryBind.Symbol

/-- The symbols with the places written as arguments from number `start` on leave as many
parentheses open as the text. -/
def Symbol.KeepsDepth (symbols : List Symbol) (s : List Char) : Prop :=
  ∀ numbered start depth, depthAfter depth (render numbered start symbols) = depthAfter depth s

namespace Marker

theorem depthAfter_text_place (numbered : Bool) (start offset depth : Nat) :
    depthAfter depth (Symbol.text numbered start (.place offset)) = some depth := by
  cases numbered with
  | false => rfl
  | true =>
      have digits {c : Char} (member : c ∈ natural (start + offset)) : c.isDigit = true :=
        Nat.isDigit_of_mem_toDigits (by decide) (by decide) member
      refine (depthAfter_other (by decide) (by decide) depth _).trans ?_
      refine depthAfter_of_free (fun member => ?_) (fun member => ?_) depth
      · exact absurd (digits member) (by decide)
      · exact absurd (digits member) (by decide)

theorem keepsDepth_ofText (s : List Char) : KeepsDepth (ofText s) s := fun _ _ _ => by
  rw [render_ofText]

theorem keepsDepth_append {a b : List Symbol} {s t : List Char} (first : KeepsDepth a s)
    (second : KeepsDepth b t) : KeepsDepth (a ++ b) (s ++ t) := fun numbered start depth => by
  rw [render_append, depthAfter_append, depthAfter_append, first]
  congr 1
  funext opened
  exact second numbered start opened

theorem keepsDepth_char (c : Char) {symbols : List Symbol} {s : List Char}
    (rest : KeepsDepth symbols s) : KeepsDepth (.char c :: symbols) (c :: s) :=
  keepsDepth_append (keepsDepth_ofText [c]) rest

/-- What takes the place of a text without parentheses. -/
theorem keepsDepth_place (offset : Nat) : KeepsDepth [.place offset] ['?'] :=
  fun numbered start depth => by
    simp [render, depthAfter_text_place, depthAfter_other (c := '?') (by decide) (by decide)]

/-- Reading a clause touches none of its parentheses. -/
theorem keepsDepth_readFrom (next : Nat) (clause : List Char) :
    KeepsDepth (readFrom next clause) clause := by
  fun_induction readFrom next clause with
  | case1 => exact keepsDepth_ofText []
  | case2 next rest ih =>
      intro numbered start depth
      rw [keepsDepth_char '?' ih, depthAfter_other (c := '\\') (by decide) (by decide)]
  | case3 next rest ih => exact keepsDepth_append (keepsDepth_place next) ih
  | case4 next c rest _ _ ih => exact keepsDepth_char c ih

/-! ## Expanded lists -/

/-- The depth before place `i` of a list in groups: inside a group it is one more. -/
def groupDepth (group depth i : Nat) : Nat :=
  if 1 < group ∧ i % group ≠ 0 then depth + 1 else depth

/-- One place, with its comma and the parentheses of its group. -/
theorem depthAfter_groupedPlace (numbered : Bool) (start first group depth i : Nat) :
    depthAfter (groupDepth group depth i) (render numbered start
      ((if i = 0 then [] else [Symbol.char ',']) ++
        (if 1 < group ∧ i % group = 0 then [Symbol.char '('] else []) ++
        [Symbol.place (first + i)] ++
        (if 1 < group ∧ (i + 1) % group = 0 then [Symbol.char ')'] else []))) =
      some (groupDepth group depth (i + 1)) := by
  have comma (depth : Nat) : depthAfter depth
      (render numbered start (if i = 0 then [] else [Symbol.char ','])) = some depth := by
    split <;> rfl
  have place (depth : Nat) :
      depthAfter depth (render numbered start [Symbol.place (first + i)]) = some depth := by
    simp [render, depthAfter_text_place]
  have opening (depth : Nat) : depthAfter depth (render numbered start [Symbol.char '(']) =
      some (depth + 1) := rfl
  have closing (depth : Nat) : depthAfter (depth + 1) (render numbered start [Symbol.char ')']) =
      some depth := rfl
  have nothing (depth : Nat) : depthAfter depth (render numbered start []) = some depth := rfl
  simp only [render_append, depthAfter_append, comma, Option.bind_some, groupDepth]
  by_cases grouped : 1 < group
  · have next : (i + 1) % group = if i % group + 1 = group then 0 else i % group + 1 := by
      have below := Nat.mod_lt i (Nat.zero_lt_of_lt grouped)
      rw [Nat.add_mod, Nat.mod_eq_of_lt grouped]
      split
      · next last => rw [last, Nat.mod_self]
      · exact Nat.mod_eq_of_lt (by omega)
    by_cases starts : i % group = 0
    · have within : (i + 1) % group ≠ 0 := by
        rw [next, starts, if_neg (by omega)]
        decide
      simp [grouped, starts, within, opening, place, nothing]
    · by_cases ends : (i + 1) % group = 0
      · simp [grouped, starts, ends, nothing, place, closing]
      · simp [grouped, starts, ends, nothing, place]
  · simp [grouped, nothing, place]

/-- After `count` places of a list a group is open, unless they are a whole number of groups. -/
theorem depthAfter_placeList (numbered : Bool) (start first count group depth : Nat) :
    depthAfter depth (render numbered start (placeList first count group)) =
      some (groupDepth group depth count) := by
  induction count with
  | zero => simp [placeList, render, groupDepth]
  | succ count ih =>
      rw [placeList, List.range_succ, List.flatMap_append, render_append, depthAfter_append]
      rw [placeList] at ih
      rw [ih, Option.bind_some, List.flatMap_singleton, depthAfter_groupedPlace]

/-- The list that takes the place of a marker closes what it opens. -/
theorem keepsDepth_expandFrom (first : Nat) {group total : Nat} (whole : group ∣ total)
    (clause : List Char) : KeepsDepth (expandFrom first group total clause) clause := by
  fun_induction expandFrom first group total clause with
  | case1 => exact keepsDepth_ofText []
  | case2 rest ih =>
      intro numbered start depth
      rw [keepsDepth_char '?' ih, depthAfter_other (c := '\\') (by decide) (by decide)]
  | case3 rest =>
      have list : KeepsDepth (.char '(' :: placeList first total group ++ [.char ')']) ['?'] := by
        intro numbered start depth
        show depthAfter depth (render numbered start ([.char '('] ++ placeList first total group ++
          [.char ')'])) = depthAfter depth ['?']
        have closed (depth : Nat) : groupDepth group depth total = depth := by
          simp [groupDepth, Nat.mod_eq_zero_of_dvd whole]
        rw [render_append, render_append, depthAfter_append, depthAfter_append]
        show ((depthAfter (depth + 1) _).bind _) = _
        rw [depthAfter_placeList, closed]
        rfl
      simpa using keepsDepth_append list (keepsDepth_ofText rest)
  | case4 c rest _ _ ih => exact keepsDepth_char c ih

end Marker

namespace Membership

open Marker

/-- The arguments that are left for the list of a clause are a whole number of its groups. -/
def WholeGroups (clause : List Char) (total : Nat) : Prop :=
  match ofClause? clause with
  | some m => groupSize (trim m.left) ∣ total - Marker.count (trim m.left)
  | none => True

instance (clause : List Char) (total : Nat) : Decidable (WholeGroups clause total) :=
  match h : ofClause? clause with
  | some m => decidable_of_iff (groupSize (trim m.left) ∣ total - Marker.count (trim m.left))
      (by simp only [WholeGroups, h])
  | none => isTrue (by simp only [WholeGroups, h])

theorem depthAfter_keywordText (negated : Bool) (depth : Nat) :
    depthAfter depth (keywordText negated) = some depth := by
  cases negated <;> rfl

/-- A membership clause with its list expanded leaves as many parentheses open as its text. -/
theorem keepsDepth_clauseSymbols {clause : List Char} {total : Nat}
    (whole : WholeGroups clause total) : KeepsDepth (clauseSymbols clause total) clause := by
  unfold WholeGroups at whole
  unfold clauseSymbols
  split
  · next m cut =>
      rw [cut] at whole
      obtain ⟨keyword, spelled, split⟩ := ofClause?_eq_some cut
      have left := keepsDepth_readFrom 0 (trim m.left)
      have right := keepsDepth_expandFrom (Marker.count (trim m.left)) whole (trim m.right)
      have sides := keepsDepth_append (keepsDepth_append left
        (keepsDepth_ofText (keywordText m.negated))) right
      intro numbered start depth
      refine (sides numbered start depth).trans ?_
      -- the keyword in capitals has no parentheses, nor has the one it stands for
      simp only [split, depthAfter_append, depthAfter_trim]
      simp only [depthAfter_keywordText, spelled.depthAfter]
  · exact keepsDepth_expandFrom 0 (Nat.one_dvd total) clause

end Membership

end QueryBind
