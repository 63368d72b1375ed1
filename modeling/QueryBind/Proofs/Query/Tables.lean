/-
# QueryBind.Proofs.Query.Tables — how the entries of a FROM list are read

An entry names one table in three shapes (`TableSource.Entry`): a name, a name and an alias, or a
name, `as` and an alias. Each is read as that table. What decides is only how the entry starts, and
`TableSource.leading_words_read` says which words may follow unread:

* behind an alias, any words (`users u x y`, and `users JOIN groups ON …`, whose alias is `JOIN`);
* behind a name alone, a last `as`, or words that start with `on` (`TableSource.Ends`).

A joined SELECT without columns selects the stars of the tables that its entries are read as, or a
single star when one of them is not read.
-/
import Mathlib.Data.List.Forall2
import QueryBind.Query.Edit
import QueryBind.Query.Render

namespace QueryBind

set_option autoImplicit false

open Text

namespace TableSource

/-! ## Entries -/

def IsAs (word : List Char) : Prop := sameIgnoringCase word ['a', 's'] = true

def IsOn (word : List Char) : Prop := sameIgnoringCase word ['o', 'n'] = true

instance (word : List Char) : Decidable (IsAs word) := inferInstanceAs (Decidable (_ = _))

instance (word : List Char) : Decidable (IsOn word) := inferInstanceAs (Decidable (_ = _))

/-- The words of an entry, and the table that they name. -/
inductive Entry (q : Quotes) : List (List Char) → TableSource → Prop where
  | name {name : List Char} (named : q.isIdentifier name = true) :
      Entry q [name] ⟨q.unquote name, none⟩
  | aliased {name word : List Char} (named : q.isIdentifier name = true)
      (identifier : q.isIdentifier word = true) (notAs : ¬ IsAs word) (notOn : ¬ IsOn word) :
      Entry q [name, word] ⟨q.unquote name, some (q.unquote word)⟩
  | renamed {name keyword word : List Char} (named : q.isIdentifier name = true)
      (keyed : IsAs keyword) (identifier : q.isIdentifier word = true) :
      Entry q [name, keyword, word] ⟨q.unquote name, some (q.unquote word)⟩

/-- Words that leave a name without an alias. -/
def Ends (rest : List (List Char)) : Prop :=
  rest = [] ∨ (∃ keyword, rest = [keyword] ∧ IsAs keyword) ∨
    ∃ keyword others, rest = keyword :: others ∧ IsOn keyword

/-- The words start with an entry for the table; without an alias, nothing that could be one
follows. -/
def Leads (q : Quotes) (words : List (List Char)) (t : TableSource) : Prop :=
  ∃ read rest, words = read ++ rest ∧ Entry q read t ∧ (t.alias? = none → Ends rest)

theorem IsOn.not_isAs {word : List Char} (on : IsOn word) : ¬ IsAs word := by
  intro as
  simp only [IsOn, IsAs, sameIgnoringCase, beq_iff_eq] at on as
  rw [on] at as
  revert as
  decide

/-! ## The word of the alias -/

theorem aliasWord?_cons (word : List Char) (rest : List (List Char)) :
    aliasWord? (word :: rest) =
      if IsAs word then rest.head? else if IsOn word then none else some word := rfl

theorem aliasWord?_eq_none_iff (rest : List (List Char)) : aliasWord? rest = none ↔ Ends rest := by
  cases rest with
  | nil => simp [aliasWord?, Ends]
  | cons first others =>
      rw [aliasWord?_cons]
      by_cases as : IsAs first
      · have notOn : ¬ IsOn first := fun on => on.not_isAs as
        rw [if_pos as, List.head?_eq_none_iff]
        constructor
        · rintro rfl
          exact .inr (.inl ⟨first, rfl, as⟩)
        · rintro (impossible | ⟨keyword, same, -⟩ | ⟨keyword, tail, same, on⟩)
          · cases impossible
          · exact (List.cons.inj same).2
          · obtain ⟨rfl, -⟩ := List.cons.inj same
            exact absurd on notOn
      · by_cases on : IsOn first
        · simp [Ends, as, on]
        · simp [Ends, as, on]

theorem aliasWord?_eq_some_iff (rest : List (List Char)) (word : List Char) :
    aliasWord? rest = some word ↔
      (∃ others, rest = word :: others ∧ ¬ IsAs word ∧ ¬ IsOn word) ∨
        ∃ keyword others, rest = keyword :: word :: others ∧ IsAs keyword := by
  cases rest with
  | nil => simp [aliasWord?]
  | cons first others =>
      rw [aliasWord?_cons]
      by_cases as : IsAs first
      · simp only [if_pos as, List.head?_eq_some_iff]
        grind
      · by_cases on : IsOn first
        · simp only [if_neg as, if_pos on]
          grind
        · rw [if_neg as, if_neg on, Option.some.injEq]
          constructor
          · rintro rfl
            exact .inl ⟨others, rfl, as, on⟩
          · rintro (⟨tail, same, -, -⟩ | ⟨keyword, tail, same, keyed⟩)
            · exact (List.cons.inj same).1
            · obtain ⟨rfl, -⟩ := List.cons.inj same
              exact absurd keyed as

/-! ## Reading -/

theorem leads_of_parse? {q : Quotes} {entry : List Char} {t : TableSource}
    (parsed : parse? q entry = some t) : Leads q (words entry) t := by
  unfold parse? at parsed
  split at parsed
  · cases parsed
  · next name rest cut =>
      rw [cut]
      split at parsed
      · next named =>
          split at parsed
          · next ended =>
              cases parsed
              have ends : Ends rest := (aliasWord?_eq_none_iff rest).mp ended
              exact ⟨[name], rest, rfl, .name named, fun _ => ends⟩
          · next word found =>
              split at parsed
              · next identifier =>
                  cases parsed
                  rcases (aliasWord?_eq_some_iff rest word).mp found with
                    ⟨others, rfl, notAs, notOn⟩ | ⟨keyword, others, rfl, keyed⟩
                  · refine ⟨[name, word], others, rfl, .aliased named identifier notAs notOn, ?_⟩
                    intro impossible
                    cases impossible
                  · refine ⟨[name, keyword, word], others, rfl, .renamed named keyed identifier, ?_⟩
                    intro impossible
                    cases impossible
              · cases parsed
      · cases parsed

theorem parse?_of_leads {q : Quotes} {entry : List Char} {t : TableSource}
    (leads : Leads q (words entry) t) : parse? q entry = some t := by
  obtain ⟨read, rest, cut, spelled, ends⟩ := leads
  cases spelled with
  | @name name named =>
      have ended : aliasWord? rest = none := (aliasWord?_eq_none_iff rest).mpr (ends rfl)
      simp [parse?, cut, named, ended]
  | @aliased name word named identifier notAs notOn =>
      have found : aliasWord? (word :: rest) = some word :=
        (aliasWord?_eq_some_iff _ word).mpr (.inl ⟨rest, rfl, notAs, notOn⟩)
      simp [parse?, cut, named, found, identifier]
  | @renamed name keyword word named keyed identifier =>
      have found : aliasWord? (keyword :: word :: rest) = some word :=
        (aliasWord?_eq_some_iff _ word).mpr (.inr ⟨keyword, rest, rfl, keyed⟩)
      simp [parse?, cut, named, found, identifier]

theorem parse?_eq_some_iff (q : Quotes) (entry : List Char) (t : TableSource) :
    parse? q entry = some t ↔ Leads q (words entry) t :=
  ⟨leads_of_parse?, parse?_of_leads⟩

end TableSource

/-! ## Stars -/

open TableSource

theorem Query.stars?_eq_some_iff (d : Dialect) (tables stars : List (List Char)) :
    stars? d tables = some stars ↔
      ∃ sources, List.Forall₂ (fun entry t => parse? d.quotes entry = some t) tables sources ∧
        stars = sources.map fun t => d.quote t.qualifier ++ ['.', '*'] := by
  induction tables generalizing stars with
  | nil =>
      constructor
      · intro given
        obtain rfl : [] = stars := by simpa [stars?] using given
        exact ⟨[], .nil, rfl⟩
      · rintro ⟨sources, none, rfl⟩
        cases none
        rfl
  | cons entry rest ih =>
      simp only [stars?, List.mapM_cons] at ih ⊢
      constructor
      · intro given
        obtain ⟨star, read, given⟩ := Option.bind_eq_some_iff.mp given
        obtain ⟨others, later, given⟩ := Option.bind_eq_some_iff.mp given
        obtain rfl : star :: others = stars := by simpa using given
        obtain ⟨t, parsed, rfl⟩ := Option.map_eq_some_iff.mp read
        obtain ⟨sources, all, rfl⟩ := (ih others).mp later
        exact ⟨t :: sources, .cons parsed all, rfl⟩
      · rintro ⟨sources, all, rfl⟩
        cases all with
        | @cons _ t _ sources parsed all =>
            have later := (ih _).mpr ⟨sources, all, rfl⟩
            rw [parsed, later]
            rfl

/-- **An entry is read by the words it starts with.** Reading gives a table just when the words of
the entry start with an entry for that table and, where that has no alias, nothing follows that
could be one. So the three shapes are read as they stand, and no entry is refused for what
follows an alias. The stars of a FROM list are those of the tables that its entries are read as,
and there are none when one entry is not read. -/
theorem TableSource.leading_words_read (d : Dialect) :
    (∀ entry t, parse? d.quotes entry = some t ↔ Leads d.quotes (words entry) t) ∧
      (∀ entry t, Entry d.quotes (words entry) t → parse? d.quotes entry = some t) ∧
      ∀ tables stars, Query.stars? d tables = some stars ↔
        ∃ sources, List.Forall₂ (fun entry t => Leads d.quotes (words entry) t) tables sources ∧
          stars = sources.map fun t => d.quote t.qualifier ++ ['.', '*'] := by
  refine ⟨parse?_eq_some_iff d.quotes, fun entry t spelled => ?_, fun tables stars => ?_⟩
  · exact parse?_of_leads ⟨words entry, [], (List.append_nil _).symm, spelled, fun _ => .inl rfl⟩
  · simpa only [parse?_eq_some_iff] using Query.stars?_eq_some_iff d tables stars

/-- A quoted name and an alias of more than one part, between more than one blank. -/
theorem TableSource.renamedEntry_read :
    Entry Dialect.postgres.quotes (words " shop.\"orders\"  As a.b ".toList)
        ⟨"shop.orders".toList, some "a.b".toList⟩ ∧
      parse? Dialect.postgres.quotes " shop.\"orders\"  As a.b ".toList =
        some ⟨"shop.orders".toList, some "a.b".toList⟩ := by
  have spelled : Entry Dialect.postgres.quotes (words " shop.\"orders\"  As a.b ".toList)
      ⟨"shop.orders".toList, some "a.b".toList⟩ :=
    .renamed (by decide) (by decide) (by decide)
  exact ⟨spelled, (leading_words_read .postgres).2.1 _ _ spelled⟩

/-- A table that is joined inside its entry, in a SELECT with another join. -/
def TableSource.joinedEntry : Query :=
  (Query.empty .postgres).applyAll
    [.appendFrom "videos INNER JOIN users ON true", .appendJoin .inner "tags ON true" []]

/-- The keyword of a join is read as an alias, and a dangling `as` is read past: neither entry has
one of the three shapes. -/
theorem TableSource.joinedEntry_misread :
    let q := Dialect.postgres.quotes
    (∀ t, ¬ Entry q (words "videos INNER JOIN users ON true".toList) t) ∧
      parse? q "videos INNER JOIN users ON true".toList =
        some ⟨"videos".toList, some "INNER".toList⟩ ∧
      joinedEntry.render.sql =
        "SELECT \"INNER\".* FROM videos INNER JOIN users ON true INNER JOIN tags ON true;" ∧
      (∀ t, ¬ Entry q (words "videos AS".toList) t) ∧
      parse? q "videos AS".toList = some ⟨"videos".toList, none⟩ := by
  have joined : words "videos INNER JOIN users ON true".toList =
      ["videos".toList, "INNER".toList, "JOIN".toList, "users".toList, "ON".toList,
        "true".toList] := by decide
  have dangling : words "videos AS".toList = ["videos".toList, "AS".toList] := by decide
  refine ⟨?_, by decide, by decide, ?_, by decide⟩
  · intro t spelled
    rw [joined] at spelled
    cases spelled
  · intro t spelled
    rw [dangling] at spelled
    cases spelled with
    | aliased named identifier notAs notOn => exact notAs (by decide)

end QueryBind
