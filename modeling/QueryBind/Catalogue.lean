/-
# QueryBind.Catalogue — a model of a video site

A model with to-one and to-many relations, cycles among its types, and types with nested records.
Every loader fetches the children of a batch by the distinct keys of its objects, with one query,
and attaches them by key; a few loaders fail on purpose.
-/
import QueryBind.Query.Mod
import QueryBind.Query.Run
import QueryBind.Relation.Attach

namespace QueryBind.Catalogue

set_option autoImplicit false

/-! ## Types -/

def author : Nat := 0
def counters : Nat := 1
def clip : Nat := 2
def video : Nat := 3
def user : Nat := 4
def profile : Nat := 5
def team : Nat := 6
def comment : Nat := 7
def tag : Nat := 8

def number (name : String) : Field := ⟨name, .scalar (.required .int64)⟩

def text (name : String) : Field := ⟨name, .scalar (.required .text)⟩

def schema : Schema :=
  [⟨"Author", [number "id", text "display_name"]⟩,
   ⟨"Counters", [number "views", number "likes"]⟩,
   ⟨"Clip",
    [number "id", text "type", ⟨"video_title", .scalar (.optional .text)⟩,
      ⟨"users", .nested author .optional⟩, ⟨"", .nested counters .inline⟩,
      ⟨"editor", .nested author .boxed⟩]⟩,
   ⟨"Video", [number "id", number "user_id"]⟩,
   ⟨"User", [number "id", number "team_id"]⟩,
   ⟨"Profile", [number "user_id", text "bio"]⟩,
   ⟨"Team", [number "id", text "name"]⟩,
   ⟨"Comment", [number "id", number "video_id", number "author_id"]⟩,
   ⟨"Tag", [number "id"]⟩]

/-! ## Objects -/

/-- A record with the objects that were attached to it, one list for each of its links. A link
to one object is a list of at most one. -/
inductive Object where
  | mk (record : Record) (links : List (List Object))

/-- A place where related objects are attached. -/
structure Link where
  name : String
  toOne : Bool
  deriving DecidableEq, Repr

/-- The links of the objects of a type. -/
def links (type : Nat) : List Link :=
  if type = video then [⟨"user", true⟩, ⟨"comments", false⟩]
  else if type = user then [⟨"profile", true⟩, ⟨"team", true⟩, ⟨"mentor", true⟩]
  else if type = team then [⟨"members", false⟩]
  else if type = comment then [⟨"author", true⟩, ⟨"replies", false⟩]
  else []

namespace Object

def record : Object → Record
  | .mk record _ => record

def linked : Object → List (List Object)
  | .mk _ links => links

/-- An object with nothing attached. -/
def ofRecord (r : Record) : Object := .mk r ((links r.type).map fun _ => [])

/-- The objects attached at a link. -/
def children (link : Nat) (o : Object) : List Object := (o.linked[link]?).getD []

/-- The object with other objects at a link. -/
def withChildren (link : Nat) (children : List Object) : Object → Object
  | .mk record links => .mk record (links.set link children)

theorem withChildren_children (link : Nat) (o : Object) :
    o.withChildren link (o.children link) = o := by
  obtain ⟨record, links⟩ := o
  simp only [withChildren, children, linked]
  cases found : links[link]? with
  | none => rw [List.set_eq_of_length_le (List.getElem?_eq_none_iff.mp found)]
  | some attached =>
      obtain ⟨inside, rfl⟩ := List.getElem?_eq_some_iff.mp found
      simp

theorem children_withChildren {link : Nat} {cs : List Object} {o : Object}
    (fits : cs.length = (o.children link).length) : (o.withChildren link cs).children link = cs := by
  obtain ⟨record, links⟩ := o
  simp only [withChildren, children, linked] at fits ⊢
  by_cases inside : link < links.length
  · simp [inside]
  · -- a link that the object does not have holds nothing
    have none : links[link]? = none := List.getElem?_eq_none_iff.mpr (Nat.le_of_not_lt inside)
    simp_all

theorem withChildren_withChildren (link : Nat) (cs ds : List Object) (o : Object) :
    (o.withChildren link cs).withChildren link ds = o.withChildren link ds := by
  obtain ⟨record, links⟩ := o
  simp [withChildren]

/-- The integer field at an index. -/
def key (field : Nat) (o : Object) : Int64 :=
  match o.record.cells[field]? with
  | some (.scalar ⟨.required .int64, (n : Int64)⟩) => n
  | _ => 0

end Object

/-! ## Relations -/

/-- Where the children of a relation come from and how they are told apart. -/
structure Source where
  child : Nat
  table : String
  column : String
  /-- The index of the key field of the objects they belong to. -/
  targetKey : Nat
  /-- The index of the key field of the children. -/
  childKey : Nat

/-- The query for the children with some keys. -/
def Source.query (s : Source) (singular : Bool) (keys : List Int64) : Query :=
  (Query.empty .postgres).modify
    [.comment (if singular then "singular=true" else "singular=false"), .table s.table,
      .all .among (s.column ++ " IN ?") (keys.map Value.int)]

section

variable {σ : Type}

/-- Fetch the children of a batch and attach them at a link. -/
def fetch (s : Source) (toOne : Bool) (link : Nat) : Loader σ Object :=
  fun executor singular targets => do
    let keys := Attach.distinctKeys (Object.key s.targetKey) targets
    match ← (s.query singular keys).records executor schema s.child with
    | .error e => return (.error e, targets)
    | .ok records =>
        let children := records.map Object.ofRecord
        let attached :=
          if toOne then
            Attach.attachOne (Object.key s.targetKey) (Object.key s.childKey)
              (fun child => Object.withChildren link [child]) children targets
          else
            Attach.attachMany (Object.key s.targetKey) (Object.key s.childKey)
              (fun found o => o.withChildren link (o.children link ++ found)) children targets
        return (.ok (), attached)

theorem length_fetch (s : Source) (toOne : Bool) (link : Nat) (executor : Executor σ)
    (singular : Bool) (targets : List Object) (trace : Trace σ) :
    ((fetch s toOne link executor singular targets).run trace).1.2.length = targets.length := by
  simp only [fetch, StateT.run_bind]
  generalize StateT.run (Query.records _ executor schema s.child) trace = answer
  rcases answer with ⟨e | records, after⟩
  · rfl
  · cases toOne
    · exact List.length_map _
    · exact List.length_map _

/-- A relation whose children are attached at a link. -/
def relation (child : Nat) (toOne : Bool) (link : Nat) (load : Loader σ Object)
    (length_load : ∀ executor singular targets trace,
      ((load executor singular targets).run trace).1.2.length = targets.length) :
    Relation σ Object where
  toOne
  child
  load
  children := Object.children link
  replace := Object.withChildren link
  length_load
  replace_children := Object.withChildren_children link
  children_replace := Object.children_withChildren
  replace_replace _ _ := Object.withChildren_withChildren link _ _ _

def one (link : Nat) (s : Source) : Relation σ Object :=
  relation s.child true link (fetch s true link) (length_fetch s true link)

def many (link : Nat) (s : Source) : Relation σ Object :=
  relation s.child false link (fetch s false link) (length_fetch s false link)

/-- A relation whose loader fails. -/
def failing (child : Nat) (toOne : Bool) (link : Nat) (e : Error) : Relation σ Object :=
  relation child toOne link (fun _ _ targets => return (.error e, targets)) fun _ _ _ _ => rfl

def videoUser : Relation σ Object := one 0 ⟨user, "users", "id", 1, 0⟩

def registry (type : Nat) : Option (Registry σ Object) :=
  if type = video then
    some [("User", videoUser), ("", videoUser),
      ("Comments", many 1 ⟨comment, "comments", "video_id", 0, 1⟩),
      ("Broken", failing user true 0 (.other "boom")),
      ("Missing", failing user true 0 (.notFound (.other "gone"))),
      ("Misconfigured", failing comment false 1 (.config (.other "bad")))]
  else if type = user then
    some [("Profile", one 0 ⟨profile, "profiles", "user_id", 0, 0⟩),
      ("Team", one 1 ⟨team, "teams", "id", 1, 0⟩),
      ("Mentor", one 2 ⟨user, "mentors", "team_id", 0, 1⟩)]
  else if type = team then
    some [("Members", many 0 ⟨user, "users", "team_id", 0, 1⟩)]
  else if type = comment then
    some [("Author", one 0 ⟨user, "users", "id", 2, 0⟩),
      ("Replies", many 1 ⟨comment, "replies", "video_id", 0, 1⟩)]
  else if type = tag then some []
  else none

def model : Model σ Object := ⟨schema, Object.ofRecord, registry⟩

end

end QueryBind.Catalogue
