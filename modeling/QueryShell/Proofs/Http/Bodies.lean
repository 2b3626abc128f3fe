import QueryShell.Proofs.Http.Traffic
import QueryShell.Proofs.Json.RoundTrip

/-
What the body of a request to commit says, for whoever reads it as JSON: the queries with their texts and
parameters in their order, and the bookmarks. `Exchange.Carries` is said of the value that is read, and the
members of an object are sorted there, whatever the order in which they were written.
-/
namespace QueryShell.Http

open Json

deriving instance DecidableEq for Query

/-- The parameters of a query are proper values without doubles. -/
def Exact (query : Query) : Prop :=
  (Json.object query.parameters).Proper ∧ (Json.object query.parameters).DoubleFree

/-- What a body says of a query: its text, its parameters, and that its result is wanted as rows. -/
def asked (query : Query) : Json :=
  .object [("parameters", .object query.parameters), ("resultDataContents", .array [.string "row"]),
    ("statement", .string query.text)]

/-- What a body says of bookmarks; without any it has no such member. -/
def carried : Option Bookmark → List (String × Json)
  | some (first :: rest) => [("bookmarks", .array ((first :: rest).map .string))]
  | _ => []

/-- What a body says. -/
def wire (queries : List Query) (bookmark? : Option Bookmark) : Json :=
  .object (carried bookmark? ++ [("statements", .array (queries.map asked))])

/-- The request is one POST, and its body says exactly this. -/
structure Exchange.Carries (e : Exchange) (queries : List Query) (bookmark? : Option Bookmark) : Prop where
  method : e.request.method = .post
  body : decode? e.request.body = some (wire queries bookmark?)

/-! ## What is written -/

theorem reads_strings (texts : List String) :
    Reads (.array (texts.map .string)) (.array (texts.map .string)) := by
  refine reads_array (List.forall₂_same.2 fun v hv => ?_)
  obtain ⟨text, -, rfl⟩ := List.mem_map.1 hv
  exact reads_string text

theorem reads_statementJson {query : Query} (h : Exact query) :
    Reads (statementJson query) (asked query) :=
  reads_object (.cons ⟨rfl, reads_string query.text⟩ (.cons ⟨rfl, reads_self h.1 h.2⟩
    (.cons ⟨rfl, reads_strings ["row"]⟩ .nil)))

theorem reads_commitJson {queries : List Query} (h : ∀ query ∈ queries, Exact query)
    (bookmark? : Option Bookmark) : Reads (commitJson queries bookmark?) (wire queries bookmark?) := by
  have hstatements : ReadsMember ("statements", .array (queries.map statementJson))
      ("statements", .array (queries.map asked)) := by
    refine ⟨rfl, reads_array ?_⟩
    rw [List.forall₂_map_left_iff, List.forall₂_map_right_iff, List.forall₂_same]
    exact fun query hquery => reads_statementJson (h query hquery)
  have halone := reads_object (.cons hstatements .nil)
  unfold commitJson wire
  rcases bookmark? with _ | _ | ⟨first, rest⟩
  · exact halone
  · exact halone
  · have hbookmarks : ReadsMember ("bookmarks", .array ((first :: rest).map .string))
        ("bookmarks", .array ((first :: rest).map .string)) := ⟨rfl, reads_strings (first :: rest)⟩
    exact reads_object (.cons hstatements (.cons hbookmarks .nil))

/-- A request to commit queries carries exactly these queries, with its bookmark. -/
theorem carries_commit {e : Exchange} {base : Url} {username password database : String}
    {queries : List Query} {bookmark? : Option Bookmark}
    (hrequest : e.request = Request.commit base username password database queries bookmark?)
    (hqueries : ∀ query ∈ queries, Exact query) : e.Carries queries bookmark? := by
  constructor
  · rw [hrequest]
    rfl
  · rw [hrequest]
    exact (reads_commitJson hqueries bookmark?).decode?

/-- What is read tells the queries, so no two lists of queries have the same body. -/
theorem Exchange.Carries.queries_eq {e : Exchange} {queries queries' : List Query}
    {bookmark? bookmark?' : Option Bookmark} (h : e.Carries queries bookmark?)
    (h' : e.Carries queries' bookmark?') : queries = queries' := by
  have hinjective : Function.Injective asked := by
    rintro ⟨text, parameters⟩ ⟨text', parameters'⟩ hasked
    simpa [asked, and_comm] using hasked
  have hwire := Option.some.inj (h.body.symm.trans h'.body)
  unfold wire at hwire
  obtain ⟨-, hlast⟩ := List.append_inj' (Json.object.inj hwire) rfl
  exact hinjective.list_map (Json.array.inj (Prod.mk.inj (List.cons.inj hlast).1).2)

end QueryShell.Http
