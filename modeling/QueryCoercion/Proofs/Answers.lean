import QueryCoercion.Proofs.DirectWalk
import QueryCoercion.Proofs.FirstReads

namespace QueryCoercion

namespace Definition

/-- A row is about a property of a team. Without a scope it is about one of events. -/
def About (d : Definition) (team : Int64) (scope : Scope) (name : String) : Prop :=
  d.team = team ∧ d.scope.getD .event = scope ∧ d.name = name

instance (d : Definition) (team : Int64) (scope : Scope) (name : String) :
    Decidable (d.About team scope name) :=
  inferInstanceAs (Decidable (_ ∧ _ ∧ _))

theorem isIn_iff {d : Definition} {scope : Scope} :
    d.isIn scope = true ↔ d.scope.getD .event = scope := by
  obtain ⟨team, name, given, kind⟩ := d
  cases scope <;> rcases given with _ | _ | _ <;> simp [isIn]

theorem decide_about (d : Definition) (team : Int64) (scope : Scope) (name : String) :
    decide (d.About team scope name) = (d.team == team && d.isIn scope && d.name == name) := by
  rw [Bool.eq_iff_iff, decide_eq_true_eq]
  simp only [About, Bool.and_eq_true, beq_iff_eq, isIn_iff, and_assoc]

end Definition

namespace Store

/-- A row about a property that has no other one after it. -/
def IsLast (rows : List Definition) (team : Int64) (scope : Scope) (name : String)
    (row : Definition) : Prop :=
  ∃ before after, rows = before ++ row :: after ∧ row.About team scope name ∧
    ∀ later ∈ after, ¬ later.About team scope name

theorem last?_eq_some_iff {rows : List Definition} {team : Int64} {scope : Scope} {name : String}
    {row : Definition} :
    last? rows team scope name = some row ↔ IsLast rows team scope name row := by
  simp only [last?, ← Definition.decide_about, List.getLast?_filter,
    List.find?_eq_some_iff_append, decide_eq_true_eq, Bool.not_eq_true', decide_eq_false_iff_not]
  constructor
  · rintro ⟨about, after, before, split, others⟩
    refine ⟨before.reverse, after.reverse, ?_, about, ?_⟩
    · rw [← rows.reverse_reverse, split]
      simp
    · exact fun later member => others later (List.mem_reverse.mp member)
  · rintro ⟨before, after, rfl, about, others⟩
    refine ⟨about, after.reverse, before.reverse, by simp, ?_⟩
    exact fun later member => others later (List.mem_reverse.mp member)

/-- The name of a row that bears on a request. -/
def key? (request : Request) (row : Definition) : Option String :=
  if answers request row then some row.name else none

theorem key?_eq_some_iff {request : Request} {row : Definition} {name : String} :
    key? request row = some name ↔
      name ∈ request.names.names ∧ row.About request.team request.scope name := by
  simp only [key?, answers, Option.ite_none_right_eq_some, Option.some.injEq, Bool.and_eq_true,
    beq_iff_eq, List.contains_iff_mem, Definition.isIn_iff, Definition.About]
  constructor
  · rintro ⟨⟨⟨team, scope⟩, asked⟩, rfl⟩
    exact ⟨asked, team, scope, rfl⟩
  · rintro ⟨asked, team, scope, rfl⟩
    exact ⟨⟨⟨team, scope⟩, asked⟩, rfl⟩

end Store

theorem names_putEntry {β : Type} (name : String) (value : β) (entries : List (String × β)) :
    (putEntry name value entries).map Prod.fst = putKey (entries.map Prod.fst) (some name) := by
  induction entries with
  | nil => rfl
  | cons entry rest ih =>
    by_cases first : entry.1 = name
    · simp [putEntry, putKey, first]
    · rw [putEntry, if_neg first, List.map_cons, ih]
      by_cases known : name ∈ rest.map Prod.fst
      · have old : name ∈ (entry :: rest).map Prod.fst := List.mem_cons_of_mem _ known
        rw [putKey, putKey, if_pos known, if_pos old]
        rfl
      · have new : name ∉ (entry :: rest).map Prod.fst := by
          rw [List.map_cons, List.mem_cons, not_or]
          exact ⟨Ne.symm first, known⟩
        rw [putKey, putKey, if_neg known, if_neg new]
        rfl

namespace Store

/-- An answer that takes in one more row, if this bears on the request. -/
def takeRow (request : Request) (answer : Answer) (row : Definition) : Answer :=
  if answers request row then answer.insert row.name row.kind else answer

theorem find_eq_foldl (s : Store) (request : Request) :
    s.find request = s.rows.foldl (takeRow request) .empty := by
  rw [find, NameMap.ofList, List.foldl_map, List.foldl_filter]
  rfl

theorem names_takeRow (request : Request) (answer : Answer) (row : Definition) :
    (takeRow request answer row).entries.map Prod.fst =
      putKey (answer.entries.map Prod.fst) (key? request row) := by
  unfold takeRow key?
  split
  · exact names_putEntry row.name row.kind answer.entries
  · rfl

theorem firstKeys_find (s : Store) (request : Request) :
    FirstKeys (key? request) s.rows ((s.find request).entries.map Prod.fst) := by
  have none : FirstKeys (key? request) [] ((NameMap.empty : Answer).entries.map Prod.fst) := .nil _
  rw [find_eq_foldl]
  exact FirstKeys.foldl (fun answer : Answer => answer.entries.map Prod.fst)
    (names_takeRow request) none s.rows

theorem mem_entries_find {s : Store} {request : Request} {name : String} {kind : Option Kind} :
    (name, kind) ∈ (s.find request).entries ↔ name ∈ request.names.names ∧
      ∃ row, IsLast s.rows request.team request.scope name row ∧ row.kind = kind := by
  rw [NameMap.mem_entries_iff, get?_find, Option.ite_none_right_eq_some, Option.map_eq_some_iff]
  simp only [last?_eq_some_iff]

theorem kind?_eq_some_iff {rows : List Definition} {team : Int64} {scope : Scope} {name : String}
    {kind : Kind} : kind? rows team scope name = some kind ↔
      ∃ row, IsLast rows team scope name row ∧ row.kind = some kind := by
  simp only [kind?, Option.bind_eq_some_iff, last?_eq_some_iff]

end Store

/-- A catalog in memory answers every request, and only counts it. Its answer has exactly the
names asked for that a row of the team is about in the scope, each once, in the order of the
first rows about them, and each with the kind of the last row about it, or without a kind if
this row has none. After fetching, a name that was collected in a scope has a kind exactly if
the last row about it has this kind. -/
theorem lookup_answers_from_last_rows (s : Store) (names : NameSet) (team : Int64)
    (scope : Scope) :
    (∃ answer : Answer,
      Store.catalog.lookup ⟨names, team, scope⟩ s = (.ok answer, ⟨s.rows, s.lookups + 1⟩) ∧
      (∀ name, name ∈ answer.entries.map Prod.fst ↔
        name ∈ names.names ∧ ∃ row ∈ s.rows, row.About team scope name) ∧
      (answer.entries.map Prod.fst).Nodup ∧
      ((answer.entries.map Prod.fst).Pairwise fun a b =>
        s.rows.findIdx (fun row => row.About team scope a) <
          s.rows.findIdx (fun row => row.About team scope b)) ∧
      ∀ name kind, (name, kind) ∈ answer.entries ↔ name ∈ names.names ∧
        ∃ row, Store.IsLast s.rows team scope name row ∧ row.kind = kind) ∧
    ∀ reads : Reads, ∃ typing,
      (Typing.fetch Store.catalog reads (some team) s).result = .ok typing ∧
      ∀ scope, ∀ name ∈ (reads.names scope).names, ∀ kind, typing.get? scope name = some kind ↔
        ∃ row, Store.IsLast s.rows team scope name row ∧ row.kind = some kind := by
  let request : Request := ⟨names, team, scope⟩
  have first : FirstKeys (Store.key? request) s.rows ((s.find request).entries.map Prod.fst) :=
    s.firstKeys_find request
  have known (name : String) : name ∈ (s.find request).entries.map Prod.fst ↔
      name ∈ names.names ∧ ∃ row ∈ s.rows, row.About team scope name := by
    rw [first.mem_iff]
    constructor
    · rintro ⟨row, member, key⟩
      obtain ⟨asked, about⟩ := Store.key?_eq_some_iff.mp key
      exact ⟨asked, row, member, about⟩
    · rintro ⟨asked, row, member, about⟩
      exact ⟨row, member, Store.key?_eq_some_iff.mpr ⟨asked, about⟩⟩
  refine ⟨⟨s.find request, rfl, known, (s.find request).nodup, ?_, ?_⟩, ?_⟩
  · apply first.ordered.imp_of_mem
    intro a b left right before
    -- a row with this key is a row about the name, as the name was asked for
    have place (name : String) (member : name ∈ (s.find request).entries.map Prod.fst) :
        (fun row => Store.key? request row == some name) =
          fun row : Definition => decide (row.About team scope name) := by
      funext row
      rw [Bool.eq_iff_iff, beq_iff_eq, Store.key?_eq_some_iff, decide_eq_true_eq]
      exact and_iff_right ((known name).mp member).1
    rwa [place a left, place b right] at before
  · exact fun name kind => Store.mem_entries_find
  · intro reads
    obtain ⟨typing, fetched, -, kinds⟩ := Typing.fetchTeam_store reads team s
    refine ⟨typing, fetched, ?_⟩
    intro scope name collected kind
    rw [kinds, if_pos collected, Store.kind?_eq_some_iff]

namespace Sample

/-- A plan whose kind was withdrawn later, among rows of others. -/
def withdrawn : Store :=
  ⟨[⟨7, "plan", none, some .numeric⟩, ⟨8, "plan", some .event, some .boolean⟩,
    ⟨7, "age", some .event, some .string⟩, ⟨7, "plan", some .event, none⟩,
    ⟨7, "plan", some .person, some .boolean⟩, ⟨7, "age", none, some .numeric⟩], 0⟩

def eventReads : Reads := ⟨.empty, .ofList ["age", "plan", "city"], false⟩

end Sample

theorem lookup_of_withdrawn_plan :
    (∃ answer : Answer,
      Store.catalog.lookup ⟨Sample.eventReads.event, 7, .event⟩ Sample.withdrawn =
        (.ok answer, ⟨Sample.withdrawn.rows, 1⟩) ∧
      answer.entries.map Prod.fst = ["plan", "age"] ∧
      ("plan", none) ∈ answer.entries ∧ ("age", some .numeric) ∈ answer.entries) ∧
    ∃ typing, (Typing.fetch Store.catalog Sample.eventReads (some 7) Sample.withdrawn).result =
        .ok typing ∧
      typing.get? .event "age" = some .numeric ∧ typing.get? .event "plan" ≠ some .numeric := by
  have plan : Store.IsLast Sample.withdrawn.rows 7 .event "plan" ⟨7, "plan", some .event, none⟩ :=
    Store.last?_eq_some_iff.mp (by decide)
  have age : Store.IsLast Sample.withdrawn.rows 7 .event "age" ⟨7, "age", none, some .numeric⟩ :=
    Store.last?_eq_some_iff.mp (by decide)
  obtain ⟨⟨answer, looked, -, -, -, entries⟩, fetched⟩ :=
    lookup_answers_from_last_rows Sample.withdrawn Sample.eventReads.event 7 .event
  obtain ⟨typing, result, kinds⟩ := fetched Sample.eventReads
  refine ⟨⟨answer, looked, ?_, (entries _ _).mpr ⟨by decide, _, plan, rfl⟩,
    (entries _ _).mpr ⟨by decide, _, age, rfl⟩⟩, typing, result, ?_, ?_⟩
  · cases looked
    decide
  · exact (kinds .event "age" (by decide) .numeric).mpr ⟨_, age, rfl⟩
  · intro given
    obtain ⟨row, last, kind⟩ := (kinds .event "plan" (by decide) .numeric).mp given
    cases (Store.last?_eq_some_iff.mpr plan).symm.trans (Store.last?_eq_some_iff.mpr last)
    cases kind

end QueryCoercion
