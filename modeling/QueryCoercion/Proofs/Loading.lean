import Mathlib.Data.List.Forall2
import QueryCoercion.Catalog

/-!
Loading rows into a catalog in memory. Rows that were written are read back as they were, and
a row that cannot be read keeps out all rows of its array, wherever it stands in it. The name
of a kind is never a reason to refuse a row: one that is not known stands for the unknown kind.
-/
namespace QueryCoercion

namespace Json

variable {α : Type} {take : α → String → Json → Decoded α} {a b : α}

theorem decoded_bind_eq_ok {β γ : Type} {first : Decoded β} {next : β → Decoded γ} {c : γ} :
    (first >>= next) = .ok c ↔ ∃ b, first = .ok b ∧ next b = .ok c := by
  cases first with
  | error cause => simp [bind, Except.bind]
  | ok b => simp [bind, Except.bind]

theorem decoded_map_eq_ok {β γ : Type} {first : Decoded β} {change : β → γ} {c : γ} :
    first.map change = .ok c ↔ ∃ b, first = .ok b ∧ change b = c := by
  cases first with
  | error cause => simp [Except.map]
  | ok b => simp [Except.map]

theorem fields_append (take : α → String → Json → Decoded α) (a : α)
    (front back : List (String × Json)) :
    fields take a (front ++ back) = fields take a front >>= fun b => fields take b back := by
  induction front generalizing a with
  | nil => rfl
  | cons member rest ih =>
    rw [List.cons_append, fields, fields]
    cases take a member.1 member.2 with
    | error cause => rfl
    | ok next => exact ih next

theorem taken_of_fields {members : List (String × Json)} (read : fields take a members = .ok b)
    {member : String × Json} (there : member ∈ members) :
    ∃ before after, take before member.1 member.2 = .ok after := by
  obtain ⟨front, back, rfl⟩ := List.append_of_mem there
  rw [fields_append, decoded_bind_eq_ok] at read
  obtain ⟨before, -, rest⟩ := read
  rw [fields, decoded_bind_eq_ok] at rest
  obtain ⟨after, taken, -⟩ := rest
  exact ⟨before, after, taken⟩

theorem fields_keeps {P : α → Prop} {members : List (String × Json)}
    (keeps : ∀ member ∈ members, ∀ before after, take before member.1 member.2 = .ok after →
      P before → P after)
    (read : fields take a members = .ok b) (start : P a) : P b := by
  induction members generalizing a with
  | nil =>
    cases read
    exact start
  | cons member rest ih =>
    rw [fields, decoded_bind_eq_ok] at read
    obtain ⟨next, taken, read⟩ := read
    apply ih (fun member there => keeps member (List.mem_cons_of_mem _ there)) read
    exact keeps member List.mem_cons_self a next taken start

theorem fields_map {change : α → α} {members : List (String × Json)}
    (lets : ∀ member ∈ members, ∀ a,
      take (change a) member.1 member.2 = (take a member.1 member.2).map change) (a : α) :
    fields take (change a) members = (fields take a members).map change := by
  induction members generalizing a with
  | nil => rfl
  | cons member rest ih =>
    rw [fields, fields, lets member List.mem_cons_self]
    cases take a member.1 member.2 with
    | error cause => rfl
    | ok next => exact ih (fun member there => lets member (List.mem_cons_of_mem _ there)) next

theorem within_eq_map {β : Type} {size : Nat} {items others : List Json}
    (lengths : items.length = others.length) (change : α → β) (value : α) :
    within size items (change value) = (within size others value).map change := by
  unfold within
  rw [lengths]
  split <;> rfl

theorem optional_ofOption {β : Type} {ofName : String → Decoded β} {name : β → String}
    (named : ∀ b, ofName (name b) = .ok b) (value : Option β) :
    optional (asVariant ofName) (ofOption (fun b => .string (name b)) value) = .ok value := by
  cases value with
  | none => rfl
  | some b => simp only [ofOption, optional, asVariant, named, Except.map]

theorem asInt64_toInt (team : Int64) : asInt64 (.int team.toInt) = .ok team := by
  have inside : Int64.minValue.toInt ≤ team.toInt ∧ team.toInt ≤ Int64.maxValue.toInt :=
    ⟨team.minValue_le_toInt, team.toInt_le⟩
  simp only [int, asInt64, if_pos inside, Int64.ofInt_toInt]

theorem eq_int_of_asInt64 {value : Json} {team : Int64} (read : asInt64 value = .ok team) :
    value = .int team.toInt := by
  unfold asInt64 at read
  split at read
  · rename_i n
    split at read
    · rename_i inside
      cases read
      rw [Int64.toInt_ofInt_of_le inside.1 (Int.lt_of_le_of_lt inside.2 (by decide))]
      rfl
    · cases read
  · cases read

end Json

theorem Scope.ofName_name (scope : Scope) : ofName scope.name = .ok scope := by
  cases scope <;> rfl

theorem Scope.name_of_ofName {label : String} {scope : Scope} (read : ofName label = .ok scope) :
    label = "Event" ∨ label = "Person" := by
  unfold ofName at read
  split at read
  · exact .inl rfl
  · exact .inr rfl
  · cases read

theorem Kind.ofName_name (kind : Kind) : ofName kind.name = kind := by
  cases kind <;> rfl

theorem Kind.ofName_of_unlisted {tag : String}
    (unlisted : tag ∉ ["String", "Numeric", "Boolean", "DateTime"]) : ofName tag = .unknown := by
  unfold ofName
  split
  case h_5 => rfl
  all_goals simp at unlisted

namespace Definition

namespace Draft

variable {key : String} {value : Json} {d e : Draft}

/-- All that taking a member can do to a row that is being read. -/
theorem take_cases (taken : d.take key value = .ok e) :
    (key = "team_id" ∧ ∃ team, Json.asInt64 value = .ok team ∧ e = { d with team := some team }) ∨
    (key = "name" ∧ ∃ name, Json.asString value = .ok name ∧ e = { d with name := some name }) ∨
    (key = "category" ∧
      ∃ scope, Json.optional Scope.ofJson value = .ok scope ∧ e = { d with scope := scope }) ∨
    (key = "property_type" ∧
      ∃ kind, Json.optional Kind.ofJson value = .ok kind ∧ e = { d with kind := kind }) ∨
    (key ∉ ["team_id", "name", "category", "property_type"] ∧ e = d) := by
  unfold take at taken
  split at taken
  · obtain ⟨team, read, rfl⟩ := Json.decoded_map_eq_ok.mp taken
    exact .inl ⟨rfl, team, read, rfl⟩
  · obtain ⟨name, read, rfl⟩ := Json.decoded_map_eq_ok.mp taken
    exact .inr (.inl ⟨rfl, name, read, rfl⟩)
  · obtain ⟨scope, read, rfl⟩ := Json.decoded_map_eq_ok.mp taken
    exact .inr (.inr (.inl ⟨rfl, scope, read, rfl⟩))
  · obtain ⟨kind, read, rfl⟩ := Json.decoded_map_eq_ok.mp taken
    exact .inr (.inr (.inr (.inl ⟨rfl, kind, read, rfl⟩)))
  · cases taken
    refine .inr (.inr (.inr (.inr ⟨?_, rfl⟩)))
    simp_all

theorem kept_of_take (taken : d.take key value = .ok e) :
    (key ≠ "team_id" → e.team = d.team) ∧ (key ≠ "name" → e.name = d.name) := by
  obtain ⟨rfl, _, -, rfl⟩ | ⟨rfl, _, -, rfl⟩ | ⟨-, _, -, rfl⟩ | ⟨-, _, -, rfl⟩ | ⟨-, rfl⟩ :=
    take_cases taken
  · exact ⟨absurd rfl, fun _ => rfl⟩
  · exact ⟨fun _ => rfl, absurd rfl⟩
  all_goals exact ⟨fun _ => rfl, fun _ => rfl⟩

theorem int_of_take (taken : d.take "team_id" value = .ok e) :
    ∃ team : Int64, value = .int team.toInt := by
  obtain ⟨team, read, -⟩ := Json.decoded_map_eq_ok.mp taken
  exact ⟨team, Json.eq_int_of_asInt64 read⟩

theorem scope_of_take {label : String} (taken : d.take "category" (.string label) = .ok e) :
    label = "Event" ∨ label = "Person" := by
  obtain ⟨_, read, -⟩ := Json.decoded_map_eq_ok.mp taken
  obtain ⟨scope, named, -⟩ := Json.decoded_map_eq_ok.mp read
  exact Scope.name_of_ofName named

def withKind (kind : Option Kind) (d : Draft) : Draft := { d with kind := kind }

theorem take_withKind (kind : Option Kind) (d : Draft) (value : Json)
    (other : key ≠ "property_type") :
    (d.withKind kind).take key value = (d.take key value).map (withKind kind) := by
  unfold take
  split
  · cases Json.asInt64 value <;> rfl
  · cases Json.asString value <;> rfl
  · cases Json.optional Scope.ofJson value <;> rfl
  · exact absurd rfl other
  · rfl

theorem fields_of_kind {kind : Option Kind} (given : Json.optional Kind.ofJson value = .ok kind)
    (rest : List (String × Json)) :
    Json.fields take d (("property_type", value) :: rest) =
      Json.fields take (d.withKind kind) rest := by
  have filled : d.take "property_type" value = .ok (d.withKind kind) := by
    rw [take, given]
    rfl
  rw [Json.fields, filled]
  rfl

theorem finish_withKind (kind : Option Kind) (d : Draft) :
    (d.withKind kind).finish = d.finish.map fun row => { row with kind := kind } := by
  obtain ⟨_ | team, _ | name, scope, old⟩ := d <;> rfl

theorem given_of_finish {row : Definition} (finished : d.finish = .ok row) :
    d.team = some row.team ∧ d.name = some row.name := by
  obtain ⟨_ | team, _ | name, scope, kind⟩ := d <;> cases finished
  exact ⟨rfl, rfl⟩

end Draft

/-- What keeps an object from being read as a row. -/
inductive Faulty (members : List (String × Json)) : Prop where
  | noTeam (absent : ∀ value, ("team_id", value) ∉ members)
  | noName (absent : ∀ value, ("name", value) ∉ members)
  | wrongTeam {value : Json} (given : ("team_id", value) ∈ members)
      (wrong : ∀ team : Int64, value ≠ .int team.toInt)
  | wrongScope {label : String} (given : ("category", .string label) ∈ members)
      (wrong : label ≠ "Event" ∧ label ≠ "Person")

theorem ofJson_object (members : List (String × Json)) :
    ofJson (.object members) = Json.fields Draft.take {} members >>= Draft.finish := rfl

theorem ofJson_of_faulty {members : List (String × Json)} (faulty : Faulty members)
    (row : Definition) : ofJson (.object members) ≠ .ok row := by
  intro read
  rw [ofJson_object, Json.decoded_bind_eq_ok] at read
  obtain ⟨draft, members, finished⟩ := read
  obtain ⟨team, name⟩ := Draft.given_of_finish finished
  cases faulty with
  | noTeam absent =>
    have none : draft.team = none := by
      apply Json.fields_keeps (P := fun d => d.team = none) _ members rfl
      rintro ⟨key, value⟩ there before after taken start
      rw [(Draft.kept_of_take taken).1 fun same => absent value (same ▸ there), start]
    cases none.symm.trans team
  | noName absent =>
    have none : draft.name = none := by
      apply Json.fields_keeps (P := fun d => d.name = none) _ members rfl
      rintro ⟨key, value⟩ there before after taken start
      rw [(Draft.kept_of_take taken).2 fun same => absent value (same ▸ there), start]
    cases none.symm.trans name
  | wrongTeam given wrong =>
    obtain ⟨_, _, taken⟩ := Json.taken_of_fields members given
    obtain ⟨team, same⟩ := Draft.int_of_take taken
    exact wrong team same
  | wrongScope given wrong =>
    obtain ⟨_, _, taken⟩ := Json.taken_of_fields members given
    rcases Draft.scope_of_take taken with event | person
    · exact wrong.1 event
    · exact wrong.2 person

theorem ofJson_object_of_kind {front back : List (String × Json)} {value : Json}
    {kind : Option Kind} (last : "property_type" ∉ back.map Prod.fst)
    (given : Json.optional Kind.ofJson value = .ok kind) :
    ofJson (.object (front ++ ("property_type", value) :: back)) =
      (ofJson (.object (front ++ ("property_type", .null) :: back))).map fun row =>
        { row with kind := kind } := by
  have rest (d : Draft) : Json.fields Draft.take (d.withKind kind) back =
      (Json.fields Draft.take (d.withKind none) back).map (Draft.withKind kind) := by
    rw [show d.withKind kind = (d.withKind none).withKind kind from rfl]
    apply Json.fields_map
    rintro ⟨key, value⟩ there d
    apply Draft.take_withKind
    rintro rfl
    exact last (List.mem_map.mpr ⟨_, there, rfl⟩)
  rw [ofJson_object, ofJson_object, Json.fields_append, Json.fields_append]
  cases Json.fields Draft.take {} front with
  | error cause => rfl
  | ok d =>
    change (Json.fields Draft.take d (("property_type", value) :: back) >>= Draft.finish) =
      (Json.fields Draft.take d (("property_type", .null) :: back) >>= Draft.finish).map _
    rw [Draft.fields_of_kind given, Draft.fields_of_kind rfl, rest]
    cases Json.fields Draft.take (d.withKind none) back with
    | error cause => rfl
    | ok e => exact Draft.finish_withKind kind e

theorem ofItems_of_kind {value : Json} {kind : Option Kind}
    (given : Json.optional Kind.ofJson value = .ok kind) (team name scope : Json)
    (rest : List Json) :
    ofItems (team :: name :: scope :: value :: rest) =
      (ofItems (team :: name :: scope :: .null :: rest)).map fun row =>
        { row with kind := kind } := by
  have read (value : Json) : ofItems (team :: name :: scope :: value :: rest) =
      Json.asInt64 team >>= fun t => Json.asString name >>= fun n =>
        Json.optional Scope.ofJson scope >>= fun s => Json.optional Kind.ofJson value >>= fun k =>
          Json.within 4 (team :: name :: scope :: value :: rest) ⟨t, n, s, k⟩ := rfl
  rw [read, read, given]
  cases Json.asInt64 team with
  | error cause => rfl
  | ok t =>
    cases Json.asString name with
    | error cause => rfl
    | ok n =>
      cases Json.optional Scope.ofJson scope with
      | error cause => rfl
      | ok s =>
        exact Json.within_eq_map rfl (fun row : Definition => { row with kind := kind })
          ⟨t, n, s, none⟩

/-- The rows that differ in nothing but what they give as their kind. -/
inductive KindPlace : (Json → Json) → Prop where
  | member (front back : List (String × Json))
      (last : "property_type" ∉ back.map Prod.fst) :
      KindPlace fun kind => .object (front ++ ("property_type", kind) :: back)
  | element (team name scope : Json) (rest : List Json) :
      KindPlace fun kind => .array (team :: name :: scope :: kind :: rest)

/-- A kind that can be read is filled in, and changes nothing else about its row. -/
theorem KindPlace.ofJson_eq_map {row : Json → Json} (place : KindPlace row) {value : Json}
    {kind : Option Kind} (given : Json.optional Kind.ofJson value = .ok kind) :
    ofJson (row value) = (ofJson (row .null)).map fun row => { row with kind := kind } := by
  cases place with
  | member front back last => exact ofJson_object_of_kind last given
  | element team name scope rest => exact ofItems_of_kind given team name scope rest

theorem ofJson_toJson (d : Definition) : ofJson d.toJson = .ok d := by
  have scope : Json.optional Scope.ofJson (.ofOption (fun s => .string s.name) d.scope) =
      .ok d.scope := Json.optional_ofOption Scope.ofName_name d.scope
  have kind : Json.optional Kind.ofJson (.ofOption (fun k => .string k.name) d.kind) =
      .ok d.kind := by
    apply Json.optional_ofOption
    exact fun kind => congrArg _ kind.ofName_name
  have team := Json.asInt64_toInt d.team
  simp [toJson, ofJson_object, Json.fields, Draft.take, scope, kind, team, Json.asString,
    Except.map, bind, Except.bind, Draft.finish, Json.require]

theorem listOf_eq_ok_iff {items : List Json} {rows : List Definition} :
    listOf items = .ok rows ↔ List.Forall₂ (fun item row => ofJson item = .ok row) items rows := by
  induction items generalizing rows with
  | nil => cases rows <;> simp [listOf]
  | cons item rest ih =>
    rw [listOf, Json.decoded_bind_eq_ok]
    simp only [Json.decoded_bind_eq_ok, ih]
    constructor
    · rintro ⟨row, first, others, read, same⟩
      cases same
      exact .cons first read
    · intro read
      cases read with
      | cons first read => exact ⟨_, first, _, read, rfl⟩

theorem listOf_map_toJson (rows : List Definition) : listOf (rows.map toJson) = .ok rows := by
  rw [listOf_eq_ok_iff, List.forall₂_map_left_iff]
  exact List.forall₂_same.mpr fun row _ => row.ofJson_toJson

theorem listOf_append_cons (before : List Json) (item : Json) (after : List Json) :
    listOf (before ++ item :: after) =
      listOf before >>= fun earlier => ofJson item >>= fun row =>
        listOf after >>= fun later => .ok (earlier ++ row :: later) := by
  induction before with
  | nil => rfl
  | cons first rest ih =>
    rw [List.cons_append, listOf, listOf, ih]
    cases ofJson first with
    | error cause => rfl
    | ok row =>
      cases listOf rest with
      | error cause => rfl
      | ok rows =>
        cases ofJson item with
        | error cause => rfl
        | ok next => cases listOf after <;> rfl

theorem KindPlace.listOf_cases {row : Json → Json} (place : KindPlace row) {value : Json}
    {kind : Option Kind} (given : Json.optional Kind.ofJson value = .ok kind)
    (before after : List Json) :
    (∀ cause, listOf (before ++ row .null :: after) = .error cause →
      listOf (before ++ row value :: after) = .error cause) ∧
    ∀ rows, listOf (before ++ row .null :: after) = .ok rows → ∃ earlier d later,
      earlier.length = before.length ∧ rows = earlier ++ d :: later ∧
      listOf (before ++ row value :: after) =
        .ok (earlier ++ { d with kind := kind } :: later) := by
  simp only [listOf_append_cons, place.ofJson_eq_map given]
  cases first : listOf before with
  | error cause => exact ⟨fun _ => id, by simp [bind, Except.bind]⟩
  | ok earlier =>
    have length : earlier.length = before.length := (listOf_eq_ok_iff.mp first).length_eq.symm
    cases ofJson (row .null) with
    | error cause => exact ⟨fun _ => id, by simp [bind, Except.bind]⟩
    | ok d =>
      cases listOf after with
      | error cause => exact ⟨fun _ => id, by simp [bind, Except.bind]⟩
      | ok later =>
        refine ⟨by simp [bind, Except.bind], ?_⟩
        intro rows read
        cases read
        exact ⟨earlier, d, later, length, rfl, rfl⟩

end Definition

namespace Store

variable {s : Store} {items : List Json}

theorem load_of_read {rows : List Definition} (read : Definition.listOf items = .ok rows) :
    s.load (.array items) = (.ok rows.length, ⟨s.rows ++ rows, s.lookups⟩) := by
  have all : Json.asList (.array items) >>= Definition.listOf = .ok rows := read
  simp only [load, all]

theorem load_of_refused {cause : DecodeError} (refused : Definition.listOf items = .error cause) :
    s.load (.array items) = (.error (.invalidDefinitions cause), s) := by
  have all : Json.asList (.array items) >>= Definition.listOf = .error cause := refused
  simp only [load, all]

end Store

/-- Rows that were written are loaded behind the others, as they were and in their order. If an
object of an array has no team or no name, a team that is not an integer of 64 bits, or a
scope of another name, then the load is refused with a complaint about the rows and leaves the
catalog as it is, whatever else is in the array. And where a row gives its kind by an unlisted
name, the load ends as it would if the row gave none, except that the row has the unknown kind
if it is loaded. -/
theorem load_takes_all_rows_or_none (s : Store) :
    (∀ rows : List Definition, s.load (.array (rows.map Definition.toJson)) =
      (.ok rows.length, ⟨s.rows ++ rows, s.lookups⟩)) ∧
    (∀ (items : List Json) (members : List (String × Json)), .object members ∈ items →
      Definition.Faulty members →
        ∃ cause, s.load (.array items) = (.error (.invalidDefinitions cause), s)) ∧
    ∀ (before after : List Json) (row : Json → Json) (tag : String), Definition.KindPlace row →
      tag ∉ ["String", "Numeric", "Boolean", "DateTime"] →
        let loaded (kind : Json) := s.load (.array (before ++ row kind :: after))
        (∀ err, (loaded .null).1 = .error err → loaded (.string tag) = (.error err, s)) ∧
        ∀ count, (loaded .null).1 = .ok count → ∃ earlier d later,
          earlier.length = before.length ∧
          (loaded .null).2 = ⟨s.rows ++ (earlier ++ d :: later), s.lookups⟩ ∧
          loaded (.string tag) = (.ok count,
            ⟨s.rows ++ (earlier ++ { d with kind := some .unknown } :: later), s.lookups⟩) := by
  refine ⟨?_, ?_, ?_⟩
  · intro rows
    exact Store.load_of_read (Definition.listOf_map_toJson rows)
  · intro items members there faulty
    cases read : Definition.listOf items with
    | error cause => exact ⟨cause, Store.load_of_refused read⟩
    | ok rows =>
      obtain ⟨before, after, rfl⟩ := List.append_of_mem there
      rw [Definition.listOf_append_cons] at read
      obtain ⟨_, -, read⟩ := Json.decoded_bind_eq_ok.mp read
      obtain ⟨row, read, -⟩ := Json.decoded_bind_eq_ok.mp read
      exact absurd read (Definition.ofJson_of_faulty faulty row)
  · intro before after row tag place unlisted loaded
    have unknown : Json.optional Kind.ofJson (.string tag) = .ok (some .unknown) := by
      rw [← Kind.ofName_of_unlisted unlisted]
      rfl
    obtain ⟨fails, reads⟩ := place.listOf_cases unknown before after
    cases read : Definition.listOf (before ++ row .null :: after) with
    | error cause =>
      simp only [loaded, Store.load_of_refused read, Store.load_of_refused (fails cause read)]
      exact ⟨fun err same => by rw [Except.error.inj same], nofun⟩
    | ok rows =>
      obtain ⟨earlier, d, later, length, rfl, changed⟩ := reads rows read
      simp only [loaded, Store.load_of_read read, Store.load_of_read changed]
      refine ⟨nofun, ?_⟩
      intro count same
      cases same
      exact ⟨earlier, d, later, length, rfl, by simp⟩

namespace Sample

def signup : Definition := ⟨7, "signup", some .person, some .dateTime⟩

end Sample

/-- A row that was written loads, but not along with a row that has no team; and a row from
before there were scopes loads with a kind that is not known any more. -/
theorem loads_of_signup_and_legacy :
    let s : Store := ⟨[Sample.signup], 3⟩
    (∃ cause, s.load (.array [Sample.signup.toJson, .object [("name", .string "teamless")]]) =
      (.error (.invalidDefinitions cause), s)) ∧
    s.load (.array [Sample.signup.toJson, .object [("name", .string "legacy"),
        ("property_type", .string "Duration"), ("team_id", .int 7)]]) =
      (.ok 2, ⟨[Sample.signup, Sample.signup, ⟨7, "legacy", none, some .unknown⟩], 3⟩) := by
  intro s
  obtain ⟨-, refuses, unlisted⟩ := load_takes_all_rows_or_none s
  refine ⟨refuses _ [("name", .string "teamless")] (by simp) (.noTeam (by simp)), ?_⟩
  have place : Definition.KindPlace _ :=
    .member [("name", .string "legacy")] [("team_id", .int 7)] (by decide)
  obtain ⟨-, loads⟩ := unlisted [Sample.signup.toJson] [] _ "Duration" place (by decide)
  obtain ⟨earlier, d, later, length, plain, loaded⟩ := loads 2 rfl
  have rows : [Sample.signup] ++ [Sample.signup, ⟨7, "legacy", none, none⟩] =
      [Sample.signup] ++ (earlier ++ d :: later) := congrArg Store.rows plain
  obtain ⟨first, rfl⟩ := List.length_eq_one_iff.mp length
  cases rows
  exact loaded

end QueryCoercion
