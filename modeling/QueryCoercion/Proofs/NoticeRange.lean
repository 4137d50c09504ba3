import QueryCoercion.Proofs.Notices

namespace QueryCoercion

namespace Text

def bytes (text : String) : List UInt8 := text.toByteArray.data.toList

/-- The bytes of a text from one place up to another, if it has them. -/
def slice? (text : String) (start stop : Nat) : Option (List UInt8) :=
  if start ≤ stop ∧ stop ≤ (bytes text).length then some (((bytes text).take stop).drop start)
  else none

theorem length_bytes (text : String) : (bytes text).length = text.utf8ByteSize := by
  simp [bytes]

theorem bytes_append (s t : String) : bytes (s ++ t) = bytes s ++ bytes t := by
  simp [bytes]

theorem slice?_eq_some_iff {text : String} {start stop : Nat} {part : List UInt8} :
    slice? text start stop = some part ↔
      ∃ before after, bytes text = before ++ part ++ after ∧ before.length = start ∧
        start + part.length = stop := by
  constructor
  · intro sliced
    unfold slice? at sliced
    split at sliced
    · rename_i inside
      cases sliced
      refine ⟨(bytes text).take start, (bytes text).drop stop, ?_, ?_, ?_⟩
      · have cut : ((bytes text).take stop).take start = (bytes text).take start := by
          rw [List.take_take, Nat.min_eq_left inside.1]
        rw [← cut, List.take_append_drop, List.take_append_drop]
      · rw [List.length_take]
        omega
      · rw [List.length_drop, List.length_take]
        omega
    · cases sliced
  · rintro ⟨before, after, split, rfl, rfl⟩
    have inside : before.length + part.length ≤ (bytes text).length := by simp [split]
    have taken : (bytes text).take (before.length + part.length) = before ++ part := by
      rw [split, ← List.length_append, List.take_left]
    rw [slice?, if_pos ⟨Nat.le_add_right _ _, inside⟩, taken, List.drop_left]

theorem slice?_of_suffix {text : String} {start stop : Nat} {part ending : List UInt8}
    (sliced : slice? text start stop = some part) (ends : ending <:+ part) :
    start ≤ stop - ending.length ∧ slice? text (stop - ending.length) stop = some ending := by
  obtain ⟨before, after, split, rfl, rfl⟩ := slice?_eq_some_iff.mp sliced
  obtain ⟨front, rfl⟩ := ends
  have place : before.length + (front ++ ending).length - ending.length =
      (before ++ front).length := by
    simp only [List.length_append]
    omega
  rw [place]
  refine ⟨by simp, slice?_eq_some_iff.mpr ⟨before ++ front, after, ?_, rfl, ?_⟩⟩
  · simp [split]
  · simp [Nat.add_assoc]

end Text

theorem intercalate_of_last {α : Type} (separator : List α) {parts : List (List α)} {last : List α}
    (ends : parts.getLast? = some last) :
    ∃ front, separator.intercalate parts = front ++ last := by
  induction parts with
  | nil => cases ends
  | cons part rest ih =>
    cases rest with
    | nil =>
      cases ends
      exact ⟨[], by simp⟩
    | cons next others =>
      rw [List.getLast?_cons_cons] at ends
      obtain ⟨front, joined⟩ := ih ends
      refine ⟨part ++ separator ++ front, ?_⟩
      rw [List.intercalate_cons_cons, joined, ← List.append_assoc]

theorem Field.render_of_last {f : Field} {last : String} (named : f.chain.getLast? = some last) :
    ∃ front, f.render = front ++ Identifier.render last := by
  have ends : (f.chain.map fun name => Identifier.chars name.toList).getLast? =
      some (Identifier.chars last.toList) := by
    rw [List.getLast?_map, named]
    rfl
  obtain ⟨front, printed⟩ := intercalate_of_last ['.'] ends
  refine ⟨String.ofList front, ?_⟩
  rw [render, chars, printed, String.ofList_append]
  rfl

theorem Notice.range_spec (span : Span) (label : String) :
    ∃ s, range (some span) label = (some s, some span.stop) ∧
      s = max span.start (span.stop - (Text.bytes (Identifier.render label)).length) ∧
      span.start ≤ s ∧ s ≤ max span.start span.stop ∧ (span.start ≤ span.stop → s ≤ span.stop) := by
  refine ⟨_, rfl, by rw [Text.length_bytes], by omega, by omega, by omega⟩

/-- The notice about a loose read of known kind, which follows those about the reads to its
left, ends where the read ends and starts within it, whatever the two ends of the read are.
In any text that has the last name of the read, as it is printed, at the end of the read, the
notice is about the bytes of this name; so it is in particular in a text that has the read
as it is printed. -/
theorem notice_is_about_last_name (r : Rules) (log : List Notice) (e : Expr) (i : Nat) (x : Report)
    (span : Span) (tells : r.Tells e i x) (spanned : x.field.span = some span) :
    ∃ earlier later s, Enumerates earlier (fun j y => j < i ∧ r.Tells e j y) ∧
      (r.run (some log) e).log =
        some (log ++ earlier.map (fun y => y.2.notice) ++ x.notice :: later) ∧
      x.notice.start = some s ∧ x.notice.stop = some span.stop ∧
      span.start ≤ s ∧ s ≤ max span.start span.stop ∧ (span.start ≤ span.stop → s ≤ span.stop) ∧
      ∀ last, x.field.chain.getLast? = some last → ∀ text,
        (∀ part, Text.slice? text span.start span.stop = some part →
          Text.bytes (Identifier.render last) <:+ part →
          Text.slice? text s span.stop = some (Text.bytes (Identifier.render last))) ∧
        (Text.slice? text span.start span.stop = some (Text.bytes (Expr.field x.field).render) →
          Text.slice? text s span.stop = some (Text.bytes (Identifier.render last))) := by
  obtain ⟨told, listed, reports⟩ := r.exists_told e
  obtain ⟨earlier, later, rfl⟩ := List.append_of_mem ((listed.mem_iff i x).mpr tells)
  obtain ⟨s, ranged, start, lower, upper, ordered⟩ :=
    Notice.range_spec span (Notice.label x.field x.name)
  have logged : (r.run (some log) e).log = some (log ++ earlier.map (fun y => y.2.notice) ++
      x.notice :: later.map fun y => y.2.notice) := by
    rw [r.run_log, ← reports]
    simp [Function.comp_def]
  refine ⟨earlier, _, s, listed.before, logged, ?_, ?_, lower, upper, ordered, ?_⟩
  · simp only [Report.notice, Notice.ofRead, spanned, ranged]
  · simp only [Report.notice, Notice.ofRead, spanned, ranged]
  · intro last named text
    have label : Notice.label x.field x.name = last := by
      simp [Notice.label, Field.last?, named]
    have ending (part : List UInt8) (sliced : Text.slice? text span.start span.stop = some part)
        (ends : Text.bytes (Identifier.render last) <:+ part) :
        Text.slice? text s span.stop = some (Text.bytes (Identifier.render last)) := by
      obtain ⟨fits, found⟩ := Text.slice?_of_suffix sliced ends
      -- the name fits into the field, so its start is not moved up to that of the field
      have place : s = span.stop - (Text.bytes (Identifier.render last)).length := by
        rw [start, label]
        exact Nat.max_eq_right fits
      rw [place, found]
    refine ⟨ending, ?_⟩
    intro sliced
    obtain ⟨front, printed⟩ := Field.render_of_last named
    apply ending _ sliced
    rw [Expr.render, printed, Text.bytes_append]
    exact List.suffix_append _ _

namespace Sample

/-- A read by a name that is not plain and has letters of two bytes. -/
def size : Field :=
  ⟨["properties", "größe\x60"],
    some (.property ⟨["größe\x60"], ⟨"properties", events⟩⟩), some ⟨7, 29⟩⟩

def sizes : Typing := ⟨.ofList [("größe\x60", .numeric)], .empty⟩

/-- The same read twice, of which the author has converted one. -/
def bothSizes : Expr :=
  .group .tuple [.call "toFloat" [.field { size with span := none }] none,
    .negation (.field size)]

def sizeQuery : String := "SELECT properties.\x60größe\\\x60\x60 FROM events"

end Sample

theorem notice_is_about_size :
    Rules.Tells ⟨"UTC", Sample.sizes⟩ Sample.bothSizes 1 ⟨Sample.size, "größe\x60", .numeric⟩ ∧
    Text.slice? Sample.sizeQuery 7 29 = some (Text.bytes (Expr.field Sample.size).render) ∧
    ∃ s, (Report.notice ⟨Sample.size, "größe\x60", .numeric⟩).start = some s ∧
      Text.slice? Sample.sizeQuery s 29 = some (Text.bytes "\x60größe\\\x60\x60") := by
  have tells : Rules.Tells ⟨"UTC", Sample.sizes⟩ Sample.bothSizes 1
      ⟨Sample.size, "größe\x60", .numeric⟩ :=
    Rules.tells_iff.mpr ⟨⟨Sample.size, none⟩, rfl, rfl⟩
  have printed : Text.slice? Sample.sizeQuery 7 29 =
      some (Text.bytes (Expr.field Sample.size).render) := by decide
  obtain ⟨_, _, s, -, -, start, -, -, -, -, about⟩ :=
    notice_is_about_last_name _ [] _ 1 _ ⟨7, 29⟩ tells rfl
  exact ⟨tells, printed, s, start, (about "größe\x60" rfl Sample.sizeQuery).2 printed⟩

end QueryCoercion
