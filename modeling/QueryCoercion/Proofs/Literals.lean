import QueryCoercion.Proofs.Delimited
import QueryCoercion.Proofs.Passes
import QueryCoercion.Proofs.Policy

namespace QueryCoercion

theorem SelfDelimiting.of_read {α : Type} {write : α → List Char}
    {read : List Char → Option (α × List Char)}
    (reads : ∀ a rest, read (write a ++ rest) = some (a, rest)) : SelfDelimiting write := by
  intro a b r s same
  have first := reads a r
  rw [same, reads b s] at first
  cases first
  exact ⟨rfl, rfl⟩

namespace Literal

/-- Puts a text in the place of every occurrence of a character. -/
def replace (mark : Char) (other : List Char) (text : List Char) : List Char :=
  text.flatMap fun c => if c = mark then other else [c]

/-- Reads on to the first quote that no backslash announces: what stands before it, and the
text behind it. -/
def inside? : List Char → Option (List Char × List Char)
  | [] => none
  | '\x27' :: rest => some ([], rest)
  | '\\' :: c :: rest => (inside? rest).map fun found => (c :: found.1, found.2)
  | c :: rest => (inside? rest).map fun found => (c :: found.1, found.2)

/-- Reads a literal from the start of a text. -/
def read? : List Char → Option (List Char × List Char)
  | '\x27' :: rest => inside? rest
  | _ => none

theorem escapeChar_cases (c : Char) :
    (c = '\\' ∨ c = '\x27') ∧ escapeChar c = ['\\', c] ∨
      c ≠ '\\' ∧ c ≠ '\x27' ∧ escapeChar c = [c] := by
  by_cases special : c = '\\' ∨ c = '\x27'
  · exact .inl ⟨special, if_pos special⟩
  · obtain ⟨first, second⟩ := not_or.mp special
    exact .inr ⟨first, second, if_neg special⟩

/-- The quotes are escaped after the backslashes, so the backslashes before them stay single. -/
theorem flatMap_escapeChar_eq_replace (text : List Char) :
    text.flatMap escapeChar =
      replace '\x27' ['\\', '\x27'] (replace '\\' ['\\', '\\'] text) := by
  rw [replace, replace, List.flatMap_assoc]
  apply List.flatMap_congr
  intro c _
  rcases escapeChar_cases c with ⟨rfl | rfl, written⟩ | ⟨first, second, written⟩
  · rfl
  · rfl
  · simp [written, first, second]

theorem inside?_escaped (text rest : List Char) :
    inside? (text.flatMap escapeChar ++ '\x27' :: rest) = some (text, rest) := by
  induction text with
  | nil => rfl
  | cons c text ih =>
    rw [List.flatMap_cons, List.append_assoc]
    rcases escapeChar_cases c with ⟨-, written⟩ | ⟨first, second, written⟩
    · rw [written]
      simp [inside?, ih]
    · rw [written]
      simp [inside?, ih, first]

theorem read?_chars_append (text rest : List Char) :
    read? (chars text ++ rest) = some (text, rest) := by
  have opened : chars text ++ rest = '\x27' :: (text.flatMap escapeChar ++ '\x27' :: rest) := by
    simp [chars]
  rw [opened]
  exact inside?_escaped text rest

theorem selfDelimiting_chars : SelfDelimiting chars := .of_read read?_chars_append

end Literal

theorem Constant.toList_render_string (s : String) :
    (Constant.string s).render.toList = Literal.chars s.toList := by
  simp [render, Literal.render]

theorem Coercion.render_toTimeZone (timezone : String) (f : Field) :
    ((toTimeZone timezone).wrap f).render =
      "toTimeZone(" ++ f.render ++ ", " ++ (Constant.string timezone).render ++ ")" := by
  simp [wrap, Expr.render, Expr.renderAll, String.append_assoc]

namespace Rules

theorem render_of_isDateTime (r : Rules) {f : Field} (dated : f.isDateTime = true) :
    (r.coerce f).render =
      "toTimeZone(" ++ f.render ++ ", " ++ (Constant.string r.timezone).render ++ ")" := by
  rw [coerce_of_some (r.coercion?_of_isDateTime dated), Coercion.render_toTimeZone]

theorem toList_render_of_isDateTime (r : Rules) {f : Field} (dated : f.isDateTime = true) :
    (r.coerce f).render.toList = "toTimeZone(".toList ++
      (f.chars ++ ',' :: ' ' :: (Literal.chars r.timezone.toList ++ [')'])) := by
  rw [r.render_of_isDateTime dated]
  simp [Constant.toList_render_string, Field.render]

theorem render_append_inj {r r' : Rules} {f g : Field} {rest other : String}
    (dated : f.isDateTime = true) (dated' : g.isDateTime = true)
    (same : (r.coerce f).render ++ rest = (r'.coerce g).render ++ other) :
    f.chain = g.chain ∧ r.timezone = r'.timezone ∧ rest = other := by
  have texts := congrArg String.toList same
  rw [String.toList_append, String.toList_append, r.toList_render_of_isDateTime dated,
    r'.toList_render_of_isDateTime dated'] at texts
  simp only [List.append_assoc, List.cons_append, List.nil_append] at texts
  obtain ⟨names, behind⟩ :=
    Field.chars_append_inj (.comma _) (.comma _) (List.append_cancel_left texts)
  have literals := (List.cons.inj (List.cons.inj behind).2).2
  obtain ⟨zones, rests⟩ := Literal.selfDelimiting_chars _ _ _ _ literals
  have after : rest.toList = other.toList := (List.cons.inj rests).2
  exact ⟨names, String.toList_inj.mp zones, String.toList_inj.mp after⟩

theorem render_congr {r r' : Rules} {f g : Field} (dated : f.isDateTime = true)
    (dated' : g.isDateTime = true) (names : f.chain = g.chain)
    (zones : r.timezone = r'.timezone) : (r.coerce f).render = (r'.coerce g).render := by
  have fields : f.render = g.render := by
    simp only [Field.render, Field.chars, names]
  rw [r.render_of_isDateTime dated, r'.render_of_isDateTime dated', fields, zones]

end Rules

/-- A literal is its text between quotes, with a backslash put before every backslash and then
one before every quote. Whatever follows it, it ends at its closing quote, so it can be told
from the rest and determines the text. So the conversion of a column of date and time
determines the timezone, and the names of the column as well. -/
theorem literal_ends_at_its_quote :
    (∀ s : String, (Constant.string s).render.toList = '\x27' :: (Literal.replace '\x27'
      ['\\', '\x27'] (Literal.replace '\\' ['\\', '\\'] s.toList) ++ ['\x27'])) ∧
    (∀ s rest : String, Literal.read? ((Constant.string s).render ++ rest).toList =
      some (s.toList, rest.toList)) ∧
    (∀ s t rest other : String,
      (Constant.string s).render ++ rest = (Constant.string t).render ++ other ↔
        s = t ∧ rest = other) ∧
    ∀ (r r' : Rules) (f g : Field), f.isDateTime = true → g.isDateTime = true →
      (r.coerce f).render =
        "toTimeZone(" ++ f.render ++ ", " ++ (Constant.string r.timezone).render ++ ")" ∧
      ∀ rest other : String, (r.coerce f).render ++ rest = (r'.coerce g).render ++ other ↔
        f.chain = g.chain ∧ r.timezone = r'.timezone ∧ rest = other := by
  refine ⟨?_, ?_, ?_, ?_⟩
  · intro s
    rw [Constant.toList_render_string, Literal.chars, Literal.flatMap_escapeChar_eq_replace]
  · intro s rest
    rw [String.toList_append, Constant.toList_render_string, Literal.read?_chars_append]
  · intro s t rest other
    constructor
    · intro same
      have texts : Literal.chars s.toList ++ rest.toList =
          Literal.chars t.toList ++ other.toList := by
        simpa [Constant.toList_render_string] using congrArg String.toList same
      obtain ⟨values, rests⟩ := Literal.selfDelimiting_chars _ _ _ _ texts
      exact ⟨String.toList_inj.mp values, String.toList_inj.mp rests⟩
    · rintro ⟨rfl, rfl⟩
      rfl
  · intro r r' f g dated dated'
    refine ⟨r.render_of_isDateTime dated, ?_⟩
    intro rest other
    constructor
    · exact Rules.render_append_inj dated dated'
    · rintro ⟨names, zones, rfl⟩
      rw [Rules.render_congr dated dated' names zones]

/-- A timezone that ends with a backslash is not taken for one with a quote in it, whatever
stands behind the conversions. -/
theorem timezones_of_backslash_and_quote :
    Sample.timestamp.isDateTime = true ∧
    ∀ rest other : String,
      (Rules.coerce ⟨"a\\", .empty⟩ Sample.timestamp).render ++ rest ≠
        (Rules.coerce ⟨"a'", .empty⟩ Sample.timestamp).render ++ other := by
  have dated : Sample.timestamp.isDateTime = true := by decide
  refine ⟨dated, ?_⟩
  intro rest other same
  obtain ⟨-, -, -, conversions⟩ := literal_ends_at_its_quote
  obtain ⟨-, told⟩ :=
    conversions ⟨"a\\", .empty⟩ ⟨"a'", .empty⟩ Sample.timestamp Sample.timestamp dated dated
  exact absurd ((told rest other).mp same).2.1 (by decide)

end QueryCoercion
