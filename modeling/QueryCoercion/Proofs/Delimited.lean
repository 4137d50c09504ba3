import QueryCoercion.Expr.Printer

/-!
Where a name ends in query text. A backquoted name ends at its own closing backquote, whatever
follows it, and a plain name at the first character that no plain name has. So the text of a
field determines its names, with all the points, backquotes and backslashes they may have.
-/
namespace QueryCoercion

/-- What was written can be told from any text that follows it. -/
def SelfDelimiting {α : Type} (write : α → List Char) : Prop :=
  ∀ a b r s, write a ++ r = write b ++ s → a = b ∧ r = s

/-- Between two marks, with every character written so that it can be told from what follows
and does not start like a mark, a text ends at the second mark. -/
theorem SelfDelimiting.quoted {write : Char → List Char} {mark : Char}
    (delimiting : SelfDelimiting write)
    (apart : ∀ c, ∃ first rest, write c = first :: rest ∧ first ≠ mark) :
    SelfDelimiting fun text : List Char => mark :: (text.flatMap write ++ [mark]) := by
  intro a b r s same
  simp only [List.cons_append, List.append_assoc, List.nil_append, List.cons.injEq,
    true_and] at same
  induction a generalizing b with
  | nil =>
    cases b with
    | nil => simpa using same
    | cons d text =>
      obtain ⟨first, rest, written, other⟩ := apart d
      simp only [List.flatMap_nil, List.flatMap_cons, written, List.nil_append, List.cons_append,
        List.cons.injEq] at same
      exact absurd same.1.symm other
  | cons c a ih =>
    cases b with
    | nil =>
      obtain ⟨first, rest, written, other⟩ := apart c
      simp only [List.flatMap_nil, List.flatMap_cons, written, List.nil_append, List.cons_append,
        List.cons.injEq] at same
      exact absurd same.1 other
    | cons d b =>
      simp only [List.flatMap_cons, List.append_assoc] at same
      obtain ⟨rfl, others⟩ := delimiting c d _ _ same
      obtain ⟨rfl, rest⟩ := ih b others
      exact ⟨rfl, rest⟩

namespace Identifier

/-- The character that a letter after a backslash stands for. -/
def escaped? : Char → Option Char
  | 'b' => some '\x08'
  | 'f' => some '\x0c'
  | 'r' => some '\r'
  | 'n' => some '\n'
  | 't' => some '\t'
  | '0' => some '\x00'
  | 'a' => some '\x07'
  | 'v' => some '\x0b'
  | '\\' => some '\\'
  | '\x60' => some '\x60'
  | _ => none

theorem escaped?_of_escapeLetter? {c letter : Char} (escapes : escapeLetter? c = some letter) :
    escaped? letter = some c := by
  unfold escapeLetter? at escapes
  split at escapes <;> cases escapes <;> rfl

theorem escapeChar_eq_cons (c : Char) :
    (∃ letter, escapeLetter? c = some letter ∧ escapeChar c = ['\\', letter]) ∨
      c ≠ '\\' ∧ c ≠ '\x60' ∧ escapeChar c = [c] := by
  unfold escapeChar
  cases escapes : escapeLetter? c with
  | some letter => exact .inl ⟨letter, rfl, rfl⟩
  | none =>
    refine .inr ⟨?_, ?_, rfl⟩
    · rintro rfl
      cases escapes
    · rintro rfl
      cases escapes

theorem selfDelimiting_escapeChar : SelfDelimiting escapeChar := by
  intro c d r s same
  rcases escapeChar_eq_cons c with ⟨l, escapes, written⟩ | ⟨plain, -, written⟩ <;>
    rcases escapeChar_eq_cons d with ⟨l', escapes', written'⟩ | ⟨plain', -, written'⟩ <;>
    rw [written, written'] at same
  · cases same
    have c_eq := escaped?_of_escapeLetter? escapes
    rw [escaped?_of_escapeLetter? escapes'] at c_eq
    exact ⟨(Option.some.inj c_eq).symm, rfl⟩
  · cases same
    exact absurd rfl plain'
  · cases same
    exact absurd rfl plain
  · cases same
    exact ⟨rfl, rfl⟩

theorem selfDelimiting_backquoted : SelfDelimiting backquoted := by
  apply selfDelimiting_escapeChar.quoted
  intro c
  rcases escapeChar_eq_cons c with ⟨letter, -, written⟩ | ⟨-, other, written⟩
  · exact ⟨_, _, written, by decide⟩
  · exact ⟨_, _, written, other⟩

theorem isRest_of_isStart {c : Char} (start : isStart c = true) : isRest c = true := by
  unfold isStart at start
  unfold isRest Char.isAlphanum
  simp only [Bool.or_eq_true] at start ⊢
  rcases start with (alpha | underscore) | dollar
  · exact .inl (.inl (.inl alpha))
  · exact .inl (.inr underscore)
  · exact .inr dollar

theorem isRest_of_isPlain {name : List Char} (plain : isPlain name = true) {c : Char}
    (there : c ∈ name) : isRest c = true := by
  cases name with
  | nil => cases there
  | cons first rest =>
    simp only [isPlain, Bool.and_eq_true, List.all_eq_true] at plain
    rcases List.mem_cons.mp there with rfl | later
    · exact isRest_of_isStart plain.1
    · exact plain.2 c later

theorem chars_eq_cons (name : List Char) :
    ∃ first rest, chars name = first :: rest ∧ first ≠ ',' := by
  unfold chars
  split
  · rename_i plain
    cases name with
    | nil => cases plain
    | cons first rest =>
      refine ⟨first, rest, rfl, ?_⟩
      rintro rfl
      simp only [isPlain, Bool.and_eq_true] at plain
      exact absurd plain.1 (by decide)
  · exact ⟨_, _, rfl, by decide⟩

/-- The rest of a text, behind a name of a field in it. -/
inductive Rest : List Char → Prop where
  | done : Rest []
  | point (text : List Char) : Rest ('.' :: text)
  | comma (text : List Char) : Rest (',' :: text)

theorem takeWhile_isRest {name rest : List Char} (plain : isPlain name = true) (ends : Rest rest) :
    (name ++ rest).takeWhile isRest = name := by
  rw [List.takeWhile_append_of_pos fun c there => isRest_of_isPlain plain there]
  cases ends with
  | done => exact List.append_nil name
  | point text => simp [show isRest '.' = false by decide]
  | comma text => simp [show isRest ',' = false by decide]

theorem not_isPlain_of_backquote {name text rest : List Char} (plain : isPlain name = true)
    (same : name ++ rest = '\x60' :: text) : False := by
  cases name with
  | nil => cases plain
  | cons first others =>
    cases same
    simp only [isPlain, Bool.and_eq_true] at plain
    exact absurd plain.1 (by decide)

theorem chars_append_inj {a b r s : List Char} (ends : Rest r) (ends' : Rest s)
    (same : chars a ++ r = chars b ++ s) : a = b ∧ r = s := by
  by_cases plain : isPlain a = true <;> by_cases plain' : isPlain b = true <;>
    simp only [chars, plain, plain', if_true, if_false, Bool.false_eq_true] at same
  · have names : a = b := by
      rw [← takeWhile_isRest plain ends, same, takeWhile_isRest plain' ends']
    subst names
    exact ⟨rfl, List.append_cancel_left same⟩
  · exact (not_isPlain_of_backquote plain same).elim
  · exact (not_isPlain_of_backquote plain' same.symm).elim
  · exact selfDelimiting_backquoted a b r s same

end Identifier

namespace Field

/-- What stands in the text of a field behind a name when these names are to come. -/
def charsAfter (names : List String) : List Char :=
  names.flatMap fun name => '.' :: Identifier.chars name.toList

/-- The rest of a text, behind a field in it. -/
inductive Rest : List Char → Prop where
  | done : Rest []
  | comma (text : List Char) : Rest (',' :: text)

theorem rest_charsAfter (names : List String) {rest : List Char} (ends : Rest rest) :
    Identifier.Rest (charsAfter names ++ rest) := by
  cases names with
  | nil =>
    cases ends with
    | done => exact .done
    | comma text => exact .comma text
  | cons name others => exact .point _

theorem charsAfter_append_inj {names others : List String} {r s : List Char} (ends : Rest r)
    (ends' : Rest s) (same : charsAfter names ++ r = charsAfter others ++ s) :
    names = others ∧ r = s := by
  induction names generalizing others with
  | nil =>
    cases others with
    | nil => exact ⟨rfl, same⟩
    | cons other rest => cases ends <;> cases same
  | cons name rest ih =>
    cases others with
    | nil => cases ends' <;> cases same
    | cons other others =>
      have joined : Identifier.chars name.toList ++ (charsAfter rest ++ r) =
          Identifier.chars other.toList ++ (charsAfter others ++ s) := by
        simpa [charsAfter] using same
      obtain ⟨first, later⟩ := Identifier.chars_append_inj (rest_charsAfter rest ends)
        (rest_charsAfter others ends') joined
      obtain ⟨rfl, rests⟩ := ih later
      exact ⟨by rw [String.toList_inj.mp first], rests⟩

theorem chars_of_cons {f : Field} {name : String} {rest : List String}
    (named : f.chain = name :: rest) :
    f.chars = Identifier.chars name.toList ++ charsAfter rest := by
  rw [chars, named]
  clear named
  induction rest generalizing name with
  | nil => simp [charsAfter]
  | cons next others ih =>
    have later := @ih next
    rw [List.map_cons] at later
    rw [List.map_cons, List.map_cons, List.intercalate_cons_cons, later]
    simp [charsAfter]

theorem chars_of_nil {f : Field} (nameless : f.chain = []) : f.chars = [] := by
  rw [chars, nameless]
  rfl

theorem not_rest_of_cons {f : Field} {name : String} {names : List String}
    (named : f.chain = name :: names) (s : List Char) : ¬ Rest (f.chars ++ s) := by
  obtain ⟨first, rest, written, other⟩ := Identifier.chars_eq_cons name.toList
  rw [chars_of_cons named, written]
  intro ends
  cases ends
  exact other rfl

theorem chars_append_inj {f g : Field} {r s : List Char} (ends : Rest r) (ends' : Rest s)
    (same : f.chars ++ r = g.chars ++ s) : f.chain = g.chain ∧ r = s := by
  cases left : f.chain with
  | nil =>
    rw [chars_of_nil left, List.nil_append] at same
    cases right : g.chain with
    | nil => exact ⟨rfl, by rw [same, chars_of_nil right, List.nil_append]⟩
    | cons other others => exact (not_rest_of_cons right s (same ▸ ends)).elim
  | cons name names =>
    cases right : g.chain with
    | nil =>
      rw [chars_of_nil right, List.nil_append] at same
      exact (not_rest_of_cons left r (same ▸ ends')).elim
    | cons other others =>
      rw [chars_of_cons left, chars_of_cons right] at same
      have pointed : charsAfter (name :: names) ++ r = charsAfter (other :: others) ++ s :=
        congrArg ('.' :: ·) same
      exact charsAfter_append_inj ends ends' pointed

theorem chain_of_chars {f g : Field} (same : f.chars = g.chars) : f.chain = g.chain :=
  (chars_append_inj .done .done (congrArg (· ++ []) same)).1

end Field

/-- Fields have the same text exactly if they have the same names, whatever characters these
have, and however many names there are. And a name that is not plain ends at its closing
backquote, whatever text follows it. -/
theorem field_text_tells_names :
    (∀ f g : Field, (Expr.field f).render = (Expr.field g).render ↔ f.chain = g.chain) ∧
    ∀ a b r s : String, Identifier.isPlain a.toList = false → Identifier.isPlain b.toList = false →
      (Identifier.render a ++ r = Identifier.render b ++ s ↔ a = b ∧ r = s) := by
  refine ⟨?_, ?_⟩
  · intro f g
    constructor
    · intro same
      exact Field.chain_of_chars (String.ofList_injective same)
    · intro same
      rw [Expr.render, Expr.render, Field.render, Field.render, Field.chars, Field.chars, same]
  · intro a b r s plain plain'
    constructor
    · intro same
      have texts : Identifier.backquoted a.toList ++ r.toList =
          Identifier.backquoted b.toList ++ s.toList := by
        simpa [Identifier.render, Identifier.chars, plain, plain'] using congrArg String.toList same
      obtain ⟨names, rests⟩ := Identifier.selfDelimiting_backquoted _ _ _ _ texts
      exact ⟨String.toList_inj.mp names, String.toList_inj.mp rests⟩
    · rintro ⟨rfl, rfl⟩
      rfl

/-- A point in a name does not divide it, and a backquote in a name does not end it. -/
theorem texts_of_marks_in_names :
    (Expr.field ⟨["a.b"], none, none⟩).render ≠ (Expr.field ⟨["a", "b"], none, none⟩).render ∧
    Identifier.isPlain "a\x60".toList = false ∧ Identifier.isPlain "a\\".toList = false ∧
    ∀ r s, Identifier.render "a\x60" ++ r ≠ Identifier.render "a\\" ++ s := by
  obtain ⟨fields, names⟩ := field_text_tells_names
  refine ⟨?_, by decide, by decide, ?_⟩
  · intro same
    exact absurd ((fields _ _).mp same) (by decide)
  · intro r s same
    exact absurd ((names _ _ r s (by decide) (by decide)).mp same).1 (by decide)

end QueryCoercion
