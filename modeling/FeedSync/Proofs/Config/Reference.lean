import FeedSync.Proofs.Config.TextField
import FeedSync.Proofs.Yaml.Value

/-!
# Values of environment variables in the configuration

References are expanded before the text is read, so the value of a variable becomes part of the
text and is read as whatever it looks like there. A value that looks like a plain scalar is read
back as it is. Where such a value stands alone as the text of a field, the configuration has it in
that field, and does not depend on it in any other way.

## Main definitions

* `IsFieldText`: a value stands alone in a text and is the text of a field.
* `WrittenAsReference`: a field whose text is a reference to a variable.

## Main statements

* `ofText?_of_isFieldText`: the configuration with another value in its place.
* `plain_values_are_data`: the value of the variable is data.
-/

namespace FeedSync.Config

open Yaml

/-- **A value is the text of a field**: it stands alone in a text, and the document holds it once,
as the plain text at a path. -/
structure IsFieldText (before gap : List Char) (value : String) (back : List Char)
    (path : List String) : Prop where
  alone : StandsAlone before gap value back
  exists_document : ∃ tokens ∈ tokens? (String.ofList (before ++ gap ++ value.toList ++ back)),
    tokens.count (.scalar value .plain) = 1 ∧
    ∃ document ∈ (Content.ofTokens? tokens).bind Content.document?, document.HoldsAt path value

variable {before gap back : List Char} {u v : String} {field : TextField}

theorem isEmpty_of_isPlainText (hv : isPlainText v = true) : v.isEmpty = false := by
  obtain ⟨x, r, hr, -⟩ := Lexer.exists_of_isPlainText hv
  rw [← Bool.not_eq_true, String.isEmpty_iff]
  rintro rfl
  cases hr

/-- Renaming a text leaves the tokens as they are that do not have it. -/
theorem map_rename_of_not_mem {ts : List Token} (h : Token.scalar u .plain ∉ ts) :
    ts.map (Token.rename (Function.update id u v)) = ts := by
  refine (List.map_congr_left fun token htoken => ?_).trans (List.map_id ts)
  cases token with
  | scalar text style =>
    cases style with
    | plain =>
      have hne : text ≠ u := by
        rintro rfl
        exact h htoken
      rw [Token.rename, Function.update_of_ne hne]
      rfl
    | quoted | literal | folded => rfl
  | _ => rfl

/-- Renaming a text changes the token that has it, if there is one only. -/
theorem map_rename_of_count {ts ts' : List Token}
    (honce : (ts ++ Token.scalar u .plain :: ts').count (.scalar u .plain) = 1) :
    (ts ++ Token.scalar u .plain :: ts').map (Token.rename (Function.update id u v)) =
      ts ++ .scalar v .plain :: ts' := by
  rw [List.count_append, List.count_cons_self] at honce
  rw [List.map_append, List.map_cons, Token.rename, Function.update_self,
    map_rename_of_not_mem (List.count_eq_zero.mp (by omega)),
    map_rename_of_not_mem (List.count_eq_zero.mp (by omega))]

theorem ofText?_of_document {text : String} {tokens : List Token} {document : Document}
    (htokens : tokens? text = some tokens)
    (hdocument : Content.ofTokens? tokens = some (.document document)) :
    record.ofText? text = record.reader document document.root := by
  have hcontent : Content.ofText? text = some (.document document) := by
    rw [Content.ofText?_eq, htokens, Option.bind_some, hdocument]
  rw [Record.ofText?, hcontent]
  rfl

/-- **The configuration with another value in the place of a field's text** has that value in the
field, and is the same otherwise. -/
theorem ofText?_of_isFieldText (h : IsFieldText before gap u back field.path)
    (hv : isPlainText v = true) (hle : u.toList.length ≤ v.toList.length)
    (hnull : field = .databaseUrl → isNull u = false ∧ isNull v = false) :
    record.ofText? (String.ofList (before ++ gap ++ v.toList ++ back)) =
      (record.ofText? (String.ofList (before ++ gap ++ u.toList ++ back))).map
        fun c => field.put v c := by
  obtain ⟨_, htokens, honce, document, hdocument, hholds⟩ := h.exists_document
  replace hdocument := Content.ofTokens?_of_document? hdocument
  obtain ⟨ts, ts', rfl, htokens'⟩ := tokens?_of_standsAlone h.alone hv hle htokens
  have hu := isEmpty_of_isPlainText h.alone.isPlainText
  let f := Function.update id u v
  have hf : ∀ other, other ≠ u → f other = other := fun other hne => Function.update_of_ne hne ..
  have hfu : f u = v := Function.update_self ..
  have hempty : f "" = "" := hf "" (by rintro rfl; cases hu)
  have hdocument' : Content.ofTokens? (ts ++ .scalar v .plain :: ts') =
      some (.document { document with root := document.root.rename f }) := by
    rw [← map_rename_of_count honce, Content.ofTokens?_rename hempty, hdocument,
      ← hholds.rename_eq hf]
    rfl
  rw [ofText?_of_document htokens hdocument, ofText?_of_document htokens' hdocument',
    ignoresRoot_record.reader.read, ← hfu]
  exact reader_of_at? hholds.once hf hholds.at_path hu (hfu ▸ isEmpty_of_isPlainText hv)
    (hfu ▸ hnull)

/-! ### References -/

/-- A value that a field can have: it looks like a plain scalar, and does not mean that nothing is
given. -/
def TextField.Admits (field : TextField) (v : String) : Prop :=
  isPlainText v = true ∧ (field = .databaseUrl → isNull v = false)

/-- **A field that is written as a reference** to a variable: the text has one reference to it, and
a value of one character in its place would be the text of the field. -/
def WrittenAsReference (env : Environment) (text name : String) (field : TextField) : Prop :=
  ∃ (front back : List Piece) (before gap : List Char) (mark : Char),
    pieces text.toList = front ++ .reference name.toList :: back ∧
    Piece.reference name.toList ∉ front ++ back ∧
    front.flatMap (Piece.expand env) = before ++ gap ∧
    field.Admits (String.singleton mark) ∧
    IsFieldText before gap (String.singleton mark) (back.flatMap (Piece.expand env)) field.path

/-- The environment with a value for a variable. -/
def assign (env : Environment) (name v : String) : Environment := Function.update env name (some v)

theorem flatMap_expand_assign {env : Environment} {name : String} {ps : List Piece}
    (h : Piece.reference name.toList ∉ ps) :
    ps.flatMap (Piece.expand (assign env name v)) = ps.flatMap (Piece.expand env) := by
  refine List.flatMap_congr fun p hp => ?_
  cases p with
  | other c => rfl
  | reference cs =>
    have hne : String.ofList cs ≠ name := by
      rintro rfl
      exact h (by rwa [String.toList_ofList])
    rw [Piece.expand, Piece.expand, assign, Function.update_of_ne hne]

/-- A text with one reference to a variable has its value there. -/
theorem expand_assign {env : Environment} {text name : String} {front back : List Piece}
    (hpieces : pieces text.toList = front ++ .reference name.toList :: back)
    (honce : Piece.reference name.toList ∉ front ++ back) :
    expand (assign env name v) text =
      String.ofList (front.flatMap (Piece.expand env) ++ v.toList ++
        back.flatMap (Piece.expand env)) := by
  rw [List.mem_append, not_or] at honce
  obtain ⟨hfront, hback⟩ := honce
  rw [expand, hpieces, List.flatMap_append, List.flatMap_cons, flatMap_expand_assign hfront,
    flatMap_expand_assign hback, Piece.expand, String.ofList_toList, assign, Function.update_self,
    List.append_assoc]
  rfl

/-- Completes a configuration that was read, and refuses it if it cannot work. -/
def finish : Option Config → Except ConfigError Config
  | none => .error .unreadable
  | some c => do
    c.complete.validate
    return c.complete

theorem ofYaml_eq (env : Environment) (text : String) :
    ofYaml env text = finish (record.ofText? (expand env text)) := by
  unfold ofYaml finish
  cases record.ofText? (expand env text) <;> rfl

theorem finish_put {field : TextField} (hu : u.isEmpty = false) (hv : v.isEmpty = false)
    (read : Option Config) :
    finish (read.map fun c => field.put v c) =
      (finish (read.map fun c => field.put u c)).map fun c => field.put v c := by
  cases read with
  | none => rfl
  | some c =>
    rw [Option.map_some, Option.map_some, finish, finish, TextField.complete_put hu,
      TextField.complete_put hv, TextField.validate_put hu hv]
    cases (field.put u c.complete).validate with
    | error e => rfl
    | ok _ => exact congrArg Except.ok (field.put_put u v c.complete).symm

theorem get_of_finish_put {field : TextField} (hv : v.isEmpty = false) {read : Option Config}
    {c : Config} (h : finish (read.map fun c => field.put v c) = .ok c) :
    field.get c = some v := by
  cases read with
  | none => cases h
  | some c₀ =>
    rw [Option.map_some, finish, TextField.complete_put hv] at h
    cases hvalid : (field.put v c₀.complete).validate with
    | error e =>
      rw [hvalid] at h
      cases h
    | ok _ =>
      rw [hvalid] at h
      cases h
      exact field.get_put v c₀.complete

/-- **The value of a variable is data** where a field is written as a reference to it: the field has
exactly that value, and everything else in the configuration, and whether there is one, is the same
for all values that look like plain scalars. -/
theorem plain_values_are_data {env : Environment} {text name v w : String} {field : TextField}
    (h : WrittenAsReference env text name field) (hv : field.Admits v) (hw : field.Admits w) :
    (∀ c, ofYaml (assign env name v) text = .ok c → field.get c = some v) ∧
      ofYaml (assign env name w) text =
        (ofYaml (assign env name v) text).map fun c => field.put w c := by
  obtain ⟨front, back, before, gap, mark, hpieces, honce, hfront, hmark, hfield⟩ := h
  have hread {v : String} (hv : field.Admits v) : record.ofText? (expand (assign env name v) text) =
      (record.ofText? (String.ofList (before ++ gap ++ (String.singleton mark).toList ++
        back.flatMap (Piece.expand env)))).map fun c => field.put v c := by
    rw [expand_assign hpieces honce, hfront]
    refine ofText?_of_isFieldText hfield hv.1 ?_ fun hurl => ⟨hmark.2 hurl, hv.2 hurl⟩
    obtain ⟨x, r, hr, -⟩ := Lexer.exists_of_isPlainText hv.1
    simp [hr]
  rw [ofYaml_eq, ofYaml_eq, hread hv, hread hw]
  exact ⟨fun c => get_of_finish_put (isEmpty_of_isPlainText hv.1),
    finish_put (isEmpty_of_isPlainText hv.1) (isEmpty_of_isPlainText hw.1) _⟩

/-- A configuration with the credentials of the database from the environment. -/
def withCredentials : String :=
  "database:\n  user: $\x7bDB_USER\x7d\n  password: $\x7bDB_PASSWORD\x7d\n\n" ++
    "api:\n  base_url: https://example.com/\n"

/-- An environment with a name for the database. -/
def userOnly : Environment := assign (fun _ => none) "DB_USER" "sync"

theorem writtenAsReference_withCredentials :
    WrittenAsReference userOnly withCredentials "DB_PASSWORD" .databasePassword := by
  refine ⟨"database:\n  user: ".toList.map .other ++
      .reference "DB_USER".toList :: "\n  password: ".toList.map .other,
    "\n\napi:\n  base_url: https://example.com/\n".toList.map .other,
    "database:\n  user: sync\n  password:".toList, [' '], 'x', by decide +kernel,
    by decide +kernel, by decide +kernel, ⟨by decide, by decide⟩, ⟨by decide, rfl, rfl, 7, ?_⟩, ?_⟩
  · decide +kernel
  · decide +kernel

/-- A number sign inside a password and an apostrophe are nothing special. -/
theorem password_is_data :
    WrittenAsReference userOnly withCredentials "DB_PASSWORD" .databasePassword ∧
      TextField.databasePassword.Admits "p#1" ∧ TextField.databasePassword.Admits "it's, 5" ∧
      ((∀ c, ofYaml (assign userOnly "DB_PASSWORD" "p#1") withCredentials = .ok c →
          TextField.databasePassword.get c = some "p#1") ∧
        ofYaml (assign userOnly "DB_PASSWORD" "it's, 5") withCredentials =
          (ofYaml (assign userOnly "DB_PASSWORD" "p#1") withCredentials).map fun c =>
            TextField.databasePassword.put "it's, 5" c) ∧
      (ofYaml (assign userOnly "DB_PASSWORD" "p#1") withCredentials).isOk = true :=
  have hv : TextField.databasePassword.Admits "p#1" := ⟨by decide, by decide⟩
  have hw : TextField.databasePassword.Admits "it's, 5" := ⟨by decide, by decide⟩
  ⟨writtenAsReference_withCredentials, hv, hw,
    plain_values_are_data writtenAsReference_withCredentials hv hw, by decide +kernel⟩

/-- **Other values are read as what they look like**: a password ends at a comment, and a bracket
makes the text unreadable. -/
theorem values_are_syntax :
    WrittenAsReference userOnly withCredentials "DB_PASSWORD" .databasePassword ∧
      (ofYaml (assign userOnly "DB_PASSWORD" "a # b") withCredentials).map
        (TextField.databasePassword.get ·) = .ok (some "a") ∧
      ofYaml (assign userOnly "DB_PASSWORD" "[") withCredentials = .error .unreadable :=
  ⟨writtenAsReference_withCredentials, by decide +kernel, by decide +kernel⟩

end FeedSync.Config
