import DoubleEntry.Proofs.Text.Passing
import DoubleEntry.Proofs.Text.Layout
import DoubleEntry.Script.Basic

/-!
# Notes in front of a script

Statements are searched for in the text as it stands, also between quotes. A line with a
note on the transaction therefore adds just this note to the script behind it only if
nothing that begins between its quotes can be read as a send statement or as a note on an
account.
-/

namespace DoubleEntry

/-! ## Lines -/

namespace Note

/-- A call that notes a quoted text under a key. -/
def call (key value : Text) : Text :=
  ("set_tx_meta" : Text) ++ "(" ++ key.enclosed '"' '"' ++ ", " ++ value.enclosed '"' '"' ++ ")"

/-- The call on a line of its own. -/
def line (key value : Text) : Text := call key value ++ "\n"

/-- What a line begins with, up to the key. -/
def opening : Text := "set_tx_meta(\""

/-- What stands between the key and the value. -/
def between : Text := "\", \""

/-- What a line ends with, behind the value. -/
def closing : Text := "\")\n"

theorem line_eq (key value : Text) :
    line key value = opening ++ (key ++ (between ++ (value ++ closing))) := by
  unfold line call Text.enclosed
  simp only [List.append_assoc, List.cons_append, List.nil_append]
  rfl

theorem all_eq (script : Text) :
    all script = (Search.inOrder (Search.all Search.anywhere transactionNote script ++
      Search.all Search.anywhere accountNote script)).map Found.value := rfl

theorem comma_read {after : Text} (solid : Reader.Ends isBlank after) :
    comma ((", " : Text) ++ after) = some ((), after) := by
  have comma_solid : Reader.Ends isBlank ((", " : Text) ++ after) := Reader.ends_cons (by decide) _
  have sign : Reader.char (· = ',') ((", " : Text) ++ after) =
      some (.char ',', (" " : Text) ++ after) := Reader.char_some (by decide) _
  rw [comma, Reader.bind_some (Text.blanks_solid comma_solid), Reader.bind_some sign]
  exact Text.blanks_append (by decide) solid

theorem callHead_read (name : Text) {after : Text} (solid : Reader.Ends isBlank after) :
    callHead name (name ++ (("(" : Text) ++ after)) = some ((), after) := by
  have paren_solid : Reader.Ends isBlank (("(" : Text) ++ after) := Reader.ends_cons (by decide) _
  have opened : Reader.char (· = '(') (("(" : Text) ++ after) = some (.char '(', after) :=
    Reader.char_some (by decide) _
  rw [callHead, Reader.bind_some (Reader.word_append _ _),
    Reader.bind_some (Text.blanks_solid paren_solid), Reader.bind_some opened]
  exact Text.blanks_solid solid

theorem quoted_solid (t after : Text) : Reader.Ends isBlank (t.enclosed '"' '"' ++ after) :=
  Reader.ends_cons (by decide) _

section Read

variable {key value : Text} (named : key ≠ []) (key_free : (.char '"' : CodePoint) ∉ key)
  (value_free : (.char '"' : CodePoint) ∉ value)
include named key_free value_free

theorem keyAndValue_read (after : Text) :
    keyAndValue (key.enclosed '"' '"' ++ ((", " : Text) ++ (value.enclosed '"' '"' ++
      ((")" : Text) ++ after)))) = some ((key, value), after) := by
  have quoted (rest : Text) : Note.key (key.enclosed '"' '"' ++ rest) = some (key, rest) :=
    Reader.enclosed1_append key_free named rest
  have noted (rest : Text) : Note.value (value.enclosed '"' '"' ++ rest) = some (value, rest) := by
    rw [Note.value]
    exact Reader.or_some (Reader.enclosed_append value_free rest) _
  have paren_solid : Reader.Ends isBlank ((")" : Text) ++ after) := Reader.ends_cons (by decide) _
  have ended : Reader.char (· = ')') ((")" : Text) ++ after) = some (.char ')', after) :=
    Reader.char_some (by decide) _
  rw [keyAndValue, Reader.bind_some (quoted _), Reader.bind_some (comma_read (quoted_solid value _)),
    Reader.bind_some (noted _), Reader.bind_some (Text.blanks_solid paren_solid),
    Reader.bind_some ended]
  rfl

/-- The call is read as its note. -/
theorem transactionNote_call (after : Text) :
    transactionNote (call key value ++ after) = some (.transaction key value, after) := by
  have split : call key value ++ after = ("set_tx_meta" : Text) ++ (("(" : Text) ++
      (key.enclosed '"' '"' ++ ((", " : Text) ++ (value.enclosed '"' '"' ++
        ((")" : Text) ++ after))))) := by
    unfold call
    simp only [List.append_assoc]
  rw [split, transactionNote, Reader.bind_some (callHead_read _ (quoted_solid key _)),
    Reader.bind_some (keyAndValue_read named key_free value_free after)]
  rfl

/-- The note of a line is found first, and the other notes on the transaction behind it. -/
theorem transactionNotes_line (after : Text) :
    Search.all Search.anywhere transactionNote (line key value ++ after) =
      ⟨0, call key value, .transaction key value⟩ ::
        (Search.all Search.anywhere transactionNote after).map
          (Found.shift (line key value).length) := by
  have silent : Search.beginsIn Search.anywhere transactionNote (call key value).getLast?
      ("\n" : Text) after = false := by
    have needs (t : Text) (unlike : ¬("set_tx_meta" : Text) <+: t) : transactionNote t = none :=
      Reader.bind_none (Reader.bind_none (Reader.word_of_not_prefix unlike) _) _
    exact Search.beginsIn_of_clash needs (by decide +kernel) _ after
  rw [line, List.append_assoc]
  exact Search.all_read rfl (List.cons_ne_nil _ _)
    (transactionNote_call named key_free value_free _) silent rfl

end Read

end Note

namespace Script

/-- Whether a send statement or a note on an account can be read that begins in a quoted
text, given what comes behind it. -/
def beginsStatement (quoted after : Text) : Bool :=
  Search.beginsIn (Search.atWordStart isWordChar) Send.statement (some '"') quoted after ||
    Search.beginsIn Search.anywhere Note.accountNote (some '"') quoted after

/-- Whether a script has just one note more than another, in front. -/
structure Adds (note : Note) (rest script : Script) : Prop where
  notes : script.notes = note :: rest.notes
  sends : script.sends = rest.sends
  failures : (script.failures.map fun failure => (failure.text, failure.cause)) =
    rest.failures.map fun failure => (failure.text, failure.cause)

/-- The sends of a script come from the texts of its statements. -/
theorem sends_eq (t : Text) :
    (ofText t).sends =
      ((Send.statements t).map Found.text).filterMap fun text => (Send.ofText text).toOption := by
  unfold ofText
  dsimp only
  rw [List.filterMap_map, List.filterMap_map]
  congr 1
  funext found
  rw [Function.comp_apply, Function.comp_apply, readStatement]
  cases Send.ofText found.text <;> rfl

/-- What failed is known from the texts of the statements. -/
theorem failures_eq (t : Text) :
    ((ofText t).failures.map fun failure => (failure.text, failure.cause)) =
      ((Send.statements t).map Found.text).filterMap fun text =>
        match Send.ofText text with
        | .ok _ => none
        | .error cause => some (text, cause) := by
  unfold ofText
  dsimp only
  rw [List.filterMap_map, List.filterMap_map, List.map_filterMap]
  congr 1
  funext found
  rw [Function.comp_apply, Function.comp_apply, readStatement]
  cases Send.ofText found.text <;> rfl

/-! ## What a line adds -/

/-- In a line a reader begins between the quotes only, if what it begins with clashes with
the rest of the line. -/
theorem beginsIn_line {α : Type} {gate : Search.Gate} {r : Reader α} {w : Text}
    (needs : ∀ t, ¬w <+: t → r t = none)
    (clash : ∀ segment ∈ [Note.opening, Note.between, Note.closing],
      ∀ rest ∈ segment.tails, rest = [] ∨ ¬w <+: rest ∧ ¬rest <+: w)
    (key value after : Text) :
    Search.beginsIn gate r none (Note.line key value) after =
      (Search.beginsIn gate r (some '"') key (Note.between ++ value ++ Note.closing ++ after) ||
        Search.beginsIn gate r (some '"') value (Note.closing ++ after)) := by
  have silent (segment : Text) (mem : segment ∈ [Note.opening, Note.between, Note.closing])
      (before : Option CodePoint) (after : Text) :
      Search.beginsIn gate r before segment after = false :=
    Search.beginsIn_of_clash needs (clash segment mem) before after
  have opened : Search.lastOf none Note.opening = some (.char '"') := rfl
  have middle (before : Option CodePoint) :
      Search.lastOf before Note.between = some (.char '"') := rfl
  rw [Note.line_eq, Search.beginsIn_append, silent Note.opening (by simp), opened,
    Search.beginsIn_append, Search.beginsIn_append, silent Note.between (by simp), middle,
    Search.beginsIn_append, silent Note.closing (by simp)]
  simp only [Bool.false_or, Bool.or_false, List.append_assoc]

theorem statement_of_not_prefix (t : Text) (unlike : ¬("send" : Text) <+: t) :
    Send.statement t = none :=
  Reader.bind_none (Reader.word_of_not_prefix unlike) _

theorem accountNote_of_not_prefix (t : Text) (unlike : ¬("set_account_meta" : Text) <+: t) :
    Note.accountNote t = none :=
  Reader.bind_none (Reader.bind_none (Reader.word_of_not_prefix unlike) _) _

/-- Nothing can be read that begins in a quoted text in which neither the word of sends nor
that of notes on accounts occurs. -/
theorem beginsStatement_of_free {quoted : Text} (send_free : ¬("send" : Text) <:+: quoted)
    (note_free : ¬("set_account_meta" : Text) <:+: quoted) (after : Text) :
    beginsStatement quoted (.char '"' :: after) = false := by
  rw [beginsStatement, Bool.or_eq_false_iff]
  exact ⟨Search.beginsIn_of_free statement_of_not_prefix send_free (by decide) _ after,
    Search.beginsIn_of_free accountNote_of_not_prefix note_free (by decide) _ after⟩

section Line

variable {key value after : Text}
  (key_inert : beginsStatement key (Note.between ++ value ++ Note.closing ++ after) = false)
  (value_inert : beginsStatement value (Note.closing ++ after) = false)
include key_inert value_inert

theorem statements_line :
    (Send.statements (Note.line key value ++ after)).map Found.text =
      (Send.statements after).map Found.text := by
  have passed : Search.beginsIn (Search.atWordStart isWordChar) Send.statement none
      (Note.line key value) after = false := by
    rw [beginsIn_line statement_of_not_prefix (by decide +kernel)]
    rw [beginsStatement, Bool.or_eq_false_iff] at key_inert value_inert
    rw [key_inert.1, value_inert.1]
    rfl
  have same : Search.atWordStart isWordChar (Search.lastOf none (Note.line key value)) =
      Search.atWordStart isWordChar none := by
    rw [Note.line, Search.lastOf_append]
    change Search.atWordStart isWordChar (some (.char '\n')) = Search.atWordStart isWordChar none
    decide +kernel
  rw [Send.statements, Send.statements, Search.all_append passed same, List.map_map]
  rfl

theorem accountNotes_line :
    Search.all Search.anywhere Note.accountNote (Note.line key value ++ after) =
      (Search.all Search.anywhere Note.accountNote after).map
        (Found.shift (Note.line key value).length) := by
  refine Search.all_append ?_ rfl
  rw [beginsIn_line accountNote_of_not_prefix (by decide +kernel)]
  rw [beginsStatement, Bool.or_eq_false_iff] at key_inert value_inert
  rw [key_inert.2, value_inert.2]
  rfl

theorem adds_of_inert (named : key ≠ []) (key_free : (.char '"' : CodePoint) ∉ key)
    (value_free : (.char '"' : CodePoint) ∉ value) :
    Adds (.transaction key value) (ofText after) (ofText (Note.line key value ++ after)) where
  notes := by
    change Note.all (Note.line key value ++ after) = .transaction key value :: Note.all after
    rw [Note.all_eq, Note.all_eq, Note.transactionNotes_line named key_free value_free,
      accountNotes_line key_inert value_inert, List.cons_append, ← List.map_append,
      Search.inOrder_cons fun found _ => Nat.zero_le found.start, Search.inOrder_shift,
      List.map_cons, List.map_map]
    rfl
  sends := by rw [sends_eq, statements_line key_inert value_inert, ← sends_eq]
  failures := by rw [failures_eq, statements_line key_inert value_inert, ← failures_eq]

end Line

/-- A line adds its note, and nothing else, to a script behind it, if nothing that begins
between its quotes can be read as a send statement or as a note on an account; so it does if
neither the word of sends nor that of notes on accounts occurs between its quotes. -/
theorem ofText_line {key value after : Text} (named : key ≠ [])
    (key_free : (.char '"' : CodePoint) ∉ key) (value_free : (.char '"' : CodePoint) ∉ value) :
    (beginsStatement key (Note.between ++ value ++ Note.closing ++ after) = false →
      beginsStatement value (Note.closing ++ after) = false →
        Adds (.transaction key value) (ofText after) (ofText (Note.line key value ++ after))) ∧
    ((∀ quoted ∈ [key, value],
        ¬("send" : Text) <:+: quoted ∧ ¬("set_account_meta" : Text) <:+: quoted) →
      Adds (.transaction key value) (ofText after) (ofText (Note.line key value ++ after))) := by
  refine ⟨fun key_inert value_inert =>
    adds_of_inert key_inert value_inert named key_free value_free, fun wordless => ?_⟩
  have key_wordless := wordless key (by simp)
  have value_wordless := wordless value (by simp)
  exact adds_of_inert (beginsStatement_of_free key_wordless.1 key_wordless.2 _)
    (beginsStatement_of_free value_wordless.1 value_wordless.2 _) named key_free value_free

/-- A text with the word of sends that is still no statement, and a text without it. -/
theorem ofText_memo :
    let memo : Text := "please send it back"
    let remark : Text := "thank you"
    let script : Text := "send [USD/2 5] ( source = @world destination = @a )"
    Adds (.transaction "memo" memo) (ofText script) (ofText (Note.line "memo" memo ++ script)) ∧
      Adds (.transaction "memo" remark) (ofText script)
        (ofText (Note.line "memo" remark ++ script)) := by
  intro memo remark script
  have named : ("memo" : Text) ≠ [] := by decide +kernel
  have key_free : (.char '"' : CodePoint) ∉ ("memo" : Text) := by decide +kernel
  exact ⟨(ofText_line named key_free (by decide +kernel)).1 (by decide +kernel) (by decide +kernel),
    (ofText_line named key_free (by decide +kernel)).2 (by decide +kernel)⟩

/-- Not every quoted text is harmless: a statement between the quotes is read. -/
theorem quoted_send_read :
    ¬∀ key value after : Text, key ≠ [] → (.char '"' : CodePoint) ∉ key →
      (.char '"' : CodePoint) ∉ value →
        Adds (.transaction key value) (ofText after) (ofText (Note.line key value ++ after)) := by
  intro law
  have adds := law "note" "send [USD/2 5] ( source = @world destination = @a )" [] (by decide)
    (by decide) (by decide)
  have sent : (ofText (Note.line "note" "send [USD/2 5] ( source = @world destination = @a )" ++
      [])).sends ≠ (ofText []).sends := by decide +kernel
  exact sent adds.sends

end Script

end DoubleEntry
