import DoubleEntry.Proofs.Script.Clauses

/-!
# Reading what is written

Whatever the layout, a written send is read back, but for the sources that are taken to
grant an overdraft because they mention the granting word.
-/

namespace DoubleEntry

open Text (IsGap Trail Parted)

namespace Script

/-! ## Clause heads -/

theorem clauseHead_read {name first second after : Text} (head : ∀ c ∈ first, isBlank c = true)
    (tail : ∀ c ∈ second, isBlank c = true) (solid : Reader.Ends isBlank after) :
    clauseHead name (name ++ (first ++ (("=" : Text) ++ (second ++ after)))) = some ((), after) := by
  have sign : Reader.Ends isBlank (("=" : Text) ++ (second ++ after)) :=
    Reader.ends_cons (by decide) _
  rw [clauseHead, Reader.bind_some (Reader.word_append _ _),
    Reader.bind_some (Text.blanks_append head sign)]
  have equals : Reader.char (· = '=') (("=" : Text) ++ (second ++ after)) =
      some (.char '=', second ++ after) := Reader.char_some (by decide) _
  rw [Reader.bind_some equals]
  exact Text.blanks_append tail solid

/-- A clause is read if what stands on its right side is. -/
theorem clause_read {name first second block after : Text} {rightSide : Reader Text}
    (head : ∀ c ∈ first, isBlank c = true) (tail : ∀ c ∈ second, isBlank c = true)
    (solid : Reader.Ends isBlank (block ++ after))
    (read : rightSide (block ++ after) = some (block, after)) :
    (do clauseHead name; rightSide)
      ((name ++ (first ++ (("=" : Text) ++ (second ++ block)))) ++ after) = some (block, after) := by
  have split : (name ++ (first ++ (("=" : Text) ++ (second ++ block)))) ++ after =
      name ++ (first ++ (("=" : Text) ++ (second ++ (block ++ after)))) := by simp
  rw [split, Reader.bind_some (clauseHead_read head tail solid)]
  exact read

/-- A search for a clause passes over what does not hold the first letter of its name. -/
theorem hits_clause {letter : CodePoint} {letters front : Text} {rightSide : Reader Text}
    (silent : letter ∉ front) (after : Text) :
    Search.hits (do clauseHead (letter :: letters); rightSide) (front ++ after) =
      Search.hits (do clauseHead (letter :: letters); rightSide) after := by
  refine Search.hits_append fun done rest split some_ => ?_
  obtain ⟨c, later, rfl⟩ := List.exists_cons_of_ne_nil some_
  refine Reader.bind_none (Reader.bind_none (Reader.word_none (fun same => silent ?_) _) _) _
  rw [split, ← Option.some.inj same]
  exact List.mem_append_right _ List.mem_cons_self

/-- What begins with a name and an equals sign goes on behind the sign. -/
theorem sign_eq_some {α : Type} {name t : Text} {next : CodePoint → Reader α} {result : α × Text}
    (h : (do
      Reader.word name
      Reader.blanks
      let sign ← Reader.char (· = '=')
      next sign : Reader α) t = some result) :
    ∃ gap rest, t = name ++ (gap ++ .char '=' :: rest) ∧ (∀ c ∈ gap, isBlank c = true) ∧
      next '=' rest = some result := by
  obtain ⟨⟨⟩, behind, word, second⟩ := Reader.bind_eq_some.mp h
  obtain ⟨⟨⟩, sign, blanks, third⟩ := Reader.bind_eq_some.mp second
  obtain ⟨c, rest, equals, last⟩ := Reader.bind_eq_some.mp third
  obtain ⟨gap, rfl, blank⟩ := Text.blanks_eq_some blanks
  obtain ⟨rfl, same⟩ := Reader.char_eq_some equals
  obtain rfl := of_decide_eq_true same
  exact ⟨gap, rest, Reader.word_eq_some word, blank, last⟩

theorem clauseHead_eq_some {name t left : Text} (h : clauseHead name t = some ((), left)) :
    ∃ gap rest, t = name ++ (gap ++ .char '=' :: rest) ∧ (∀ c ∈ gap, isBlank c = true) ∧
      left = rest.dropWhile isBlank := by
  obtain ⟨gap, rest, split, blank, last⟩ := sign_eq_some h
  have taken : Reader.blanks rest = some ((), rest.dropWhile isBlank) := rfl
  rw [taken] at last
  exact ⟨gap, rest, split, blank, (Prod.mk.inj (Option.some.inj last)).2.symm⟩

/-- A clause head is not found in front of where its name stands, as long as there is no
equals sign before it but a blank right before it. -/
theorem clauseHead_none {name row after : Text} (token : Text.IsToken name)
    (plain : (.char '=' : CodePoint) ∉ name) {blank : CodePoint} (last : blank ∈ row.getLast?)
    (isBlank_ : isBlank blank = true) (free : (.char '=' : CodePoint) ∉ row) :
    clauseHead name (row ++ (name ++ after)) = none := by
  have listed : blank ∈ row := List.mem_of_getLast? last
  have begins {c : CodePoint} {rest : Text} (same : name ++ after = c :: rest) : c ∈ name := by
    obtain ⟨first, letters, rfl⟩ := List.exists_cons_of_ne_nil token.nonempty
    obtain ⟨rfl, -⟩ := List.cons.inj same
    exact List.mem_cons_self
  cases read : clauseHead name (row ++ (name ++ after)) with
  | none => rfl
  | some result =>
      obtain ⟨⟨⟩, left⟩ := result
      obtain ⟨gap, rest, split, blanks, -⟩ := clauseHead_eq_some read
      rw [← List.append_assoc name] at split
      rcases List.append_eq_append_iff.mp split with ⟨more, before, behind⟩ | ⟨more, before, behind⟩
      · -- The name would begin in the row and end in front of the equals sign.
        cases more with
        | nil => exact absurd (begins behind) plain
        | cons c more =>
            have head : c ∈ name := begins behind
            rcases List.append_eq_append_iff.mp before with ⟨front, -, tail⟩ | ⟨front, whole, -⟩
            · have between : c ∈ gap := by
                rw [tail]
                exact List.mem_append_right _ List.mem_cons_self
              exact absurd (blanks c between) (by simp [token.solid c head])
            · have inside : blank ∈ name := by
                rw [whole]
                exact List.mem_append_left _ listed
              exact absurd isBlank_ (by simp [token.solid blank inside])
      · -- The equals sign would stand in the row, or right at its end.
        cases more with
        | nil => exact absurd (begins behind.symm) plain
        | cons c more =>
            obtain ⟨rfl, -⟩ := List.cons.inj behind
            refine absurd ?_ free
            rw [before]
            exact List.mem_append_right _ List.mem_cons_self

end Script

/-! ## Finding the clauses -/

namespace Source

/-- The first source clause of a body begins behind the blanks in front. -/
theorem first?_clause {gap first second block after : Text} (front : ∀ c ∈ gap, isBlank c = true)
    (head : ∀ c ∈ first, isBlank c = true) (tail : ∀ c ∈ second, isBlank c = true)
    (solid : Reader.Ends isBlank (block ++ after))
    (read : rightSide (block ++ after) = some (block, after)) :
    ∃ found, Search.first? Search.anywhere clause
        (gap ++ ((("source" : Text) ++ (first ++ (("=" : Text) ++ (second ++ block)))) ++ after)) =
          some found ∧ found.value = block := by
  let here : Text := ("source" : Text) ++ (first ++ (("=" : Text) ++ (second ++ block)))
  have silent : (.char 's' : CodePoint) ∉ gap := mt (front _) (by decide)
  have whole : clause (here ++ after) = some (block, after) := by
    rw [clause_eq]
    exact Script.clause_read head tail solid read
  exact Search.first?_of_hits_eq (Script.hits_clause silent _) (by simp) whole

end Source

namespace Destination

/-- The first destination clause of a body begins where its name stands: before the source
clause there is no beginning of it, and in the sources there is no equals sign. -/
theorem first?_clause {front row gap first second block after : Text}
    (silent : (.char 'd' : CodePoint) ∉ front) (free : (.char '=' : CodePoint) ∉ row)
    (apart : IsGap gap) (head : ∀ c ∈ first, isBlank c = true)
    (tail : ∀ c ∈ second, isBlank c = true) (solid : Reader.Ends isBlank (block ++ after))
    (read : rightSide (block ++ after) = some (block, after)) :
    ∃ found, Search.first? Search.anywhere clause (front ++ ((row ++ gap) ++
        ((("destination" : Text) ++ (first ++ (("=" : Text) ++ (second ++ block)))) ++ after))) =
          some found ∧ found.value = block := by
  let here : Text := ("destination" : Text) ++ (first ++ (("=" : Text) ++ (second ++ block)))
  have inFront : Search.hits clause (front ++ ((row ++ gap) ++ (here ++ after))) =
      Search.hits clause ((row ++ gap) ++ (here ++ after)) := Script.hits_clause silent _
  have inRow : Search.hits clause ((row ++ gap) ++ (here ++ after)) =
      Search.hits clause (here ++ after) := by
    obtain ⟨blank, ending⟩ : ∃ blank, gap.getLast? = some blank :=
      Option.ne_none_iff_exists'.mp (mt List.getLast?_eq_none_iff.mp apart.nonempty)
    refine Search.hits_append fun done rest split some_ => ?_
    have last : rest.getLast? = some blank := by
      rw [← List.getLast?_append_of_ne_nil done some_, ← split,
        List.getLast?_append_of_ne_nil row apart.nonempty, ending]
    have unsigned : (.char '=' : CodePoint) ∉ rest := by
      intro mem
      have inside : (.char '=' : CodePoint) ∈ row ++ gap := by
        rw [split]
        exact List.mem_append_right _ mem
      rcases List.mem_append.mp inside with before | between
      · exact free before
      · exact absurd (apart.blank _ between) (by decide)
    have blank_ := apart.blank blank (List.mem_of_getLast? ending)
    have name : Text.IsToken "destination" := ⟨by decide, by decide⟩
    refine Reader.bind_none ?_ _
    simp only [here, List.append_assoc]
    exact Script.clauseHead_none name (by decide) last blank_ unsigned
  have whole : clause (here ++ after) = some (block, after) := by
    rw [clause_eq]
    exact Script.clause_read head tail solid read
  exact Search.first?_of_hits_eq (inFront.trans inRow) (by simp [here]) whole

end Destination

/-! ## Sends -/

namespace Send

/-- What is read where a send is written. -/
def asRead (send : Send) : Send := { send with sources := send.sources.map Source.asRead }

theorem asRead_eq_self_iff {send : Send} :
    send.asRead = send ↔
      ∀ source ∈ send.sources, ¬(source.overdraft = .refused ∧ source.mentionsGrant = true) := by
  obtain ⟨monetary, sources, destinations⟩ := send
  have each : sources.map Source.asRead = sources ↔
      ∀ source ∈ sources, source.asRead = source := by
    have pointwise := @List.map_eq_map_iff _ _ Source.asRead sources id
    rwa [List.map_id] at pointwise
  simp only [asRead, Send.mk.injEq, true_and, and_true, each, Source.asRead_eq_self_iff]

/-- The closing parenthesis does not stand in the clauses. -/
theorem bodyTokens_free {sources destinations : List Text}
    (drawn : ∀ w ∈ sources, IsClauseToken w) (given : ∀ w ∈ destinations, IsClauseToken w) :
    ∀ w ∈ bodyTokens sources destinations, (.char ')' : CodePoint) ∉ w := by
  have clause {w : Text} (token : IsClauseToken w) : (.char ')' : CodePoint) ∉ w :=
    token.free (by decide)
  refine List.forall_mem_cons.mpr ⟨by decide, List.forall_mem_cons.mpr ⟨by decide,
    List.forall_mem_append.mpr ⟨fun w mem => clause (drawn w mem), ?_⟩⟩⟩
  exact List.forall_mem_cons.mpr ⟨by decide, List.forall_mem_cons.mpr ⟨by decide,
    fun w mem => clause (given w mem)⟩⟩

theorem statement_read {first inner second body : Text} (head : IsGap first)
    (unclosed : (.char ']' : CodePoint) ∉ inner) (middle : ∀ c ∈ second, isBlank c = true)
    (free : (.char ')' : CodePoint) ∉ body) (after : Text) :
    statement ((("send" : Text) ++ (first ++ (Text.enclosed '[' ']' inner ++
      (second ++ Text.enclosed '(' ')' body)))) ++ after) =
        some (⟨Text.enclosed '[' ']' inner, body⟩, after) := by
  have parenthesis : Reader.Ends isBlank (Text.enclosed '(' ')' body ++ after) :=
    Reader.ends_cons (by decide) _
  have inside : Send.body (second ++ (Text.enclosed '(' ')' body ++ after)) = some (body, after) := by
    rw [Send.body, Reader.bind_some (Text.blanks_append middle parenthesis)]
    exact Reader.enclosed_append free after
  simp only [List.append_assoc]
  rw [statement, Reader.bind_some (Reader.word_append _ _),
    Reader.bind_some (head.read (Monetary.bracket_ends inner _))]
  refine Reader.or_some ?_ _
  rw [Reader.bind_some (Reader.enclosed_append unclosed _), Reader.bind_some inside]
  rfl

/-- A text that is one statement is read as its parts are. -/
theorem ofText_eq_ofParts {t : Text} {parts : Parts} (some_ : t ≠ [])
    (read : statement t = some (parts, [])) : ofText t = ofParts parts := by
  rw [← List.append_nil t] at read
  have found := Search.first?_append (Search.atWordStart isWordChar) rfl some_ read
  rw [List.append_nil] at found
  have first : (statements t).head? = some ⟨0, t, parts⟩ := found
  rw [ofText, first]

/-- A statement is read if its literal is read and its clauses are found. -/
theorem ofParts_eq_ok {parts : Parts} {monetary : Monetary} {sources : List Source}
    {drawn given : Found Text} (bracket : parts.amount.head? = some (.char '['))
    (literal : Monetary.ofText parts.amount = .ok monetary)
    (source : Search.first? Search.anywhere Source.clause parts.body = some drawn)
    (destination : Search.first? Search.anywhere Destination.clause parts.body = some given)
    (made : Source.ofBlock drawn.value = .ok sources) :
    ofParts parts = .ok ⟨monetary, sources, Destination.ofBlock given.value⟩ := by
  rw [ofParts, if_neg (not_not.mpr bracket), source, destination]
  exact bind_eq_ok.mpr ⟨monetary, literal, bind_eq_ok.mpr ⟨sources, made, rfl⟩⟩

/-- The clauses of a body are read off its text. -/
theorem ofParts_written {send : Send} (plain : send.IsPlain) {sources destinations : List Text}
    (drawn : Source.Written send.sources sources)
    (given : Destination.Written send.destinations destinations) {literal body gap : Text}
    (spelled : send.monetary.Spelled literal) (trail : Trail (bodyTokens sources destinations) body)
    (apart : IsGap gap) : ofParts ⟨literal, body ++ gap⟩ = .ok send.asRead := by
  obtain ⟨first, inside, rfl, front, trail⟩ := Text.trail_cons.mp trail
  obtain ⟨second, inside, rfl, head, trail⟩ := Text.trail_cons.mp trail
  obtain ⟨row, right, rfl, sourceTrail, trail⟩ := Text.trail_append.mp trail
  obtain ⟨third, inside, rfl, between, trail⟩ := Text.trail_cons.mp trail
  obtain ⟨fourth, right, rfl, later, destinationTrail⟩ := Text.trail_cons.mp trail
  have free : (.char '=' : CodePoint) ∉ row :=
    sourceTrail.notMem (by decide) fun w listed =>
      (drawn.clause plain.sources w listed).free (by decide)
  obtain ⟨fifth, block, rfl, tail, sourceRead, sourceSolid, readSource⟩ :=
    drawn.read plain.sources sourceTrail
  obtain ⟨sixth, other, rfl, last, destinationRead, destinationSolid, readDestination⟩ :=
    given.read plain.destinations destinationTrail
  have name : Text.IsToken "destination" := ⟨by decide, by decide⟩
  have behind : Source.Behind (third ++ (("destination" : Text) ++
      (fourth ++ (("=" : Text) ++ (sixth ++ (other ++ gap)))))) := by
    have letter : (("destination" : Text) ++
        (fourth ++ (("=" : Text) ++ (sixth ++ (other ++ gap))))).head? = some (.char 'd') := rfl
    refine Source.behind_gap between (name.ends _) ?_ ?_
    all_goals
      rw [letter]
      decide
  obtain ⟨foundSource, firstSource, blockIs⟩ :=
    Source.first?_clause front.blank head.blank tail.blank (sourceSolid _) (readSource _ behind)
  have silent : (.char 'd' : CodePoint) ∉ first ++ (("source" : Text) ++ (second ++ ("=" : Text))) := by
    have solid : isBlank (.char 'd') ≠ true := by decide
    simp only [List.mem_append, not_or]
    exact ⟨mt (front.blank _) solid, by decide, mt (head.blank _) solid, by decide⟩
  have parted : Parted gap := by
    rw [← List.append_nil gap]
    exact apart.parted []
  obtain ⟨foundDestination, firstDestination, otherIs⟩ :=
    Destination.first?_clause silent free between later.blank last.blank (destinationSolid gap)
      (readDestination gap parted)
  have bracket : literal.head? = some (.char '[') := by
    obtain ⟨inner, rfl, -, -⟩ := plain.monetary.isLegible.bracketed spelled
    rfl
  simp only [List.append_assoc] at firstSource firstDestination ⊢
  rw [ofParts_eq_ok bracket (plain.monetary.isLegible.ofText_spelled spelled) firstSource firstDestination
    (blockIs ▸ sourceRead), otherIs, destinationRead, asRead]

/-- All the ways to lay out a written send are read alike. -/
theorem ofText_laidOut {send : Send} {tokens : List Text} {text : Text} (plain : send.IsPlain)
    (written : send.Written tokens) (laid : Text.LaidOut tokens text) :
    Send.ofText text = .ok send.asRead := by
  obtain ⟨drawn, given⟩ := written
  obtain ⟨after, rfl, trail⟩ := laid
  obtain ⟨first, literal, inside, rfl, head, spelled, trail⟩ := Monetary.trail_tokens.mp trail
  obtain ⟨second, inside, rfl, middle, trail⟩ := Text.trail_cons.mp trail
  obtain ⟨body, inside, rfl, clauses, trail⟩ := Text.trail_append.mp trail
  obtain ⟨last, rest, rfl, tail, ending⟩ := Text.trail_cons.mp trail
  cases ending
  have free : (.char ')' : CodePoint) ∉ body ++ last :=
    clauses.notMem_gap tail (by decide)
      (bodyTokens_free (drawn.clause plain.sources) (given.clause plain.destinations))
  have parts := ofParts_written plain drawn given spelled clauses tail
  obtain ⟨inner, rfl, -, unclosed⟩ := plain.monetary.isLegible.bracketed spelled
  have whole := statement_read head unclosed middle.blank free []
  rw [List.append_nil] at whole
  have split : ("send" : Text) ++ (first ++ (Text.enclosed '[' ']' inner ++
      (second ++ (("(" : Text) ++ (body ++ (last ++ ((")" : Text) ++ []))))))) =
      ("send" : Text) ++ (first ++ (Text.enclosed '[' ']' inner ++
        (second ++ Text.enclosed '(' ')' (body ++ last)))) := by simp [Text.enclosed]
  rw [split, ofText_eq_ofParts (List.append_ne_nil_of_left_ne_nil (by decide) _) whole, parts]

/-- However a written send is laid out, it is read back with the overdrafts that its sources
seem to grant, which makes it the same send just when no other source mentions the granting
word. -/
theorem ofText_written {send : Send} {tokens : List Text} {text : Text} (plain : send.IsPlain)
    (written : send.Written tokens) (laid : Text.LaidOut tokens text) :
    Send.ofText text = .ok send.asRead ∧
      (Send.ofText text = .ok send ↔
        ∀ source ∈ send.sources, source.overdraft = .refused → source.mentionsGrant = false) := by
  have read := ofText_laidOut plain written laid
  refine ⟨read, ?_⟩
  rw [read, Except.ok.injEq, asRead_eq_self_iff]
  simp only [not_and, Bool.not_eq_true]

/-- A send with a capped source, an overdraft and shares. -/
def sharing : Send where
  monetary := ⟨"USD/2", .exactly 100⟩
  sources := [⟨"@promo", some ⟨"USD/2", .exactly 50⟩, .refused⟩, ⟨"@credit", none, .granted true none⟩]
  destinations := [⟨.account "@fees", some "2.5%"⟩, ⟨.kept, some "remaining"⟩]

theorem sharing_isPlain : sharing.IsPlain := by
  refine ⟨by decide +kernel, by decide +kernel, List.forall_mem_cons.mpr ⟨⟨?_, ?_⟩,
    List.forall_mem_singleton.mpr ⟨nofun, ?_⟩⟩⟩
  · rintro _ ⟨⟩
    decide +kernel
  · have number : ∀ c ∈ ("2.5" : Text), isDecimalDigit c = true ∨ c = '.' := by decide +kernel
    rintro _ ⟨⟩
    exact .percentage (by decide) number
  · rintro _ ⟨⟩
    exact .remaining

theorem sharing_ofText :
    Send.ofText ("send [USD/2 100] ( source = \x7b max [USD/2 50] from @promo " ++
      "@credit allowing unbounded overdraft \x7d " ++
      "destination = \x7b 2.5% to @fees remaining kept \x7d )") =
      .ok sharing := by
  have items : Destination.ItemsWritten sharing.destinations _ :=
    .cons (.shareTo "2.5%" (.account "@fees")) (.cons (.share "remaining" .kept) .nil)
  have read := ofText_written sharing_isPlain (.intro (.block _) (.block items)) (Text.laidOut_join _)
  refine Eq.trans (congrArg Send.ofText ?_) (read.2.mpr (by decide))
  decide +kernel

/-- An address that contains the granting word is read as an overdraft. -/
theorem ofText_not_written :
    ¬∀ (send : Send) (tokens : List Text) (text : Text), send.IsPlain → send.Written tokens →
      Text.LaidOut tokens text → Send.ofText text = .ok send := by
  let send : Send := ⟨⟨"USD/2", .exactly 100⟩, [⟨"@allowing", none, .refused⟩],
    [⟨.account "@b", none⟩]⟩
  have plain : send.IsPlain := by
    refine ⟨by decide +kernel, by decide +kernel, List.forall_mem_singleton.mpr ⟨?_, nofun⟩⟩
    rintro _ ⟨⟩
    decide +kernel
  obtain ⟨tokens, written⟩ : ∃ tokens, send.Written tokens := ⟨_, .intro (.bare rfl) (.bare "@b")⟩
  have laid := Text.laidOut_join tokens
  intro roundTrip
  have same := (ofText_laidOut plain written laid).symm.trans (roundTrip send _ _ plain written laid)
  have unmentioned := asRead_eq_self_iff.mp (Except.ok.inj same) _ List.mem_cons_self
  exact unmentioned ⟨rfl, by decide⟩

end Send

end DoubleEntry
