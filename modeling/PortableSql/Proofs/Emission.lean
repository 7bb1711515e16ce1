import PortableSql.Proofs.Line

/-!
# Emissions as they are written

The text and the added parameters of an emission are those of the line that writing makes, and
both fail alike. Each step of an emission is compared with its own step of writing, and a sequence
follows because the second step starts with the parameters that the first one added.
-/

namespace PortableSql

namespace Emitting

variable {α β γ δ : Type}

/-- `writing` says what `emission` does after the parameters `earlier` were added: it fails alike,
or ends with the value that `view` reads off what is written, and then the parameters that were
added are those of `view`. -/
def Follows (view : β → α × List Parameter) (earlier : List Parameter) (emission : Emitting α)
    (writing : Writing β) : Prop :=
  ∀ base arguments used,
    Reporting.Gives
      ((fun ending : α × Binding => (ending.1, ending.2.arguments, ending.2.parameters)) <$>
        StateT.run emission { arguments, parameters := base ++ earlier, used })
      ((writing.run arguments).map fun ending : β × Arguments =>
        ((view ending.1).1, ending.2, base ++ (view ending.1).2))

/-- An emission goes on as it is written when each of its steps does. The second step starts with
the parameters that the first one added. -/
theorem Follows.bindOf {view : β → α × List Parameter} {laterView : δ → γ × List Parameter}
    {earlier : List Parameter} {emission : Emitting α} {writing : Writing β}
    {next : α → Emitting γ} {nextWriting : β → Writing δ}
    (first : Follows view earlier emission writing)
    (second : ∀ written, writing.Writes written →
      Follows laterView (view written).2 (next (view written).1) (nextWriting written)) :
    Follows laterView earlier (emission >>= next) (writing >>= nextWriting) := by
  intro base arguments used records
  have ended := first base arguments used records
  rw [Reporting.ending_map] at ended ⊢
  rw [StateT.run_bind, StateT.run_bind, ExceptT.run_bind, StateT.run_bind]
  cases ran : (StateT.run emission
      { arguments, parameters := base ++ earlier, used }).run.run records with
  | mk ending later =>
    rw [ran] at ended
    cases written : writing.run arguments with
    | error failure =>
      rw [written] at ended
      cases ending with
      | error other => exact congrArg Except.error (Except.error.inj ended)
      | ok value => cases ended
    | ok stage =>
      rw [written] at ended
      cases ending with
      | error failure => cases ended
      | ok value =>
        obtain ⟨result, ⟨left, parameters, used⟩⟩ := value
        obtain ⟨rfl, rfl, rfl⟩ : result = (view stage.1).1 ∧ left = stage.2 ∧
            parameters = base ++ (view stage.1).2 := by
          simpa [Except.map] using ended
        have goesOn := second stage.1 ⟨arguments, stage.2, written⟩ base stage.2 used later
        rw [Reporting.ending_map] at goesOn
        exact goesOn

/-- The same where it does not matter what the first step writes. -/
theorem Follows.bind {view : β → α × List Parameter} {laterView : δ → γ × List Parameter}
    {earlier : List Parameter} {emission : Emitting α} {writing : Writing β}
    {next : α → Emitting γ} {nextWriting : β → Writing δ}
    (first : Follows view earlier emission writing)
    (second : ∀ written,
      Follows laterView (view written).2 (next (view written).1) (nextWriting written)) :
    Follows laterView earlier (emission >>= next) (writing >>= nextWriting) :=
  first.bindOf fun written _ => second written

/-- Ending is writing nothing more. -/
theorem follows_pure {view : β → α × List Parameter} {earlier : List Parameter} {value : α}
    {written : β} (same : view written = (value, earlier)) :
    Follows view earlier (pure value) (pure written) := by
  intro base arguments used records
  rw [Reporting.ending_map]
  change Except.ok (value, arguments, base ++ earlier) =
    Except.ok ((view written).1, arguments, base ++ (view written).2)
  rw [same]

/-- A computation without arguments gives the same value to both. -/
theorem follows_lift (earlier : List Parameter) (change : β → α) {computation : Reporting α}
    {outcome : Except Failure β} (gives : computation.Gives (outcome.map change)) :
    Follows (fun written => (change written, earlier)) earlier (liftM computation)
      (liftM outcome) := by
  intro base arguments used records
  have ended := gives records
  rw [Reporting.ending_map]
  change Except.map _ ((StateT.lift computation _).run.run records).1 =
    Except.map _ (StateT.lift outcome arguments)
  rw [StateT.lift, ExceptT.run_bind, StateT.run_bind]
  cases ran : computation.run.run records with
  | mk ending later =>
    rw [ran] at ended
    subst ended
    cases outcome <;> rfl

/-- Records do not matter. -/
theorem follows_log (earlier : List Parameter) (record : Log.Record) :
    Follows (fun _ => ((), earlier)) earlier (liftM (Reporting.log record)) (pure ()) := by
  have gives : (Reporting.log record).Gives ((Except.ok ()).map id) := Reporting.gives_log record
  exact follows_lift earlier id gives

theorem follows_refuse {view : β → α × List Parameter} (earlier : List Parameter)
    (failure : Failure) : Follows view earlier (refuse failure) (throw failure) := by
  intro base arguments used records
  have ended := Reporting.gives_raise (α := α) failure records
  rw [Reporting.ending_map]
  change Except.map _ ((StateT.lift (Reporting.raise failure) _).run.run records).1 = .error failure
  rw [StateT.lift, ExceptT.run_bind, StateT.run_bind]
  cases ran : (Reporting.raise failure : Reporting α).run.run records with
  | mk ending later =>
    rw [ran] at ended
    subst ended
    rfl

/-- What is known already is written as it is emitted. -/
theorem follows_ofExcept (earlier : List Parameter) (outcome : Except Failure α) :
    Follows (fun value => (value, earlier)) earlier (ofExcept outcome) (liftM outcome) :=
  follows_lift earlier id (by
    rw [Except.map_id]
    exact Reporting.gives_ofExcept outcome)

theorem follows_next (earlier : List Parameter) (clause : String) :
    Follows (fun value => (value, earlier)) earlier (next clause)
      (fun arguments => arguments.take clause) := by
  intro base arguments used
  change Reporting.Gives _ (Except.map _ (arguments.take clause))
  cases taken : arguments.take clause with
  | error failure =>
    have refused : Follows (fun value : Value => (value, earlier)) earlier (refuse failure)
        (throw failure) := follows_refuse earlier failure
    simp only [next, StateT.run_bind, StateT.run_get, pure_bind, taken]
    exact refused base arguments used
  | ok pair =>
    have ended : Follows (fun value : Value => (value, earlier)) earlier (pure pair.1)
        (pure pair.1) := follows_pure rfl
    simp only [next, StateT.run_bind, StateT.run_get, pure_bind, taken, StateT.run_set]
    exact ended base pair.2 used

/-- Parameters that are added at once are added to the earlier ones. -/
theorem follows_modify (earlier added : List Parameter) (note : List Nat → List Nat) :
    Follows (fun _ => ((), earlier ++ added)) earlier
      (modify fun binding => { binding with
        parameters := binding.parameters ++ added, used := note binding.used }) (pure ()) := by
  intro base arguments used records
  rw [Reporting.ending_map]
  change Except.ok ((), arguments, (base ++ earlier) ++ added) =
    Except.ok ((), arguments, base ++ (earlier ++ added))
  rw [List.append_assoc]

/-- Changing what is written changes how it is viewed. -/
theorem Follows.map {view : γ → α × List Parameter} {earlier : List Parameter}
    {emission : Emitting α} {writing : Writing β} {change : β → γ}
    (follows : Follows (fun written => view (change written)) earlier emission writing) :
    Follows view earlier emission (change <$> writing) := by
  intro base arguments used records
  rw [follows base arguments used records, StateT.run_map]
  cases writing.run arguments <;> rfl

/-- A step that writes nothing may add parameters and goes on. -/
theorem Follows.andThen {laterView : δ → γ × List Parameter} {earlier later : List Parameter}
    {emission : Emitting α} {value : α} {next : α → Emitting γ} {writing : Writing δ}
    (first : Follows (fun _ => (value, later)) earlier emission (pure ()))
    (second : Follows laterView later (next value) writing) :
    Follows laterView earlier (emission >>= next) writing := by
  have both : Follows laterView earlier (emission >>= next) (pure () >>= fun _ => writing) :=
    first.bind fun _ => second
  rwa [pure_bind] at both

/-- Values are read one after the other as each of them is read. -/
theorem follows_mapM {earlier : List Parameter} {emission : γ → Emitting α}
    {writing : γ → Writing α}
    (each : ∀ item, Follows (fun value => (value, earlier)) earlier (emission item)
      (writing item)) (items : List γ) :
    Follows (fun values => (values, earlier)) earlier (items.mapM emission)
      (items.mapM writing) := by
  induction items with
  | nil => exact follows_pure rfl
  | cons first rest inductionHypothesis =>
    rw [List.mapM_cons, List.mapM_cons]
    refine (each first).bind fun value => ?_
    exact inductionHypothesis.bind fun values => follows_pure rfl

/-- A whole emission starts without parameters and has to consume its arguments. -/
theorem Follows.finish {view : β → α × List Parameter} {emission : Emitting α}
    {writing : Writing β} {complete : α × Binding → Reporting γ}
    (follows : Follows view [] emission writing) (make : α → List Parameter → γ)
    (arguments : List Value) (command : String)
    (ends : ∀ value binding, (complete (value, binding)).Gives
      (binding.arguments.ensureConsumed.map fun _ => make value binding.parameters)) :
    (StateT.run emission { arguments := { values := arguments, command } } >>= complete).Gives
      ((writing.finish arguments command).map fun written =>
        make (view written).1 (view written).2) := by
  have started := follows [] { values := arguments, command } []
  have ended : Reporting.Gives _ (_ >>= fun ending : α × Arguments × List Parameter =>
      ending.2.1.ensureConsumed.map fun _ => make ending.1 ending.2.2) :=
    started.bindMap fun ending => ends ending.1 ending.2
  have same : ((writing.run { values := arguments, command }).map fun ending : β × Arguments =>
        ((view ending.1).1, ending.2, [] ++ (view ending.1).2)) >>= (fun ending =>
          ending.2.1.ensureConsumed.map fun _ => make ending.1 ending.2.2) =
      (writing.finish arguments command).map fun written =>
        make (view written).1 (view written).2 := by
    unfold Writing.finish
    cases writing.run { values := arguments, command } with
    | error failure => rfl
    | ok stage =>
      change stage.2.ensureConsumed.map _ =
        (stage.2.ensureConsumed >>= fun _ => Except.ok stage.1).map _
      cases stage.2.ensureConsumed <;> rfl
  rwa [same] at ended

/-- A text that is emitted from its own arguments becomes the statement of a line. -/
theorem Follows.run {emission : Emitting String} {writing : Writing Line}
    (follows : Follows (Line.emitted []) [] emission writing) (arguments : List Value)
    (command : String) :
    (Emitting.run arguments command emission).Gives
      ((writing.finish arguments command).map Line.statement) := by
  refine follows.finish Statement.mk arguments command fun sql binding => ?_
  rw [Reporting.map_eq_bind]
  exact (Reporting.gives_ofExcept _).bind fun _ _ => Reporting.gives_pure _

end Emitting

variable (dialect : Dialect)

theorem emitPlaceholder_follows (clause : String) (use : PlaceholderUse)
    (earlier : List Parameter) :
    Emitting.Follows (Line.emitted earlier) earlier (emitPlaceholder dialect clause use)
      (writePlaceholder dialect clause use) := by
  cases use with
  | refused => exact Emitting.follows_refuse earlier _
  | name =>
    refine (Emitting.follows_next earlier clause).bind fun value => ?_
    refine Emitting.Follows.map ?_
    have gives : (quoteNameValue dialect.table.identifierQuote (clause ++ " argument") value).Gives
        ((dialect.quotedValue (clause ++ " argument") value).map id) := by
      rw [Except.map_id]
      exact dialect.gives_quotedValue (clause ++ " argument") value
    simpa [Line.emitted] using Emitting.follows_lift earlier id gives
  | value =>
    refine (Emitting.follows_next earlier clause).bind fun value => ?_
    refine (Emitting.follows_modify earlier [.infer value] id).andThen ?_
    exact Emitting.follows_pure rfl

/-- The relation between compiled subqueries and their lines. -/
abbrev Lined (compiled : Reporting Statement) (line : Except Failure Line) : Prop :=
  compiled.Gives (line.map Line.statement)

variable {subqueries : List (Reporting Statement)} {lines : List (Except Failure Line)}

theorem throw_bind {α β : Type} (failure : Failure) (next : α → Writing β) :
    (liftM (Except.error failure : Except Failure α) >>= next : Writing β) = throw failure := rfl

/-- A subquery is emitted as it is written. -/
theorem emitSubquery_follows (lined : List.Forall₂ Lined subqueries lines) (digits : List Char)
    (earlier : List Parameter) :
    Emitting.Follows (Line.emitted earlier) earlier (emitSubquery subqueries digits)
      (writeItem dialect lines (.subquery digits)) := by
  change Emitting.Follows _ _ _ (liftM (namedLine lines digits) >>= _)
  unfold emitSubquery
  cases read : Sql.tokenIndex digits with
  | error fault =>
    have refused : namedLine lines digits =
        .error (fault.failure (Text.quoted (String.ofList digits))) := by
      simp only [namedLine, read]
    rw [refused, throw_bind]
    exact Emitting.follows_refuse earlier _
  | ok index =>
    have sameLength := lined.length_eq
    dsimp only
    by_cases within : index < subqueries.length
    · have withinLines : index < lines.length := sameLength ▸ within
      have named : namedLine lines digits = lines[index] := by
        simp only [namedLine, read, List.getElem?_eq_getElem withinLines]
      have compiles : Lined subqueries[index] lines[index] := lined.get within withinLines
      rw [named, List.getElem?_eq_getElem within]
      refine (Emitting.follows_lift earlier _ compiles).bind fun line => ?_
      refine (Emitting.follows_modify earlier line.parameters (· ++ [index])).andThen ?_
      refine Emitting.follows_pure ?_
      simp [Line.emitted, Line.statement, String.append_assoc]
    · have refused : namedLine lines digits = .error (missingSubquery index lines.length) := by
        simp only [namedLine, read, List.getElem?_eq_none (Nat.le_of_not_lt (sameLength ▸ within))]
      rw [refused, throw_bind, List.getElem?_eq_none (Nat.le_of_not_lt within), sameLength]
      exact Emitting.follows_refuse earlier _

/-- Pieces are emitted as their items are written. -/
theorem replaceM_follows (lined : List.Forall₂ Lined subqueries lines) (clause : String)
    (use : PlaceholderUse) (pieces : List Sql.Piece) (earlier : List Parameter) :
    Emitting.Follows (fun line => (Line.characters line, earlier ++ Line.parameters line)) earlier
      (Sql.replaceM (emitPlaceholder dialect clause use) (emitSubquery subqueries) pieces)
      (writeItems dialect lines (pieces.map (.ofPiece clause use))) := by
  induction pieces generalizing earlier with
  | nil => exact Emitting.follows_pure (by simp)
  | cons piece rest inductionHypothesis =>
    have goesOn : ∀ line : Line, Emitting.Follows
        (fun line => (Line.characters line, earlier ++ Line.parameters line))
        (earlier ++ Line.parameters line)
        (do
          let others ← Sql.replaceM (emitPlaceholder dialect clause use)
            (emitSubquery subqueries) rest
          pure (Line.characters line ++ others))
        (do
          let others ← writeItems dialect lines (rest.map (.ofPiece clause use))
          pure (line ++ others)) := by
      intro line
      refine (inductionHypothesis (earlier ++ Line.parameters line)).bind fun others => ?_
      exact Emitting.follows_pure (by simp)
    cases piece with
    | placeholder =>
      simp only [Sql.replaceM, pure_bind]
      refine (emitPlaceholder_follows dialect clause use earlier).bind fun line => ?_
      simpa only [Line.emitted, Line.toList_sql] using goesOn line
    | subquery digits =>
      simp only [Sql.replaceM, pure_bind]
      refine (emitSubquery_follows dialect lined digits earlier).bind fun line => ?_
      simpa only [Line.emitted, Line.toList_sql] using goesOn line
    | span characters =>
      have continued := goesOn [.text characters]
      simp only [Line.characters_cons, Line.parameters_cons, Line.characters_nil,
        Line.parameters_nil, Part.characters, Part.parameters, List.append_nil] at continued
      exact continued
    | other character =>
      have continued := goesOn [.text [character]]
      simp only [Line.characters_cons, Line.parameters_cons, Line.characters_nil,
        Line.parameters_nil, Part.characters, Part.parameters, List.append_nil] at continued
      exact continued

/-- A clause is emitted as its items are written. Without subqueries there are no tokens to write,
so it does not matter which lines there are. -/
theorem emitClause_follows (given : Option (List (Reporting Statement)))
    (lined : List.Forall₂ Lined (given.getD []) lines) (clause : String) (use : PlaceholderUse)
    (text : String) (earlier : List Parameter) :
    Emitting.Follows (Line.emitted earlier) earlier (emitClause dialect clause use given text)
      (writeItems dialect lines (clauseItems dialect clause use given.isSome text)) := by
  rw [← bind_pure (writeItems dialect lines _)]
  refine (replaceM_follows dialect lined clause use _ earlier).bind fun line => ?_
  exact Emitting.follows_pure rfl

/-- A clause that may be left out is emitted as its items are written. -/
theorem emitOptional_follows (given : Option (List (Reporting Statement)))
    (lined : List.Forall₂ Lined (given.getD []) lines) (clause : String) (use : PlaceholderUse)
    (text : Option String) (earlier : List Parameter) :
    Emitting.Follows (Line.emitted earlier) earlier (emitOptional dialect clause use given text)
      (writeItems dialect lines (optionalItems dialect clause use given.isSome text)) := by
  cases text with
  | none => exact Emitting.follows_pure (by simp [Line.emitted])
  | some text =>
    unfold emitOptional optionalItems
    by_cases blank : text.isEmpty
    · simp only [blank, if_true]
      exact Emitting.follows_pure (by simp [Line.emitted])
    · simp only [blank, writeItems, writeItem, pure_bind, if_false, Bool.false_eq_true]
      refine (emitClause_follows dialect given lined clause use text earlier).bind fun line => ?_
      refine Emitting.follows_pure ?_
      change Line.emitted earlier (Line.ofText (" " ++ clause ++ " ") ++ line) = _
      simp [Line.emitted]

/-- A name is quoted as it is written. -/
theorem quoted_follows (what name : String) (earlier : List Parameter) :
    Emitting.Follows (fun quoted => (quoted, earlier)) earlier
      (liftM (dialect.quoteIdentifier name what)) (liftM (dialect.quoted what name)) :=
  Emitting.follows_lift earlier id (by
    rw [Except.map_id]
    exact dialect.gives_quoteIdentifier name what)

end PortableSql
